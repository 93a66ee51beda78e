import Reprise.Text.CodeSet

/-!
# Ranges of characters as sequences of byte ranges

In UTF-8 a character is a leading byte and up to three bytes of six bits each.  The characters of a
range are described by sequences of byte ranges, one range for each byte: a sequence stands for all
choices of one byte from every range of it.  `CodeSet.byteSequences` gives the fewest sequences for
the ranges of a set, in increasing order, and `ByteTree.ofSequences` shares their beginnings.
-/

namespace Reprise.Text

/-- The bytes from the first to the second. -/
abbrev ByteRange := Nat × Nat

/-- Sequences for the numbers `lo` to `hi`, where `k` bytes of six bits follow the leading byte,
which counts from `lead`.  A leading byte at either end whose followers are not free stands
alone. -/
def followedRanges : (k : Nat) → (lead lo hi : Nat) → List (List ByteRange)
  | 0, lead, lo, hi => [[(lead + lo, lead + hi)]]
  | k + 1, lead, lo, hi =>
    let unit := 64 ^ (k + 1)
    let (first, low) := (lo / unit, lo % unit)
    let (last, high) := (hi / unit, hi % unit)
    let headed (a b lo hi : Nat) : List (List ByteRange) :=
      (followedRanges k 0x80 lo hi).map ((lead + a, lead + b) :: ·)
    if first = last then headed first last low high
    else
      let below := if low = 0 then [] else headed first first low (unit - 1)
      let above := if high = unit - 1 then [] else headed last last 0 high
      let a := if low = 0 then first else first + 1
      let b := if high = unit - 1 then last else last - 1
      below ++ (if a ≤ b then headed a b 0 (unit - 1) else []) ++ above

/-- The lengths of an encoding: how many bytes follow the leading one, from where the leading byte
counts, and the first and the last code point; the surrogates are left out. -/
def encodings : List (Nat × Nat × Nat × Nat) :=
  [(0, 0, 0, 0x7f), (1, 0xc0, 0x80, 0x7ff), (2, 0xe0, 0x800, 0xd7ff), (2, 0xe0, 0xe000, 0xffff),
    (3, 0xf0, 0x10000, 0x10ffff)]

/-- Sequences for the code points `lo` to `hi`. -/
def rangeSequences (lo hi : Nat) : List (List ByteRange) :=
  encodings.flatMap fun (k, lead, first, last) =>
    if lo ≤ last && first ≤ hi then followedRanges k lead (max lo first) (min hi last) else []

/-- Sequences for the members of the set. -/
def CodeSet.byteSequences (s : CodeSet) : List (List ByteRange) :=
  s.ranges.flatMap fun (lo, hi) => rangeSequences lo hi

/-- Sequences with their beginnings shared: a node is a row of edges, each with the node below it.
Below the last range of a sequence is the node without edges. -/
inductive ByteTree where
  | done
  | edge (range : ByteRange) (below next : ByteTree)

namespace ByteTree

/-- The tree with one more sequence in front of those in it. -/
def addFront : List ByteRange → ByteTree → ByteTree
  | [], tree => tree
  | r :: rs, edge range below next =>
    if r = range then edge range (addFront rs below) next
    else edge r (addFront rs done) (edge range below next)
  | r :: rs, done => edge r (addFront rs done) done

/-- The tree of sequences in increasing order. -/
def ofSequences (sequences : List (List ByteRange)) : ByteTree := sequences.foldr addFront done

end ByteTree

end Reprise.Text
