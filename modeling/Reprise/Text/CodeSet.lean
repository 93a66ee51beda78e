/-!
# Sets of characters as sorted boundaries

A set of code points is the increasing list of the numbers at which membership flips: `c` belongs
to it iff an odd number of boundaries is `≤ c`.  Large property tables stay small this way, a
member is found by bisection, and a Boolean combination of two sets is one pass over both lists
(`combine`).

The surrogates are no characters.  They lie between U+D7FF and U+E000 and count as members exactly if
a range of the set leads from one of these to the other; what takes one of these out of a set takes
out the surrogates, too (`settled`).
-/

namespace Reprise.Text

/-- A set of code points, by the increasing positions where membership flips. -/
structure CodeSet where
  bounds : Array Nat
  deriving DecidableEq

namespace CodeSet

/-! ## Membership -/

/-- The first index in `[lo, hi]` whose boundary exceeds `n`, given that all before `lo` do not and
all from `hi` on do. -/
def split (bounds : Array Nat) (n : Nat) (lo hi : Nat) : Nat :=
  if lo < hi then
    let mid := (lo + hi) / 2
    if (bounds[mid]?.getD 0) ≤ n then split bounds n (mid + 1) hi else split bounds n lo mid
  else lo
termination_by hi - lo

/-- Membership of a code point. -/
def holds (s : CodeSet) (n : Nat) : Bool := split s.bounds n 0 s.bounds.size % 2 == 1

/-- Membership of a character. -/
def contains (s : CodeSet) (c : Char) : Bool := s.holds c.toNat

/-! ## Combinations -/

/-- The boundaries of a combination of two sets, from a position on where membership in them is
`inA` and `inB`; `op` says which memberships the combination takes.  Boundaries that both sets share
count as one step. -/
def combineBounds (op : Bool → Bool → Bool) (inA inB : Bool) : List Nat → List Nat → List Nat
  | [], [] => []
  | a :: as, [] =>
    let rest := combineBounds op (!inA) inB as []
    if op (!inA) inB = op inA inB then rest else a :: rest
  | [], b :: bs =>
    let rest := combineBounds op inA (!inB) [] bs
    if op inA (!inB) = op inA inB then rest else b :: rest
  | a :: as, b :: bs =>
    if a < b then
      let rest := combineBounds op (!inA) inB as (b :: bs)
      if op (!inA) inB = op inA inB then rest else a :: rest
    else if b < a then
      let rest := combineBounds op inA (!inB) (a :: as) bs
      if op inA (!inB) = op inA inB then rest else b :: rest
    else
      let rest := combineBounds op (!inA) (!inB) as bs
      if op (!inA) (!inB) = op inA inB then rest else a :: rest
termination_by as bs => as.length + bs.length

/-- The set of the code points whose memberships in `a` and `b` satisfy `op`, which must not take a
code point that is in neither. -/
def combine (op : Bool → Bool → Bool) (a b : CodeSet) : CodeSet :=
  ⟨(combineBounds op false false a.bounds.toList b.bounds.toList).toArray⟩

/-- No character. -/
def empty : CodeSet := ⟨#[]⟩

/-- All characters, as one range. -/
def all : CodeSet := ⟨#[0, 0x110000]⟩

/-- The set without the surrogates if a character next to them is no member. -/
def settled (s : CodeSet) : CodeSet :=
  if s.holds 0xd800 && !(s.holds 0xd7ff && s.holds 0xe000) then
    combine (fun inA inB => inA && !inB) s ⟨#[0xd800, 0xe000]⟩
  else s

def union (a b : CodeSet) : CodeSet := combine or a b

def inter (a b : CodeSet) : CodeSet := combine and a b

/-- The members of the first set that are not in the second. -/
def diff (a b : CodeSet) : CodeSet := settled (combine (fun inA inB => inA && !inB) a b)

/-- The members of exactly one of the sets. -/
def symmDiff (a b : CodeSet) : CodeSet := settled (combine bne a b)

/-- The characters outside the set: its gaps, from the character behind one range to the character
before the next.  If these two ranges end and begin around the surrogates, no character is behind the
one and before the other, and the two ends trade places: the characters around the surrogates are in
the complement, though they are members. -/
def complement (a : CodeSet) : CodeSet :=
  let outside := symmDiff all a
  if a.holds 0xd7ff && a.holds 0xe000 && !a.holds 0xd800 then outside.union ⟨#[0xd7ff, 0xe001]⟩
  else outside

/-- The union of several sets. -/
def unions (sets : List CodeSet) : CodeSet := sets.foldr union empty

/-! ## Making and listing -/

/-- The characters from `first` to `last`. -/
def ofRange (first last : Nat) : CodeSet := ⟨#[first, last + 1]⟩

/-- One character. -/
def single (c : Char) : CodeSet := ⟨#[c.toNat, c.toNat + 1]⟩

/-- The union of ranges, each given by its first and its last character. -/
def ofRanges (ranges : List (Char × Char)) : CodeSet :=
  unions (ranges.map fun (first, last) => ofRange first.toNat last.toNat)

/-- The boundaries with one more code point, which is no less than the members so far. -/
def addLast (bounds : Array Nat) (n : Nat) : Array Nat :=
  match bounds.back? with
  | some last =>
    if n < last then bounds
    else if n = last then bounds.pop.push (n + 1)
    else (bounds.push n).push (n + 1)
  | none => #[n, n + 1]

/-- The code points of a list in any order. -/
def ofCodes (codes : List Nat) : CodeSet := ⟨(codes.mergeSort (· ≤ ·)).foldl addLast #[]⟩

/-- Consecutive numbers in pairs, the second lowered by one. -/
def pairUp : List Nat → List (Nat × Nat)
  | first :: next :: rest => (first, next - 1) :: pairUp rest
  | _ => []

/-- The ranges of the set, each by its first and its last code point. -/
def ranges (s : CodeSet) : List (Nat × Nat) := pairUp s.bounds.toList

/-! ## Tables as text

A table writes the gaps between its boundaries, the first of them counted from zero, in base 32.
The last digit of every number is one of `0`–`9` and `a`–`v`, the digits before it are among
`w`–`z`, `A`–`Z`, `+` and `-`, so the numbers need no separators. -/

/-- The value of a digit, and whether its number ends with it. -/
def digit (c : Char) : Nat × Bool :=
  let n := c.toNat
  if '0' ≤ c && c ≤ '9' then (n - '0'.toNat, true)
  else if 'a' ≤ c && c ≤ 'v' then (n - 'a'.toNat + 10, true)
  else if 'w' ≤ c && c ≤ 'z' then (n - 'w'.toNat, false)
  else if 'A' ≤ c && c ≤ 'Z' then (n - 'A'.toNat + 4, false)
  else if c = '+' then (30, false)
  else (31, false)

/-- A table that is being read: the digits of an unfinished number, the last boundary, and all of
them. -/
structure Decoding where
  gap : Nat := 0
  last : Nat := 0
  bounds : Array Nat := #[]

/-- Reads one digit. -/
def Decoding.next (d : Decoding) (c : Char) : Decoding :=
  let (value, ends) := digit c
  let gap := 32 * d.gap + value
  if ends then ⟨0, d.last + gap, d.bounds.push (d.last + gap)⟩ else { d with gap := gap }

/-- The set that the lines of a table write. -/
def ofText (lines : List String) : CodeSet :=
  ⟨((lines.flatMap String.toList).foldl Decoding.next {}).bounds⟩

end CodeSet

end Reprise.Text
