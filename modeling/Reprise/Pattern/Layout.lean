import Reprise.Text.ByteRanges
import Std.Data.HashMap

/-!
# Laying out automata

An automaton that reads texts byte by byte is laid out state by state, and its states are numbered as
they come.  An `Amount` says how much is laid out, a `Plan` what is laid out in which order, and
`Plan.total` adds up a plan, unless it grows beyond `sizeLimit`.

A set of characters is laid out anew for every copy of it.  Its states before the same rest are one
state: a state is looked up by its edges on a `Shelf` before it is laid out.  A shelf has a fixed
number of places, and a state takes the place that its edges are mixed to from whatever stands there,
so a state may be laid out again.  The edges lead to states by their numbers, and so the size of a
set depends on where it is laid out.
-/

namespace Reprise.Pattern

open Text

/-! ## Amounts -/

/-- States, edges of states that branch on ranges of bytes, and ways that are taken without reading
a byte. -/
structure Amount where
  states : Nat := 0
  edges : Nat := 0
  ways : Nat := 0

namespace Amount

/-- What the amount takes in bytes. -/
def bytes (a : Amount) : Nat := 32 * a.states + 8 * a.edges + 4 * a.ways

def add (a b : Amount) : Amount := ⟨a.states + b.states, a.edges + b.edges, a.ways + b.ways⟩

instance : Add Amount := ⟨add⟩

/-- The amount a number of times. -/
def scale (n : Nat) (a : Amount) : Amount := ⟨n * a.states, n * a.edges, n * a.ways⟩

end Amount

/-- What the automaton of all patterns may take: 10 MiB. -/
def sizeLimit : Nat := 10 * 1024 * 1024

/-- The amount if it is within the limit. -/
def Amount.within? (a : Amount) : Option Amount := if a.bytes ≤ sizeLimit then some a else none

/-! ## Shared states -/

/-- States by their edges, in a fixed number of places. -/
structure Shelf where
  places : Nat
  content : Std.HashMap Nat (List Nat × Nat) := {}

namespace Shelf

/-- The place of a list of numbers, by the mixing of Fowler, Noll and Vo. -/
def place (s : Shelf) (key : List Nat) : Nat :=
  let mixed : UInt64 :=
    key.foldl (fun h x => (h ^^^ x.toUInt64) * 1099511628211) 14695981039346656037
  mixed.toNat % s.places

/-- The state with the edges, if it still stands in its place. -/
def find? (s : Shelf) (key : List Nat) : Option Nat :=
  match s.content[s.place key]? with
  | some (found, state) => if found = key then some state else none
  | none => none

/-- The shelf with a state in its place. -/
def put (s : Shelf) (key : List Nat) (state : Nat) : Shelf :=
  { s with content := s.content.insert (s.place key) (key, state) }

end Shelf

/-- What is laid out, and the states of a set so far. -/
structure Laying where
  amount : Amount
  shelf : Shelf

/-- The state of the key, laid out with the number of edges if it is not on the shelf. -/
def Laying.state (l : Laying) (key : List Nat) (edges : Nat) : Nat × Laying :=
  match l.shelf.find? key with
  | some state => (state, l)
  | none =>
    (l.amount.states, ⟨l.amount + { states := 1, edges }, l.shelf.put key l.amount.states⟩)

/-- The edges of a node, each by its first and last byte and the state that it leads to; what is
below is laid out before.  Edges to the node without edges lead to `target`. -/
def Laying.node (target : Nat) : ByteTree → Laying → List Nat × Laying
  | .done, l => ([], l)
  | .edge range below next, l =>
    let (key, l) := node target below l
    let (state, l) := if key.isEmpty then (target, l) else l.state key (key.length / 3)
    let (keys, l) := node target next l
    (range.1 :: range.2 :: state :: keys, l)

/-- What is laid out with a set that is read from the first byte of its characters on: a state at the
end, and one for every node. -/
def addForward (tree : ByteTree) (a : Amount) : Amount :=
  let (key, l) := Laying.node a.states tree ⟨a + { states := 1 }, { places := 10000 }⟩
  (l.state key (key.length / 3)).2.amount

/-- What is laid out with a set that is read from the last byte of its characters on: a state that
chooses among the sequences, one at the end, and one for each start of a sequence. -/
def addBackward (sequences : List (List ByteRange)) (a : Amount) : Amount :=
  let choice : Amount := { states := 2, ways := sequences.length }
  let last := a.states + 1
  let laid := sequences.foldl
    (fun l sequence =>
      (sequence.foldl (fun (state, l) range => l.state [state, range.1, range.2] 0) (last, l)).2)
    (⟨a + choice, { places := 1000 }⟩ : Laying)
  laid.amount

/-! ## Plans -/

/-- What is laid out in which order. -/
inductive Plan where
  | fixed (a : Amount)
  /-- A set, read from the first byte of its characters on. -/
  | forward (tree : ByteTree)
  /-- A set, read from the last byte of its characters on. -/
  | backward (sequences : List (List ByteRange))
  | andThen (a b : Plan)
  | copies (n : Nat) (a : Plan)

namespace Plan

/-- A number of states without edges. -/
def ofStates (n : Nat) : Plan := .fixed { states := n }

/-- The second plan behind the first. -/
def followedBy : Plan → Plan → Plan
  | fixed a, fixed b => fixed (a + b)
  | a, b => andThen a b

/-- The plan a number of times. -/
def times (n : Nat) : Plan → Plan
  | fixed a => fixed (a.scale n)
  | a => copies n a

/-- Applies `f` a number of times, as long as there is a result. -/
def iterate (f : Amount → Option Amount) : Nat → Amount → Option Amount
  | 0, a => some a
  | n + 1, a =>
    match f a with
    | none => none
    | some a => iterate f n a

/-- What is laid out behind the amount when the plan is carried out, if it keeps within the limit. -/
def total : Plan → Amount → Option Amount
  | fixed b, a => (a + b).within?
  | forward tree, a => (addForward tree a).within?
  | backward sequences, a => (addBackward sequences a).within?
  | andThen p q, a =>
    match total p a with
    | none => none
    | some a => total q a
  | copies n p, a => iterate (total p) n a

end Plan

end Reprise.Pattern
