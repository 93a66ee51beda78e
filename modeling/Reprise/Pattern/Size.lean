import Reprise.Pattern.Layout
import Reprise.Pattern.Normal

/-!
# How large patterns become as automata

A set of patterns is accepted only if the automaton that reads texts byte by byte for all of them
keeps within `sizeLimit`, in both directions of reading (`fit`).  `planOf` gives the plan of the
automaton of a pattern: a literal has a state for every byte, a choice a state that branches and one
at its end, and a repetition a copy of what it repeats for every round that it counts.  A choice
among literals is a tree in which they share their beginnings (`wordsAmount`).
-/

namespace Reprise.Pattern

open Text

/-! ## Sets of characters -/

/-- The plan of one character of the set; ASCII characters need one state that branches. -/
def setPlan (backward : Bool) (s : CodeSet) : Plan :=
  if s.bounds.all (· ≤ 0x80) then .fixed { states := 2, edges := s.bounds.size / 2 }
  else if backward then .backward s.byteSequences
  else .forward (.ofSequences s.byteSequences)

/-! ## Choices among literals -/

/-- A literal as the bytes that are still to be read. -/
abbrev Word := List UInt8

/-- The bytes of a text in the direction of reading. -/
def Word.ofText (backward : Bool) (text : List Char) : Word :=
  let bytes := text.flatMap String.utf8EncodeChar
  if backward then bytes.reverse else bytes

/-- Words that are over, at the front of the list, say no more than the first of them. -/
def dropRepeated : List Word → List Word
  | [] :: [] :: ws => dropRepeated ([] :: ws)
  | ws => ws

/-- The words between those that are over. -/
def cutAtEnds : List Word → List (List Word)
  | [] => [[]]
  | [] :: ws => [] :: cutAtEnds ws
  | w :: ws =>
    match cutAtEnds ws with
    | [] => [[w]]
    | c :: cs => (w :: c) :: cs

/-- The rests of the words, grouped by their first bytes. -/
def byFirstByte (ws : List Word) : List (List Word) :=
  let sorted := ws.mergeSort fun v w => v.headD 0 ≤ w.headD 0
  (sorted.splitBy fun v w => v.head? == w.head?).map (List.map List.tail)

/-- The states of a tree of words, without the one at its end.  The words of a node come in their
order of preference: a word that is over parts those before it from those behind it.  The node
branches into these parts and to the end, and each part branches on the first bytes of its words.
Nodes at which all words are over are the end.  Words longer than `depth` are cut. -/
def wordsAmount : (depth : Nat) → List Word → Amount
  | 0, _ => {}
  | depth + 1, ws =>
    if ws.all List.isEmpty then {}
    else
      let cuts := cutAtEnds (dropRepeated ws)
      let parts := (cuts.filter (!·.isEmpty)).map byFirstByte
      let branches : List Amount := parts.map fun part =>
        { states := 1, edges := if part.length = 1 then 0 else part.length }
      let node : Amount := { states := 1, ways := parts.length + (cuts.length - 1) }
      let below := parts.flatMap fun part => part.map (wordsAmount depth)
      (branches ++ below).foldl (· + ·) node

/-- The words of a choice among literals. -/
def words? (backward : Bool) (p : Pattern) : Option (List Word) :=
  match p with
  | either _ _ => p.alternatives.mapM fun
    | literal text => some (.ofText backward text)
    | _ => none
  | _ => none

/-! ## Patterns -/

/-- The plan of a choice.  The state that branches and the one at the end come behind the second
alternative. -/
def choicePlan : List Plan → Plan
  | [] => .ofStates 1
  | [a] => a
  | a :: b :: cs =>
    let choice : Amount := { states := 2, ways := cs.length + 2 }
    a.followedBy (b.followedBy (cs.foldl Plan.followedBy (.fixed choice)))

/-- The plan of a repetition of what has the plan `p`; `neverEmpty` says that every round reads
something. -/
def repeatedPlan (p : Plan) (neverEmpty : Bool) (least : Nat) (most : Option Nat) : Plan :=
  let loop : Plan := .fixed { states := 1, ways := 2 }
  match least, most with
  | 0, none =>
    if neverEmpty then loop.followedBy p else p.followedBy (.fixed { states := 3, ways := 4 })
  | least, none => (p.times least).followedBy loop
  | 0, some 1 => (loop.followedBy p).followedBy (.ofStates 1)
  | least, some most =>
    let counted := if least = 0 then .ofStates 1 else p.times least
    if most = least then counted
    else (counted.followedBy (.ofStates 1)).followedBy ((loop.followedBy p).times (most - least))

/-- The plan of a pattern, from the plans of its alternatives. -/
def joinedPlan (backward : Bool) (p : Pattern) (alternatives : List Plan) : Plan :=
  match words? backward p with
  | some ws =>
    let depth := (ws.map List.length).foldl max 0
    .fixed (({ states := 1 } : Amount) + wordsAmount (depth + 1) ws)
  | none => choicePlan alternatives

/-- The plans of the alternatives of a pattern. -/
def alternativePlans (backward : Bool) : Pattern → List Plan
  | empty => [.ofStates 1]
  | literal text => [.ofStates (text.map Char.utf8Size).sum]
  | oneOf set _ => [setPlan backward set]
  | look _ => [.ofStates 1]
  | followedBy a b =>
    let first := joinedPlan backward a (alternativePlans backward a)
    let second := joinedPlan backward b (alternativePlans backward b)
    [if backward then second.followedBy first else first.followedBy second]
  | either a b => alternativePlans backward a ++ alternativePlans backward b
  | repeated a least most _ =>
    let round := joinedPlan backward a (alternativePlans backward a)
    [repeatedPlan round (a.shortest?.any (0 < ·)) least most]
  | group _ a => [joinedPlan backward a (alternativePlans backward a)]

/-- The plan of a pattern. -/
def planOf (backward : Bool) (p : Pattern) : Plan :=
  joinedPlan backward p (alternativePlans backward p)

/-- The plan for a search of all patterns: a loop that passes over what is before a match, unless a
match can begin nowhere else than where reading begins, and a state for the end of each pattern. -/
def searchPlan (backward : Bool) (ps : List Pattern) : Plan :=
  let bound := ps.all fun p => if backward then p.endsText else p.startsText
  let before : Amount := if bound then { states := 1 } else { states := 3, edges := 1, ways := 2 }
  (Plan.fixed before).followedBy
    (choicePlan (ps.map fun p => (planOf backward p).followedBy (.ofStates 1)))

/-- Whether the automata for all patterns are small enough. -/
def fit (ps : List Pattern) : Bool :=
  ((searchPlan false ps).total {}).isSome && ((searchPlan true ps).total {}).isSome

end Reprise.Pattern
