import Reprise.Unicode.Property

/-!
# Patterns over names

A `Pattern` describes pieces of a text; `Pattern.occursIn` asks whether one of them is described
anywhere.  A pattern leads from a set of positions to the set of positions where a described piece
that starts in the first set may end (`ends`), so alternatives need no backtracking.  Sets of
positions are increasing lists.  A text of `n` characters has `n + 1` positions, hence a repetition
without an upper bound is settled after `n + 1` rounds that each go on from new positions only.

Some parts of a pattern say how it was written and change no piece: whether a set is one of bytes,
whether a repetition is reluctant, and the number of a group.  Two patterns are the same only if
they agree on these parts, too.
-/

namespace Reprise

open Text

/-- Where a position lies to the words around it.  `startHalf` and `finishHalf` look at the one side
only that is outside the word. -/
inductive WordEdge where
  | edge | noEdge | start | finish | startHalf | finishHalf
  deriving DecidableEq

/-- A condition on the surroundings of a position. -/
inductive Look where
  | textStart
  | textEnd
  /-- Behind a line feed or at the start; with `crlf` also behind a carriage return, but not inside
  a pair of both. -/
  | lineStart (crlf : Bool)
  /-- Before a line feed or at the end; with `crlf` also before a carriage return, but not inside a
  pair of both. -/
  | lineEnd (crlf : Bool)
  /-- At such an edge of a word; with `ascii`, words have ASCII characters only. -/
  | word (side : WordEdge) (ascii : Bool)
  deriving DecidableEq

/-- A description of pieces of a text. -/
inductive Pattern where
  /-- The empty piece. -/
  | empty
  /-- The text itself. -/
  | literal (text : List Char)
  /-- One character of the set; `bytes` says that the set is one of bytes, which are ASCII. -/
  | oneOf (set : CodeSet) (bytes : Bool)
  /-- The empty piece where the condition holds. -/
  | look (l : Look)
  | followedBy (a b : Pattern)
  | either (a b : Pattern)
  /-- At least `least` pieces in a row and at most `most`, if that is given; `reluctant` says that
  fewer are preferred. -/
  | repeated (a : Pattern) (least : Nat) (most : Option Nat) (reluctant : Bool)
  /-- The pieces of the group with the number. -/
  | group (number : Nat) (a : Pattern)
  deriving DecidableEq

/-! ## Conditions -/

namespace WordEdge

/-- Whether the edge is there, from what is before and after the position. -/
def holds (before after : Bool) : WordEdge → Bool
  | edge => before != after
  | noEdge => before == after
  | start => !before && after
  | finish => before && !after
  | startHalf => !before
  | finishHalf => !after

end WordEdge

namespace Look

/-- Whether the character belongs to words. -/
def isWordChar (ascii : Bool) (c : Char) : Bool :=
  if ascii then c.isAlphanum || c == '_' else Unicode.wordChars.contains c

/-- Whether the condition holds between two characters; at the ends of the text one is missing. -/
def holdsBetween (before after : Option Char) : Look → Bool
  | textStart => before.isNone
  | textEnd => after.isNone
  | lineStart crlf =>
    before.isNone || before == some '\n' || (crlf && before == some '\r' && after != some '\n')
  | lineEnd crlf =>
    if crlf then
      after.isNone || after == some '\r' || (after == some '\n' && before != some '\r')
    else after.isNone || after == some '\n'
  | word side ascii => side.holds (before.any (isWordChar ascii)) (after.any (isWordChar ascii))

/-- Whether the condition holds at a position of the text. -/
def holdsAt (text : Array Char) (i : Nat) (l : Look) : Bool :=
  l.holdsBetween (if i = 0 then none else text[i - 1]?) text[i]?

end Look

namespace Pattern

/-! ## Sets of positions -/

/-- The union of two increasing lists. -/
def joined : List Nat → List Nat → List Nat
  | [], bs => bs
  | as, [] => as
  | a :: as, b :: bs =>
    if a < b then a :: joined as (b :: bs)
    else if b < a then b :: joined (a :: as) bs
    else a :: joined as bs
termination_by as bs => as.length + bs.length

/-- The members of the first increasing list that are not in the second. -/
def without : List Nat → List Nat → List Nat
  | [], _ => []
  | as, [] => as
  | a :: as, b :: bs =>
    if a < b then a :: without as (b :: bs)
    else if b < a then without (a :: as) bs
    else without as bs
termination_by as bs => as.length + bs.length

/-- Applies `f` a number of times; a set that `f` keeps stays as it is. -/
def rounds (f : List Nat → List Nat) : Nat → List Nat → List Nat
  | 0, starts => starts
  | n + 1, starts =>
    let next := f starts
    if next = starts then starts else rounds f n next

/-- All positions that one to `n` applications of `f` lead to; `reached` is what they have led to so
far, `seen` are the positions that need no further look, and `front` the newest of them. -/
def spread (f : List Nat → List Nat) : (n : Nat) → (seen front reached : List Nat) → List Nat
  | 0, _, _, reached => reached
  | n + 1, seen, front, reached =>
    if front.isEmpty then reached
    else
      let next := f front
      spread f n (joined seen next) (without next seen) (joined reached next)

/-! ## Matching -/

/-- The position behind the characters, if the text goes on with them. -/
def behind? (text : Array Char) : List Char → Nat → Option Nat
  | [], i => some i
  | c :: cs, i => if text[i]? = some c then behind? text cs (i + 1) else none

/-- Where a described piece may end that starts at one of the positions. -/
def ends (text : Array Char) : Pattern → List Nat → List Nat
  | empty, starts => starts
  | literal cs, starts => starts.filterMap (behind? text cs)
  | oneOf set _, starts => starts.filterMap fun i =>
    if text[i]?.any set.contains then some (i + 1) else none
  | look l, starts => starts.filter fun i => l.holdsAt text i
  | followedBy a b, starts => ends text b (ends text a starts)
  | either a b, starts => joined (ends text a starts) (ends text b starts)
  | repeated a 0 most _, starts =>
    joined starts (spread (ends text a) (most.getD (text.size + 1)) starts starts [])
  | repeated a (least + 1) most _, starts =>
    let starts := rounds (ends text a) least starts
    let more := match most with
      | none => text.size + 1
      | some most => most - least
    spread (ends text a) more starts starts []
  | group _ a, starts => ends text a starts

/-- Whether the text holds a described piece. -/
def occursIn (p : Pattern) (text : String) : Bool :=
  let chars := text.toList.toArray
  !(ends chars p (List.range (chars.size + 1))).isEmpty

end Pattern

end Reprise
