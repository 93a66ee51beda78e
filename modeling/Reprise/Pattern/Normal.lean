import Reprise.Pattern

/-!
# Patterns in normal form

The same pieces can be described in many ways, and how large a pattern becomes depends on the way.
The functions here make patterns that are in normal form if their parts are: a row holds no row, no
empty piece and no two literals side by side (`row`), a choice holds no choice, is a set where it
can be one, and has no common beginning of its rows (`anyOf`), what has no width is repeated once at
most (`times`), and a set of one character is a literal (`ofSet`).  A group stands as it is.
-/

namespace Reprise.Pattern

open Text

/-! ## What pieces are like -/

/-- Whether only empty pieces are described. -/
def isZeroWidth : Pattern → Bool
  | empty => true
  | literal _ => false
  | oneOf _ _ => false
  | look _ => true
  | followedBy a b => isZeroWidth a && isZeroWidth b
  | either a b => isZeroWidth a && isZeroWidth b
  | repeated a _ most _ => isZeroWidth a || most == some 0
  | group _ a => isZeroWidth a

/-- The least length of a piece.  There is none as soon as a part of the pattern describes nothing at
all, even if another part may do without it. -/
def shortest? : Pattern → Option Nat
  | empty => some 0
  | literal text => some text.length
  | oneOf set _ => if set.bounds.isEmpty then none else some 1
  | look _ => some 0
  | followedBy a b => return (← shortest? a) + (← shortest? b)
  | either a b => return min (← shortest? a) (← shortest? b)
  | repeated a least _ _ => return least * (← shortest? a)
  | group _ a => shortest? a

/-- Whether every piece starts at the start of the text, as far as the conditions at the beginning of
the pattern tell. -/
def startsText : Pattern → Bool
  | look l => l = .textStart
  | followedBy a b => startsText a || (isZeroWidth a && startsText b)
  | either a b => startsText a && startsText b
  | repeated a least _ _ => least != 0 && startsText a
  | group _ a => startsText a
  | _ => false

/-- Whether every piece ends at the end of the text, as far as the conditions at the end of the
pattern tell. -/
def endsText : Pattern → Bool
  | look l => l = .textEnd
  | followedBy a b => endsText b || (isZeroWidth b && endsText a)
  | either a b => endsText a && endsText b
  | repeated a least _ _ => least != 0 && endsText a
  | group _ a => endsText a
  | _ => false

/-- The number of parts. -/
def weight : Pattern → Nat
  | followedBy a b => weight a + weight b + 1
  | either a b => weight a + weight b + 1
  | repeated a _ _ _ => weight a + 1
  | group _ a => weight a + 1
  | _ => 1

/-! ## Sets and repetitions -/

/-- The only member of the set. -/
def onlyMember? (s : CodeSet) : Option Char :=
  match s.bounds.toList with
  | [first, next] => if next = first + 1 then some (Char.ofNat first) else none
  | _ => none

/-- One character of the set.  The empty set counts as one of bytes. -/
def ofSet (set : CodeSet) (bytes : Bool) : Pattern :=
  match onlyMember? set with
  | some c => literal [c]
  | none => oneOf set (bytes || set.bounds.isEmpty)

/-- A repetition: what has no width need not be repeated more than once, and a single round needs no
repetition. -/
def times (p : Pattern) (least : Nat) (most : Option Nat) (reluctant : Bool) : Pattern :=
  let (least, most) :=
    if p.isZeroWidth then (min least 1, some (min (most.getD 1) 1)) else (least, most)
  if most = some 0 then empty
  else if least = 1 && most = some 1 then p
  else repeated p least most reluctant

/-! ## Rows -/

/-- The patterns of a row; another pattern is a row by itself. -/
def parts : Pattern → List Pattern
  | empty => []
  | followedBy a b => a :: parts b
  | p => [p]

/-- A list with one more pattern in front; a literal joins the one behind it. -/
def addFront : Pattern → List Pattern → List Pattern
  | literal s, literal t :: ps => literal (s ++ t) :: ps
  | p, ps => p :: ps

/-- The patterns one behind the other. -/
def chain : List Pattern → Pattern
  | [] => empty
  | [p] => p
  | p :: ps => followedBy p (chain ps)

/-- The pieces of the patterns in a row. -/
def row (ps : List Pattern) : Pattern := chain ((ps.flatMap parts).foldr addFront [])

/-! ## Choices -/

/-- The alternatives of a choice; another pattern is its only alternative. -/
def alternatives : Pattern → List Pattern
  | either a b => a :: alternatives b
  | p => [p]

/-- The patterns as alternatives; without any, nothing is described. -/
def choice : List Pattern → Pattern
  | [] => ofSet .empty true
  | [p] => p
  | p :: ps => either p (choice ps)

/-- The set that the alternatives make up if they all are single characters, or all sets. -/
def asSet? (ps : List Pattern) : Option CodeSet :=
  let singles := ps.mapM fun
    | literal [c] => some c.toNat
    | _ => none
  let sets := ps.mapM fun
    | oneOf set _ => some set
    | _ => none
  singles.map CodeSet.ofCodes <|> sets.map CodeSet.unions

/-- What both lists begin with. -/
def commonStart : List Pattern → List Pattern → List Pattern
  | a :: as, b :: bs => if a = b then a :: commonStart as bs else []
  | _, _ => []

/-- What all alternatives begin with, if they are rows and begin with something in common, and what
each goes on with. -/
def factored? (ps : List Pattern) : Option (List Pattern × List (List Pattern)) := do
  let rows ← ps.mapM fun
    | followedBy a b => some (a :: parts b)
    | _ => none
  match rows with
  | [] => none
  | first :: others =>
    let start := others.foldl commonStart first
    if start.isEmpty then none else some (start, rows.map (List.drop start.length))

/-- The pieces of any of the patterns.  A common beginning is taken out at most `bound` times. -/
def anyOfWithin (bound : Nat) (ps : List Pattern) : Pattern :=
  let ps := ps.flatMap alternatives
  if ps.length < 2 then choice ps
  else
    match asSet? ps, bound, factored? ps with
    | some set, _, _ => ofSet set false
    | none, bound + 1, some (start, rests) =>
      row (start ++ [anyOfWithin bound (rests.map row)])
    | none, _, _ => choice ps

/-- The pieces of any of the patterns.  Every beginning that is taken out has a part, so there are no
more of them than parts. -/
def anyOf (ps : List Pattern) : Pattern := anyOfWithin ((ps.map weight).foldr (· + ·) 0) ps

end Reprise.Pattern
