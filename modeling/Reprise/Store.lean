import Reprise.Effect

/-!
# Summaries and their store

A `Summary` says: started as the precondition describes, the routine has the effect.  The `Store`
keeps the summaries of each routine in the order in which they were added, never drops one, and
looks them up oldest first.

A routine without an entry always has room: its first summary is taken whatever the capacity.
-/

namespace Reprise

open Std

/-- A fact about a routine. -/
structure Summary where
  precondition : Precondition
  effect : Effect
  deriving DecidableEq

/-- The summaries of every routine, at most `capacity` for each after its first. -/
structure Store where
  capacity : Nat := 100
  entries : RoutineMap (List Summary) := ∅

namespace Store

/-- The summaries of a routine, oldest first. -/
def summaries (s : Store) (routine : RoutineId) : List Summary := (s.entries[routine]?).getD []

/-- Whether another summary of the routine can be stored. -/
def hasRoom (s : Store) (routine : RoutineId) : Bool :=
  match s.entries[routine]? with
  | none => true
  | some list => decide (list.length < s.capacity)

/-- Whether some summary of the routine is stored. -/
def hasSummary (s : Store) (routine : RoutineId) : Bool := !(s.summaries routine).isEmpty

/-- Appends a summary of the routine, if there is room for it. -/
def add (s : Store) (routine : RoutineId) (summary : Summary) : Except StoreFull Store :=
  if s.hasRoom routine then
    .ok { s with entries := s.entries.insert routine (s.summaries routine ++ [summary]) }
  else .error ⟨routine, s.capacity⟩

/-- The number of summaries of all routines. -/
def size (s : Store) : Nat := (s.entries.values.map List.length).foldr (· + ·) 0

def isEmpty (s : Store) : Bool := s.size == 0

def clear (s : Store) : Store := { s with entries := ∅ }

variable {η : Type} [Host η]

/-- The first summary of the list whose precondition holds. -/
def firstHolding (h : η) (callee : Option ObjectId) (args : List Value) (singleThreaded : Bool) :
    List Summary → Except Defect (Option Summary)
  | [] => .ok none
  | s :: rest =>
    match s.precondition.holdsIn h callee args singleThreaded with
    | .error d => .error d
    | .ok true => .ok (some s)
    | .ok false => firstHolding h callee args singleThreaded rest

/-- The oldest summary of the routine whose precondition holds. -/
def find (s : Store) (h : η) (routine : RoutineId) (callee : Option ObjectId) (args : List Value)
    (singleThreaded : Bool) : Except Defect (Option Summary) :=
  firstHolding h callee args singleThreaded (s.summaries routine)

end Store

end Reprise
