import Reprise.Store

/-!
# Recordings in progress

A `Recording` collects the precondition and the effect of one invocation while it runs.  A field
that the recording has written is no longer part of its precondition: the invocation produced the
value itself.

`absorb` takes in a summary that was replayed instead of executed; it has to leave the recording as
the accesses of the replayed invocation would have left it.
-/

namespace Reprise

/-- The recording state of a routine. -/
inductive RecordingState where
  | idle
  | recording
  /-- No summary of the routine can be added. -/
  | recorded
  /-- A recording of the routine was interrupted. -/
  | blacklisted
  deriving DecidableEq

def RecordingState.name : RecordingState → String
  | .idle => "Idle"
  | .recording => "Recording"
  | .recorded => "Recorded"
  | .blacklisted => "Blacklisted"

/-- An invocation that is being recorded. -/
structure Recording where
  routine : RoutineId
  name : String
  /-- The depth of the invocation's frame. -/
  depth : Nat
  returns : Option FieldType
  precondition : Precondition
  effect : Effect

namespace Recording

/-- Whether the recording belongs to the invocation of the routine at the depth. -/
def isFor (r : Recording) (routine : RoutineId) (depth : Nat) : Bool :=
  r.routine == routine && r.depth == depth

/-- Notes the value found in a field. -/
def observeRead (r : Recording) (field : FieldRef) (v : Value) : Recording :=
  if field ∈ r.effect.writes then r else { r with precondition := r.precondition.track field v }

/-- Notes a write to a field. -/
def observeWrite (r : Recording) (field : FieldRef) (w : FieldWrite) : Recording :=
  { r with effect := r.effect.record field w }

/-- Takes in the fields that a replayed summary depends on, then its writes. -/
def absorb (r : Recording) (s : Summary) : Recording :=
  let read := s.precondition.trackedFields.foldl (fun r (field, v) => r.observeRead field v) r
  { read with effect := read.effect.merge s.effect }

/-- The summary that the recording stands for at present. -/
def summary (r : Recording) : Summary := ⟨r.precondition, r.effect⟩

end Recording

end Reprise
