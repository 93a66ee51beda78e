import Reprise.Recorder

/-!
# Observing execution

What a recorder does on events other than calls.  Accesses go to every open recording, so the
effects of a nested invocation belong to all invocations around it.  An access that cannot be
tracked, and everything whose effects are no accesses, discards all of them.  A return commits the
innermost recording if it is of the returning invocation.

None of these events changes the host.
-/

namespace Reprise

namespace Recorder

/-- Stores the summary of a finished recording. -/
def commit (r : Recorder) (recording : Recording) : Recorder :=
  match r.store.add recording.routine recording.summary with
  | .error _ => r.markRecorded recording.routine
  | .ok store =>
    let r := { r with store, misses := r.misses.erase recording.routine }.count recording.routine
      fun stats => { stats with summariesCommitted := stats.summariesCommitted + 1 }
    if r.store.hasRoom recording.routine then r else r.markRecorded recording.routine

/-- The recording with the returned value, in the form of the return type where there is one. -/
def returning (recording : Recording) (value : Option Value) : Recording :=
  match value with
  | none => recording
  | some v =>
    let kept := match recording.returns with
      | some ty => v.narrowedOrSelf ty
      | none => v
    { recording with effect := { recording.effect with returnValue := some kept } }

/-- A return: recordings of deeper frames are gone, and the recording of the returning invocation
is finished. -/
def onReturn (r : Recorder) (routine : RoutineId) (depth : Nat) (value : Option Value) : Recorder :=
  let r := r.unwind depth
  match r.innermost? with
  | none => r
  | some recording =>
    if recording.isFor routine depth then
      { r with recordings := r.recordings.dropLast }.commit (returning recording value)
    else r

variable {η : Type} [Host η]

/-- Why an access cannot be tracked. -/
def accessProblem? (h : η) (access : FieldAccess) : Option AbortReason :=
  if !access.type.isSnapshottable then some .arrayField
  else if Host.isShared h access.field.owner then some .sharedAccess
  else if Host.isFrozen h access.field.owner then some .frozenAccess
  else none

/-- A read of a field. -/
def onFieldRead (r : Recorder) (h : η) (access : FieldAccess) : Recorder :=
  match r.innermost? with
  | none => r
  | some innermost =>
    let r := r.count innermost.routine fun stats =>
      { stats with readCount := stats.readCount + 1 }
    match accessProblem? h access with
    | some reason => r.abort reason
    | none =>
      let v := access.value.narrowedOrSelf access.type
      { r with recordings := r.recordings.map (·.observeRead access.field v) }

/-- A write to a field; the value written must conform to the type of the field. -/
def onFieldWrite (r : Recorder) (h : η) (access : FieldAccess) : Except Defect Recorder :=
  match r.innermost? with
  | none => .ok r
  | some innermost =>
    let r := r.count innermost.routine fun stats =>
      { stats with writeCount := stats.writeCount + 1 }
    match accessProblem? h access with
    | some reason => .ok (r.abort reason)
    | none =>
      match FieldWrite.check access.type (access.value.narrowedOrSelf access.type) with
      | .error defect => .error defect
      | .ok w => .ok { r with recordings := r.recordings.map (·.observeWrite access.field w) }

/-- A call of a native routine. -/
def onNativeCall (r : Recorder) (name : String) : Recorder :=
  if r.config.nativeWhitelist.contains (simpleName name) then r else r.abort (.nativeCall name)

end Recorder

end Reprise
