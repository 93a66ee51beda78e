import Reprise.Recorder.Observe
import Reprise.Recorder.Replay

/-!
# Delivering events

`Recorder.onEvent` takes one event and the host it happened in.  Before the entry point is called,
events change nothing.  Afterwards a call is replayed or may open a recording, and every other event
is observed.  Only a replay changes the host.
-/

namespace Reprise

namespace Recorder

variable {η : Type} [Host η]

/-- Discards every open recording and puts the called routine on the blacklist too. -/
def abortCall (r : Recorder) (routine : RoutineId) (reason : AbortReason) : Recorder :=
  (r.abort reason).ban reason routine

/-- Opens a recording of the invocation. -/
def openRecording (r : Recorder) (h : η) (i : Invocation) : Recorder :=
  let r := r.count i.routine fun stats =>
    { stats with recordingsStarted := stats.recordingsStarted + 1 }
  { r with recordings := r.recordings ++ [
    { routine := i.routine
      name := i.name
      depth := i.depth
      returns := i.returns
      precondition := {
        args := i.args
        callee := i.callee
        singleThreaded := Host.isSingleThreaded h }
      effect := { args := i.args } }] }

/-- A call that is executed: it opens a recording if its routine can have one. -/
def executeCall (r : Recorder) (h : η) (i : Invocation) : Recorder :=
  if i.routine ∈ r.recorded || r.isRecording i.routine then r
  else if i.hasArraySignature then r.abortCall i.routine .arraySignature
  else if !r.store.hasRoom i.routine then r.markRecorded i.routine
  else r.openRecording h i

/-- A call of a routine. -/
def onCall (r : Recorder) (h : η) (i : Invocation) : Except Defect (Reply η) :=
  let r := { r with statistics := r.statistics.recordCall i }
  if !i.kind.isSummarizable then .ok ⟨r.abortCall i.routine .initializer, h, .ok .proceed⟩
  else if r.blocked i.name then .ok ⟨r.abortCall i.routine .blacklistPattern, h, .ok .proceed⟩
  else if i.routine ∈ r.blacklist then .ok ⟨r, h, .ok .proceed⟩
  else
    match r.tryReplay h i with
    | .error defect => .error defect
    | .ok (.replayed r h) => .ok ⟨r, h, .ok .skipToReturn⟩
    | .ok (.refused r h failure) => .ok ⟨r, h, .error failure⟩
    | .ok (.passed r) => .ok ⟨r.executeCall h i, h, .ok .proceed⟩

/-- Whether the event is handled: the entry point has been called, or is called by it. -/
def admits (r : Recorder) (e : Event) : Bool :=
  r.entered ||
    match e with
    | .call i => r.config.entryPoint == some i.name
    | _ => false

/-- An event past the entry point. -/
def handle (r : Recorder) (h : η) : Event → Except Defect (Reply η)
  | .call i => r.onCall h i
  | .returned routine depth value => .ok ⟨r.onReturn routine depth value, h, .ok .proceed⟩
  | .fieldRead access => .ok ⟨r.onFieldRead h access, h, .ok .proceed⟩
  | .fieldWrite access =>
    match r.onFieldWrite h access with
    | .error defect => .error defect
    | .ok r => .ok ⟨r, h, .ok .proceed⟩
  | .nativeCall name => .ok ⟨r.onNativeCall name, h, .ok .proceed⟩
  | .allocation => .ok ⟨r.abort .allocation, h, .ok .proceed⟩
  | .arrayAccess => .ok ⟨r.abort .arrayAccess, h, .ok .proceed⟩
  | .interruption what => .ok ⟨r.abort (.interruption what), h, .ok .proceed⟩

/-- Takes one event; there is no state after a `Defect`. -/
def onEvent (r : Recorder) (h : η) (e : Event) : Except Defect (Reply η) :=
  if r.admits e then { r with entered := true }.handle h e else .ok ⟨r, h, .ok .proceed⟩

end Recorder

end Reprise
