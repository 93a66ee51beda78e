import Reprise.Recording
import Reprise.Report
import Reprise.Pattern.Reader

/-!
# The recorder's state

A recorder follows one host.  Every eligible call opens a recording, on top of those that are open
already; the recordings are listed with the outermost first.  A routine whose recording is
interrupted goes on the blacklist, and one whose storage is full into the recorded set; neither is
left before the next run begins.

The blacklist patterns enter as a predicate on names (`blocked`), so nothing about the recorder
hangs on how patterns are written; `Recorder.new` reads them from the configuration.
-/

namespace Reprise

open Std

/-- The natives whose calls do not interrupt recording unless told otherwise. -/
def defaultNatives : List String :=
  ["desiredAssertionStatus", "println", "hashCode", "min", "max"]

/-- How a recorder is set up. -/
structure RecorderConfig where
  /-- The most summaries stored for a routine. -/
  summaryCapacity : Nat := 100
  /-- The consecutive misses after which matching a routine pauses. -/
  missBudget : Nat := 5
  /-- The calls passed over while matching pauses; one attempt follows them. -/
  missBackoff : Nat := 20
  /-- The simple names of natives that do not interrupt recording. -/
  nativeWhitelist : ExtTreeSet String := .ofList defaultNatives
  /-- Patterns for the names of routines that interrupt recording. -/
  blacklistPatterns : List String := []
  /-- The routine before whose first call every event is ignored. -/
  entryPoint : Option String := none

/-- The state of a recorder. -/
structure Recorder where
  config : RecorderConfig
  /-- Whether a blacklist pattern occurs in the name. -/
  blocked : String → Bool
  store : Store
  /-- The open recordings, outermost first. -/
  recordings : List Recording := []
  /-- Routines whose summary storage is full. -/
  recorded : RoutineSet := ∅
  /-- Routines that are not recorded or replayed any more. -/
  blacklist : RoutineSet := ∅
  /-- The consecutive failed matches of a routine, and the calls passed over after them. -/
  misses : RoutineMap Nat := ∅
  statistics : Statistics := {}
  runId : RunId
  /-- Whether the entry point has been called. -/
  entered : Bool

/-- A recorder, the host and the answer after an event. -/
structure Reply (η : Type) where
  recorder : Recorder
  host : η
  answer : Except HostFailure Directive

namespace Recorder

/-- A recorder that has seen nothing. -/
def start (config : RecorderConfig) (blocked : String → Bool) (runId : RunId) : Recorder :=
  { config, blocked, store := { capacity := config.summaryCapacity }, runId
    entered := config.entryPoint.isNone }

/-- Reads the patterns, or says what is wrong with them. -/
def readPatterns (written : List String) : Except Failure (List Pattern) :=
  match Pattern.parseAll written with
  | .error reason => .error (.invalidPattern reason)
  | .ok patterns => .ok patterns

/-- A recorder that has seen nothing, unless a pattern of the configuration is ill-formed. -/
def new (config : RecorderConfig) (runId : RunId) : Except Failure Recorder :=
  match readPatterns config.blacklistPatterns with
  | .error failure => .error failure
  | .ok patterns => .ok (start config (fun name => patterns.any (·.occursIn name)) runId)

/-- Starts a new run and forgets the last one. -/
def beginRun (r : Recorder) (runId : RunId) : Recorder :=
  { r with
    store := r.store.clear
    recordings := []
    recorded := ∅
    blacklist := ∅
    misses := ∅
    statistics := {}
    runId
    entered := r.config.entryPoint.isNone }

/-- The report on the run so far. -/
def report (r : Recorder) : Report := .ofStatistics r.runId r.statistics r.store.size

/-- Ends the run: open recordings are dropped and their routines stay as they are. -/
def finishRun (r : Recorder) : Recorder := { r with recordings := [] }

/-- Whether some open recording is of the routine. -/
def isRecording (r : Recorder) (routine : RoutineId) : Bool :=
  r.recordings.any (·.routine == routine)

/-- The recording state of the routine. -/
def state (r : Recorder) (routine : RoutineId) : RecordingState :=
  if routine ∈ r.blacklist then .blacklisted
  else if r.isRecording routine then .recording
  else if routine ∈ r.recorded then .recorded
  else .idle

/-- The recording of the innermost invocation. -/
def innermost? (r : Recorder) : Option Recording := r.recordings.getLast?

/-- Changes the counters of a routine. -/
def count (r : Recorder) (routine : RoutineId) (f : RoutineStatistics → RoutineStatistics) :
    Recorder :=
  { r with statistics := r.statistics.update routine f }

/-- Puts the routine on the blacklist and notes why. -/
def ban (r : Recorder) (reason : AbortReason) (routine : RoutineId) : Recorder :=
  { r with
    blacklist := r.blacklist.insert routine
    statistics := r.statistics.recordInterruption routine reason }

/-- Puts the routines of the recordings on the blacklist. -/
def banAll (r : Recorder) (reason : AbortReason) (recordings : List Recording) : Recorder :=
  recordings.foldl (fun r recording => r.ban reason recording.routine) r

/-- Discards every open recording. -/
def abort (r : Recorder) (reason : AbortReason) : Recorder :=
  { r with recordings := [] }.banAll reason r.recordings

/-- Discards the outermost recording of an invocation deeper than `depth` and all inside it; the
frames of such invocations are gone. -/
def unwind (r : Recorder) (depth : Nat) : Recorder :=
  let shallow (recording : Recording) : Bool := recording.depth ≤ depth
  { r with recordings := r.recordings.takeWhile shallow }.banAll .unwound
    (r.recordings.dropWhile shallow)

/-- Notes that the storage of the routine is full. -/
def markRecorded (r : Recorder) (routine : RoutineId) : Recorder :=
  if routine ∈ r.recorded then r
  else { r with recorded := r.recorded.insert routine }.count routine ({ · with recorded := true })

end Recorder

end Reprise
