import Reprise.Event

/-!
# Statistics of a run

Counters per routine, for diagnosis only: a recorder writes them and never reads them.  A routine
that was never called has none, and an update of such a routine does nothing.

A counter is a natural number here, where a machine word of 64 bits would wrap around or stop the
program: the counters of a run, and the estimate of what was saved, are taken to stay below `2 ^ 64`.
-/

namespace Reprise

open Std

/-- Why a recording was discarded. -/
inductive AbortReason where
  | nativeCall (name : String)
  | allocation
  | arrayAccess
  | initializer
  | blacklistPattern
  | arraySignature
  | arrayField
  | sharedAccess
  | frozenAccess
  | unwound
  | interruption (what : Interruption)
  deriving DecidableEq

namespace AbortReason

/-- The reasons that are no more than a name. -/
def plain : List AbortReason :=
  [.allocation, .arrayAccess, .initializer, .blacklistPattern, .arraySignature, .arrayField,
    .sharedAccess, .frozenAccess, .unwound]

/-- The name of the reason in structured reports. -/
def key : AbortReason → String
  | .nativeCall _ => "nativeCall"
  | .allocation => "allocation"
  | .arrayAccess => "arrayAccess"
  | .initializer => "initializer"
  | .blacklistPattern => "blacklistPattern"
  | .arraySignature => "arraySignature"
  | .arrayField => "arrayField"
  | .sharedAccess => "sharedAccess"
  | .frozenAccess => "frozenAccess"
  | .unwound => "unwound"
  | .interruption _ => "interruption"

/-- What a structured report adds to the name. -/
def detail : AbortReason → Option String
  | .nativeCall name => some name
  | .interruption what => some what.key
  | _ => none

/-- The reason in words. -/
def text : AbortReason → String
  | .nativeCall name => "native call " ++ name
  | .allocation => "allocation"
  | .arrayAccess => "array access"
  | .initializer => "initializer"
  | .blacklistPattern => "blacklisted routine"
  | .arraySignature => "array signature"
  | .arrayField => "array field"
  | .sharedAccess => "shared field access"
  | .frozenAccess => "frozen field access"
  | .unwound => "unwound"
  | .interruption what => what.text

/-- Whether the host reported the reason. -/
def isInterruption : AbortReason → Bool
  | .interruption _ => true
  | _ => false

end AbortReason

/-- The counters of one routine. -/
structure RoutineStatistics where
  name : String
  kind : RoutineKind
  instructionCount : Nat
  totalCalls : Nat := 0
  recordingsStarted : Nat := 0
  summariesCommitted : Nat := 0
  attemptedMatches : Nat := 0
  successfulMatches : Nat := 0
  failedMatches : Nat := 0
  readCount : Nat := 0
  writeCount : Nat := 0
  savedInstructions : Nat := 0
  /-- Whether the routine is no longer recorded because its storage is full. -/
  recorded : Bool := false
  /-- Why the routine was blacklisted. -/
  interruption : Option AbortReason := none
  deriving DecidableEq

/-- The counters of a routine that is about to be called for the first time. -/
def RoutineStatistics.ofInvocation (i : Invocation) : RoutineStatistics :=
  { name := i.name, kind := i.kind, instructionCount := i.instructionCount }

/-- The instructions that one replayed write costs: about two loads and a store. -/
def instructionsPerReplayedWrite : Nat := 3

/-- The counters of every routine that was called. -/
structure Statistics where
  routines : RoutineMap RoutineStatistics := ∅
  deriving DecidableEq

namespace Statistics

/-- Counts a call; the first one fixes the routine's name, kind and length. -/
def recordCall (s : Statistics) (i : Invocation) : Statistics :=
  { routines := s.routines.alter i.routine fun known =>
      let stats := known.getD (.ofInvocation i)
      some { stats with totalCalls := stats.totalCalls + 1 } }

/-- Changes the counters of a routine that has been called. -/
def update (s : Statistics) (routine : RoutineId) (f : RoutineStatistics → RoutineStatistics) :
    Statistics :=
  { routines := s.routines.modify routine f }

/-- Notes why a routine was blacklisted.  The first reason stays, unless the host reports one. -/
def recordInterruption (s : Statistics) (routine : RoutineId) (reason : AbortReason) : Statistics :=
  s.update routine fun stats =>
    if stats.interruption.isNone || reason.isInterruption then
      { stats with interruption := some reason }
    else stats

/-- Counts a replay and estimates what it saved, given how many fields it checked and wrote. -/
def recordReplay (s : Statistics) (routine : RoutineId) (reads writes : Nat) : Statistics :=
  s.update routine fun stats =>
    { stats with
      successfulMatches := stats.successfulMatches + 1
      savedInstructions := stats.savedInstructions +
        (stats.instructionCount - (reads + instructionsPerReplayedWrite * writes)) }

end Statistics

end Reprise
