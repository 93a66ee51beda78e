import Reprise.Recorder

/-!
# Matching and replaying summaries

When a routine with summaries is called, the oldest one whose precondition holds is looked up.
It is replayed if nothing it read or wrote could have changed without the recorder knowing.
Replaying hands the summary to the open recordings, writes its fields into the host and pushes the
return value.

A routine that keeps missing is left alone for a while: `misses` counts its consecutive misses up to
the budget, then the calls passed over up to the back-off, and then one attempt is made.
-/

namespace Reprise

/-- What became of an attempt to replay a call. -/
inductive Attempt (η : Type) where
  /-- No summary was replayed. -/
  | passed (recorder : Recorder)
  /-- A summary was replayed in full. -/
  | replayed (recorder : Recorder) (host : η)
  /-- The host refused a write or the push; the writes before it are in place. -/
  | refused (recorder : Recorder) (host : η) (failure : HostFailure)

namespace Recorder

/-- Whether a match may be attempted for a routine, counting the call while matching pauses. -/
def mayAttemptMatch (r : Recorder) (routine : RoutineId) : Bool × Recorder :=
  match r.misses[routine]? with
  | none => (true, r)
  | some misses =>
    if misses < r.config.missBudget then (true, r)
    else if misses - r.config.missBudget < r.config.missBackoff then
      (false, { r with misses := r.misses.insert routine (misses + 1) })
    else (true, { r with misses := r.misses.insert routine (r.config.missBudget - 1) })

/-- Counts a failed match. -/
def miss (r : Recorder) (routine : RoutineId) : Recorder :=
  { r with misses := r.misses.insert routine ((r.misses[routine]?).getD 0 + 1) }.count routine
    fun stats => { stats with failedMatches := stats.failedMatches + 1 }

variable {η : Type} [Host η]

/-- Whether a matching summary may be replayed for a routine that returns `returns`.  Static fields
may change with an initialization that is still to come; fields of shared and frozen owners are
never handed to the recordings around. -/
def isReplayable (h : η) (s : Summary) (returns : Option FieldType) : Bool :=
  !s.precondition.hasStaticFields &&
    !s.precondition.trackedFields.any (fun (field, _) => Host.isUntrackable h field.owner) &&
    !s.effect.isBlockedIn h && returns.isSome == s.effect.returnValue.isSome

/-- Pushes the return value of a summary, if the routine returns one. -/
def pushResult (h : η) (returns : Option FieldType) (s : Summary) : Except HostFailure η :=
  match returns, s.effect.returnValue with
  | some ty, some v => Host.pushReturn h ty v
  | _, _ => .ok h

/-- Replays a summary in place of the invocation. -/
def replay (r : Recorder) (h : η) (i : Invocation) (s : Summary) : Attempt η :=
  let r := { r with
    misses := r.misses.erase i.routine
    recordings := r.recordings.map (·.absorb s) }
  let applied := s.effect.apply h
  match applied.failure with
  | some failure => .refused r applied.host failure
  | none =>
    match pushResult applied.host i.returns s with
    | .error failure => .refused r applied.host failure
    | .ok h =>
      .replayed { r with
        statistics := r.statistics.recordReplay i.routine s.precondition.tracked.size
          s.effect.writes.size } h

/-- Looks for a summary to replay, unless the routine has none or matching pauses. -/
def tryReplay (r : Recorder) (h : η) (i : Invocation) : Except Defect (Attempt η) :=
  if !r.store.hasSummary i.routine then .ok (.passed r)
  else
    match r.mayAttemptMatch i.routine with
    | (false, r) => .ok (.passed r)
    | (true, r) =>
      let r := r.count i.routine fun stats =>
        { stats with attemptedMatches := stats.attemptedMatches + 1 }
      match r.store.find h i.routine i.callee i.args (Host.isSingleThreaded h) with
      | .error defect => .error defect
      | .ok none => .ok (.passed (r.miss i.routine))
      | .ok (some s) =>
        if isReplayable h s i.returns then .ok (r.replay h i s)
        else .ok (.passed (r.miss i.routine))

end Recorder

end Reprise
