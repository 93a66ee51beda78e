import Mathlib.Logic.Relation
import Reprise.Proofs.Standing

/-!
# The account of a routine

For every routine a recorder knows some facts, such as whether it is on the blacklist or how many
summaries of it are stored, and keeps counters of its own.  An `Account` puts both side by side,
with the calls that were handled and the replays among them, which no recorder knows.  Everything
that a recorder does to a routine is one `Booking` after the other on its account.  A booking keeps
facts and counters in agreement, and a reason for which the routine was banned stays:

    a.Balanced → a.Books b → b.Balanced, and a reason of `a` is that of `b`      (Balanced.books)
-/

namespace Reprise

open Std

/-! ## Accounts -/

/-- What is true of a routine, and what its counters say. -/
structure Account where
  /-- The calls that were handled. -/
  calls : Nat
  /-- The calls among them in whose place a summary was replayed. -/
  replays : Nat
  /-- The summaries in the store. -/
  stored : Nat
  /-- Whether it is being recorded. -/
  opened : Bool
  banned : Bool
  full : Bool
  totalCalls : Nat
  started : Nat
  committed : Nat
  attempted : Nat
  successful : Nat
  failed : Nat
  recorded : Bool
  reason : Option AbortReason

/-- The reason that stands after another reason was noted. -/
def AbortReason.noted (reason : AbortReason) (before : Option AbortReason) : Option AbortReason :=
  if before.isNone || reason.isInterruption then some reason else before

namespace AbortReason

theorem isSome_noted (reason : AbortReason) (before : Option AbortReason) :
    (reason.noted before).isSome = true := by
  unfold noted
  cases before <;> cases reason.isInterruption <;> rfl

theorem noted_noted (reason : AbortReason) (before : Option AbortReason) :
    reason.noted (reason.noted before) = reason.noted before := by
  unfold noted
  cases before <;> cases reason.isInterruption <;> rfl

/-- Only the host can replace a reason. -/
theorem noted_some {reason before : AbortReason} (hreason : reason.isInterruption = false) :
    reason.noted (some before) = some before := by
  simp [noted, hreason]

end AbortReason

/-- One thing that happens to a routine. -/
inductive Booking (a : Account) : Account → Prop where
  | calls : Booking a { a with calls := a.calls + 1, totalCalls := a.totalCalls + 1 }
  | replays : Booking a
      { a with
        replays := a.replays + 1, attempted := a.attempted + 1, successful := a.successful + 1 }
  | misses : Booking a { a with attempted := a.attempted + 1, failed := a.failed + 1 }
  | opens (hclosed : a.opened = false) (hfree : a.banned = false) :
    Booking a { a with opened := true, started := a.started + 1 }
  /-- The recording is dropped and the routine stays as it is. -/
  | drops : Booking a { a with opened := false }
  | commits (hopened : a.opened = true) :
    Booking a { a with opened := false, stored := a.stored + 1, committed := a.committed + 1 }
  | fills : Booking a { a with full := true, recorded := true }
  /-- The recording is discarded, and the routine is banned. -/
  | cuts {reason : AbortReason} (hopened : a.opened = true) :
    Booking a { a with opened := false, banned := true, reason := reason.noted a.reason }
  /-- The call of the routine bans it. -/
  | bars {reason : AbortReason} (hclosed : a.opened = false)
    (hreason : reason.isInterruption = false) :
    Booking a { a with banned := true, reason := reason.noted a.reason }

/-- One booking after the other. -/
abbrev Account.Books : Account → Account → Prop := Relation.ReflTransGen Booking

/-- The counters agree with the facts. -/
structure Account.Balanced (a : Account) : Prop where
  calls : a.totalCalls = a.calls
  replays : a.successful = a.replays
  attempts : a.attempted = a.successful + a.failed
  stored : a.committed = a.stored
  started : a.committed + a.opened.toNat ≤ a.started
  full : a.recorded = a.full
  reason : a.reason.isSome = a.banned
  free : a.opened = true → a.banned = false

namespace Account

theorem Balanced.booking {a b : Account} (ha : a.Balanced) (hb : Booking a b) : b.Balanced := by
  have hattempts := ha.attempts
  have hstarted := ha.started
  cases hb with
  | calls => exact { ha with calls := congrArg (· + 1) ha.calls }
  | replays =>
    exact { ha with
      replays := congrArg (· + 1) ha.replays
      attempts := by simp only; omega }
  | misses => exact { ha with attempts := by simp only; omega }
  | opens hclosed hfree =>
    rw [hclosed, Bool.toNat_false] at hstarted
    exact { ha with
      started := by simp only [Bool.toNat_true]; omega
      free := fun _ => hfree }
  | drops =>
    exact { ha with
      started := by simp only [Bool.toNat_false]; omega
      free := nofun }
  | commits hopened =>
    rw [hopened, Bool.toNat_true] at hstarted
    exact { ha with
      stored := congrArg (· + 1) ha.stored
      started := by simp only [Bool.toNat_false]; omega
      free := nofun }
  | fills => exact { ha with full := rfl }
  | cuts hopened =>
    exact { ha with
      started := by simp only [Bool.toNat_false]; omega
      reason := AbortReason.isSome_noted _ _
      free := nofun }
  | bars hclosed =>
    exact { ha with
      reason := AbortReason.isSome_noted _ _
      free := fun hopened => absurd (hclosed.symm.trans hopened) Bool.false_ne_true }

/-- A routine that is banned is not recorded, so the reason can only be noted again for a call, and
the one that is noted then does not replace it. -/
theorem Balanced.reason_kept {a b : Account} (ha : a.Balanced) (hb : Booking a b)
    {reason : AbortReason} (hreason : a.reason = some reason) : b.reason = some reason := by
  cases hb with
  | cuts hopened =>
    have hbanned := ha.reason
    rw [hreason, ha.free hopened] at hbanned
    cases hbanned
  | bars _ hinterruption =>
    simp only [hreason]
    exact AbortReason.noted_some hinterruption
  | _ => exact hreason

theorem Balanced.books {a b : Account} (ha : a.Balanced) (hb : a.Books b) :
    b.Balanced ∧ ∀ reason, a.reason = some reason → b.reason = some reason := by
  induction hb with
  | refl => exact ⟨ha, fun _ hreason => hreason⟩
  | tail _ hbooking ih =>
    obtain ⟨hbalanced, hkept⟩ := ih
    exact ⟨hbalanced.booking hbooking, fun reason hreason =>
      hbalanced.reason_kept hbooking (hkept reason hreason)⟩

end Account

/-! ## Accounts of a recorder -/

/-- Counters that have counted nothing. -/
def RoutineStatistics.blank : RoutineStatistics :=
  { name := "", kind := .static, instructionCount := 0 }

namespace Recorder

/-- The counters of a routine; those of one that was never called read as blank. -/
def notes (r : Recorder) (x : RoutineId) : RoutineStatistics :=
  (r.statistics.routines[x]?).getD .blank

/-- The routine has been called. -/
def Knows (r : Recorder) (x : RoutineId) : Prop := x ∈ r.statistics.routines

end Recorder

/-- The account with its counters read off the statistics. -/
def Account.noting (a : Account) (stats : RoutineStatistics) : Account :=
  { a with
    totalCalls := stats.totalCalls
    started := stats.recordingsStarted
    committed := stats.summariesCommitted
    attempted := stats.attemptedMatches
    successful := stats.successfulMatches
    failed := stats.failedMatches
    recorded := stats.recorded
    reason := stats.interruption }

namespace RoutineStatistics

/-- The counters with one more reason noted. -/
def interrupted (stats : RoutineStatistics) (reason : AbortReason) : RoutineStatistics :=
  { stats with interruption := reason.noted stats.interruption }

theorem interrupted_interrupted (stats : RoutineStatistics) (reason : AbortReason) :
    (stats.interrupted reason).interrupted reason = stats.interrupted reason := by
  simp only [interrupted, AbortReason.noted_noted]

end RoutineStatistics

namespace Recorder

/-- The account of a routine, given how often it was called and replayed. -/
def account (r : Recorder) (calls replays : Nat) (x : RoutineId) : Account where
  calls
  replays
  stored := (r.store.summaries x).length
  opened := decide (x ∈ r.standing.recording)
  banned := decide (x ∈ r.blacklist)
  full := decide (x ∈ r.recorded)
  totalCalls := (r.notes x).totalCalls
  started := (r.notes x).recordingsStarted
  committed := (r.notes x).summariesCommitted
  attempted := (r.notes x).attemptedMatches
  successful := (r.notes x).successfulMatches
  failed := (r.notes x).failedMatches
  recorded := (r.notes x).recorded
  reason := (r.notes x).interruption

variable {r r' : Recorder} {c k : Nat} {x y : RoutineId}

/-! ## Counters -/

theorem notes_update {f : RoutineStatistics → RoutineStatistics}
    (hr : r'.statistics = r.statistics.update y f) (hy : r.Knows y) (x : RoutineId) :
    r'.notes x = if x = y then f (r.notes x) else r.notes x := by
  unfold notes
  rw [hr, Statistics.update, ExtTreeMap.getElem?_modify]
  by_cases hxy : x = y
  · subst hxy
    obtain ⟨stats, hstats⟩ := Option.isSome_iff_exists.mp (ExtTreeMap.mem_iff_isSome_getElem?.mp hy)
    simp [hstats]
  · simp [hxy, Ne.symm hxy]

theorem knows_update {f : RoutineStatistics → RoutineStatistics}
    (hr : r'.statistics = r.statistics.update y f) : r'.Knows x ↔ r.Knows x := by
  rw [Knows, hr]
  exact ExtTreeMap.mem_modify

theorem knows_recordCall (r : Recorder) (i : Invocation) :
    Knows { r with statistics := r.statistics.recordCall i } x ↔ x = i.routine ∨ r.Knows x := by
  by_cases hx : x = i.routine
  · subst hx
    simp [Knows, Statistics.recordCall]
  · simp [Knows, Statistics.recordCall, ExtTreeMap.mem_alter, hx, Ne.symm hx]

theorem update_update (s : Statistics) (y : RoutineId)
    (f g : RoutineStatistics → RoutineStatistics) :
    (s.update y f).update y g = s.update y (g ∘ f) := by
  refine congrArg Statistics.mk (ExtTreeMap.ext_getElem? fun x => ?_)
  simp only [Statistics.update, ExtTreeMap.getElem?_modify]
  split
  · simp
  · rfl

/-- What changes nothing but the counters of one routine that has been called. -/
theorem account_update {f : RoutineStatistics → RoutineStatistics}
    (hstanding : r'.standing = r.standing) (hstore : r'.store = r.store)
    (hstatistics : r'.statistics = r.statistics.update y f) (hy : r.Knows y) :
    r'.account c k x =
      if x = y then (r.account c k x).noting (f (r.notes x)) else r.account c k x := by
  have hrecorded : r'.recorded = r.recorded := congrArg Standing.recorded hstanding
  have hblacklist : r'.blacklist = r.blacklist := congrArg Standing.blacklist hstanding
  simp only [account, hstanding, hstore, hrecorded, hblacklist, notes_update hstatistics hy x]
  split <;> rfl

end Recorder

end Reprise
