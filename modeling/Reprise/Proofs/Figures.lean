import Reprise.Proofs.Bookkeeping
import Reprise.Proofs.StoreGrowth
import Reprise.Proofs.Totals

/-!
# The report agrees with the recorder

`succeedAll?` is a run of operations that all succeed, with the calls that were handled and how each
was answered.  After it the counters of every routine agree with what became of the routine
(`Told`), and the figures of the report with the recorder as a whole (`report_agrees`).

The statistics never look at the store, the blacklist or the recorded set, and an update of a
routine that was never called would be lost.  What keeps them in step is that every operation books
both sides at once (`books_succeed?`), so that all accounts stay balanced (`Agrees.succeed?`).
-/

namespace Reprise

open Std

/-- A call that was handled, and its answer. -/
structure Served where
  routine : RoutineId
  answer : Directive
  deriving DecidableEq

namespace Recorder

/-- How often the routine was called. -/
def timesCalled (served : List Served) (x : RoutineId) : Nat :=
  served.countP (·.routine = x)

/-- How often a call of the routine was answered by a replay. -/
def timesReplayed (served : List Served) (x : RoutineId) : Nat :=
  served.countP fun s => s.routine = x ∧ s.answer = .skipToReturn

/-- The call that the event is, if it is one that the recorder handles. -/
def served (r : Recorder) (d : Directive) : Event → List Served
  | .call i => if r.admits (.call i) then [⟨i.routine, d⟩] else []
  | _ => []

/-- The recorder after an operation that succeeds, and the calls that it handled. -/
def succeed? (r : Recorder) : Operation → Option (Recorder × List Served)
  | @Operation.event _ _host h e =>
    match r.onEvent h e with
    | .ok ⟨r', _, .ok d⟩ => some (r', r.served d e)
    | _ => none
  | .unwind depth => some (r.unwind depth, [])
  | .finishRun => some (r.finishRun, [])

/-- The recorder after operations that all succeed, and the calls that they handled. -/
def succeedAll? (r : Recorder) : List Operation → Option (Recorder × List Served)
  | [] => some (r, [])
  | o :: rest =>
    match r.succeed? o with
    | none => none
    | some (r₁, served) => (r₁.succeedAll? rest).map fun (r₂, later) => (r₂, served ++ later)

variable {r r' : Recorder} {c k : Nat} {x y : RoutineId}

theorem books_handle {η : Type} [Host η] (hr : r.Orderly) (hentered : r.entered = true)
    {h h' : η} {e : Event} {d : Directive} (hhandle : r.handle h e = .ok ⟨r', h', .ok d⟩)
    (c k : Nat) (x : RoutineId) :
    (r.account c k x).Books (r'.account (c + timesCalled (r.served d e) x)
      (k + timesReplayed (r.served d e) x) x) := by
  cases e with
  | call i =>
    have hserved : r.served d (.call i) = [⟨i.routine, d⟩] := by
      rw [served, if_pos (by simp [admits, hentered])]
    have hbooks := books_onCall hr hhandle c k x
    rw [hserved]
    simp only [timesCalled, timesReplayed, List.countP_singleton, decide_eq_true_eq]
    simp only [eq_comm (a := x)] at hbooks
    exact hbooks
  | returned routine depth value =>
    cases hhandle
    exact books_onReturn hr routine depth value c k x
  | fieldRead access =>
    cases hhandle
    exact books_onFieldRead hr h access c k x
  | fieldWrite access =>
    simp only [handle] at hhandle
    split at hhandle
    · cases hhandle
    · rename_i hwrite
      cases hhandle
      exact books_onFieldWrite hr hwrite c k x
  | nativeCall name =>
    cases hhandle
    exact books_onNativeCall hr name c k x
  | allocation =>
    cases hhandle
    exact books_abort hr _ c k x
  | arrayAccess =>
    cases hhandle
    exact books_abort hr _ c k x
  | interruption what =>
    cases hhandle
    exact books_abort hr _ c k x

theorem served_of_admits {d : Directive} {e : Event} (hadmits : r.admits e = true) :
    { r with entered := true }.served d e = r.served d e := by
  cases e with
  | call i => rw [served, served, if_pos hadmits, if_pos (by simp [admits])]
  | _ => rfl

theorem served_of_not_admits {d : Directive} {e : Event} (hadmits : ¬ r.admits e = true) :
    r.served d e = [] := by
  cases e with
  | call i => rw [served, if_neg hadmits]
  | _ => rfl

theorem books_succeed? (hr : r.Orderly) {o : Operation} {served : List Served}
    (ho : r.succeed? o = some (r', served)) (c k : Nat) (x : RoutineId) :
    (r.account c k x).Books
      (r'.account (c + timesCalled served x) (k + timesReplayed served x) x) := by
  cases o with
  | event h e =>
    simp only [succeed?] at ho
    split at ho
    · rename_i r₁ h' d hevent
      cases ho
      unfold onEvent at hevent
      split at hevent
      · rename_i hadmits
        have hentered : Orderly { r with entered := true } := ⟨hr.distinct, hr.known⟩
        have hbooks := books_handle hentered rfl hevent c k x
        rw [served_of_admits hadmits] at hbooks
        exact hbooks
      · rename_i hadmits
        cases hevent
        rw [served_of_not_admits hadmits]
        exact .refl
    · cases ho
  | unwind depth =>
    cases ho
    exact books_unwind hr depth c k x
  | finishRun =>
    cases ho
    exact r.books_drop [] (by simp) c k x

theorem operate_of_succeed? {o : Operation} {served : List Served}
    (ho : r.succeed? o = some (r', served)) : r.operate o = .ok r' := by
  cases o with
  | event h e =>
    simp only [succeed?] at ho
    split at ho
    · rename_i hevent
      cases ho
      rw [operate, hevent]
      rfl
    · cases ho
  | unwind depth =>
    cases ho
    rfl
  | finishRun =>
    cases ho
    rfl

/-! ## Runs -/

theorem timesCalled_append (l l' : List Served) (x : RoutineId) :
    timesCalled (l ++ l') x = timesCalled l x + timesCalled l' x := List.countP_append

theorem timesReplayed_append (l l' : List Served) (x : RoutineId) :
    timesReplayed (l ++ l') x = timesReplayed l x + timesReplayed l' x := List.countP_append

/-- All accounts of the recorder are balanced, if these are the calls that were handled. -/
structure Agrees (r : Recorder) (served : List Served) : Prop where
  inStep : r.standing.InStep
  balanced : ∀ x, (r.account (timesCalled served x) (timesReplayed served x) x).Balanced

theorem agrees_beginRun (r : Recorder) (runId : RunId) : (r.beginRun runId).Agrees [] where
  inStep := (begun_operateAll (l := []) rfl).2
  balanced := fun x => by
    have hnotes : (r.beginRun runId).notes x = .blank := by
      simp [notes, beginRun]
    have hstored : (r.beginRun runId).store.summaries x = [] := by
      simp [beginRun, Store.clear, Store.summaries]
    have hopened : (r.beginRun runId).standing.recording = [] := rfl
    have hbanned : x ∉ (r.beginRun runId).blacklist := ExtTreeSet.not_mem_empty
    have hfull : x ∉ (r.beginRun runId).recorded := ExtTreeSet.not_mem_empty
    constructor <;>
      simp [account, hnotes, hstored, hopened, hbanned, hfull, timesCalled, timesReplayed,
        RoutineStatistics.blank]

/-- What is open has been called: a recording that was started is noted. -/
theorem Agrees.orderly {served : List Served} (hr : r.Agrees served) : r.Orderly where
  distinct := hr.inStep.distinct
  known := fun x hx => by
    by_contra habsent
    have hblank : r.notes x = .blank := by
      rw [notes, ExtTreeMap.getElem?_eq_none habsent, Option.getD_none]
    have hstarted := (hr.balanced x).started
    simp [account, hblank, hx, RoutineStatistics.blank] at hstarted

/-- An operation that succeeds leaves all accounts balanced, and no reason is replaced. -/
theorem Agrees.succeed? {earlier served : List Served} (hr : r.Agrees earlier) {o : Operation}
    (ho : r.succeed? o = some (r', served)) :
    r'.Agrees (earlier ++ served) ∧
      ∀ x reason, (r.notes x).interruption = some reason →
        (r'.notes x).interruption = some reason := by
  have hbooks := fun x => (hr.balanced x).books (books_succeed? hr.orderly ho _ _ x)
  refine ⟨⟨inStep_operate hr.inStep (operate_of_succeed? ho), fun x => ?_⟩, fun x => (hbooks x).2⟩
  rw [timesCalled_append, timesReplayed_append]
  exact (hbooks x).1

/-- A run of operations that succeed does so too. -/
theorem Agrees.succeedAll? {l : List Operation} {earlier served : List Served}
    (hr : r.Agrees earlier) (hrun : r.succeedAll? l = some (r', served)) :
    r'.Agrees (earlier ++ served) ∧
      ∀ x reason, (r.notes x).interruption = some reason →
        (r'.notes x).interruption = some reason := by
  induction l generalizing r earlier served with
  | nil =>
    obtain ⟨rfl, rfl⟩ := Prod.mk.inj (Option.some.inj hrun)
    exact ⟨by rwa [List.append_nil], fun _ _ => id⟩
  | cons o l ih =>
    rw [Recorder.succeedAll?] at hrun
    split at hrun
    · cases hrun
    · rename_i r₁ first ho
      obtain ⟨⟨r₂, later⟩, hrest, heq⟩ := Option.map_eq_some_iff.mp hrun
      obtain ⟨rfl, rfl⟩ := Prod.mk.inj heq
      obtain ⟨hr₁, hfirst⟩ := hr.succeed? ho
      obtain ⟨hr₂, hlater⟩ := ih hr₁ hrest
      rw [List.append_assoc] at hr₂
      exact ⟨hr₂, fun x reason hreason => hlater x reason (hfirst x reason hreason)⟩

/-! ## Top theorem -/

/-- What the statistics say of a routine is what became of it in a run that handled these calls. -/
structure Told (r : Recorder) (served : List Served) (x : RoutineId) : Prop where
  banned : (r.notes x).interruption.isSome = true ↔ x ∈ r.blacklist
  full : (r.notes x).recorded = true ↔ x ∈ r.recorded
  stored : (r.notes x).summariesCommitted = (r.store.summaries x).length
  started : (r.notes x).summariesCommitted ≤ (r.notes x).recordingsStarted
  attempts : (r.notes x).attemptedMatches =
    (r.notes x).successfulMatches + (r.notes x).failedMatches
  replays : (r.notes x).successfulMatches = timesReplayed served x
  calls : (r.notes x).totalCalls = timesCalled served x

theorem Agrees.told {served : List Served} (hr : r.Agrees served) (x : RoutineId) :
    r.Told served x := by
  have hbalanced := hr.balanced x
  refine ⟨?_, ?_, hbalanced.stored, ?_, hbalanced.attempts, hbalanced.replays, hbalanced.calls⟩
  · have hreason : (r.notes x).interruption.isSome = decide (x ∈ r.blacklist) := hbalanced.reason
    rw [hreason, decide_eq_true_eq]
  · have hfull : (r.notes x).recorded = decide (x ∈ r.recorded) := hbalanced.full
    rw [hfull, decide_eq_true_eq]
  · exact Nat.le_trans (Nat.le_add_right _ _) hbalanced.started

/-- What reads as nothing for a routine that was never called can be read off its counters. -/
theorem elim_notes (r : Recorder) (x : RoutineId) {f : RoutineStatistics → Nat}
    (hblank : f .blank = 0) :
    (r.statistics.routines[x]?).elim 0 f = f (r.notes x) := by
  unfold notes
  cases r.statistics.routines[x]? with
  | none => exact hblank.symm
  | some stats => rfl

theorem any_notes (r : Recorder) (x : RoutineId) {p : RoutineStatistics → Bool}
    (hblank : p .blank = false) :
    (r.statistics.routines[x]?).any p = p (r.notes x) := by
  unfold notes
  cases r.statistics.routines[x]? with
  | none => exact hblank.symm
  | some stats => rfl

/-- A figure that adds up a counter adds it up over all routines. -/
theorem total_notes (r : Recorder) {f : RoutineStatistics → Nat} (hblank : f .blank = 0) :
    Report.total r.report.routines f = ∑ᶠ x, f (r.notes x) := by
  simp only [← r.elim_notes _ hblank]
  exact Report.total_routines r.runId r.statistics r.store.size f

/-- Every entry holds the counters of some routine. -/
theorem exists_notes {stats : RoutineStatistics} (hstats : stats ∈ r.report.routines) :
    ∃ x, r.notes x = stats := by
  obtain ⟨x, hx⟩ := (Report.mem_routines r.runId r.statistics r.store.size).mp hstats
  exact ⟨x, by rw [notes, hx, Option.getD_some]⟩

theorem sum_timesCalled (served : List Served) :
    ∑ᶠ x, timesCalled served x = served.length := by
  have hcount : ∀ x, timesCalled served x = (served.map (·.routine)).count x := by
    intro x
    rw [timesCalled, List.count, List.countP_map]
    rfl
  simp only [hcount]
  rw [← length_eq_finsum_count, List.length_map]

/-- After a run in which all operations succeed, the statistics say of every routine what became of
it, a reason stays until the next run begins, and the figures of the report are those of the
recorder as a whole: the sizes of its sets, the summaries that were committed, the attempts that
succeeded or failed, and the calls that were handled. -/
theorem report_agrees {r₀ r : Recorder} {runId : RunId} {l : List Operation}
    {served : List Served} (hrun : (r₀.beginRun runId).succeedAll? l = some (r, served)) :
    (∀ x, r.Told served x) ∧
      (∀ later r' afterwards, r.succeedAll? later = some (r', afterwards) →
        ∀ x reason, (r.notes x).interruption = some reason →
          (r'.notes x).interruption = some reason) ∧
      r.report.blacklistedRoutines = r.blacklist.size ∧
      r.report.recordedRoutines = r.recorded.size ∧
      r.report.storedSummaries = Report.total r.report.routines (·.summariesCommitted) ∧
      r.report.attemptedMatches = r.report.successfulMatches + r.report.failedMatches ∧
      r.report.totalCalls = served.length ∧
      r.report.totalCalls = r.report.staticCalls + r.report.instanceCalls +
        r.report.constructorCalls + r.report.classInitializerCalls := by
  obtain ⟨hr, -⟩ := (agrees_beginRun r₀ runId).succeedAll? hrun
  rw [List.nil_append] at hr
  refine ⟨hr.told, fun later r' afterwards hlater => (hr.succeedAll? hlater).2, ?_, ?_, ?_, ?_, ?_,
    Report.total_calls_eq _⟩
  · exact Report.countP_routines r.runId r.statistics r.store.size fun x => by
      rw [any_notes r x rfl, (hr.told x).banned]
  · exact Report.countP_routines r.runId r.statistics r.store.size fun x => by
      rw [any_notes r x rfl, (hr.told x).full]
  · calc r.report.storedSummaries
        = ∑ᶠ x, (r.store.summaries x).length := r.store.size_eq
      _ = ∑ᶠ x, (r.notes x).summariesCommitted := by simp only [(hr.told _).stored]
      _ = Report.total r.report.routines (·.summariesCommitted) := (r.total_notes rfl).symm
  · exact Report.total_eq_add fun stats hstats => by
      obtain ⟨x, rfl⟩ := exists_notes hstats
      exact (hr.told x).attempts
  · calc r.report.totalCalls
        = ∑ᶠ x, (r.notes x).totalCalls := r.total_notes rfl
      _ = ∑ᶠ x, timesCalled served x := by simp only [(hr.told _).calls]
      _ = served.length := sum_timesCalled served

/-- One routine is recorded and replayed, and another one is banned by an allocation. -/
def errand : List Operation :=
  [.event table (.call innerCall), .event table (.returned ⟨1⟩ 2 none),
    .event table (.call innerCall), .event table (.call outerCall), .event table .allocation]

/-- The report on it: three calls were handled, one of them was replayed, and one routine is on the
blacklist. -/
theorem report_agrees_errand :
    ∃ r served, (fresh.beginRun ⟨1⟩).succeedAll? errand = some (r, served) ∧
      r.report.totalCalls = 3 ∧ r.report.blacklistedRoutines = r.blacklist.size ∧
      ⟨0⟩ ∈ r.blacklist ∧ (r.notes ⟨0⟩).interruption.isSome = true ∧
      (r.notes ⟨1⟩).summariesCommitted = 1 ∧ (r.notes ⟨1⟩).successfulMatches = 1 := by
  obtain ⟨r, served, hrun, hthree, hbanned, hstored, hreplayed⟩ : ∃ r served,
      (fresh.beginRun ⟨1⟩).succeedAll? errand = some (r, served) ∧ served.length = 3 ∧
      ⟨0⟩ ∈ r.blacklist ∧ (r.store.summaries ⟨1⟩).length = 1 ∧ timesReplayed served ⟨1⟩ = 1 :=
    ⟨_, _, rfl, rfl, by decide, rfl, rfl⟩
  obtain ⟨htold, -, hblacklisted, -, -, -, hcalls, -⟩ := report_agrees hrun
  exact ⟨r, served, hrun, hcalls.trans hthree, hblacklisted, hbanned,
    (htold ⟨0⟩).banned.mpr hbanned, (htold ⟨1⟩).stored.trans hstored,
    (htold ⟨1⟩).replays.trans hreplayed⟩

end Recorder

end Reprise
