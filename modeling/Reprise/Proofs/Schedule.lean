import Reprise.Proofs.Bookkeeping
import Reprise.Proofs.StoreGrowth

/-!
# When matches are attempted

A routine that keeps missing is left alone for a while, and one number for each routine counts both
its misses and the calls passed over.  What that number is follows from how many calls of the
routine were not replayed since its schedule last began (`RecorderConfig.missesAfter`), and with it
whether the next call is due for an attempt (`RecorderConfig.IsDue`).  A schedule begins with the
run, with a replay and with a commit:

    r.operate o = .ok r' → r is n calls into the schedule of x →
      r' is r.lapsed x n o calls into it, and has attempted one more match of x exactly if
      o is considered and n is due                                           (moves_operate)
-/

namespace Reprise

open Std

/-- Whether the host has to execute the call that is answered. -/
def Reply.proceeds {η : Type} (reply : Reply η) : Bool :=
  match reply.answer with
  | .ok .proceed => true
  | _ => false

/-- Whether no summary was found for the call. -/
def Attempt.isPassed {η : Type} : Attempt η → Bool
  | .passed _ => true
  | _ => false

/-! ## The schedule -/

namespace RecorderConfig

variable (c : RecorderConfig)

/-- The calls attempted in a row before matching pauses. -/
def tries : Nat := max c.missBudget 1

/-- The calls passed over between two attempts.  Where there is no budget, the miss before them is
counted as one of them. -/
def pause : Nat := if c.missBudget = 0 then c.missBackoff - 1 else c.missBackoff

/-- Whether a match is attempted after `n` calls that were not replayed. -/
def IsDue (n : Nat) : Prop := n < c.tries ∨ (n - c.tries) % (c.pause + 1) = c.pause

instance (n : Nat) : Decidable (c.IsDue n) :=
  inferInstanceAs (Decidable (_ ∨ _))

/-- What the misses of a routine count after `n` calls that were not replayed. -/
def missesAfter (n : Nat) : Option Nat :=
  if n = 0 then none else some (min n c.tries + (n - c.tries) % (c.pause + 1))

theorem missesAfter_of_le {n : Nat} (hn : n ≠ 0) (hle : n ≤ c.tries) :
    c.missesAfter n = some n := by
  rw [missesAfter, if_neg hn, Nat.min_eq_left hle, Nat.sub_eq_zero_of_le hle, Nat.zero_mod,
    Nat.add_zero]

theorem missesAfter_of_ge {n : Nat} (hge : c.tries ≤ n) :
    c.missesAfter n = some (c.tries + (n - c.tries) % (c.pause + 1)) := by
  have htries : 1 ≤ c.tries := Nat.le_max_right _ _
  rw [missesAfter, if_neg (by omega), Nat.min_eq_right hge]

/-- The calls of a pause are counted one by one. -/
theorem missesAfter_succ_of_pause {n : Nat} (hdue : ¬ c.IsDue n) :
    c.missesAfter (n + 1) = some (c.tries + (n - c.tries) % (c.pause + 1) + 1) := by
  obtain ⟨hge, hpause⟩ := not_or.mp hdue
  have hlt : (n - c.tries) % (c.pause + 1) < c.pause + 1 := Nat.mod_lt _ (Nat.succ_pos _)
  rw [c.missesAfter_of_ge (by omega), Nat.sub_add_comm (by omega), ← Nat.mod_add_mod,
    Nat.mod_eq_of_lt (by omega), Nat.add_assoc]

/-- The miss after a pause begins another one. -/
theorem missesAfter_succ_of_retry {n : Nat} (hge : c.tries ≤ n)
    (hpause : (n - c.tries) % (c.pause + 1) = c.pause) : c.missesAfter (n + 1) = some c.tries := by
  rw [c.missesAfter_of_ge (by omega), Nat.sub_add_comm hge, ← Nat.mod_add_mod, hpause,
    Nat.mod_self, Nat.add_zero]

/-- A pause lasts while what is counted above the budget is less than the back-off. -/
theorem sub_missBudget_lt (passed : Nat) :
    c.tries + passed - c.missBudget < c.missBackoff ↔ passed < c.pause := by
  unfold tries pause
  split <;> omega

end RecorderConfig

namespace Recorder

variable {r r' : Recorder} {x y : RoutineId} {n : Nat}

/-- The recorder is `n` calls into the schedule of the routine. -/
def IsAt (r : Recorder) (x : RoutineId) (n : Nat) : Prop :=
  r.misses[x]? = r.config.missesAfter n

/-- A call that is not due is passed over and counted. -/
theorem mayAttemptMatch_of_not_isDue (hr : r.IsAt x n) (hdue : ¬ r.config.IsDue n) :
    (r.mayAttemptMatch x).1 = false ∧
      (r.mayAttemptMatch x).2.misses[x]? = r.config.missesAfter (n + 1) := by
  obtain ⟨hge, hpause⟩ := not_or.mp hdue
  have hbudget : r.config.missBudget ≤ r.config.tries := Nat.le_max_left _ _
  have hpassed : (n - r.config.tries) % (r.config.pause + 1) < r.config.pause :=
    Nat.lt_of_le_of_ne (Nat.le_of_lt_succ (Nat.mod_lt _ (Nat.succ_pos _))) hpause
  have hbackoff := (r.config.sub_missBudget_lt _).mpr hpassed
  rw [IsAt, r.config.missesAfter_of_ge (Nat.le_of_not_lt hge)] at hr
  rw [mayAttemptMatch, hr]
  simp only
  rw [if_neg (by omega), if_pos hbackoff, r.config.missesAfter_succ_of_pause hdue]
  exact ⟨rfl, ExtTreeMap.getElem?_insert_self⟩

theorem misses_miss (r : Recorder) (x : RoutineId) :
    (r.miss x).misses[x]? = some ((r.misses[x]?).getD 0 + 1) :=
  ExtTreeMap.getElem?_insert_self

/-- A call that is due may be matched, and a miss is counted. -/
theorem mayAttemptMatch_of_isDue (hr : r.IsAt x n) (hdue : r.config.IsDue n) :
    (r.mayAttemptMatch x).1 = true ∧
      ((r.mayAttemptMatch x).2.miss x).misses[x]? = r.config.missesAfter (n + 1) := by
  have hbudget : r.config.missBudget ≤ r.config.tries := Nat.le_max_left _ _
  have htries : 1 ≤ r.config.tries := Nat.le_max_right _ _
  unfold IsAt at hr
  by_cases hlt : n < r.config.tries
  · -- before the first pause the misses are left to the miss to count
    have hmay : r.mayAttemptMatch x = (true, r) := by
      by_cases hn : n = 0
      · rw [hn, RecorderConfig.missesAfter, if_pos rfl] at hr
        rw [mayAttemptMatch, hr]
      · rw [r.config.missesAfter_of_le hn hlt.le] at hr
        rw [mayAttemptMatch, hr]
        exact if_pos (by unfold RecorderConfig.tries at hlt; omega)
    rw [hmay, misses_miss, hr, r.config.missesAfter_of_le (Nat.succ_ne_zero n) hlt]
    refine ⟨rfl, ?_⟩
    by_cases hn : n = 0
    · rw [hn, RecorderConfig.missesAfter, if_pos rfl, Option.getD_none]
    · rw [r.config.missesAfter_of_le hn hlt.le, Option.getD_some]
  · -- the attempt after a pause takes back one miss, however many calls were passed over
    have hge : r.config.tries ≤ n := Nat.le_of_not_lt hlt
    have hpause := hdue.resolve_left hlt
    have hbackoff := (r.config.sub_missBudget_lt r.config.pause).not.mpr (Nat.lt_irrefl _)
    rw [r.config.missesAfter_of_ge hge, hpause] at hr
    rw [mayAttemptMatch, hr]
    simp only
    rw [if_neg (by omega), if_neg hbackoff, misses_miss, ExtTreeMap.getElem?_insert_self,
      r.config.missesAfter_succ_of_retry hge hpause, Option.getD_some]
    refine ⟨rfl, congrArg some ?_⟩
    unfold RecorderConfig.tries
    omega

theorem isDue_iff_mayAttemptMatch (hr : r.IsAt x n) {may : Bool}
    (hmay : r.mayAttemptMatch x = (may, r')) : r.config.IsDue n ↔ may = true := by
  obtain rfl : (r.mayAttemptMatch x).1 = may := congrArg Prod.fst hmay
  by_cases hdue : r.config.IsDue n
  · simp [hdue, (mayAttemptMatch_of_isDue hr hdue).1]
  · simp [hdue, (mayAttemptMatch_of_not_isDue hr hdue).1]

/-! ## What leaves a schedule alone -/

/-- How many matches of the routine were attempted, going by its counters. -/
def attempts (r : Recorder) (x : RoutineId) : Nat := (r.notes x).attemptedMatches

/-- Nothing happens to the schedule of the routine. -/
structure Spares (x : RoutineId) (r r' : Recorder) : Prop where
  misses : r'.misses[x]? = r.misses[x]?
  attempts : r'.attempts x = r.attempts x

theorem Spares.refl (x : RoutineId) (r : Recorder) : Spares x r r := ⟨rfl, rfl⟩

theorem Spares.trans {r'' : Recorder} (h : Spares x r r') (h' : Spares x r' r'') :
    Spares x r r'' :=
  ⟨h'.misses.trans h.misses, h'.attempts.trans h.attempts⟩

theorem attempts_update {f : RoutineStatistics → RoutineStatistics}
    (hr : r'.statistics = r.statistics.update y f)
    (hf : ∀ stats, (f stats).attemptedMatches = stats.attemptedMatches) :
    r'.attempts x = r.attempts x := by
  unfold attempts notes
  rw [hr, Statistics.update, ExtTreeMap.getElem?_modify]
  split
  · cases hx : r.statistics.routines[x]? <;> simp_all
  · rfl

theorem attempts_recordCall (r : Recorder) (i : Invocation) (x : RoutineId) :
    attempts { r with statistics := r.statistics.recordCall i } x = r.attempts x := by
  unfold attempts notes
  simp only [Statistics.recordCall, ExtTreeMap.getElem?_alter]
  split
  · rename_i hx
    cases compare_eq_iff_eq.mp hx
    cases r.statistics.routines[i.routine]? <;> rfl
  · rfl

theorem spares_ban (r : Recorder) (reason : AbortReason) : Spares x r (r.ban reason y) where
  misses := rfl
  attempts := attempts_update rfl fun stats => by split <;> rfl

theorem spares_banAll (r : Recorder) (reason : AbortReason) (l : List Recording) :
    Spares x r (r.banAll reason l) := by
  induction l generalizing r with
  | nil => exact .refl x r
  | cons R l ih => exact (spares_ban r reason).trans (ih _)

theorem spares_count {f : RoutineStatistics → RoutineStatistics}
    (hf : ∀ stats, (f stats).attemptedMatches = stats.attemptedMatches) :
    Spares x r (r.count y f) :=
  ⟨rfl, attempts_update rfl hf⟩

theorem spares_recordings (r : Recorder) (recordings : List Recording) :
    Spares x r { r with recordings } := ⟨rfl, rfl⟩

theorem spares_abort (r : Recorder) (reason : AbortReason) : Spares x r (r.abort reason) :=
  (spares_recordings r []).trans (spares_banAll _ reason _)

theorem spares_unwind (r : Recorder) (depth : Nat) : Spares x r (r.unwind depth) :=
  (spares_recordings r (r.shallow depth)).trans (spares_banAll _ .unwound _)

theorem spares_markRecorded (r : Recorder) (y : RoutineId) : Spares x r (r.markRecorded y) := by
  unfold markRecorded
  split
  · exact .refl x r
  · exact ⟨rfl, attempts_update rfl fun _ => rfl⟩

theorem SameBooks.attempts (h : r.SameBooks r') (x : RoutineId) : r'.attempts x = r.attempts x :=
  congrArg _ (h.notes x)

variable {η : Type} [Host η]

theorem spares_executeCall (r : Recorder) (h : η) (i : Invocation) :
    Spares x r (r.executeCall h i) := by
  unfold executeCall
  split
  · exact .refl x r
  · split
    · exact (spares_abort r _).trans (spares_ban _ _)
    · split
      · exact spares_markRecorded r i.routine
      · exact ⟨rfl, attempts_update rfl fun _ => rfl⟩

theorem spares_onFieldRead (r : Recorder) (h : η) (access : FieldAccess) :
    Spares x r (r.onFieldRead h access) := by
  unfold onFieldRead
  split
  · exact .refl x r
  · rename_i R _
    have hcount : Spares x r (r.count R.routine fun stats =>
        { stats with readCount := stats.readCount + 1 }) := spares_count fun _ => rfl
    simp only
    split
    · exact hcount.trans (spares_abort _ _)
    · exact hcount.trans (spares_recordings _ _)

theorem spares_onFieldWrite {h : η} {access : FieldAccess}
    (hwrite : r.onFieldWrite h access = .ok r') : Spares x r r' := by
  unfold onFieldWrite at hwrite
  split at hwrite
  · obtain rfl := Except.ok.inj hwrite
    exact .refl x r
  · rename_i R _
    have hcount : Spares x r (r.count R.routine fun stats =>
        { stats with writeCount := stats.writeCount + 1 }) := spares_count fun _ => rfl
    simp only at hwrite
    split at hwrite
    · obtain rfl := Except.ok.inj hwrite
      exact hcount.trans (spares_abort _ _)
    · split at hwrite
      · cases hwrite
      · obtain rfl := Except.ok.inj hwrite
        exact hcount.trans (spares_recordings _ _)

theorem spares_onNativeCall (r : Recorder) (name : String) : Spares x r (r.onNativeCall name) := by
  unfold onNativeCall
  split
  · exact .refl x r
  · exact spares_abort r _

/-! ## Calls -/

/-- Whether a summary of the routine is looked up for the call, unless matching pauses. -/
def considers (r : Recorder) (x : RoutineId) (i : Invocation) : Bool :=
  i.routine == x && i.kind.isSummarizable && !r.blocked i.name && !decide (x ∈ r.blacklist) &&
    r.store.hasSummary x

theorem considers_iff {i : Invocation} :
    r.considers x i = true ↔ i.routine = x ∧ r.Eligible i ∧ r.store.hasSummary x = true := by
  simp only [considers, Bool.and_eq_true, beq_iff_eq, Bool.not_eq_true', decide_eq_false_iff_not]
  constructor
  · rintro ⟨⟨⟨⟨rfl, hkind⟩, hname⟩, hfree⟩, hsome⟩
    exact ⟨rfl, ⟨hkind, hname, hfree⟩, hsome⟩
  · rintro ⟨rfl, hi, hsome⟩
    exact ⟨⟨⟨⟨rfl, hi.summarizable⟩, hi.unblocked⟩, hi.unbanned⟩, hsome⟩

/-- Something that attempts `k` matches of the routine and leaves its schedule after `n` calls. -/
structure Moves (x : RoutineId) (n k : Nat) (r r' : Recorder) : Prop where
  misses : r'.misses[x]? = r.config.missesAfter n
  attempts : r'.attempts x = r.attempts x + k

theorem Spares.moves (h : Spares x r r') (hr : r.IsAt x n) : Moves x n 0 r r' :=
  ⟨h.misses.trans hr, h.attempts⟩

theorem Moves.spares {k : Nat} {r'' : Recorder} (h : Moves x n k r r') (h' : Spares x r' r'') :
    Moves x n k r r'' :=
  ⟨h'.misses.trans h.misses, h'.attempts.trans h.attempts⟩

theorem Spares.trans_moves {k : Nat} {r'' : Recorder} (h : Spares x r r')
    (hconfig : r'.config = r.config) (h' : Moves x n k r' r'') : Moves x n k r r'' :=
  ⟨hconfig ▸ h'.misses, h.attempts ▸ h'.attempts⟩

theorem Spares.isAt (h : Spares x r r') (hconfig : r'.config = r.config) (hr : r.IsAt x n) :
    r'.IsAt x n := by
  rw [IsAt, h.misses, hconfig]
  exact hr

theorem attempts_attempting (hx : r.Knows x) : (r.attempting x).attempts x = r.attempts x + 1 := by
  unfold attempts
  rw [notes_update (r := r) rfl hx, if_pos rfl]

/-- A replay forgets the misses of its routine, even if the host refuses it. -/
theorem replay_forgets (r : Recorder) (h : η) (i : Invocation) (s : Summary) (x : RoutineId) :
    (r.replay h i s).isPassed = false ∧
      (r.replay h i s).recorder.misses = r.misses.erase i.routine ∧
      (r.replay h i s).recorder.attempts x = r.attempts x := by
  unfold replay
  simp only
  split
  · exact ⟨rfl, rfl, rfl⟩
  · split
    · exact ⟨rfl, rfl, rfl⟩
    · exact ⟨rfl, rfl, attempts_update rfl fun _ => rfl⟩

theorem spares_mayAttemptMatch {may : Bool} (hxy : x ≠ y) (hmay : r.mayAttemptMatch y = (may, r')) :
    Spares x r r' := by
  have hsame := sameBooks_mayAttemptMatch hmay
  refine ⟨?_, hsame.attempts x⟩
  obtain rfl := congrArg Prod.snd hmay
  unfold mayAttemptMatch
  split
  · rfl
  · split
    · rfl
    · split <;> simp [ExtTreeMap.getElem?_insert, Ne.symm hxy]

/-- An attempt to replay a call of another routine. -/
theorem spares_tryReplay {h : η} {i : Invocation} {attempt : Attempt η} (hx : x ≠ i.routine)
    (htry : r.tryReplay h i = .ok attempt) : Spares x r attempt.recorder := by
  have hother : ∀ {r : Recorder} {f : RoutineStatistics → RoutineStatistics},
      (r.count i.routine f).attempts x = r.attempts x := by
    intro r f
    unfold attempts notes
    simp [count, Statistics.update, ExtTreeMap.getElem?_modify, Ne.symm hx]
  cases tried_tryReplay htry with
  | lacks => exact .refl x r
  | skips _ hmay => exact spares_mayAttemptMatch hx hmay
  | misses _ hmay =>
    refine (spares_mayAttemptMatch hx hmay).trans ⟨?_, hother.trans hother⟩
    simp [Attempt.recorder, miss, count, attempting, ExtTreeMap.getElem?_insert, Ne.symm hx]
  | @replays r₁ s _ hmay =>
    obtain ⟨-, hmisses, hattempts⟩ := replay_forgets (r₁.attempting i.routine) h i s x
    refine (spares_mayAttemptMatch hx hmay).trans ⟨?_, hattempts.trans hother⟩
    rw [hmisses]
    simp [attempting, count, ExtTreeMap.getElem?_erase, Ne.symm hx]

/-- An attempt to replay a call of a routine with summaries. -/
theorem moves_matching {h : η} {i : Invocation} {attempt : Attempt η}
    (hr : r.IsAt i.routine n) (hi : r.Knows i.routine)
    (htry : r.tryReplay h i = .ok attempt) (hsome : r.store.hasSummary i.routine = true) :
    Moves i.routine (if attempt.isPassed then n + 1 else 0) (if r.config.IsDue n then 1 else 0) r
      attempt.recorder := by
  cases tried_tryReplay htry with
  | lacks hnone =>
    rw [hnone] at hsome
    cases hsome
  | skips _ hmay =>
    have hdue : ¬ r.config.IsDue n := by simp [isDue_iff_mayAttemptMatch hr hmay]
    have hpassed := (mayAttemptMatch_of_not_isDue hr hdue).2
    rw [hmay] at hpassed
    rw [if_neg hdue]
    exact ⟨hpassed, (sameBooks_mayAttemptMatch hmay).attempts _⟩
  | misses _ hmay =>
    have hdue : r.config.IsDue n := (isDue_iff_mayAttemptMatch hr hmay).mpr rfl
    have hmissed := (mayAttemptMatch_of_isDue hr hdue).2
    have hsame := sameBooks_mayAttemptMatch hmay
    rw [hmay] at hmissed
    rw [if_pos hdue]
    refine ⟨hmissed, ?_⟩
    rw [← hsame.attempts, ← attempts_attempting (hsame.knows.mpr hi)]
    exact attempts_update rfl fun _ => rfl
  | @replays r₁ s _ hmay =>
    have hdue : r.config.IsDue n := (isDue_iff_mayAttemptMatch hr hmay).mpr rfl
    have hsame := sameBooks_mayAttemptMatch hmay
    obtain ⟨hfound, hmisses, hattempts⟩ :=
      replay_forgets (r₁.attempting i.routine) h i s i.routine
    rw [if_pos hdue, hfound]
    refine ⟨?_, ?_⟩
    · rw [hmisses]
      exact ExtTreeMap.getElem?_erase_self
    · rw [hattempts, attempts_attempting (hsame.knows.mpr hi), hsame.attempts]

/-- An attempt to replay a call. -/
theorem moves_tryReplay {h : η} {i : Invocation} {attempt : Attempt η}
    (hr : r.IsAt x n) (hknows : r.Knows i.routine) (hi : r.Eligible i)
    (htry : r.tryReplay h i = .ok attempt) :
    Moves x (if r.considers x i then if attempt.isPassed then n + 1 else 0 else n)
      (if r.considers x i ∧ r.config.IsDue n then 1 else 0) r attempt.recorder := by
  cases hconsiders : r.considers x i with
  | true =>
    obtain ⟨rfl, -, hsome⟩ := considers_iff.mp hconsiders
    simp only [if_true, true_and]
    exact moves_matching hr hknows htry hsome
  | false =>
    simp only [Bool.false_eq_true, if_false, false_and]
    by_cases hx : i.routine = x
    · subst hx
      have hnone : r.store.hasSummary i.routine ≠ true := fun hsome => by
        rw [considers_iff.mpr ⟨rfl, hi, hsome⟩] at hconsiders
        cases hconsiders
      cases tried_tryReplay htry with
      | lacks => exact ⟨hr, rfl⟩
      | skips hsome => exact absurd hsome hnone
      | misses hsome => exact absurd hsome hnone
      | replays hsome => exact absurd hsome hnone
    · exact (spares_tryReplay (Ne.symm hx) htry).moves hr

/-- A call that is handled. -/
theorem moves_onCall {h : η} {i : Invocation} {reply : Reply η}
    (hr : r.IsAt x n) (hcall : r.onCall h i = .ok reply) :
    Moves x (if r.considers x i then if reply.proceeds then n + 1 else 0 else n)
      (if r.considers x i ∧ r.config.IsDue n then 1 else 0) r reply.recorder := by
  have hcalled := called_onCall hcall
  have hcounts : Spares x r { r with statistics := r.statistics.recordCall i } :=
    ⟨rfl, attempts_recordCall r i x⟩
  have hknows : Knows { r with statistics := r.statistics.recordCall i } i.routine :=
    (knows_recordCall r i).mpr (.inl rfl)
  have hconsiders : r.considers x i =
      considers { r with statistics := r.statistics.recordCall i } x i := rfl
  have hconfig : r.config =
      Recorder.config { r with statistics := r.statistics.recordCall i } := rfl
  -- the call is counted: from here on only the recorder that has counted it matters
  generalize { r with statistics := r.statistics.recordCall i } = counted at *
  have hr := hcounts.isAt hconfig.symm hr
  rw [hconsiders, hconfig]
  refine hcounts.trans_moves hconfig.symm ?_
  have hbarred (hi : ¬ counted.Eligible i) : counted.considers x i = false :=
    Bool.eq_false_iff.mpr fun hc => hi (considers_iff.mp hc).2.1
  cases hcalled with
  | bars hunfit =>
    rw [hbarred fun hi => by simp [hi.summarizable, hi.unblocked] at hunfit]
    exact ((spares_abort _ _).trans (spares_ban _ _)).moves hr
  | passes _ hbanned =>
    rw [hbarred fun hi => hi.unbanned hbanned]
    exact ⟨hr, rfl⟩
  | replays hi htry => exact moves_tryReplay hr hknows hi htry
  | refuses hi htry => exact moves_tryReplay hr hknows hi htry
  | executes hi htry => exact (moves_tryReplay hr hknows hi htry).spares (spares_executeCall _ h i)

/-- A summary is found only where a match is due. -/
theorem isDue_of_not_passed {h : η} {i : Invocation} {attempt : Attempt η}
    (hr : r.IsAt i.routine n) (htry : r.tryReplay h i = .ok attempt)
    (hpassed : attempt.isPassed = false) : r.config.IsDue n := by
  cases tried_tryReplay htry with
  | lacks => cases hpassed
  | skips => cases hpassed
  | misses => cases hpassed
  | replays _ hmay => exact (isDue_iff_mayAttemptMatch hr hmay).mpr rfl

theorem isDue_of_onCall {h : η} {i : Invocation} {reply : Reply η} (hr : r.IsAt i.routine n)
    (hcall : r.onCall h i = .ok reply) (hproceeds : reply.proceeds = false) : r.config.IsDue n := by
  have hcounted : IsAt { r with statistics := r.statistics.recordCall i } i.routine n := hr
  cases called_onCall hcall with
  | bars => cases hproceeds
  | passes => cases hproceeds
  | executes => cases hproceeds
  | replays _ htry =>
    have hdue := isDue_of_not_passed hcounted htry rfl
    exact hdue
  | refuses _ htry =>
    have hdue := isDue_of_not_passed hcounted htry rfl
    exact hdue

/-! ## Operations -/

theorem moves_commit {R : Recording} (hroom : r.store.hasRoom R.routine = true)
    (hr : r.IsAt x n) : Moves x (if R.routine == x then 0 else n) 0 r (r.commit R) := by
  unfold commit Store.add
  rw [if_pos hroom]
  simp only
  generalize hcommitted : Recorder.count _ R.routine _ = committed
  have hcommits : Moves x (if R.routine == x then 0 else n) 0 r committed := by
    rw [← hcommitted]
    refine ⟨?_, attempts_update rfl fun _ => rfl⟩
    by_cases hx : R.routine = x
    · simp [count, hx, RecorderConfig.missesAfter]
    · have hkept : (r.misses.erase R.routine)[x]? = r.misses[x]? := by
        simp [ExtTreeMap.getElem?_erase, hx]
      rw [if_neg (by simpa using hx)]
      exact hkept.trans hr
  by_cases hmore : committed.store.hasRoom R.routine = true
  · rwa [if_pos hmore]
  · rw [if_neg hmore]
    exact hcommits.spares (spares_markRecorded committed R.routine)

theorem moves_onReturn {h : η} {routine : RoutineId} {depth : Nat} {value : Option Value}
    (hroom : ∀ R, r.finished? (.event h (.returned routine depth value)) = some R →
      r.store.hasRoom R.routine = true)
    (hr : r.IsAt x n) :
    Moves x
      (if (r.finished? (.event h (.returned routine depth value))).any (·.routine == x) then 0
        else n) 0 r (r.onReturn routine depth value) := by
  have hunwind := spares_unwind (x := x) r depth
  have hturns := turns_unwind r depth
  have hfinished : r.finished? (.event h (.returned routine depth value)) =
      ((r.unwind depth).innermost?.filter (·.isFor routine depth)).map (returning · value) := rfl
  rw [hfinished] at hroom ⊢
  unfold onReturn
  generalize r.unwind depth = unwound at *
  have hr := hunwind.isAt hturns.config hr
  refine hunwind.trans_moves hturns.config ?_
  simp only
  cases hlast : unwound.innermost? with
  | none => exact ⟨hr, rfl⟩
  | some R =>
    by_cases hfor : R.isFor routine depth = true
    · simp only [hlast, Option.filter_some, hfor, if_true, Option.map_some,
        Option.any_some] at hroom ⊢
      have hroom := hroom _ rfl
      rw [← hturns.store] at hroom
      have hdropped := spares_recordings (x := x) unwound unwound.recordings.dropLast
      exact hdropped.trans_moves rfl (moves_commit hroom hr)
    · simp only [Option.filter_some, hfor, Bool.false_eq_true, if_false, Option.map_none,
        Option.any_none]
      exact ⟨hr, rfl⟩

/-- Whether the operation is a call that is handled, and considered for a match. -/
def concerns (r : Recorder) (x : RoutineId) : Operation → Bool
  | @Operation.event _ _host _ (.call i) => r.admits (.call i) && r.considers x i
  | _ => false

/-- Whether the operation is a call for which a summary is found. -/
def answers (r : Recorder) : Operation → Bool
  | @Operation.event _ _host h e =>
    match r.onEvent h e with
    | .ok reply => !reply.proceeds
    | .error _ => false
  | _ => false

/-- How many calls of the routine were considered since its schedule began, after one more
operation.  A schedule begins with a call that is answered and with a commit. -/
def lapsed (r : Recorder) (x : RoutineId) (n : Nat) (o : Operation) : Nat :=
  if r.concerns x o then if r.answers o then 0 else n + 1
  else if (r.finished? o).any (·.routine == x) then 0 else n

/-- How many calls of the routine were considered since its schedule began, at the end of a run. -/
def lapsedAll (r : Recorder) (x : RoutineId) (n : Nat) : List Operation → Nat
  | [] => n
  | o :: rest =>
    match r.operate o with
    | .error _ => n
    | .ok r' => r'.lapsedAll x (r.lapsed x n o) rest

theorem lapsed_call {h : η} {i : Invocation} {reply : Reply η}
    (hevent : r.onEvent h (.call i) = .ok reply) (hadmits : r.admits (.call i) = true) :
    r.lapsed x n (.event h (.call i)) =
      if r.considers x i then if reply.proceeds then n + 1 else 0 else n := by
  simp only [lapsed, concerns, answers, hevent, hadmits, finished?, Bool.true_and]
  cases r.considers x i <;> cases reply.proceeds <;> rfl

/-- A call is answered only where a match is due. -/
theorem isDue_of_answers {o : Operation} (hr : r.IsAt x n) (hconcerns : r.concerns x o = true)
    (hanswers : r.answers o = true) : r.config.IsDue n := by
  cases o with
  | unwind => cases hconcerns
  | finishRun => cases hconcerns
  | event h e =>
    cases e with
    | call i =>
      obtain ⟨hadmits, hconsiders⟩ := Bool.and_eq_true_iff.mp hconcerns
      obtain ⟨rfl, -, -⟩ := considers_iff.mp hconsiders
      simp only [answers] at hanswers
      split at hanswers
      · rename_i reply hevent
        rw [onEvent, if_pos hadmits] at hevent
        have hentered : IsAt { r with entered := true } i.routine n := hr
        have hdue := isDue_of_onCall hentered hevent (by simpa using hanswers)
        exact hdue
      · cases hanswers
    | _ => cases hconcerns

/-- An event that is neither a call nor a return, and spares the schedule, leaves it where it is. -/
theorem Spares.moves_event {h : η} {e : Event} (hspares : Spares x r r')
    (hr : r.IsAt x n) (hcall : ∀ i, e ≠ .call i)
    (hreturn : ∀ routine depth value, e ≠ .returned routine depth value) :
    Moves x (r.lapsed x n (.event h e))
      (if r.concerns x (.event h e) ∧ r.config.IsDue n then 1 else 0) r r' := by
  cases e with
  | call i => exact absurd rfl (hcall i)
  | returned => exact absurd rfl (hreturn _ _ _)
  | _ => exact hspares.moves hr

/-- What an event that is handled does to the schedule of a routine. -/
theorem moves_event {h : η} {e : Event} {reply : Reply η} (hs : r.standing.InStep)
    (hr : r.IsAt x n) (hadmits : r.admits e = true)
    (hhandle : { r with entered := true }.handle h e = .ok reply) :
    Moves x (r.lapsed x n (.event h e))
      (if r.concerns x (.event h e) ∧ r.config.IsDue n then 1 else 0) r reply.recorder := by
  have hevent : r.onEvent h e = .ok reply := by rw [onEvent, if_pos hadmits, hhandle]
  have henters : Spares x r { r with entered := true } := ⟨rfl, rfl⟩
  have hentered : IsAt { r with entered := true } x n := hr
  cases e with
  | call i =>
    rw [lapsed_call hevent hadmits]
    simp only [concerns, hadmits, Bool.true_and]
    exact henters.trans_moves rfl (moves_onCall hentered hhandle)
  | returned routine depth value =>
    obtain rfl := Except.ok.inj hhandle
    have hfinished :
        { r with entered := true }.finished? (.event h (.returned routine depth value)) =
          r.finished? (.event h (.returned routine depth value)) := by
      rw [finished?_returned, finished?_returned]
      rfl
    have hroom : ∀ R, r.finished? (.event h (.returned routine depth value)) = some R →
        r.store.hasRoom R.routine = true :=
      fun R hR => hs.hasRoom (hs.active _ (mem_of_finished? hR))
    rw [← hfinished] at hroom
    have hmoves := moves_onReturn hroom hentered
    rw [hfinished] at hmoves
    exact henters.trans_moves rfl hmoves
  | fieldRead access =>
    obtain rfl := Except.ok.inj hhandle
    exact (henters.trans (spares_onFieldRead _ h access)).moves_event hr (by simp) (by simp)
  | fieldWrite access =>
    simp only [handle] at hhandle
    split at hhandle
    · cases hhandle
    · rename_i hwrite
      obtain rfl := Except.ok.inj hhandle
      exact (henters.trans (spares_onFieldWrite hwrite)).moves_event hr (by simp) (by simp)
  | nativeCall name =>
    obtain rfl := Except.ok.inj hhandle
    exact (henters.trans (spares_onNativeCall _ name)).moves_event hr (by simp) (by simp)
  | allocation =>
    obtain rfl := Except.ok.inj hhandle
    exact (henters.trans (spares_abort _ _)).moves_event hr (by simp) (by simp)
  | arrayAccess =>
    obtain rfl := Except.ok.inj hhandle
    exact (henters.trans (spares_abort _ _)).moves_event hr (by simp) (by simp)
  | interruption what =>
    obtain rfl := Except.ok.inj hhandle
    exact (henters.trans (spares_abort _ _)).moves_event hr (by simp) (by simp)

/-- An event before the entry point changes nothing. -/
theorem moves_ignored {h : η} {e : Event} (hbegun : r.HasBegun) (hr : r.IsAt x n)
    (hadmits : r.admits e = false) :
    Moves x (r.lapsed x n (.event h e))
      (if r.concerns x (.event h e) ∧ r.config.IsDue n then 1 else 0) r r := by
  have hentered : r.entered = false := (Bool.or_eq_false_iff.mp hadmits).1
  have hconcerns : r.concerns x (.event h e) = false := by
    cases e with
    | call i => rw [concerns, hadmits, Bool.false_and]
    | _ => rfl
  rw [lapsed, hconcerns, hbegun.finished?_eq_none hentered]
  exact ⟨hr, rfl⟩

/-- What an operation does to the schedule of a routine. -/
theorem moves_operate {o : Operation} (hbegun : r.HasBegun) (hs : r.standing.InStep)
    (hr : r.IsAt x n) (ho : r.operate o = .ok r') :
    Moves x (r.lapsed x n o) (if r.concerns x o ∧ r.config.IsDue n then 1 else 0) r r' := by
  cases o with
  | event h e =>
    obtain ⟨h', answer, hevent⟩ := onEvent_of_operate ho
    cases hadmits : r.admits e with
    | true =>
      rw [onEvent, if_pos hadmits] at hevent
      exact moves_event hs hr hadmits hevent
    | false =>
      rw [onEvent, if_neg (by simp [hadmits])] at hevent
      obtain ⟨rfl, -⟩ := Reply.mk.inj (Except.ok.inj hevent)
      exact moves_ignored hbegun hr hadmits
  | unwind depth =>
    obtain rfl := Except.ok.inj ho
    exact (spares_unwind r depth).moves hr
  | finishRun =>
    obtain rfl := Except.ok.inj ho
    exact (spares_recordings r []).moves hr

/-! ## Runs -/

/-- The position in the schedule is the number of calls, however long the run. -/
theorem isAt_operateAll {l : List Operation} (hbegun : r.HasBegun) (hs : r.standing.InStep)
    (hr : r.IsAt x n) (hrun : r.operateAll l = .ok r') :
    r'.config = r.config ∧ r'.IsAt x (r.lapsedAll x n l) := by
  induction l generalizing r n with
  | nil =>
    obtain rfl := Except.ok.inj hrun
    exact ⟨rfl, hr⟩
  | cons o l ih =>
    rw [operateAll] at hrun
    rw [lapsedAll]
    cases ho : r.operate o with
    | error defect =>
      rw [ho] at hrun
      cases hrun
    | ok r₁ =>
      rw [ho] at hrun
      have hconfig := (setup_operate ho).1
      have hr₁ : r₁.IsAt x (r.lapsed x n o) := by
        rw [IsAt, hconfig]
        exact (moves_operate hbegun hs hr ho).misses
      obtain ⟨hconfig', hr'⟩ := ih (hbegun.operate ho) (inStep_operate hs ho) hr₁ hrun
      exact ⟨hconfig'.trans hconfig, hr'⟩

/-- A run begins the schedules of all routines. -/
theorem isAt_beginRun (r₀ : Recorder) (runId : RunId) (x : RoutineId) :
    (r₀.beginRun runId).IsAt x 0 :=
  ExtTreeMap.getElem?_empty

/-- In a run, a match is allowed exactly if it is due after the calls considered since the schedule
of the routine last began.  Every call that is considered while a match is due attempts one, and
nothing else does; no other call that is considered is answered.  The first calls are due, as many
as the budget and at least one, and then one call after each pause. -/
theorem attempts_on_schedule {r₀ r : Recorder} {runId : RunId} {l : List Operation} {x : RoutineId}
    {n : Nat} (hrun : (r₀.beginRun runId).operateAll l = .ok r)
    (hn : (r₀.beginRun runId).lapsedAll x 0 l = n) :
    ((r.mayAttemptMatch x).1 = true ↔ r₀.config.IsDue n) ∧
      ∀ o r', r.operate o = .ok r' →
        (r'.notes x).attemptedMatches = (r.notes x).attemptedMatches +
            (if r.concerns x o ∧ r₀.config.IsDue n then 1 else 0) ∧
          (r.concerns x o → r.answers o → r₀.config.IsDue n) := by
  obtain ⟨hbegun, hs⟩ := begun_operateAll hrun
  have hempty : (r₀.beginRun runId).operateAll [] = .ok (r₀.beginRun runId) := rfl
  obtain ⟨hbegun₀, hs₀⟩ := begun_operateAll hempty
  obtain ⟨hconfig, hr⟩ := isAt_operateAll hbegun₀ hs₀ (isAt_beginRun r₀ runId x) hrun
  have hconfig : r.config = r₀.config := hconfig
  rw [hn] at hr
  rw [← hconfig]
  exact ⟨(isDue_iff_mayAttemptMatch hr rfl).symm,
    fun o r' ho => ⟨(moves_operate hbegun hs hr ho).attempts, isDue_of_answers hr⟩⟩

/-- Two attempts at first, and then one after every three calls. -/
example : (List.range 12).filter
    (fun n => decide (RecorderConfig.IsDue { missBudget := 2, missBackoff := 3 } n)) =
      [0, 1, 5, 9] := by decide

/-- A call with one argument, and its return. -/
def picks (n : Int32) : Operation :=
  .event table (.call ⟨⟨0⟩, "C.pick", .static, none, [.int n], [.int], none, 1, 4⟩)

def picked : Operation := .event table (.returned ⟨0⟩ 1 none)

/-- A recorder that stores one summary of a routine and pauses for two calls. -/
def impatient (missBudget : Nat) : Recorder :=
  .start { summaryCapacity := 1, missBudget, missBackoff := 2 } (fun _ => false) ⟨0⟩

/-- Two calls are passed over after the miss, and the call after them attempts a match. -/
theorem attempts_on_schedule_impatient :
    ∃ r r', ((impatient 1).beginRun ⟨1⟩).operateAll
        [picks 0, picked, picks 1, picks 1, picks 1] = .ok r ∧
      (r.mayAttemptMatch ⟨0⟩).1 = true ∧ r.operate (picks 1) = .ok r' ∧
      (r'.notes ⟨0⟩).attemptedMatches = 2 := by
  obtain ⟨hallowed, hattempts⟩ := @attempts_on_schedule (impatient 1) _ ⟨1⟩
    [picks 0, picked, picks 1, picks 1, picks 1] ⟨0⟩ 3 rfl rfl
  exact ⟨_, _, rfl, hallowed.mpr (by decide), rfl, (hattempts (picks 1) _ rfl).1.trans (by decide)⟩

/-- Without a budget a pause is one call short of the back-off: of two calls that should be passed
over after a miss, the second attempts a match. -/
theorem attempts_too_early :
    ¬ ∀ {r₀ r r' : Recorder} {runId : RunId} {l : List Operation} {o : Operation} {x : RoutineId}
        {n : Nat},
      (r₀.beginRun runId).operateAll l = .ok r → (r₀.beginRun runId).lapsedAll x 0 l = n →
      r.operate o = .ok r' →
      (r'.notes x).attemptedMatches = (r.notes x).attemptedMatches +
        if r.concerns x o ∧ (n < max r₀.config.missBudget 1 ∨
          (n - max r₀.config.missBudget 1) % (r₀.config.missBackoff + 1) = r₀.config.missBackoff)
        then 1 else 0 := by
  intro hdocumented
  have hattempts := @hdocumented (impatient 0) _ _ ⟨1⟩ [picks 0, picked, picks 1, picks 1] (picks 1)
    ⟨0⟩ 2 rfl rfl rfl
  revert hattempts
  decide

end Recorder

end Reprise
