import Reprise.Proofs.Contract
import Reprise.Proofs.StoreGrowth

/-!
# Aborts are final

Some events discard every open recording and ban their routines (`Aborts`): those whose effects are
no accesses, calls that are never summarized, and accesses that cannot be tracked.

    r.Aborts h e → e leaves h and the store as they are, and nothing open         (onEvent_of_aborts)

A banned routine without an open recording is `Closed`: no operation opens one, so none is finished
and its summaries stay; and it is banned, so none of them is replayed.  The run keeps this
(`Closed.operateAll`), whatever else is recorded and replayed in it.
-/

namespace Reprise

namespace Recorder

variable {η : Type} [Host η]

/-! ## The event -/

/-- The events that discard what is open. -/
inductive Aborts (r : Recorder) (h : η) : Event → Prop where
  | allocation : Aborts r h .allocation
  | arrayAccess : Aborts r h .arrayAccess
  | interruption (what : Interruption) : Aborts r h (.interruption what)
  | nativeCall {name} (hblack : r.config.nativeWhitelist.contains (simpleName name) = false) :
    Aborts r h (.nativeCall name)
  | initializer {i} (hkind : i.kind = .constructor ∨ i.kind = .classInitializer) :
    Aborts r h (.call i)
  | blockedName {i} (hblocked : r.blocked i.name = true) : Aborts r h (.call i)
  /-- A call with an array in its signature that is not replayed, of a routine that could be
  recorded. -/
  | arraySignature {i r₁} (hsignature : i.hasArraySignature = true)
    (hidle : r.state i.routine = .idle)
    (hpassed : { r with statistics := r.statistics.recordCall i }.tryReplay h i =
      .ok (.passed r₁)) : Aborts r h (.call i)
  | fieldRead {access} (hopen : r.recordings ≠ [])
    (huntrackable : access.type = .array ∨ Host.isUntrackable h access.field.owner = true) :
    Aborts r h (.fieldRead access)
  | fieldWrite {access} (hopen : r.recordings ≠ [])
    (huntrackable : access.type = .array ∨ Host.isUntrackable h access.field.owner = true) :
    Aborts r h (.fieldWrite access)

/-- The routines that the event can ban: the called one, and those of the open recordings. -/
def affected (r : Recorder) : Event → List RoutineId
  | .call i => i.routine :: r.recordings.map (·.routine)
  | _ => r.recordings.map (·.routine)

/-- `r'` is `r` after an abort that bans the routines. -/
structure Discarded (r r' : Recorder) (banned : List RoutineId) : Prop where
  turns : r.Turns r' [] r.store
  banned : ∀ x ∈ banned, x ∈ r'.blacklist

theorem discarded_abort {r r₁ : Recorder} (hr : r.Turns r₁ r.recordings r.store)
    (reason : AbortReason) : r.Discarded (r₁.abort reason) (r.recordings.map (·.routine)) := by
  have habort := turns_abort r₁ reason
  rw [hr.store] at habort
  refine ⟨hr.trans habort, fun x hx => ?_⟩
  rw [abort, mem_blacklist_banAll, hr.recordings]
  exact .inr hx

theorem discarded_abortCall {r r₁ : Recorder} (hr : r.Turns r₁ r.recordings r.store)
    (x : RoutineId) (reason : AbortReason) :
    r.Discarded (r₁.abortCall x reason) (x :: r.recordings.map (·.routine)) := by
  have habort := turns_abortCall r₁ x reason
  rw [hr.store] at habort
  refine ⟨hr.trans habort, fun y hy => ?_⟩
  rw [mem_blacklist_abortCall, standing, hr.recordings]
  rcases List.mem_cons.mp hy with rfl | hy
  · exact .inr (.inr rfl)
  · exact .inr (.inl hy)

theorem accessProblem?_eq_some {h : η} {access : FieldAccess}
    (huntrackable : access.type = .array ∨ Host.isUntrackable h access.field.owner = true) :
    ∃ reason, accessProblem? h access = some reason := by
  refine Option.ne_none_iff_exists'.mp fun hnone => ?_
  obtain ⟨htype, howner⟩ := accessProblem?_eq_none_iff.mp hnone
  rcases huntrackable with harray | huntrackable
  · rw [harray] at htype
    cases htype
  · cases howner.symm.trans huntrackable

/-- A call that is never summarized. -/
theorem onCall_unsummarizable (r : Recorder) (h : η) {i : Invocation}
    (hi : i.kind.isSummarizable = false ∨ r.blocked i.name = true) :
    ∃ r', r.onCall h i = .ok ⟨r', h, .ok .proceed⟩ ∧
      r.Discarded r' (i.routine :: r.recordings.map (·.routine)) := by
  have hr := turns_recordCall r i
  cases hkind : i.kind.isSummarizable with
  | false => exact ⟨_, by simp [onCall, hkind], discarded_abortCall hr _ .initializer⟩
  | true =>
    have hblocked : r.blocked i.name = true := hi.resolve_left (by simp [hkind])
    exact ⟨_, by simp [onCall, hkind, hblocked], discarded_abortCall hr _ .blacklistPattern⟩

/-- A call that could be recorded and is not replayed. -/
theorem onCall_passed {r r₁ : Recorder} {h : η} {i : Invocation}
    (hkind : i.kind.isSummarizable = true) (hblocked : r.blocked i.name = false)
    (hblacklist : i.routine ∉ r.blacklist)
    (hpassed : { r with statistics := r.statistics.recordCall i }.tryReplay h i =
      .ok (.passed r₁)) :
    r.onCall h i = .ok ⟨r₁.executeCall h i, h, .ok .proceed⟩ := by
  simp [onCall, hkind, hblocked, hblacklist, hpassed]

theorem executeCall_of_arraySignature {r : Recorder} (h : η) {i : Invocation}
    (hsignature : i.hasArraySignature = true) (hidle : r.standing.state i.routine = .idle) :
    r.executeCall h i = r.abortCall i.routine .arraySignature := by
  obtain ⟨-, hrecording, hrecorded⟩ := Standing.state_eq_idle.mp hidle
  have hnew : ¬ (i.routine ∈ r.recorded || r.isRecording i.routine) = true := by
    simp only [Bool.or_eq_true, decide_eq_true_eq, not_or]
    exact ⟨hrecorded, by simpa [isRecording, standing] using hrecording⟩
  rw [executeCall, if_neg hnew, if_pos hsignature]

/-- An abort leaves the host and the store as they are, and nothing open. -/
theorem onEvent_of_aborts {r : Recorder} (hentered : r.entered = true) {h : η} {e : Event}
    (haborts : r.Aborts h e) :
    ∃ r', r.onEvent h e = .ok ⟨r', h, .ok .proceed⟩ ∧ r.Discarded r' (r.affected e) := by
  have hr : r.Turns r r.recordings r.store := ⟨rfl, rfl, rfl, rfl, rfl⟩
  cases haborts with
  | allocation => exact ⟨_, onEvent_of_entered hentered h _, discarded_abort hr _⟩
  | arrayAccess => exact ⟨_, onEvent_of_entered hentered h _, discarded_abort hr _⟩
  | interruption what => exact ⟨_, onEvent_of_entered hentered h _, discarded_abort hr _⟩
  | @nativeCall name hblack =>
    refine ⟨_, ?_, discarded_abort hr (.nativeCall name)⟩
    rw [onEvent_of_entered hentered, handle, onNativeCall, hblack]
    rfl
  | initializer hkind =>
    rw [onEvent_of_entered hentered]
    refine onCall_unsummarizable r h (.inl ?_)
    rcases hkind with hkind | hkind <;> rw [hkind] <;> rfl
  | blockedName hblocked =>
    rw [onEvent_of_entered hentered]
    exact onCall_unsummarizable r h (.inr hblocked)
  | @arraySignature i r₁ hsignature hidle hpassed =>
    rw [onEvent_of_entered hentered]
    by_cases hi : i.kind.isSummarizable = false ∨ r.blocked i.name = true
    · exact onCall_unsummarizable r h hi
    · simp only [not_or, Bool.not_eq_false, Bool.not_eq_true] at hi
      rw [state_eq] at hidle
      have hblacklist := (Standing.state_eq_idle.mp hidle).1
      refine ⟨_, onCall_passed hi.1 hi.2 hblacklist hpassed, ?_⟩
      have hstanding : r₁.standing = r.standing := standing_tryReplay hpassed
      rw [← hstanding] at hidle
      rw [executeCall_of_arraySignature h hsignature hidle]
      cases attempted_tryReplay (turns_recordCall r i) hpassed with
      | passed hr₁ => exact discarded_abortCall hr₁ _ _
  | @fieldRead access hopen huntrackable =>
    obtain ⟨reason, hproblem⟩ := accessProblem?_eq_some huntrackable
    obtain ⟨R, hlast⟩ := Option.isSome_iff_exists.mp (List.getLast?_isSome.mpr hopen)
    refine ⟨r.onFieldRead h access, onEvent_of_entered hentered h _, ?_⟩
    simp only [onFieldRead, innermost?, hlast, hproblem]
    exact discarded_abort (turns_count r R.routine _) reason
  | @fieldWrite access hopen huntrackable =>
    obtain ⟨reason, hproblem⟩ := accessProblem?_eq_some huntrackable
    obtain ⟨R, hlast⟩ := Option.isSome_iff_exists.mp (List.getLast?_isSome.mpr hopen)
    rw [onEvent_of_entered hentered]
    simp only [handle, onFieldWrite, innermost?, hlast, hproblem]
    exact ⟨_, rfl, discarded_abort (turns_count r R.routine _) reason⟩

/-! ## The rest of the run -/

/-- The routine is banned and not being recorded, and these are its summaries. -/
structure Closed (r : Recorder) (x : RoutineId) (summaries : List Summary) : Prop where
  entered : r.entered = true
  banned : x ∈ r.blacklist
  unrecorded : x ∉ r.standing.recording
  summaries : r.store.summaries x = summaries

variable {r r' : Recorder} {x : RoutineId} {summaries : List Summary}

theorem Discarded.closed {banned : List RoutineId} (h : r.Discarded r' banned)
    (hentered : r.entered = true) (hx : x ∈ banned) : r'.Closed x (r.store.summaries x) where
  entered := h.turns.entered.trans hentered
  banned := h.banned x hx
  unrecorded := by simp [standing, h.turns.recordings]
  summaries := by rw [h.turns.store]

theorem Closed.state (hr : r.Closed x summaries) : r.state x = .blacklisted := by
  rw [state_eq, Standing.state_eq_blacklisted]
  exact hr.banned

theorem Closed.operate {o : Operation} (hr : r.Closed x summaries) (ho : r.operate o = .ok r') :
    r'.Closed x summaries := by
  obtain ⟨fit, hshift⟩ := exists_shift ho
  have hbegun : r.HasBegun := fun _ _ => hr.entered
  refine ⟨?_, (hshift.grows x).1 hr.banned, fun hx => ?_, ?_⟩
  · rcases entered_operate ho with hentered | ⟨hsame, -⟩
    · exact hentered
    · exact hsame.trans hr.entered
  · rcases hshift.opened hx with hx | hx
    · exact hr.unrecorded hx
    · exact hx hr.banned
  · rw [store_operate hbegun ho, ← hr.summaries]
    cases hfinished : r.finished? o with
    | none => rfl
    | some R =>
      refine summaries_put_of_ne _ fun hxR => hr.unrecorded ?_
      rw [hxR]
      exact mem_of_finished? hfinished

theorem Closed.operateAll {l : List Operation} (hr : r.Closed x summaries)
    (hrun : r.operateAll l = .ok r') : r'.Closed x summaries :=
  operateAll_keeps (P := fun r => r.Closed x summaries) (fun hr _ ho => hr.operate ho)
    (fun _ _ => trivial : ∀ o ∈ l, True) hr hrun

/-- A call of a banned routine is executed. -/
theorem Closed.call (hr : r.Closed x summaries) (h : η) {i : Invocation} (hi : i.routine = x) :
    ∃ r', r.onEvent h (.call i) = .ok ⟨r', h, .ok .proceed⟩ := by
  rw [onEvent_of_entered hr.entered]
  by_cases hunsummarizable : i.kind.isSummarizable = false ∨ r.blocked i.name = true
  · obtain ⟨r', hcall, -⟩ := onCall_unsummarizable r h hunsummarizable
    exact ⟨r', hcall⟩
  · simp only [not_or, Bool.not_eq_false, Bool.not_eq_true] at hunsummarizable
    have hbanned : i.routine ∈ r.blacklist := hi ▸ hr.banned
    refine ⟨{ r with statistics := r.statistics.recordCall i }, ?_⟩
    simp [handle, onCall, hunsummarizable, hbanned]

/-- A return of a banned routine finishes no recording. -/
theorem Closed.returned (hr : r.Closed x summaries) (h : η) (depth : Nat) (value : Option Value) :
    ∃ r', r.onEvent h (.returned x depth value) = .ok ⟨r', h, .ok .proceed⟩ ∧
      r'.store = r.store := by
  obtain ⟨r', hevent, -⟩ := r.observes (e := .returned x depth value) trivial h
  have ho : r.operate (.event h (.returned x depth value)) = .ok r' := by
    rw [Recorder.operate, hevent]
    rfl
  have hnone : r.finished? (.event h (.returned x depth value)) = none := by
    refine Option.eq_none_iff_forall_ne_some.mpr fun R hR => hr.unrecorded ?_
    rw [← routine_of_finished? hR]
    exact mem_of_finished? hR
  have hstore := store_operate (fun _ _ => hr.entered) ho
  rw [hnone] at hstore
  exact ⟨r', hevent, hstore⟩

/-- An abort event leaves nothing open and bans the routines that were being recorded, and the
called one; the store and the host stay.  In what follows, the summaries of these routines stay too,
their calls are executed, and their returns store nothing. -/
theorem abort_is_final {r : Recorder} (hentered : r.entered = true) {h : η} {e : Event}
    (haborts : r.Aborts h e) :
    ∃ r', r.onEvent h e = .ok ⟨r', h, .ok .proceed⟩ ∧ r'.recordings = [] ∧ r'.store = r.store ∧
      ∀ x ∈ r.affected e, r'.state x = .blacklisted ∧
        ∀ l r'', r'.operateAll l = .ok r'' →
          r''.state x = .blacklisted ∧ r''.store.summaries x = r.store.summaries x ∧
            (∀ {κ : Type} [Host κ] (g : κ) (i : Invocation), i.routine = x →
              ∃ r₁, r''.onEvent g (.call i) = .ok ⟨r₁, g, .ok .proceed⟩) ∧
            ∀ {κ : Type} [Host κ] (g : κ) (depth : Nat) (value : Option Value),
              ∃ r₁, r''.onEvent g (.returned x depth value) = .ok ⟨r₁, g, .ok .proceed⟩ ∧
                r₁.store = r''.store := by
  obtain ⟨r', hevent, hdiscarded⟩ := onEvent_of_aborts hentered haborts
  refine ⟨r', hevent, hdiscarded.turns.recordings, hdiscarded.turns.store, fun x hx => ?_⟩
  have hclosed := hdiscarded.closed hentered hx
  refine ⟨hclosed.state, fun l r'' hrun => ?_⟩
  have hlater := hclosed.operateAll hrun
  exact ⟨hlater.state, hlater.summaries, fun g i hi => hlater.call g hi,
    fun g depth value => hlater.returned g depth value⟩

/-- A recorder in the middle of an invocation with another inside. -/
def inside : Recorder := (fresh.called outerCall).called innerCall

/-- The outer invocation returns, and is called again. -/
def afterwards : List Operation :=
  [.event table (.returned ⟨1⟩ 2 none), .event table (.returned ⟨0⟩ 1 (some (.int 1))),
    .event table (.call outerCall)]

/-- An allocation ends both recordings for good. -/
theorem abort_is_final_inside :
    inside.entered = true ∧ inside.Aborts table .allocation ∧
      ∃ r' r'', inside.onEvent table .allocation = .ok ⟨r', table, .ok .proceed⟩ ∧
        r'.recordings = [] ∧ r'.operateAll afterwards = .ok r'' ∧
        ∀ x : RoutineId, x = ⟨0⟩ ∨ x = ⟨1⟩ →
          r''.state x = .blacklisted ∧ r''.store.summaries x = inside.store.summaries x := by
  obtain ⟨r', hevent, hnone, -, hfinal⟩ :=
    abort_is_final (r := inside) rfl (h := table) .allocation
  obtain ⟨rfl, -⟩ := Reply.mk.inj (Except.ok.inj hevent)
  refine ⟨rfl, .allocation, _, _, hevent, hnone, rfl, fun x hx => ?_⟩
  have hopen : x ∈ inside.affected .allocation := by
    rcases hx with rfl | rfl <;> decide
  obtain ⟨hstate, hsummaries, -⟩ := (hfinal x hopen).2 afterwards _ rfl
  exact ⟨hstate, hsummaries⟩

end Recorder

end Reprise
