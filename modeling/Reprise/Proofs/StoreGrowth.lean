import Reprise.Proofs.Lifecycle

/-!
# How the store grows

Within a run, summaries are only added: one at a time, at the end of the list of one routine, by the
return that finishes a recording.

    r.operate o = .ok r' → r' has the store of r, with the summary of r.finished? o put into it
                                                                            (store_operate)

Room is looked for when a recording is opened and used when it is finished.  It is still there
because of what stays in step in between (`Standing.InStep`): the open recordings are of different
routines, none of them is known to be full, and a routine is known to be full exactly if it has no
room.  So nothing that is committed is ever refused (`store_only_grows`).
-/

namespace Reprise

open Std

namespace Recorder

/-! ## Finished recordings -/

/-- The recording that an operation finishes, with the value that was returned: a return finishes
the recording that is innermost once those of deeper frames are gone, if it is its own. -/
def finished? (r : Recorder) : Operation → Option Recording
  | @Operation.event _ _host _ (.returned routine depth value) =>
    ((r.unwind depth).innermost?.filter (·.isFor routine depth)).map (returning · value)
  | _ => none

variable {η : Type} [Host η]

theorem finished?_event_of_ne (r : Recorder) (h : η) {e : Event}
    (hevent : ∀ routine depth value, e ≠ .returned routine depth value) :
    r.finished? (.event h e) = none := by
  cases e with
  | returned => exact absurd rfl (hevent _ _ _)
  | _ => rfl

theorem finished?_returned (r : Recorder) (h : η) (routine : RoutineId) (depth : Nat)
    (value : Option Value) :
    r.finished? (.event h (.returned routine depth value)) =
      ((r.shallow depth).getLast?.filter (·.isFor routine depth)).map (returning · value) := by
  simp only [finished?, innermost?, (turns_unwind r depth).recordings]

/-- What is finished was open. -/
theorem mem_of_finished? {r : Recorder} {o : Operation} {R : Recording}
    (hR : r.finished? o = some R) : R.routine ∈ r.standing.recording := by
  match o with
  | @Operation.event _ _ h (.returned routine depth value) =>
    rw [finished?_returned, Option.map_eq_some_iff] at hR
    obtain ⟨S, hS, rfl⟩ := hR
    have hmem := List.mem_of_getLast? (Option.filter_eq_some_iff.mp hS).1
    rw [routine_returning]
    exact List.mem_map_of_mem ((List.takeWhile_sublist _).subset hmem)

/-- What a return finishes is of its routine. -/
theorem routine_of_finished? {r : Recorder} {h : η} {routine : RoutineId} {depth : Nat}
    {value : Option Value} {R : Recording}
    (hR : r.finished? (.event h (.returned routine depth value)) = some R) :
    R.routine = routine := by
  rw [finished?_returned, Option.map_eq_some_iff] at hR
  obtain ⟨S, hS, rfl⟩ := hR
  rw [routine_returning]
  exact (isFor_iff.mp (Option.filter_eq_some_iff.mp hS).2).1

theorem store_reaction {r r' : Recorder} {h h' : η} {e : Event}
    {answer : Except HostFailure Directive}
    (hreaction : Reaction { r with entered := true } h r' e h' answer) :
    r'.store = (r.finished? (.event h e)).elim r.store fun R => r.store.put R.routine R.summary := by
  cases hreaction with
  | discards hevent hr =>
    rw [finished?_event_of_ne r h hevent]
    exact hr.store
  | @returns routine depth value hlast hr =>
    have hnone : (r.shallow depth).getLast?.filter (·.isFor routine depth) = none :=
      Option.filter_eq_none_iff.mpr fun R hR => by simp [hlast R hR]
    rw [finished?_returned, hnone]
    exact hr.store
  | @commits routine depth value outer R hlast hfor hr =>
    have hsome : (r.shallow depth).getLast?.filter (·.isFor routine depth) = some R := by
      rw [show r.shallow depth = outer ++ [R] from hlast, List.getLast?_concat, Option.filter_some,
        if_pos hfor]
    rw [finished?_returned, hsome, Option.map_some, Option.elim_some, routine_returning,
      (isFor_iff.mp hfor).1]
    exact hr.store
  | passes _ hr => exact hr.store
  | passesNative _ hr => exact hr.store
  | opens _ _ _ _ hr => exact hr.store
  | replays _ _ _ _ _ hr => exact hr.store
  | refuses _ _ _ hr => exact hr.store
  | reads _ hr => exact hr.store
  | writes _ _ hr => exact hr.store

/-- Only an event that is handled opens a recording, and the entry point has been called then. -/
theorem entered_operate {r r' : Recorder} {o : Operation} (ho : r.operate o = .ok r') :
    r'.entered = true ∨ (r'.entered = r.entered ∧ r'.recordings ⊆ r.recordings) := by
  cases o with
  | event h e =>
    rcases handle_of_operate ho with ⟨-, rfl⟩ | ⟨h', answer, hhandle⟩
    · exact .inr ⟨rfl, List.Subset.refl _⟩
    · obtain ⟨_, _, hr⟩ := (reaction_of_handle hhandle).turns
      exact .inl hr.entered
  | unwind depth =>
    obtain rfl := Except.ok.inj ho
    have hr := turns_unwind r depth
    refine .inr ⟨hr.entered, ?_⟩
    rw [hr.recordings]
    exact (List.takeWhile_sublist _).subset
  | finishRun =>
    obtain rfl := Except.ok.inj ho
    exact .inr ⟨rfl, List.nil_subset _⟩

/-- Before the entry point no recording is open. -/
def HasBegun (r : Recorder) : Prop := ∀ R ∈ r.recordings, r.entered = true

theorem HasBegun.operate {r r' : Recorder} {o : Operation} (hr : r.HasBegun)
    (ho : r.operate o = .ok r') : r'.HasBegun := by
  intro R hR
  rcases entered_operate ho with hentered | ⟨hsame, hsubset⟩
  · exact hentered
  · rw [hsame]
    exact hr R (hsubset hR)

theorem HasBegun.finished?_eq_none {r : Recorder} (hr : r.HasBegun) (hentered : r.entered = false)
    (o : Operation) : r.finished? o = none := by
  refine Option.eq_none_iff_forall_ne_some.mpr fun R hR => ?_
  obtain ⟨S, hS, -⟩ := List.mem_map.mp (mem_of_finished? hR)
  rw [hr S hS] at hentered
  cases hentered

/-- Nothing but a finished recording changes the store. -/
theorem store_operate {r r' : Recorder} {o : Operation} (hr : r.HasBegun)
    (ho : r.operate o = .ok r') :
    r'.store = (r.finished? o).elim r.store fun R => r.store.put R.routine R.summary := by
  cases o with
  | event h e =>
    rcases handle_of_operate ho with ⟨hentered, rfl⟩ | ⟨h', answer, hhandle⟩
    · rw [hr.finished?_eq_none hentered (.event h e)]
      rfl
    · exact store_reaction (reaction_of_handle hhandle)
  | unwind depth =>
    obtain rfl := Except.ok.inj ho
    exact (turns_unwind r depth).store
  | finishRun =>
    obtain rfl := Except.ok.inj ho
    rfl

end Recorder

/-! ## Room -/

namespace Standing

/-- The open recordings are of different routines, none of which is known to be full, and the
routines known to be full are those without room. -/
structure InStep (s : Standing) : Prop where
  distinct : s.recording.Nodup
  active : ∀ x ∈ s.recording, x ∉ s.recorded
  full : ∀ x, x ∈ s.recorded ↔ s.hasRoom x = false

variable {fit : RoutineId → Prop} {s s' : Standing}

theorem InStep.hasRoom (hs : s.InStep) {x : RoutineId} (hx : x ∉ s.recorded) :
    s.hasRoom x = true := by
  cases hroom : s.hasRoom x with
  | true => rfl
  | false => exact absurd ((hs.full x).mpr hroom) hx

theorem InStep.shift (hs : s.InStep) (h : s.Shift fit s') : s'.InStep := by
  have hdistinct := h.nodup hs.distinct
  cases h with
  | stays => exact hs
  | drops => exact ⟨hdistinct, fun x hx => absurd hx List.not_mem_nil, hs.full⟩
  | cuts hsplit => exact ⟨hdistinct, fun x hx => hs.active x (by simp [hsplit, hx]), hs.full⟩
  | bans => exact ⟨hdistinct, fun x hx => absurd hx List.not_mem_nil, hs.full⟩
  | @opens x _ hidle =>
    refine ⟨hdistinct, fun y hy => ?_, hs.full⟩
    rcases List.mem_append.mp hy with hy | hy
    · exact hs.active y hy
    · rw [List.mem_singleton.mp hy]
      exact (state_eq_idle.mp hidle).2.2
  | fills _ hidle hroom =>
    -- a routine without room would be known to be full
    exact absurd ((hs.full _).mpr hroom) (state_eq_idle.mp hidle).2.2
  | @commits kept x cut blacklist recorded hasRoom hsplit _ hfull hroom =>
    have hapart : ∀ y ∈ kept, y ≠ x := fun y hy => by
      have hnodup := hs.distinct
      rw [hsplit, List.nodup_append] at hnodup
      exact hnodup.2.2 y hy x List.mem_cons_self
    refine ⟨hdistinct, fun y hy => ?_, fun y => ?_⟩
    · rw [hfull]
      exact not_or.mpr ⟨hs.active y (by simp [hsplit, hy]), fun hyx => hapart y hy hyx.1⟩
    · rw [hfull]
      by_cases hyx : y = x
      · subst hyx
        have hopen := hs.active y (by simp [hsplit])
        simp [hopen]
      · simp [hyx, hs.full, hroom y hyx]

end Standing

namespace Recorder

open Standing

/-- A single operation calls its routine by some name and as some kind. -/
theorem exists_shift {r r' : Recorder} {o : Operation} (ho : r.operate o = .ok r') :
    ∃ fit, r.standing.Shift fit r'.standing := by
  obtain ⟨name, kind, hnames⟩ : ∃ name kind, o.Names name kind := by
    cases o with
    | event h e =>
      cases e with
      | call i => exact ⟨fun _ => i.name, fun _ => i.kind, rfl, rfl⟩
      | _ => exact ⟨fun _ => "", fun _ => .static, trivial⟩
    | _ => exact ⟨fun _ => "", fun _ => .static, trivial⟩
  exact ⟨_, shift_operate hnames ho⟩

theorem inStep_operate {r r' : Recorder} {o : Operation} (hr : r.standing.InStep)
    (ho : r.operate o = .ok r') : r'.standing.InStep := by
  obtain ⟨fit, hshift⟩ := exists_shift ho
  exact hr.shift hshift

/-- What a run keeps, from the moment it begins. -/
theorem begun_operateAll {r₀ r : Recorder} {runId : RunId} {l : List Operation}
    (hrun : (r₀.beginRun runId).operateAll l = .ok r) : r.HasBegun ∧ r.standing.InStep := by
  refine operateAll_keeps (P := fun r => r.HasBegun ∧ r.standing.InStep)
    ?_ (fun _ _ => trivial : ∀ o ∈ l, True) ⟨?_, ?_⟩ hrun
  · rintro r o r' ⟨hbegun, hr⟩ - ho
    exact ⟨hbegun.operate ho, inStep_operate hr ho⟩
  · exact fun R hR => absurd hR List.not_mem_nil
  · have horder := inOrder_beginRun r₀ runId fun _ => True
    exact ⟨horder.distinct, fun x hx => (horder.active x hx).2.2,
      fun x => ⟨fun hx => absurd hx ExtTreeSet.not_mem_empty, horder.room x⟩⟩

/-- In a run, only a return that finishes a recording changes the store: it adds the summary of the
recording, for which there always is room, to the end of the list of its routine.  A routine is
known to be full exactly if it has no room, so a call that gets as far as opening a recording finds
room for it. -/
theorem store_only_grows {r₀ r : Recorder} {runId : RunId} {l : List Operation}
    (hrun : (r₀.beginRun runId).operateAll l = .ok r) :
    (∀ x, x ∈ r.recorded ↔ r.store.hasRoom x = false) ∧
      (∀ o r', r.operate o = .ok r' →
        (r.finished? o = none → r'.store = r.store) ∧
          ∀ R, r.finished? o = some R → r.store.add R.routine R.summary = .ok r'.store ∧
            ∀ x, r'.store.summaries x =
              r.store.summaries x ++ if x = R.routine then [R.summary] else []) ∧
      ∀ {η : Type} [Host η] (h : η) (i : Invocation) (r₁ : Recorder),
        { r with entered := true, statistics := r.statistics.recordCall i }.tryReplay h i =
          .ok (.passed r₁) → i.routine ∉ r₁.recorded → r₁.store.hasRoom i.routine = true := by
  obtain ⟨hbegun, hr⟩ := begun_operateAll hrun
  refine ⟨hr.full, fun o r' ho => ⟨fun hnone => ?_, fun R hR => ?_⟩, fun h i r₁ htry hx => ?_⟩
  · rw [store_operate hbegun ho, hnone, Option.elim_none]
  · have hstore := store_operate hbegun ho
    rw [hR, Option.elim_some] at hstore
    have hroom : r.store.hasRoom R.routine = true :=
      hr.hasRoom (hr.active _ (mem_of_finished? hR))
    rw [hstore]
    exact ⟨by rw [Store.add, Store.put, if_pos hroom, if_pos hroom], summaries_put _ hroom⟩
  · have hstanding : r₁.standing = r.standing := standing_tryReplay htry
    rw [← hstanding] at hr
    exact hr.hasRoom hx

/-- A recorder that stores one summary of each routine. -/
def frugal : Recorder := .start { summaryCapacity := 1 } (fun _ => false) ⟨0⟩

/-- The return of the recorded call fills its routine. -/
theorem store_only_grows_frugal :
    ∃ r r' s, (frugal.beginRun ⟨1⟩).operateAll [.event table (.call outerCall)] = .ok r ∧
      r.operate (.event table (.returned ⟨0⟩ 1 (some (.int 1)))) = .ok r' ∧
      (∀ x, x ∈ r.recorded ↔ r.store.hasRoom x = false) ∧ ⟨0⟩ ∉ r.recorded ∧
      (∀ x, r'.store.summaries x = r.store.summaries x ++ if x = ⟨0⟩ then [s] else []) ∧
      ⟨0⟩ ∈ r'.recorded := by
  obtain ⟨hfull, hgrows, -⟩ := @store_only_grows frugal _ ⟨1⟩ [.event table (.call outerCall)] rfl
  have hadds := (hgrows (.event table (.returned ⟨0⟩ 1 (some (.int 1)))) _ rfl).2 _ rfl
  exact ⟨_, _, _, rfl, rfl, hfull, by decide, hadds.2, by decide⟩

end Recorder

end Reprise
