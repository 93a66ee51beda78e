import Reprise.Proofs.Standing

/-!
# The recording states of a routine

Operations that call each routine by one name and as one kind keep the standing in order
(`Standing.InOrder`): the open recordings are of different routines, which are neither banned nor
full; no routine is both; and a routine without room is full.  An operation that finds the standing
in order takes every routine along these arrows and no others (`InOrder.next`, `states_follow`):

    idle → recording         idle → blacklisted
    recording → idle         recording → recorded         recording → blacklisted
-/

namespace Reprise

open Std

namespace Standing

/-- How the routines stand in a run. -/
structure InOrder (fit : RoutineId → Prop) (s : Standing) : Prop where
  distinct : s.recording.Nodup
  active : ∀ x ∈ s.recording, fit x ∧ x ∉ s.blacklist ∧ x ∉ s.recorded
  full : ∀ x ∈ s.recorded, fit x ∧ x ∉ s.blacklist
  /-- A routine that cannot be recorded for want of room is known to be full. -/
  room : ∀ x, s.hasRoom x = false → x ∈ s.recorded

variable {fit : RoutineId → Prop} {s s' : Standing}

theorem InOrder.state_eq_recorded (hs : s.InOrder fit) {x : RoutineId} :
    s.state x = .recorded ↔ x ∈ s.recorded := by
  by_cases hrecorded : x ∈ s.recorded
  · have hblacklist := (hs.full x hrecorded).2
    have hrecording : x ∉ s.recording := fun hx => (hs.active x hx).2.2 hrecorded
    simp [state, *]
  · by_cases hblacklist : x ∈ s.blacklist <;> by_cases hrecording : x ∈ s.recording <;>
      simp [state, *]

/-- Open recordings stay of different routines. -/
theorem Shift.nodup (h : s.Shift fit s') (hs : s.recording.Nodup) : s'.recording.Nodup := by
  cases h with
  | stays => exact hs
  | drops => exact List.nodup_nil
  | cuts hsplit =>
    rw [hsplit] at hs
    exact hs.sublist (List.sublist_append_left _ _)
  | bans => exact List.nodup_nil
  | opens _ hidle =>
    have hnew := (state_eq_idle.mp hidle).2.1
    refine List.nodup_append.mpr ⟨hs, by simp, fun y hy z hz hyz => hnew ?_⟩
    rwa [← List.mem_singleton.mp hz, ← hyz]
  | fills => exact hs
  | commits hsplit =>
    rw [hsplit] at hs
    exact hs.sublist (List.sublist_append_left _ _)

theorem InOrder.shift (hs : s.InOrder fit) (h : s.Shift fit s') : s'.InOrder fit := by
  have hnodup := h.nodup hs.distinct
  cases h with
  | stays => exact hs
  | drops => exact ⟨hnodup, fun x hx => absurd hx List.not_mem_nil, hs.full, hs.room⟩
  | @cuts kept cut blacklist hsplit hbanned =>
    have hdistinct := hs.distinct
    rw [hsplit, List.nodup_append] at hdistinct
    obtain ⟨-, -, hapart⟩ := hdistinct
    refine ⟨hnodup, fun x hx => ?_, fun x hx => ?_, hs.room⟩
    · obtain ⟨hfit, hblacklist, hrecorded⟩ := hs.active x (by simp [hsplit, hx])
      refine ⟨hfit, ?_, hrecorded⟩
      rw [hbanned]
      exact not_or.mpr ⟨hblacklist, fun hcut => hapart x hx x hcut rfl⟩
    · refine ⟨(hs.full x hx).1, ?_⟩
      rw [hbanned]
      exact not_or.mpr ⟨(hs.full x hx).2,
        fun hcut => (hs.active x (by simp [hsplit, hcut])).2.2 hx⟩
  | @bans x blacklist hcalled hbanned =>
    refine ⟨hnodup, fun y hy => absurd hy List.not_mem_nil, fun y hy => ?_, hs.room⟩
    obtain ⟨hfit, hblacklist⟩ := hs.full y hy
    refine ⟨hfit, ?_⟩
    rw [hbanned]
    rintro (hy' | hy' | rfl)
    · exact hblacklist hy'
    · exact (hs.active y hy').2.2 hy
    · exact hcalled hfit hy
  | @opens x hfit hidle =>
    obtain ⟨hblacklist, -, hrecorded⟩ := state_eq_idle.mp hidle
    refine ⟨hnodup, fun y hy => ?_, hs.full, hs.room⟩
    rcases List.mem_append.mp hy with hy | hy
    · exact hs.active y hy
    · rw [List.mem_singleton.mp hy]
      exact ⟨hfit, hblacklist, hrecorded⟩
  | fills _ hidle hroom =>
    -- the routine would be known to be full
    exact absurd (hs.room _ hroom) (state_eq_idle.mp hidle).2.2
  | @commits kept x cut blacklist recorded hasRoom hsplit hbanned hfull hroom =>
    have hdistinct := hs.distinct
    rw [hsplit, List.nodup_append, List.nodup_cons] at hdistinct
    obtain ⟨-, ⟨hxcut, -⟩, hapart⟩ := hdistinct
    refine ⟨hnodup, fun y hy => ?_, fun y hy => ?_, fun y hy => ?_⟩
    · obtain ⟨hfit, hblacklist, hrecorded⟩ := hs.active y (by simp [hsplit, hy])
      refine ⟨hfit, ?_, ?_⟩
      · rw [hbanned]
        exact not_or.mpr ⟨hblacklist, fun hcut => hapart y hy y (by simp [hcut]) rfl⟩
      · rw [hfull]
        exact not_or.mpr ⟨hrecorded, fun hyx => hapart y hy x (by simp) hyx.1⟩
    · rw [hbanned, not_or]
      rcases (hfull y).mp hy with hy | ⟨rfl, -⟩
      · exact ⟨(hs.full y hy).1, (hs.full y hy).2,
          fun hcut => (hs.active y (by simp [hsplit, hcut])).2.2 hy⟩
      · obtain ⟨hfit, hblacklist, -⟩ := hs.active y (by simp [hsplit])
        exact ⟨hfit, hblacklist, hxcut⟩
    · rw [hfull]
      by_cases hyx : y = x
      · exact .inr ⟨hyx, hy⟩
      · exact .inl (hs.room y (hroom y hyx ▸ hy))

/-- No routine leaves the blacklist or the recorded set. -/
theorem Shift.grows (h : s.Shift fit s') (x : RoutineId) :
    (x ∈ s.blacklist → x ∈ s'.blacklist) ∧ (x ∈ s.recorded → x ∈ s'.recorded) := by
  cases h with
  | stays => exact ⟨id, id⟩
  | drops => exact ⟨id, id⟩
  | cuts _ hbanned => exact ⟨fun hx => (hbanned x).mpr (.inl hx), id⟩
  | bans _ hbanned => exact ⟨fun hx => (hbanned x).mpr (.inl hx), id⟩
  | opens => exact ⟨id, id⟩
  | fills _ _ _ hfull => exact ⟨id, fun hx => (hfull x).mpr (.inl hx)⟩
  | commits _ hbanned hfull =>
    exact ⟨fun hx => (hbanned x).mpr (.inl hx), fun hx => (hfull x).mpr (.inl hx)⟩

/-- A recording is only opened of a routine that is not banned. -/
theorem Shift.opened (h : s.Shift fit s') {x : RoutineId} (hx : x ∈ s'.recording) :
    x ∈ s.recording ∨ x ∉ s.blacklist := by
  cases h with
  | stays => exact .inl hx
  | drops => cases hx
  | cuts hsplit => exact .inl (hsplit ▸ List.mem_append_left _ hx)
  | bans => cases hx
  | opens _ hidle =>
    rcases List.mem_append.mp hx with hx | hx
    · exact .inl hx
    · rw [List.mem_singleton.mp hx]
      exact .inr (state_eq_idle.mp hidle).1
  | fills => exact .inl hx
  | commits hsplit => exact .inl (hsplit ▸ List.mem_append_left _ hx)

/-- Only a routine that is being recorded becomes full. -/
theorem InOrder.fills (hs : s.InOrder fit) (h : s.Shift fit s') {x : RoutineId}
    (hx : x ∈ s'.recorded) : x ∈ s.recorded ∨ x ∈ s.recording := by
  cases h with
  | fills _ hidle hroom => exact absurd (hs.room _ hroom) (state_eq_idle.mp hidle).2.2
  | commits hsplit _ hfull =>
    rcases (hfull x).mp hx with hx | ⟨rfl, -⟩
    · exact .inl hx
    · exact .inr (by simp [hsplit])
  | _ => exact .inl hx

end Standing

/-! ## States -/

/-- Where one operation can take a routine. -/
inductive RecordingState.Next : RecordingState → RecordingState → Prop where
  | stays {x} : Next x x
  | opens : Next .idle .recording
  | bans : Next .idle .blacklisted
  | drops : Next .recording .idle
  | fills : Next .recording .recorded
  | cuts : Next .recording .blacklisted

namespace Standing

variable {fit : RoutineId → Prop} {s s' : Standing}

theorem InOrder.next (hs : s.InOrder fit) (h : s.Shift fit s') (x : RoutineId) :
    (s.state x).Next (s'.state x) := by
  have hs' := hs.shift h
  obtain ⟨hblacklist, hrecorded⟩ := h.grows x
  cases hstate : s.state x with
  | blacklisted =>
    have hx : s'.state x = .blacklisted :=
      state_eq_blacklisted.mpr (hblacklist (state_eq_blacklisted.mp hstate))
    exact hx ▸ .stays
  | recorded =>
    have hmem := hrecorded (hs.state_eq_recorded.mp hstate)
    have hx : s'.state x = .recorded := hs'.state_eq_recorded.mpr hmem
    exact hx ▸ .stays
  | recording =>
    cases s'.state x with
    | idle => exact .drops
    | recording => exact .stays
    | recorded => exact .fills
    | blacklisted => exact .cuts
  | idle =>
    obtain ⟨-, hrecording, hnot⟩ := state_eq_idle.mp hstate
    cases hstate' : s'.state x with
    | idle => exact .stays
    | recording => exact .opens
    | recorded =>
      rcases hs.fills h (hs'.state_eq_recorded.mp hstate') with hx | hx
      · exact absurd hx hnot
      · exact absurd hx hrecording
    | blacklisted => exact .bans

end Standing

namespace Recorder

theorem inOrder_beginRun (r : Recorder) (runId : RunId) (fit : RoutineId → Prop) :
    (r.beginRun runId).standing.InOrder fit where
  distinct := List.nodup_nil
  active := fun _ hx => absurd hx List.not_mem_nil
  full := fun _ hx => absurd hx ExtTreeSet.not_mem_empty
  room := fun x hx => by
    have hroom : (r.store.clear).hasRoom x = true := by simp [Store.hasRoom, Store.clear]
    cases hroom.symm.trans hx

/-- Within a run a recorder stays set up as it was. -/
theorem setup_operate {r r' : Recorder} {o : Operation} (ho : r.operate o = .ok r') :
    r'.config = r.config ∧ r'.blocked = r.blocked := by
  cases o with
  | event h e =>
    rcases handle_of_operate ho with ⟨-, rfl⟩ | ⟨h', answer, hhandle⟩
    · exact ⟨rfl, rfl⟩
    · obtain ⟨_, _, hr⟩ := (reaction_of_handle hhandle).turns
      exact ⟨hr.config, hr.blocked⟩
  | unwind depth =>
    obtain rfl := Except.ok.inj ho
    have hr := turns_unwind r depth
    exact ⟨hr.config, hr.blocked⟩
  | finishRun =>
    obtain rfl := Except.ok.inj ho
    exact ⟨rfl, rfl⟩

/-- The patterns stay, so the same routines are fit, and the standing stays in order. -/
theorem inOrder_operateAll {r r' : Recorder} {name : RoutineId → String}
    {kind : RoutineId → RoutineKind} (hr : r.standing.InOrder (r.Fit name kind))
    {l : List Operation} (hl : ∀ o ∈ l, o.Names name kind) (hrun : r.operateAll l = .ok r') :
    r'.standing.InOrder (r'.Fit name kind) := by
  refine operateAll_keeps (P := fun r => r.standing.InOrder (r.Fit name kind)) ?_ hl hr hrun
  intro r o r' hr hnames ho
  have hfit : r'.Fit name kind = r.Fit name kind := by
    unfold Fit
    rw [(setup_operate ho).2]
  rw [hfit]
  exact hr.shift (shift_operate hnames ho)

/-- The sets that hold banned and full routines only grow. -/
theorem grows_operateAll {r r' : Recorder} {name : RoutineId → String}
    {kind : RoutineId → RoutineKind} {l : List Operation} (hl : ∀ o ∈ l, o.Names name kind)
    (hrun : r.operateAll l = .ok r') (x : RoutineId) :
    (x ∈ r.blacklist → x ∈ r'.blacklist) ∧ (x ∈ r.recorded → x ∈ r'.recorded) := by
  refine operateAll_keeps (P := fun r' =>
    (x ∈ r.blacklist → x ∈ r'.blacklist) ∧ (x ∈ r.recorded → x ∈ r'.recorded))
    ?_ hl ⟨id, id⟩ hrun
  intro r₁ o r₂ hr₁ hnames ho
  have hgrows := (shift_operate hnames ho).grows x
  exact ⟨hgrows.1 ∘ hr₁.1, hgrows.2 ∘ hr₁.2⟩

/-- Operations that call each routine by one name and as one kind take it along the arrows of
`RecordingState.Next`: the open recordings are of different routines, which are neither banned nor
full, no routine is both, and no routine ever stops being either. -/
theorem states_follow {r₀ r : Recorder} {runId : RunId} {name : RoutineId → String}
    {kind : RoutineId → RoutineKind} {l : List Operation} (hl : ∀ o ∈ l, o.Names name kind)
    (hrun : (r₀.beginRun runId).operateAll l = .ok r) :
    (r.recordings.map (·.routine)).Nodup ∧
      (∀ R ∈ r.recordings, R.routine ∉ r.blacklist ∧ R.routine ∉ r.recorded) ∧
      (∀ x, ¬ (x ∈ r.blacklist ∧ x ∈ r.recorded)) ∧
      (∀ o r', o.Names name kind → r.operate o = .ok r' → ∀ x, (r.state x).Next (r'.state x)) ∧
      ∀ l' r', (∀ o ∈ l', o.Names name kind) → r.operateAll l' = .ok r' → ∀ x,
        (r.state x = .blacklisted → r'.state x = .blacklisted) ∧
          (r.state x = .recorded → r'.state x = .recorded) := by
  have hr : r.standing.InOrder (r.Fit name kind) :=
    inOrder_operateAll (inOrder_beginRun r₀ runId _) hl hrun
  refine ⟨hr.distinct, fun R hR => ?_, fun x hx => (hr.full x hx.2).2 hx.1,
    fun o r' hnames ho x => ?_, fun l' r' hl' hrun' x => ?_⟩
  · exact (hr.active R.routine (List.mem_map_of_mem hR)).2
  · rw [state_eq, state_eq]
    exact hr.next (shift_operate hnames ho) x
  · have hr' := inOrder_operateAll hr hl' hrun'
    have hgrows := grows_operateAll hl' hrun' x
    simp only [state_eq, Standing.state_eq_blacklisted, hr.state_eq_recorded,
      hr'.state_eq_recorded]
    exact hgrows

/-- A call, and a nested one whose frame goes without a return. -/
def unreturned : List Operation :=
  [.event table (.call outerCall), .event table (.call innerCall), .unwind 1]

/-- The nested routine ends on the blacklist, and the recording around it goes on. -/
theorem states_follow_unreturned :
    ∃ r, (∀ o ∈ unreturned,
        o.Names (if · = ⟨0⟩ then "C.outer" else "C.inner") fun _ => .static) ∧
      (fresh.beginRun ⟨1⟩).operateAll unreturned = .ok r ∧
      r.state ⟨0⟩ = .recording ∧ r.state ⟨1⟩ = .blacklisted ∧
      (∀ R ∈ r.recordings, R.routine ∉ r.blacklist ∧ R.routine ∉ r.recorded) ∧
      ∀ r', r.operate (.event table (.returned ⟨0⟩ 1 (some (.int 1)))) = .ok r' →
        (r.state ⟨0⟩).Next (r'.state ⟨0⟩) := by
  have hl : ∀ o ∈ unreturned,
      o.Names (if · = ⟨0⟩ then "C.outer" else "C.inner") fun _ => .static := by
    simp [unreturned, Operation.Names, outerCall, innerCall]
  refine ⟨_, hl, rfl, ?_⟩
  obtain ⟨-, hactive, -, hnext, -⟩ := @states_follow fresh _ ⟨1⟩ _ _ _ hl rfl
  exact ⟨by decide, by decide, hactive, fun r' hr' =>
    hnext (.event table (.returned ⟨0⟩ 1 (some (.int 1)))) r' trivial hr' ⟨0⟩⟩

end Recorder

end Reprise
