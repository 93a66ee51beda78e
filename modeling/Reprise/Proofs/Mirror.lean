import Mathlib.Data.List.TakeWhile
import Reprise.Proofs.Contract

/-!
# The recordings mirror the call stack

While a recorder watches a machine, the depths of its recordings increase strictly, and each
recording is of the routine whose frame stands at its depth (`Mirrors`).  An event other than a call
only drops recordings (`Mirrors.observes`); a call puts a frame on top, and at most one recording, at
the depth of that frame (`Mirrors.called`); a return takes the frame away and with it the recording
at its depth, if there is one (`Mirrors.returned`).  That recording is finished, and no other is
unwound (`Mirrors.onReturn_eq`).
-/

namespace Reprise

open Recorder

/-! ## Recordings after an event -/

/-- Some of the recordings, of the same invocations. -/
def Descends (l l' : List Recording) : Prop :=
  ∃ (kept : List Recording) (note : Recording → Recording), kept.Sublist l ∧
    (∀ R : Recording, R.SameInvocation (note R)) ∧ l' = kept.map note

namespace Descends

variable {l l' : List Recording}

theorem of_sublist (h : l'.Sublist l) : Descends l l' :=
  ⟨l', id, h, Recording.SameInvocation.refl, (List.map_id l').symm⟩

theorem of_map {note : Recording → Recording} (h : ∀ R : Recording, R.SameInvocation (note R)) :
    Descends l (l.map note) := ⟨l, note, .refl l, h, rfl⟩

theorem exists_mem (h : Descends l l') {R' : Recording} (hR' : R' ∈ l') :
    ∃ R ∈ l, R.SameInvocation R' := by
  obtain ⟨kept, note, hkept, hnote, rfl⟩ := h
  obtain ⟨R, hR, rfl⟩ := List.mem_map.mp hR'
  exact ⟨R, hkept.mem hR, hnote R⟩

theorem eq_nil (h : Descends l l') (hl : l = []) : l' = [] := by
  obtain ⟨kept, note, hkept, -, rfl⟩ := h
  rw [hl] at hkept
  rw [List.sublist_nil.mp hkept]
  rfl

theorem ascending (h : Descends l l') (hl : l.Pairwise fun R S => R.depth < S.depth) :
    l'.Pairwise fun R S => R.depth < S.depth := by
  obtain ⟨kept, note, hkept, hnote, rfl⟩ := h
  refine List.pairwise_map.mpr ((hl.sublist hkept).imp fun {R S} hRS => ?_)
  rwa [(hnote R).depth, (hnote S).depth]

end Descends

/-- After an event the open recordings are old ones, and one that an executed call has opened. -/
theorem Recorder.Reaction.recordings {η : Type} [Host η] {r r' : Recorder} {h h' : η} {e : Event}
    {answer : Except HostFailure Directive} (hreaction : Reaction r h r' e h' answer) :
    Descends r.recordings r'.recordings ∨ answer = .ok .proceed ∧ ∃ i singleThreaded, e = .call i ∧
      r'.recordings = r.recordings ++ [.ofInvocation i singleThreaded] := by
  cases hreaction with
  | discards _ hr => exact .inl (.of_sublist (hr.recordings ▸ List.nil_sublist _))
  | passes _ hr => exact .inl (.of_sublist (hr.recordings ▸ .refl _))
  | passesNative _ hr => exact .inl (.of_sublist (hr.recordings ▸ .refl _))
  | opens _ _ _ _ hr => exact .inr ⟨rfl, _, _, rfl, hr.recordings⟩
  | @replays _ s _ _ _ _ _ _ hr =>
    exact .inl (hr.recordings ▸ .of_map fun R => sameInvocation_absorb R s)
  | @refuses _ s _ _ _ _ hr =>
    exact .inl (hr.recordings ▸ .of_map fun R => sameInvocation_absorb R s)
  | reads _ hr =>
    exact .inl (hr.recordings ▸ .of_map fun R => Recording.sameInvocation_observe R _)
  | writes _ _ hr =>
    exact .inl (hr.recordings ▸ .of_map fun R => Recording.sameInvocation_observe R _)
  | returns _ hr => exact .inl (.of_sublist (hr.recordings ▸ List.takeWhile_sublist _))
  | @commits _ depth _ outer R hlast _ hr =>
    have hshallow : (r.shallow depth).Sublist r.recordings := List.takeWhile_sublist _
    rw [hlast] at hshallow
    exact .inl (.of_sublist (hr.recordings ▸ (List.sublist_append_left outer [R]).trans hshallow))

theorem Recorder.Observes.descends {η : Type} [Host η] {r r' : Recorder} {h : η} {e : Event}
    (hobserves : r.Observes h e r') (he : e.IsObservable) :
    Descends r.recordings r'.recordings := by
  cases hobserves with
  | ignores => exact .of_sublist (.refl _)
  | reacts _ hreaction =>
    rcases hreaction.recordings with h | ⟨-, i, _, rfl, -⟩
    · exact h
    · cases he

/-! ## Recordings and frames -/

/-- A frame of the routine stands at the depth: on `depth - 1` others.  The routines are those of
the frames, innermost first. -/
def StandsAt (routines : List RoutineId) (depth : Nat) (id : RoutineId) : Prop :=
  ∃ top bottom, routines = top ++ id :: bottom ∧ bottom.length + 1 = depth

namespace StandsAt

variable {l : List RoutineId} {depth : Nat} {id x : RoutineId}

theorem push (h : StandsAt l depth id) (x : RoutineId) : StandsAt (x :: l) depth id := by
  obtain ⟨top, bottom, rfl, hdepth⟩ := h
  exact ⟨x :: top, bottom, rfl, hdepth⟩

theorem top (x : RoutineId) (l : List RoutineId) : StandsAt (x :: l) (l.length + 1) x :=
  ⟨[], l, rfl, rfl⟩

theorem bounds (h : StandsAt l depth id) : 1 ≤ depth ∧ depth ≤ l.length := by
  obtain ⟨top, bottom, rfl, hdepth⟩ := h
  rw [List.length_append, List.length_cons]
  omega

/-- What stands at the full depth is the innermost frame, and everything else stands below it. -/
theorem cases_top (h : StandsAt (x :: l) depth id) :
    depth = l.length + 1 ∧ id = x ∨ depth ≤ l.length ∧ StandsAt l depth id := by
  obtain ⟨top, bottom, hl, hdepth⟩ := h
  cases top with
  | nil =>
    obtain ⟨rfl, rfl⟩ := List.cons.inj hl
    exact .inl ⟨hdepth.symm, rfl⟩
  | cons y top =>
    obtain ⟨rfl, rfl⟩ := List.cons.inj hl
    have hstands : StandsAt (top ++ id :: bottom) depth id := ⟨top, bottom, rfl, hdepth⟩
    exact .inr ⟨hstands.bounds.2, hstands⟩

end StandsAt

/-- The recordings of the recorder are those of some of the frames. -/
structure Mirrors (routines : List RoutineId) (r : Recorder) : Prop where
  idle : r.entered = false → r.recordings = []
  ascending : r.recordings.Pairwise fun R S => R.depth < S.depth
  stands : ∀ R ∈ r.recordings, StandsAt routines R.depth R.routine

namespace Mirrors

variable {l : List RoutineId} {id : RoutineId} {r r' : Recorder}

theorem of_nil (h : r.recordings = []) : Mirrors l r :=
  ⟨fun _ => h, by rw [h]; exact .nil, by simp [h]⟩

theorem push (h : Mirrors l r) (id : RoutineId) : Mirrors (id :: l) r :=
  ⟨h.idle, h.ascending, fun R hR => (h.stands R hR).push id⟩

theorem depth_le (h : Mirrors l r) {R : Recording} (hR : R ∈ r.recordings) : R.depth ≤ l.length :=
  (h.stands R hR).bounds.2

theorem eq_nil (h : Mirrors [] r) : r.recordings = [] := by
  refine List.eq_nil_iff_forall_not_mem.mpr fun R hR => ?_
  have hbounds := (h.stands R hR).bounds
  rw [List.length_nil] at hbounds
  omega

/-- What keeps some of the recordings keeps them where they stand. -/
theorem descends (h : Mirrors l r) (hdescends : Descends r.recordings r'.recordings)
    (hidle : r'.entered = false → r.recordings = []) : Mirrors l r' := by
  refine ⟨fun hentered => hdescends.eq_nil (hidle hentered), hdescends.ascending h.ascending,
    fun R' hR' => ?_⟩
  obtain ⟨R, hR, hsame⟩ := hdescends.exists_mem hR'
  rw [hsame.depth, hsame.routine]
  exact h.stands R hR

theorem observes {η : Type} [Host η] {host : η} {e : Event} (h : Mirrors l r)
    (hobserves : r.Observes host e r') (he : e.IsObservable) : Mirrors l r' := by
  refine h.descends (hobserves.descends he) fun hentered => ?_
  cases hobserves with
  | ignores => exact h.idle hentered
  | reacts hentered' hreaction =>
    obtain ⟨_, _, hr⟩ := hreaction.turns
    rw [hr.entered, hentered'] at hentered
    cases hentered

/-- The recording that a call opens is that of its frame. -/
theorem called {η : Type} [Host η] {host : η} {i : Invocation} {reply : Reply η} (h : Mirrors l r)
    (hdepth : i.depth = l.length + 1) (hcall : r.onEvent host (.call i) = .ok reply) :
    Mirrors (i.routine :: l) reply.recorder := by
  unfold onEvent at hcall
  split at hcall
  · have hreaction := reaction_of_handle hcall
    have hentered : ¬ reply.recorder.entered = false := by
      obtain ⟨_, _, hr⟩ := hreaction.turns
      rw [hr.entered]
      exact Bool.false_ne_true.symm
    rcases hreaction.recordings with hdescends | ⟨-, j, _, hj, hopened⟩
    · exact (h.push i.routine).descends hdescends fun hnot => absurd hnot hentered
    · obtain rfl := Event.call.inj hj
      refine ⟨fun hnot => absurd hnot hentered, ?_, ?_⟩
      · rw [hopened, List.pairwise_append]
        refine ⟨h.ascending, List.pairwise_singleton _ _, fun R hR S hS => ?_⟩
        obtain rfl := List.mem_singleton.mp hS
        have hle := h.depth_le hR
        change R.depth < i.depth
        omega
      · rw [hopened]
        intro R hR
        rcases List.mem_append.mp hR with hR | hR
        · exact (h.stands R hR).push i.routine
        · obtain rfl := List.mem_singleton.mp hR
          change StandsAt (i.routine :: l) i.depth i.routine
          rw [hdepth]
          exact .top i.routine l
  · obtain rfl := Except.ok.inj hcall
    exact h.push i.routine

/-! ### Returns -/

/-- No frame is gone without a return. -/
theorem unwind_eq (h : Mirrors l r) : r.unwind l.length = r := by
  have hall : ∀ R ∈ r.recordings, decide (R.depth ≤ l.length) = true := fun R hR =>
    decide_eq_true (h.depth_le hR)
  simp only [unwind, List.takeWhile_eq_self_iff.mpr hall, List.dropWhile_eq_nil_iff.mpr hall]
  rfl

/-- What a return does to the recorder: it finishes the recording of the returning frame, if there
is one, and nothing else. -/
theorem onReturn_eq (h : Mirrors (id :: l) r) (v : Option Value) :
    ((∀ R ∈ r.recordings, R.depth ≤ l.length) → r.onReturn id (l.length + 1) v = r) ∧
      ∀ outer R, r.recordings = outer ++ [R] → R.depth = l.length + 1 →
        r.onReturn id (l.length + 1) v =
          { r with recordings := outer }.commit (returning R v) := by
  have hunwind : r.unwind (l.length + 1) = r := h.unwind_eq
  unfold onReturn innermost?
  simp only [hunwind]
  constructor
  · intro hdepth
    cases hlast : r.recordings.getLast? with
    | none => rfl
    | some R =>
      have hle := hdepth R (List.mem_of_getLast? hlast)
      have hnot : ¬ R.isFor id (l.length + 1) = true := fun hfor => by
        have := (isFor_iff.mp hfor).2
        omega
      simp only [if_neg hnot]
  · intro outer R hsplit hdepth
    have hstands := h.stands R (by simp [hsplit])
    have hroutine : R.routine = id := by
      rcases hstands.cases_top with ⟨-, hid⟩ | ⟨hle, -⟩
      · exact hid
      · omega
    have hfor : R.isFor id (l.length + 1) = true := isFor_iff.mpr ⟨hroutine, hdepth⟩
    simp only [hsplit, List.getLast?_concat, if_pos hfor, List.dropLast_concat]

/-- If a recording is of the innermost frame, it is the last one. -/
theorem last_of_top (h : Mirrors (id :: l) r) :
    (∀ R ∈ r.recordings, R.depth ≤ l.length) ∨
      ∃ outer R, r.recordings = outer ++ [R] ∧ R.depth = l.length + 1 ∧
        ∀ S ∈ outer, S.depth ≤ l.length := by
  rcases List.eq_nil_or_concat r.recordings with hnil | ⟨outer, R, hsplit⟩
  · exact .inl (by simp [hnil])
  · rw [List.concat_eq_append] at hsplit
    have hascending := h.ascending
    rw [hsplit, List.pairwise_append] at hascending
    have hbelow : ∀ S ∈ outer, S.depth < R.depth := fun S hS => hascending.2.2 S hS R (by simp)
    have hR := h.depth_le (R := R) (by simp [hsplit])
    rw [List.length_cons] at hR
    have hle : ∀ S ∈ outer, S.depth ≤ l.length := fun S hS => by
      have := hbelow S hS
      omega
    by_cases htop : R.depth = l.length + 1
    · exact .inr ⟨outer, R, hsplit, htop, hle⟩
    · refine .inl fun S hS => ?_
      rw [hsplit] at hS
      rcases List.mem_append.mp hS with hS | hS
      · exact hle S hS
      · rw [List.mem_singleton.mp hS]
        omega

/-- A return event does to a recorder what it does past the entry point: before, there are no
recordings. -/
theorem onEvent_returned {η : Type} [Host η] {host : η} {v : Option Value}
    {answer : Except HostFailure Directive} (h : Mirrors (id :: l) r)
    (hevent : r.onEvent host (.returned id (l.length + 1) v) = .ok ⟨r', host, answer⟩) :
    r' = r.onReturn id (l.length + 1) v := by
  cases hentered : r.entered with
  | true =>
    rw [onEvent_of_entered hentered] at hevent
    exact (Reply.mk.inj (Except.ok.inj hevent)).1.symm
  | false =>
    have hnil := h.idle hentered
    rw [(h.onReturn_eq v).1 (by simp [hnil])]
    have hadmits : r.admits (.returned id (l.length + 1) v) = false := by
      simp [admits, hentered]
    rw [onEvent, hadmits] at hevent
    exact (Reply.mk.inj (Except.ok.inj hevent)).1.symm

/-- A return takes the recording of its frame away. -/
theorem returned {η : Type} [Host η] {host : η} {v : Option Value}
    {answer : Except HostFailure Directive} (h : Mirrors (id :: l) r)
    (hevent : r.onEvent host (.returned id (l.length + 1) v) = .ok ⟨r', host, answer⟩) :
    Mirrors l r' := by
  obtain ⟨hkeeps, hcommits⟩ := h.onReturn_eq v
  have hbelow : ∀ R ∈ r.recordings, R.depth ≤ l.length → StandsAt l R.depth R.routine := by
    intro R hR hle
    rcases (h.stands R hR).cases_top with ⟨htop, -⟩ | ⟨-, hstands⟩
    · omega
    · exact hstands
  rw [h.onEvent_returned hevent]
  rcases h.last_of_top with hle | ⟨outer, R, hsplit, htop, hle⟩
  · rw [hkeeps hle]
    exact ⟨h.idle, h.ascending, fun R hR => hbelow R hR (hle R hR)⟩
  · rw [hcommits outer R hsplit htop]
    have hcommit := turns_commit { r with recordings := outer } (returning R v)
    have hsub : outer.Sublist r.recordings := hsplit ▸ List.sublist_append_left outer [R]
    refine ⟨fun hnot => ?_, ?_, ?_⟩
    · rw [hcommit.entered] at hnot
      have hnil := h.idle hnot
      rw [hsplit] at hnil
      simp at hnil
    · rw [hcommit.recordings]
      exact h.ascending.sublist hsub
    · rw [hcommit.recordings]
      exact fun S hS => hbelow S (hsub.mem hS) (hle S hS)

end Mirrors

end Reprise
