import Reprise.Proofs.Contract

/-!
# Events keep to owners that are neither shared nor frozen

An open recording gets fields on two routes: from an access, and from a replayed summary, which may
have been recorded when its owners were still unshared.  On both the owners are looked at in the
host of the event, for reads and writes alike:

    every recording stays, or observes accesses of trackable owners        (recordings_of_reaction)
    every assignment to the host is to a field of a trackable owner        (host_keeps)

What holds of one event holds of all of them, whatever becomes of the flags in between.
-/

namespace Reprise

open Std

/-- The recording tracks or writes the field, and did not do so with this value before; it was not
open if there was none before. -/
def Recording.Gains (before : Option Recording) (R : Recording) (f : FieldRef) : Prop :=
  (∃ v, R.precondition.tracked[f]? = some v ∧
      ∀ B ∈ before, B.precondition.tracked[f]? ≠ some v) ∨
    ∃ w, R.effect.writes[f]? = some w ∧ ∀ B ∈ before, B.effect.writes[f]? ≠ some w

namespace Recording

theorem not_gains_ofInvocation (before : Option Recording) (i : Invocation)
    (singleThreaded : Bool) (f : FieldRef) :
    ¬ (ofInvocation i singleThreaded).Gains before f := by
  rintro (⟨v, hv, -⟩ | ⟨w, hw, -⟩)
  · simp [ofInvocation] at hv
  · simp [ofInvocation] at hw

/-- What is new was observed. -/
theorem mem_of_gains {R : Recording} {l : List Access} {f : FieldRef}
    (hgains : (R.observeAll l).Gains (some R) f) : ∃ a ∈ l, a.field = f := by
  rcases hgains with ⟨v, hv, hnew⟩ | ⟨w, hw, hnew⟩
  · rw [tracked_observeAll, Option.or_eq_some_iff] at hv
    rcases hv with hv | ⟨-, hv⟩
    · exact absurd hv (hnew R rfl)
    · split at hv
      · cases hv
      · exact ⟨_, mem_of_firstRead? hv, rfl⟩
  · rw [writes_observeAll, Option.or_eq_some_iff] at hw
    rcases hw with hw | ⟨-, hw⟩
    · exact ⟨_, mem_of_lastWrite? hw, rfl⟩
    · exact absurd hw (hnew R rfl)

end Recording

section AnyHost

variable {η : Type} [Host η]

/-- The summary reads and writes fields of trackable owners only. -/
theorem Summary.IsCurrent.trackable {s : Summary} {h : η} {returns : Option FieldType}
    (hs : s.IsCurrent h returns) {a : Access} (ha : a ∈ s.accesses) :
    Host.isUntrackable h a.field.owner = false := by
  rcases List.mem_append.mp ha with ha | ha
  · obtain ⟨⟨f, v⟩, hf, rfl⟩ := List.mem_map.mp ha
    have htracked := ExtTreeMap.mem_toList_iff_getElem?_eq_some.mp hf
    have hmem : f ∈ s.precondition.tracked :=
      ExtTreeMap.mem_iff_isSome_getElem?.mpr (by rw [htracked]; rfl)
    exact Bool.or_eq_false_iff.mpr (hs.reads f hmem).2
  · obtain ⟨⟨f, w⟩, hf, rfl⟩ := List.mem_map.mp ha
    have hwritten := ExtTreeMap.mem_toList_iff_getElem?_eq_some.mp hf
    have hmem : f ∈ s.effect.writes :=
      ExtTreeMap.mem_iff_isSome_getElem?.mpr (by rw [hwritten]; rfl)
    exact Bool.or_eq_false_iff.mpr (hs.writes f hmem)

namespace Recorder

/-! ## Recordings -/

/-- The access is one that the event tells, and not of an array. -/
def Tells (e : Event) (a : Access) : Prop :=
  ∀ access, e = .fieldRead access ∨ e = .fieldWrite access →
    a.field = access.field ∧ access.type ≠ .array

theorem trackable_of_access {h : η} {e : Event} {access : FieldAccess} {a : Access}
    (hproblem : accessProblem? h access = none)
    (he : e = .fieldRead access ∨ e = .fieldWrite access) (ha : a.field = access.field) :
    Host.isUntrackable h a.field.owner = false ∧ Tells e a := by
  obtain ⟨htype, howner⟩ := accessProblem?_eq_none_iff.mp hproblem
  refine ⟨ha ▸ howner, fun access' he' => ?_⟩
  obtain rfl : access' = access := by
    rcases he with rfl | rfl <;> rcases he' with he' | he' <;> cases he' <;> rfl
  refine ⟨ha, fun harray => ?_⟩
  rw [harray] at htype
  cases htype

/-- What an event does to the open recordings. -/
theorem recordings_of_reaction {r r' : Recorder} {h h' : η} {e : Event}
    {answer : Except HostFailure Directive} (hreaction : Reaction r h r' e h' answer) :
    r'.recordings <+: r.recordings ∨
      (∃ i singleThreaded, r'.recordings = r.recordings ++ [.ofInvocation i singleThreaded]) ∨
      ∃ l, r'.recordings = r.recordings.map (·.observeAll l) ∧
        ∀ a ∈ l, Host.isUntrackable h a.field.owner = false ∧ Tells e a := by
  cases hreaction with
  | discards _ hr => exact .inl (hr.recordings ▸ List.nil_prefix)
  | passes _ hr => exact .inl (hr.recordings ▸ List.prefix_refl _)
  | passesNative _ hr => exact .inl (hr.recordings ▸ List.prefix_refl _)
  | opens _ _ _ _ hr => exact .inr (.inl ⟨_, _, hr.recordings⟩)
  | @replays i s h' _ _ hreplayable _ _ hr =>
    have hcurrent := (isReplayable_iff h s i.returns).mp hreplayable
    simp only [Recording.absorb_eq_observeAll] at hr
    exact .inr (.inr ⟨_, hr.recordings, fun a ha => ⟨hcurrent.trackable ha, by simp [Tells]⟩⟩)
  | @refuses i s _ _ hreplayable _ hr =>
    have hcurrent := (isReplayable_iff h s i.returns).mp hreplayable
    simp only [Recording.absorb_eq_observeAll] at hr
    exact .inr (.inr ⟨_, hr.recordings, fun a ha => ⟨hcurrent.trackable ha, by simp [Tells]⟩⟩)
  | @reads access hproblem hr =>
    refine .inr (.inr ⟨[.read access.field _], hr.recordings, fun a ha => ?_⟩)
    rw [List.mem_singleton.mp ha]
    exact trackable_of_access hproblem (.inl rfl) rfl
  | @writes access w hproblem _ hr =>
    refine .inr (.inr ⟨[.write access.field w], hr.recordings, fun a ha => ?_⟩)
    rw [List.mem_singleton.mp ha]
    exact trackable_of_access hproblem (.inr rfl) rfl
  | returns _ hr => exact .inl (hr.recordings ▸ List.takeWhile_prefix _)
  | @commits routine depth value outer R hlast _ hr =>
    have hprefix : outer <+: r.shallow depth := hlast ▸ List.prefix_append outer [R]
    exact .inl (hr.recordings ▸ hprefix.trans (List.takeWhile_prefix _))

/-- An open recording is a new one, or what it was with accesses added. -/
theorem recording_of_event {r : Recorder} {h : η} {e : Event} {reply : Reply η}
    (hevent : r.onEvent h e = .ok reply) {k : Nat} {R : Recording}
    (hR : reply.recorder.recordings[k]? = some R) :
    (r.recordings[k]? = none ∧ ∃ i singleThreaded, R = .ofInvocation i singleThreaded) ∨
      ∃ B l, r.recordings[k]? = some B ∧ R = B.observeAll l ∧
        ∀ a ∈ l, Host.isUntrackable h a.field.owner = false ∧ Tells e a := by
  have hsame : r.recordings[k]? = some R → ∃ B l, r.recordings[k]? = some B ∧
      R = B.observeAll l ∧ ∀ a ∈ l, Host.isUntrackable h a.field.owner = false ∧ Tells e a :=
    fun hk => ⟨R, [], hk, rfl, fun a ha => absurd ha List.not_mem_nil⟩
  unfold onEvent at hevent
  split at hevent
  · rcases recordings_of_reaction (reaction_of_handle hevent) with
      ⟨rest, hrest⟩ | ⟨i, singleThreaded, hopened⟩ | ⟨l, hmap, hl⟩
    · refine .inr (hsame ?_)
      rw [show r.recordings = reply.recorder.recordings ++ rest from hrest.symm]
      exact List.getElem?_append_left (List.getElem?_eq_some_iff.mp hR).1 ▸ hR
    · rw [hopened] at hR
      by_cases hk : k < r.recordings.length
      · rw [List.getElem?_append_left hk] at hR
        exact .inr (hsame hR)
      · have hnew := Nat.not_lt.mp hk
        rw [List.getElem?_append_right hnew] at hR
        have hmem := List.mem_of_getElem? hR
        exact .inl ⟨List.getElem?_eq_none hnew, i, singleThreaded, List.mem_singleton.mp hmem⟩
    · rw [hmap, List.getElem?_map, Option.map_eq_some_iff] at hR
      obtain ⟨B, hB, rfl⟩ := hR
      exact .inr ⟨B, l, hB, rfl, hl⟩
  · obtain rfl := Except.ok.inj hevent
    exact .inr (hsame hR)

/-! ## The host -/

section

variable {P : η → Prop} {h : η}

theorem applyAll_keeps
    (hassign : ∀ {g g' : η} {ty f v}, P g → Host.storable ty v = true →
      Host.isUntrackable h f.owner = false → Host.assign g ty f v = .ok g' → P g')
    {l : List (FieldRef × FieldWrite)} (hl : ∀ e ∈ l, Host.isUntrackable h e.1.owner = false)
    {g : η} (hg : P g) : P (Effect.applyAll l g).host := by
  induction l generalizing g with
  | nil => exact hg
  | cons e l ih =>
    rw [Effect.applyAll]
    split
    · rename_i g' hwrite
      rw [Host.write, if_pos e.2.storable] at hwrite
      have hg' := hassign hg e.2.storable (hl e List.mem_cons_self) hwrite
      exact ih (fun e he => hl e (List.mem_cons_of_mem _ he)) hg'
    · exact hg

theorem apply_keeps
    (hassign : ∀ {g g' : η} {ty f v}, P g → Host.storable ty v = true →
      Host.isUntrackable h f.owner = false → Host.assign g ty f v = .ok g' → P g')
    {s : Summary} {returns : Option FieldType} (hs : isReplayable h s returns = true) (hP : P h) :
    P (s.effect.apply h).host := by
  refine applyAll_keeps hassign (fun e he => ?_) hP
  have hmem : Access.write e.1 e.2 ∈ s.accesses :=
    List.mem_append_right _ (List.mem_map.mpr ⟨e, he, rfl⟩)
  exact ((isReplayable_iff h s returns).mp hs).trackable hmem

/-- What is kept by assignments to fields of trackable owners, and by pushes of values in stack
form, is kept by every event, also by a replay that the host refuses halfway. -/
theorem host_keeps
    (hassign : ∀ {g g' : η} {ty f v}, P g → Host.storable ty v = true →
      Host.isUntrackable h f.owner = false → Host.assign g ty f v = .ok g' → P g')
    (hpush : ∀ {g g' : η} {v : Value}, P g → Host.push g v.widened = .ok g' → P g')
    {r : Recorder} {e : Event} {reply : Reply η} (hevent : r.onEvent h e = .ok reply) (hP : P h) :
    P reply.host := by
  unfold onEvent at hevent
  split at hevent
  · have hreaction := reaction_of_handle hevent
    obtain ⟨r', h', answer⟩ := reply
    cases hreaction with
    | replays _ _ hreplayable _ hresult =>
      have happlied := apply_keeps hassign hreplayable hP
      unfold pushResult at hresult
      split at hresult
      · unfold Host.pushReturn at hresult
        split at hresult
        · exact hpush happlied hresult
        · cases hresult
      · exact Except.ok.inj hresult ▸ happlied
    | refuses _ hreplayable => exact apply_keeps hassign hreplayable hP
    | _ => exact hP
  · obtain rfl := Except.ok.inj hevent
    exact hP

end

end Recorder

end AnyHost

/-! ## One event -/

namespace Recorder

/-- What is new in a recording after an event, and what the event changes in the host, is of owners
that are neither shared nor frozen in the host of the event; what an access adds is the accessed
field, and no array. -/
theorem event_confined {η : Type} [MapHost η] {r : Recorder} {h : η} {e : Event} {reply : Reply η}
    (hevent : r.onEvent h e = .ok reply) :
    (∀ (k : Nat) (B R : Recording), r.recordings[k]? = some B →
      reply.recorder.recordings[k]? = some R → B.SameInvocation R) ∧
    (∀ (k : Nat) (R : Recording) (f : FieldRef), reply.recorder.recordings[k]? = some R →
      R.Gains r.recordings[k]? f →
      Host.isShared h f.owner = false ∧ Host.isFrozen h f.owner = false ∧
        ∀ access, e = .fieldRead access ∨ e = .fieldWrite access →
          f = access.field ∧ access.type ≠ .array) ∧
    ∀ f : FieldRef, (MapHost.state reply.host).fields[f]? ≠ (MapHost.state h).fields[f]? →
      Host.isShared h f.owner = false ∧ Host.isFrozen h f.owner = false := by
  refine ⟨fun k B R hB hR => ?_, fun k R f hR hgains => ?_, ?_⟩
  · rcases recording_of_event hevent hR with ⟨hnone, -⟩ | ⟨B', l, hB', rfl, -⟩
    · cases hnone.symm.trans hB
    · obtain rfl : B' = B := Option.some.inj (hB'.symm.trans hB)
      exact Recording.sameInvocation_observeAll B' l
  · rcases recording_of_event hevent hR with ⟨-, i, singleThreaded, rfl⟩ | ⟨B, l, hB, rfl, hl⟩
    · exact absurd hgains (Recording.not_gains_ofInvocation _ i singleThreaded f)
    · rw [hB] at hgains
      obtain ⟨a, ha, rfl⟩ := Recording.mem_of_gains hgains
      obtain ⟨howner, htells⟩ := hl a ha
      obtain ⟨hshared, hfrozen⟩ := Bool.or_eq_false_iff.mp howner
      exact ⟨hshared, hfrozen, htells⟩
  · -- a field of another owner is never assigned
    refine host_keeps (P := fun g => ∀ f : FieldRef,
      (MapHost.state g).fields[f]? ≠ (MapHost.state h).fields[f]? →
        Host.isShared h f.owner = false ∧ Host.isFrozen h f.owner = false) ?_ ?_ hevent
      (fun f hf => absurd rfl hf)
    · intro g g' ty f v hg _ howner hassign f' hchanged
      by_cases hf : f = f'
      · subst hf
        exact Bool.or_eq_false_iff.mp howner
      · have hstate := MapHost.assign_eq g ty f v
        rw [hassign] at hstate
        split at hstate
        · rw [Except.ok.inj hstate, ExtTreeMap.getElem?_insert, if_neg (by simpa using hf)]
            at hchanged
          exact hg f' hchanged
        · cases hstate
    · intro g g' v hg hpush f' hchanged
      rw [MapHost.push_eq g g' _ hpush] at hchanged
      exact hg f' hchanged

/-- A recorder with the summary of the counter, in the middle of another invocation. -/
def nested : Recorder := withCounted.called innerCall

/-- The replay of the counter gives the recording its read, and changes it in the host. -/
theorem event_confined_nested :
    ∃ reply R, nested.onEvent (counterTable 1 7) (.call outerCall) = .ok reply ∧
      reply.recorder.recordings[0]? = some R ∧
      R.Gains nested.recordings[0]? (counterAt 1).field ∧
      (MapHost.state reply.host).fields[(counterAt 1).field]? ≠
        (MapHost.state (counterTable 1 7)).fields[(counterAt 1).field]? ∧
      Host.isShared (counterTable 1 7) (counterAt 1).field.owner = false ∧
      Host.isFrozen (counterTable 1 7) (counterAt 1).field.owner = false := by
  obtain ⟨reply, R, hevent, hR, hnew, hchanged⟩ :
      ∃ reply R, nested.onEvent (counterTable 1 7) (.call outerCall) = .ok reply ∧
        reply.recorder.recordings[0]? = some R ∧
        R.Gains nested.recordings[0]? (counterAt 1).field ∧
        (MapHost.state reply.host).fields[(counterAt 1).field]? ≠
          (MapHost.state (counterTable 1 7)).fields[(counterAt 1).field]? :=
    ⟨_, _, rfl, rfl, .inl ⟨.int 1, rfl, fun B hB => by cases hB; decide⟩, by decide⟩
  exact ⟨reply, R, hevent, hR, hnew, hchanged, (event_confined hevent).2.2 _ hchanged⟩

end Recorder

end Reprise
