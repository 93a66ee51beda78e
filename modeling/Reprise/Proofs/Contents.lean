import Reprise.Proofs.Commit
import Reprise.Proofs.Lookup

/-!
# What is kept of a recorder's contents

Much of what is true of a recorder is a property of each stored summary and one of each open
recording.  An event keeps both if the recordings that it can open have theirs, if observing and
absorbing keep it, and if a recording that has it becomes a summary that has the other
(`Event.Respects`, `Has.reaction`).
-/

namespace Reprise

namespace Recorder

/-- The summaries of every routine and the open recordings have these properties. -/
structure Has (S : RoutineId → Summary → Prop) (A : Recording → Prop) (r : Recorder) : Prop where
  stored : ∀ x, ∀ s ∈ r.store.summaries x, S x s
  active : ∀ R ∈ r.recordings, A R

end Recorder

/-- Nothing that the event does to a recorder breaks the properties. -/
structure Event.Respects (S : RoutineId → Summary → Prop) (A : Recording → Prop) (e : Event) :
    Prop where
  opens : ∀ i singleThreaded, e = .call i → i.hasArraySignature = false →
    A (.ofInvocation i singleThreaded)
  absorbs : ∀ i s R, e = .call i → S i.routine s → A R → A (R.absorb s)
  reads : ∀ access v R, e = .fieldRead access → A R → A (R.observe (.read access.field v))
  writes : ∀ access w R, e = .fieldWrite access → w.type = access.type → A R →
    A (R.observe (.write access.field w))
  returns : ∀ R v, e = .returned R.routine R.depth v → A R →
    S R.routine (Recorder.returning R v).summary

namespace Recorder

theorem type_of_check {type : FieldType} {value : Value} {w : FieldWrite}
    (hcheck : FieldWrite.check type value = .ok w) : w.type = type := by
  unfold FieldWrite.check at hcheck
  split at hcheck
  · cases hcheck
    rfl
  · split at hcheck <;> cases hcheck

namespace Has

variable {S : RoutineId → Summary → Prop} {A : Recording → Prop} {r r' : Recorder}

theorem of_turns (hr : r.Has S A) {l : List Recording} (hturns : r.Turns r' l r.store)
    (hl : ∀ R ∈ l, A R) : r'.Has S A :=
  ⟨by rw [hturns.store]; exact hr.stored, by rw [hturns.recordings]; exact hl⟩

theorem map (hr : r.Has S A) {f : Recording → Recording} (hf : ∀ R, A R → A (f R))
    (hturns : r.Turns r' (r.recordings.map f) r.store) : r'.Has S A :=
  hr.of_turns hturns (List.forall_mem_map.mpr fun R hR => hf R (hr.active R hR))

theorem shallow (hr : r.Has S A) {depth : Nat} : ∀ R ∈ r.shallow depth, A R :=
  fun R hR => hr.active R ((List.takeWhile_sublist _).subset hR)

/-- An event that respects the properties keeps them. -/
theorem reaction {η : Type} [Host η] (hr : r.Has S A) {h h' : η} {e : Event}
    {answer : Except HostFailure Directive} (hreaction : Reaction r h r' e h' answer)
    (he : e.Respects S A) : r'.Has S A := by
  cases hreaction with
  | discards _ hturns => exact hr.of_turns hturns (by simp)
  | passes _ hturns => exact hr.of_turns hturns hr.active
  | passesNative _ hturns => exact hr.of_turns hturns hr.active
  | opens _ hsignature _ _ hturns =>
    refine hr.of_turns hturns fun R hR => ?_
    rcases List.mem_append.mp hR with hR | hR
    · exact hr.active R hR
    · rw [List.mem_singleton.mp hR]
      exact he.opens _ _ rfl hsignature
  | replays _ hfind _ _ _ hturns =>
    have hs := hr.stored _ _ (Store.mem_of_firstHolding hfind)
    exact hr.map (fun R hR => he.absorbs _ _ R rfl hs hR) hturns
  | refuses hfind _ _ hturns =>
    have hs := hr.stored _ _ (Store.mem_of_firstHolding hfind)
    exact hr.map (fun R hR => he.absorbs _ _ R rfl hs hR) hturns
  | reads _ hturns => exact hr.map (fun R hR => he.reads _ _ R rfl hR) hturns
  | writes _ hcheck hturns =>
    exact hr.map (fun R hR => he.writes _ _ R rfl (type_of_check hcheck) hR) hturns
  | returns _ hturns => exact hr.of_turns hturns hr.shallow
  | @commits routine depth value outer R hlast hfor hturns =>
    have hactive : ∀ T ∈ outer ++ [R], A T := by
      rw [← hlast]
      exact hr.shallow
    obtain ⟨rfl, rfl⟩ := isFor_iff.mp hfor
    refine ⟨fun x s hs => ?_, ?_⟩
    · rw [hturns.store] at hs
      rcases mem_summaries_put hs with hs | ⟨rfl, rfl⟩
      · exact hr.stored x s hs
      · exact he.returns R value rfl (hactive R (by simp))
    · rw [hturns.recordings]
      exact fun T hT => hactive T (by simp [hT])

/-- What is answered keeps the properties, before the entry point and after it. -/
theorem event {η : Type} [Host η] (hr : r.Has S A) {h : η} {e : Event} {reply : Reply η}
    (hevent : r.onEvent h e = .ok reply) (he : e.Respects S A) : reply.recorder.Has S A := by
  unfold onEvent at hevent
  split at hevent
  · have hentered : Has S A { r with entered := true } := ⟨hr.stored, hr.active⟩
    exact hentered.reaction (reaction_of_handle hevent) he
  · obtain rfl := Except.ok.inj hevent
    exact hr

end Has

end Recorder

end Reprise
