import Reprise.Proofs.Unfailing

/-!
# No defect arises under a machine

A recorder relies on what it is told: a routine is called either always with a callee or never, and
what is written to a field conforms to the type of the field and is no array.  A `Defect` says that
one of these was broken.  `Takes r h e` says that none arises when `r` is told `e`, not even in a
comparison or a check that the lookup or the access would not come to.  What a replay absorbs and
writes was checked when it was recorded and carries the proof with it (`FieldWrite.storable`).

Stored summaries are viable, so they have a callee exactly if their routine has a receiver; a
machine enters a routine only with the receiver that it needs, and writes only what it has narrowed
to the type of the field.  So a machine never runs into a defect, whatever the program is
(`defects_never_arise`).
-/

namespace Reprise

open Recorder

/-! ## Single events -/

namespace Recorder

/-- The recorder takes the event without a defect.  A call can be compared with every summary of its
routine, in whatever host; an access that can be tracked is of a value that can be written. -/
structure Takes {η : Type} [Host η] (r : Recorder) (h : η) (e : Event) : Prop where
  handled : ∃ reply, r.onEvent h e = .ok reply
  compared : ∀ i, e = .call i → ∀ s ∈ r.store.summaries i.routine,
    ∀ {κ : Type} [Host κ] (k : κ) (args : List Value) (singleThreaded : Bool),
      ∃ holds, s.precondition.holdsIn k i.callee args singleThreaded = .ok holds
  checked : ∀ access, e = .fieldWrite access → accessProblem? h access = none →
    ∃ w, FieldWrite.check access.type (access.value.narrowedOrSelf access.type) = .ok w

/-- What is no call is taken if it is observable. -/
theorem takes_of_isObservable {η : Type} [Host η] (r : Recorder) (h : η) {e : Event}
    (he : e.IsObservable) : r.Takes h e where
  handled := by
    obtain ⟨r', hevent, -⟩ := r.observes he h
    exact ⟨_, hevent⟩
  compared := by
    rintro i rfl
    cases he
  checked := by
    rintro access rfl hproblem
    obtain ⟨w, hcheck, -⟩ := check_eq_ok hproblem he
    exact ⟨w, hcheck⟩

/-- The call of a routine with the receiver that it needs is taken. -/
theorem IsViable.takes {p : Program} {h : Heap} {r : Recorder} (hr : r.IsViable p h) {q : Routine}
    {id : RoutineId} (hq : p.routine? id = some q) {callee : Option ObjectId}
    (hcallee : callee.isSome = q.hasReceiver) (args : List Value) (depth : Nat) :
    r.Takes (FrameView.mk h []) (.call (q.invocation id callee args depth)) where
  handled := by
    obtain ⟨_, _, _, _, hevent, -⟩ := hr.called hq hcallee args depth
    exact ⟨_, hevent⟩
  compared := by
    intro i hi s hs κ _ k args threads
    obtain rfl := Event.call.inj hi
    have hviable : s.Viable p q id h := Store.IsViable.of_mem hr.stored hq hs
    exact ⟨_, Precondition.holdsIn_eq_ok k (hviable.callee.trans hcallee.symm) args threads⟩
  checked := fun access haccess => by cases haccess

end Recorder

/-! ## Machines -/

namespace Machine

/-- What the machine tells with an instruction other than a call is observable. -/
theorem Tells.observable {m : Machine} {host : FrameView} {e : Event} (htells : m.Tells host e) :
    e.IsObservable := by
  cases htells with
  | proceeds _ hnext => exact (deed_of_next hnext).observable
  | fails _ hnext => exact (deed_of_next hnext).observable_failing
  | returns => trivial

/-- A routine is entered only with the receiver that it needs. -/
theorem IsViable.takes {p : Program} {m : Machine} (hm : m.IsViable p) {i : RoutineId}
    {c c' : Option ObjectId} {a a' : List Value} {q : Routine}
    (hentry : entry m.program m.config m.frames i c a = .ok (q, c', a')) {r : Recorder}
    (hr : m.recorder = some r) : r.Takes (FrameView.mk m.heap []) (m.callOf i q c' a') := by
  obtain ⟨hq, haccepts⟩ := accepts_of_entry hentry
  rw [hm.program] at hq
  exact (hm.held r hr).takes hq (isSome_of_accepts haccepts) a' _

/-! ## Top theorem -/

/-- Whatever the program, the configurations and the watchdog are, and whatever was done with the
machine before: its recorder takes every event of an invocation without a defect, those of
instructions as well as the calls, and the invocation does not stop with one. -/
theorem defects_never_arise (p : Program) (config : MachineConfig) (w : Watchdog)
    (settings : RecorderConfig) (blocked : String → Bool) (runId : RunId)
    (earlier commands : List Command) (id : RoutineId) (callee : Option ObjectId)
    (args : List Value) :
    let m := (((Machine.new p config w).obeyAll earlier).withRecorder
      (.start settings blocked runId)).obeyAll commands
    (∀ s m₁ host e, m.Visits id callee args s → s.Executes m₁ → m₁.Tells host e →
      ∃ r, m₁.recorder = some r ∧ r.Takes host e) ∧
    (∀ m₁ i c a q c' a', m.Enters id callee args m₁ i c a →
      entry m₁.program m₁.config m₁.frames i c a = .ok (q, c', a') →
      ∃ r, m₁.recorder = some r ∧ r.Takes (FrameView.mk m₁.heap []) (m₁.callOf i q c' a')) ∧
    ∀ e, (m.invoke id callee args).result = .error e →
      ∀ message, e.failure ≠ .recorder message := by
  intro m
  have hearlier : ((Machine.new p config w).obeyAll earlier).IsViable p :=
    (lasts_isViable p).obeyAll ⟨rfl, by simp [Machine.new]⟩ earlier
  have hstarted : (((Machine.new p config w).obeyAll earlier).withRecorder
      (.start settings blocked runId)).IsViable p :=
    .of_some hearlier.program rfl (.of_empty rfl rfl)
  have hm : m.IsViable p := (lasts_isViable p).obeyAll hstarted commands
  have hwatched : m.recorder.isSome = true := lasts_watched.obeyAll rfl commands
  refine ⟨fun s m₁ host e hvisits hexecutes htells => ?_,
    fun m₁ i c a q c' a' henters hentry => ?_, fun e he message hmessage => ?_⟩
  · have hwatched₁ := lasts_watched.executes (lasts_watched.visits hwatched hvisits) hexecutes
    obtain ⟨r, hr⟩ := Option.isSome_iff_exists.mp hwatched₁
    exact ⟨r, hr, r.takes_of_isObservable host htells.observable⟩
  · obtain ⟨r, hr⟩ := Option.isSome_iff_exists.mp (lasts_watched.enters hwatched henters)
    exact ⟨r, hr, ((lasts_isViable p).enters hm henters).takes hentry hr⟩
  · have hown := hm.isOwnOutcome_invoke id callee args e he
    rw [hmessage] at hown
    cases hown

/-- Counting up again is compared with the summary of the first time. -/
theorem defects_never_arise_countedOnce :
    ∃ r s q, countedOnce.recorder = some r ∧ r.store.summaries ⟨0⟩ = [s] ∧
      r.Takes (FrameView.mk countedOnce.heap []) (countedOnce.callOf ⟨0⟩ q (some ⟨0⟩) []) ∧
      ∃ holds, s.precondition.holdsIn table (some ⟨0⟩) [] true = .ok holds := by
  have hnone := defects_never_arise counter {} .never {} (fun _ => false) ⟨0⟩ []
    [.allocate ⟨0⟩, .invoke ⟨0⟩ (some ⟨0⟩) [], .store ⟨.object ⟨0⟩, "n"⟩ (.int 0)] ⟨0⟩ (some ⟨0⟩) []
  rw [← countedOnce] at hnone
  obtain ⟨q, hentry⟩ : ∃ q, entry countedOnce.program countedOnce.config countedOnce.frames ⟨0⟩
      (some ⟨0⟩) [] = .ok (q, some ⟨0⟩, []) := ⟨_, rfl⟩
  obtain ⟨r, hr, htakes⟩ :=
    hnone.2.1 countedOnce ⟨0⟩ (some ⟨0⟩) [] q (some ⟨0⟩) [] (.begins (.routine rfl rfl)) hentry
  have hone : (countedOnce.recorder.map fun r => (r.store.summaries ⟨0⟩).length) = some 1 := by
    decide +kernel
  rw [hr, Option.map_some, Option.some.injEq] at hone
  obtain ⟨s, hs⟩ := List.length_eq_one_iff.mp hone
  exact ⟨r, s, q, hr, hs, htakes,
    htakes.compared _ rfl s (by exact hs ▸ List.mem_singleton_self s) table [] true⟩

end Machine

end Reprise
