import Reprise.Proofs.Confinement
import Reprise.Proofs.Course
import Reprise.Proofs.StackForm

/-!
# The use of a class

Four instructions use a class: reading or writing one of its static fields, allocating one of its
objects, and invoking one of its static routines.  Each of them initializes the class instead, if
that is due, and nothing else does:

    f.next p clock h = .ok (.prepare h' i) ↔ ∃ x, f.Uses p x ∧ h.prepare? p x = some (h', i)
                                                                        (next_eq_prepare_iff)

So a step changes no mark but that of the class that it uses (`Machine.marks_of_not_isUse`), and it
marks that class if it has an initializer (`Machine.marks_of_isUse`); whether the initializer can be
entered plays no part in it.
-/

namespace Reprise

/-! ## Instructions -/

/-- The class that the instruction uses. -/
def Program.usedBy? (p : Program) : Instruction → Option ClassId
  | .getStatic x _ => some x
  | .putStatic x _ => some x
  | .newObject x => some x
  | .invoke id => (p.routine? id).bind fun q => if q.kind = .static then some q.owner else none
  | _ => none

/-- Whether the instruction is carried out, and not put off for an initializer. -/
def Action.IsCarriedOut : Action → Prop
  | .prepare _ _ => False
  | _ => True

namespace Frame

variable {p : Program} {clock : Nat} {h h' : Heap} {f : Frame} {x y : ClassId} {i : RoutineId}

theorem carriedOut_readField (h : Heap) (f : Frame) (field : FieldRef) :
    Gives Action.IsCarriedOut (readField h f field) := by
  unfold readField
  split
  · exact .error
  · exact .ok trivial

theorem carriedOut_writeField (h : Heap) (f : Frame) (field : FieldRef) (v : Value) :
    Gives Action.IsCarriedOut (writeField h f field v) := by
  unfold writeField
  split
  · exact .error
  · split
    · exact .error
    · split
      · exact .error
      · exact .ok trivial

theorem carriedOut_callNative (clock : Nat) (h : Heap) (f : Frame) (name : String) (arity : Nat)
    (returns : Option FieldType) :
    Gives Action.IsCarriedOut (callNative clock h f name arity returns) := by
  unfold callNative
  split
  · exact .error
  · dsimp only
    split
    · exact .ok trivial
    · exact .ok trivial

theorem carriedOut_callRoutine (f : Frame) (id : RoutineId) (r : Routine) :
    Gives Action.IsCarriedOut (f.callRoutine id r) := by
  unfold callRoutine
  split
  · exact .error
  · split
    · split
      · exact .error
      · exact .ok trivial
    · exact .ok trivial

/-- An instruction that uses no class is carried out. -/
theorem carriedOut_act {j : Instruction} (hj : p.usedBy? j = none) (returns : Option FieldType) :
    Gives Action.IsCarriedOut (f.act p clock h returns j) := by
  cases j with
  | push => exact .ok trivial
  | load =>
    rw [act]
    split
    · exact .error
    · exact .ok trivial
  | store =>
    refine .bind_any ?_
    rintro ⟨_, f⟩
    dsimp only
    split
    · exact .ok trivial
    · exact .error
  | pop => exact .bind_any fun _ => .ok trivial
  | dup => exact .bind_any fun _ => .ok trivial
  | arithmetic =>
    refine .bind_any fun _ => .bind_any ?_
    rintro ⟨_, f⟩
    dsimp only
    split
    · exact .ok trivial
    · exact .error
  | compareEq => exact .bind_any fun _ => .bind_any fun _ => .ok trivial
  | compareLt =>
    refine .bind_any fun _ => .bind_any ?_
    rintro ⟨_, f⟩
    dsimp only
    split
    · exact .ok trivial
    · exact .error
  | jump => exact .ok trivial
  | jumpIfZero => exact .bind_any fun _ => .ok trivial
  | getField => exact .bind_any fun _ => carriedOut_readField _ _ _
  | putField => exact .bind_any fun _ => .bind_any fun _ => carriedOut_writeField _ _ _ _
  | getStatic => cases hj
  | putStatic => cases hj
  | newObject => cases hj
  | newArray =>
    refine .bind_any ?_
    rintro ⟨_, f⟩
    dsimp only
    split
    · exact .error
    · exact .ok trivial
  | arrayLoad =>
    exact .bind_any fun _ => .bind_any fun _ => .bind_any fun _ => .ok trivial
  | arrayStore =>
    exact .bind_any fun _ => .bind_any fun _ => .bind_any fun _ => .bind_any fun _ => .ok trivial
  | invoke id =>
    rw [act]
    rw [Program.usedBy?] at hj
    split
    · exact .error
    · rename_i q hq
      rw [hq, Option.bind_some] at hj
      split
      · rename_i hkind
        rw [if_pos hkind] at hj
        cases hj
      · exact carriedOut_callRoutine _ _ _
  | invokeNative => exact carriedOut_callNative _ _ _ _ _ _
  | monitorEnter => exact .bind_any fun _ => .ok trivial
  | monitorExit => exact .bind_any fun _ => .ok trivial
  | throwTop => exact .bind_any fun _ => .ok trivial
  | leave =>
    cases returns with
    | none => exact .ok trivial
    | some ty =>
      refine .bind_any ?_
      rintro ⟨_, f⟩
      dsimp only
      split
      · exact .ok trivial
      · exact .error

/-- An instruction that uses a class is carried out when the class is ready. -/
theorem act_of_usedBy {j : Instruction} (hj : p.usedBy? j = some x) (clock : Nat) (h : Heap)
    (f : Frame) (returns : Option FieldType) :
    ∃ k, Gives Action.IsCarriedOut k ∧
      f.act p clock h returns j = afterPreparing p h x k := by
  cases j with
  | getStatic =>
    obtain rfl := Option.some.inj hj
    exact ⟨_, carriedOut_readField _ _ _, rfl⟩
  | putStatic =>
    obtain rfl := Option.some.inj hj
    exact ⟨_, .bind_any fun _ => carriedOut_writeField _ _ _ _, rfl⟩
  | newObject =>
    obtain rfl := Option.some.inj hj
    refine ⟨_, ?_, rfl⟩
    split
    · exact .error
    · exact .ok trivial
  | invoke id =>
    rw [Program.usedBy?] at hj
    obtain ⟨q, hq, hstatic⟩ := Option.bind_eq_some_iff.mp hj
    split at hstatic
    · rename_i hkind
      obtain rfl := Option.some.inj hstatic
      refine ⟨_, carriedOut_callRoutine f id q, ?_⟩
      rw [act]
      simp only [hq, if_pos hkind]
    · cases hstatic
  | _ => cases hj

/-- The next instruction of the frame uses the class. -/
def Uses (p : Program) (f : Frame) (x : ClassId) : Prop :=
  ∃ q j, p.routine? f.routine = some q ∧ q.code[f.pc]? = some j ∧ p.usedBy? j = some x

theorem Uses.unique (hx : f.Uses p x) (hy : f.Uses p y) : x = y := by
  obtain ⟨q, j, hq, hj, hx⟩ := hx
  obtain ⟨q', j', hq', hj', hy⟩ := hy
  cases hq.symm.trans hq'
  cases hj.symm.trans hj'
  exact Option.some.inj (hx.symm.trans hy)

/-- What a frame does next is put off exactly if it uses a class whose initializer is due. -/
theorem next_eq_prepare_iff :
    f.next p clock h = .ok (.prepare h' i) ↔
      ∃ x, f.Uses p x ∧ h.prepare? p x = some (h', i) := by
  unfold Frame.next Uses
  constructor
  · intro hnext
    split at hnext
    · cases hnext
    · rename_i q hq
      split at hnext
      · cases hnext
      · rename_i j hj
        cases hused : p.usedBy? j with
        | none => exact (carriedOut_act hused _ _ hnext).elim
        | some x =>
          obtain ⟨k, hk, hact⟩ := act_of_usedBy hused clock h f q.returns
          rw [hact, afterPreparing] at hnext
          split at hnext
          · rename_i hprepare
            cases hnext
            exact ⟨x, ⟨q, j, hq, hj, hused⟩, hprepare⟩
          · exact (hk _ hnext).elim
  · rintro ⟨x, ⟨q, j, hq, hj, hused⟩, hprepare⟩
    obtain ⟨k, -, hact⟩ := act_of_usedBy hused clock h f q.returns
    simp only [hq, hj, hact, afterPreparing, hprepare]

end Frame

/-! ## Marks -/

/-- The initializer of a class is due if the class has one and is not marked. -/
theorem Heap.prepare?_of_unmarked {h : Heap} {p : Program} {x : ClassId} {c : ClassDef}
    {i : RoutineId} (hc : p.class? x = some c) (hi : c.initializer = some i)
    (hx : h.marks x = some false) : ∃ h', h.prepare? p x = some (h', i) := by
  obtain ⟨state, hstate, hunmarked⟩ := Option.map_eq_some_iff.mp hx
  simp [prepare?, hc, hi, markInitialized?, hstate, hunmarked]

/-- No initializer is due for a class that is marked. -/
theorem Heap.prepare?_of_marked {h : Heap} {x : ClassId} (hx : h.marks x = some true)
    (p : Program) : h.prepare? p x = none := by
  cases hprepare : h.prepare? p x with
  | none => rfl
  | some prepared =>
    obtain ⟨hunmarked, -⟩ := marks_mark (prepare?_eq_some hprepare).2
    cases hx.symm.trans hunmarked

namespace Machine

variable {m m₁ : Machine} {id i : RoutineId} {callee c : Option ObjectId} {args a : List Value}
  {x : ClassId}

/-- The next instruction of the innermost frame uses the class. -/
def IsUse (m : Machine) (x : ClassId) : Prop :=
  ∃ f fs, m.frames = f :: fs ∧ f.Uses m.program x

/-- What a step does to the marks: nothing, or it marks the class that it uses. -/
def MarksOnUse (m : Machine) (marks : ClassId → Option Bool) : Prop :=
  marks = m.heap.marks ∨ ∃ x, m.IsUse x ∧
    ∀ y, marks y = if y = x then some true else m.heap.marks y

/-- A replay writes fields and marks no class. -/
theorem marks_of_event {r : Recorder} {h : Heap} {stack : List Value} {e : Event}
    {reply : Reply FrameView} (hevent : r.onEvent (FrameView.mk h stack) e = .ok reply) :
    reply.host.heap.marks = h.marks := by
  refine Recorder.host_keeps (P := fun g : FrameView => g.heap.marks = h.marks) ?_ ?_ hevent rfl
  · rintro g g' ty f v hg - - hassign
    change (g.heap.store f v).map _ = _ at hassign
    cases hstore : g.heap.store f v with
    | error failure =>
      rw [hstore] at hassign
      cases hassign
    | ok h' =>
      rw [hstore] at hassign
      obtain rfl := Except.ok.inj hassign
      exact (Heap.marks_store hstore).trans hg
  · intro g g' v hg hpush
    obtain rfl := Except.ok.inj hpush
    exact hg

theorem Entered.marks_eq {o : Outcome Unit} (hentered : m.Entered i c a o) :
    o.machine.heap.marks = m.heap.marks := by
  cases hentered with
  | refused => rfl
  | unwatched => rfl
  | lost => rfl
  | stops _ _ hevent => exact marks_of_event hevent
  | executes => rfl
  | skips _ _ hevent => exact marks_of_event hevent

theorem Calls.marks (hcalls : m.Calls m₁ i c a) : m.MarksOnUse m₁.heap.marks := by
  cases hcalls with
  | prepares hframes hnext =>
    obtain ⟨x, huses, hprepare⟩ := Frame.next_eq_prepare_iff.mp hnext
    have hmarked := (Heap.marks_mark (Heap.prepare?_eq_some hprepare).2).2
    exact .inr ⟨x, ⟨_, _, hframes, huses⟩, hmarked⟩
  | calls => exact .inl rfl

theorem Executed.marks {o : Outcome Flow} (hexecuted : m.Executed o) :
    m.MarksOnUse o.machine.heap.marks := by
  cases hexecuted with
  | stuck => exact .inl rfl
  | unheard _ hnext => exact .inl (deed_of_next hnext).marks
  | heard _ hnext => exact .inl (deed_of_next hnext).marks
  | fails => exact .inl rfl
  | @enters m₁ i c a hcalls =>
    rw [show (Outcome.goesOn (m₁.enter i c a)).machine.heap.marks = m₁.heap.marks from
      (m₁.entered_enter i c a).marks_eq]
    exact hcalls.marks
  | leaves => exact .inl rfl

theorem heap_deliver (m : Machine) (v : Option Value) : (m.deliver v).heap = m.heap := by
  unfold deliver
  split <;> rfl

/-- A property of the mark of a class that marking the class does not take away is kept by whatever
a machine does. -/
theorem kept_mark {P : Option Bool → Prop} (hP : ∀ b, P b → P (some true)) (x : ClassId) :
    Kept fun m => P (m.heap.marks x) := by
  have honUse : ∀ {m : Machine} {marks : ClassId → Option Bool}, m.MarksOnUse marks →
      P (m.heap.marks x) → P (marks x) := by
    rintro m marks (rfl | ⟨y, -, hmarked⟩) hm
    · exact hm
    · rw [hmarked]
      split
      · exact hP _ hm
      · exact hm
  exact {
    clocked := id
    prepared := fun hprepare hm => by
      rw [(Heap.marks_mark (Heap.prepare?_eq_some hprepare).2).2]
      split
      · exact hP _ hm
      · exact hm
    calls := fun hcalls hm => honUse hcalls.marks hm
    entered := fun hentered hm => by rwa [hentered.marks_eq]
    executed := fun hexecuted hm => honUse hexecuted.marks hm
    delivered := fun {m v} hm => by rwa [m.heap_deliver v] }

/-- A class that is marked stays so. -/
theorem kept_marked (x : ClassId) : Kept fun m => m.heap.marks x = some true :=
  kept_mark (P := (· = some true)) (fun _ _ => rfl) x

/-- A step puts off an instruction that uses a class whose initializer is due, to enter the
initializer first. -/
theorem step_of_isUse {h : Heap} (huse : m.IsUse x)
    (hprepare : m.heap.prepare? m.program x = some (h, i)) :
    m.Calls { m with heap := h } i none [] ∧
      m.step = Outcome.goesOn ({ m with heap := h }.enter i none []) := by
  obtain ⟨f, fs, hframes, huses⟩ := huse
  have hnext : f.next m.program m.executed m.heap = .ok (.prepare h i) :=
    Frame.next_eq_prepare_iff.mpr ⟨x, huses, hprepare⟩
  exact ⟨.prepares hframes hnext, step_eq_perform hframes hnext⟩

/-- A step that does not use a class does not change its mark. -/
theorem marks_of_not_isUse (hno : ¬ m.IsUse x) : m.step.machine.heap.marks x = m.heap.marks x := by
  rcases m.executed_step.marks with hsame | ⟨y, huse, hmarked⟩
  · rw [hsame]
  · have hne : x ≠ y := by
      rintro rfl
      exact hno huse
    rw [hmarked, if_neg hne]

/-- A step that uses a class with an initializer marks it. -/
theorem marks_of_isUse {d : ClassDef} (hd : m.program.class? x = some d)
    (hi : d.initializer = some i) (hx : m.heap.marks x ≠ none) (huse : m.IsUse x) :
    m.step.machine.heap.marks x = some true := by
  cases hmark : m.heap.marks x with
  | none => exact absurd hmark hx
  | some b =>
    cases b with
    | true => exact (kept_marked x).executed m.executed_step hmark
    | false =>
      obtain ⟨h, hprepare⟩ := Heap.prepare?_of_unmarked hd hi hmark
      have hmarked := (Heap.marks_mark (Heap.prepare?_eq_some hprepare).2).2 x
      rw [(step_of_isUse huse hprepare).2]
      change (enter { m with heap := h } i none []).machine.heap.marks x = some true
      rw [(entered_enter { m with heap := h } i none []).marks_eq, hmarked, if_pos rfl]

end Machine

end Reprise
