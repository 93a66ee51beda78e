import Reprise.Proofs.Running

/-!
# What an instruction can fail with

Two failures have to do with a recorder: it could not take an event, and the routine of a replayed
call has no return.  Three more come from outside of the program: the two limits, and the watchdog.
No instruction fails with one of these by itself (`actsAlone_next`), at once or after it has told
the recorder something, and a call is refused with none of these but the limit of the frames
(`failure_of_entry`).
-/

namespace Reprise

/-- The failure is one that a machine without a recorder can have. -/
def ExecutionFailure.isOwn : ExecutionFailure → Bool
  | .recorder _ => false
  | .noReturnInstruction _ => false
  | _ => true

/-- The failure is one that an instruction has by itself: no recorder, no limit and no watchdog has
to do with it. -/
def ExecutionFailure.isPlain : ExecutionFailure → Bool
  | .recorder _ => false
  | .noReturnInstruction _ => false
  | .callDepthExceeded _ => false
  | .instructionLimitExceeded _ => false
  | .stoppedByWatchdog => false
  | _ => true

theorem ExecutionFailure.isOwn_of_isPlain {e : ExecutionFailure} (he : e.isPlain = true) :
    e.isOwn = true := by
  cases e <;> first | rfl | cases he

/-- What is computed fails by itself only. -/
def FailsAlone {α : Type} (x : Except ExecutionFailure α) : Prop :=
  ∀ e, x = .error e → e.isPlain = true

/-- An action leads only to a failure that the instruction has by itself. -/
def ActsAlone : Except ExecutionFailure Action → Prop
  | .error e => e.isPlain = true
  | .ok (.failAfter _ failure) => failure.isPlain = true
  | .ok _ => True

theorem actsAlone_bind {α : Type} {x : Except ExecutionFailure α}
    {k : α → Except ExecutionFailure Action} (hx : FailsAlone x) (hk : ∀ v, ActsAlone (k v)) :
    ActsAlone (x >>= k) := by
  cases x with
  | error e => exact hx e rfl
  | ok v => exact hk v

theorem failsAlone_element (h : Heap) (array : ObjectId) (index : Int32) :
    FailsAlone (h.element array index) := by
  intro e he
  unfold Heap.element at he
  split at he
  · cases he
    rfl
  · split at he
    · cases he
      rfl
    · split at he <;> cases he
      rfl

namespace Frame

/-! ## Operands -/

theorem failsAlone_pop (f : Frame) : FailsAlone f.pop := by
  intro e he
  unfold pop at he
  split at he <;> cases he
  rfl

theorem failsAlone_popInt (f : Frame) : FailsAlone f.popInt := by
  intro e he
  unfold popInt at he
  split at he
  · rename_i hpop
    cases he
    exact f.failsAlone_pop _ hpop
  · cases he
  · cases he
    rfl

theorem failsAlone_popObject (f : Frame) : FailsAlone f.popObject := by
  intro e he
  unfold popObject at he
  split at he
  · rename_i hpop
    cases he
    exact f.failsAlone_pop _ hpop
  · split at he <;> cases he
    rfl

theorem failsAlone_popMany (f : Frame) (count : Nat) : FailsAlone (f.popMany count) := by
  intro e he
  unfold popMany at he
  split at he <;> cases he
  rfl

/-! ## Instructions -/

theorem actsAlone_readField (h : Heap) (f : Frame) (field : FieldRef) :
    ActsAlone (readField h f field) := by
  unfold readField
  split
  · rfl
  · trivial

theorem actsAlone_writeField (h : Heap) (f : Frame) (field : FieldRef) (v : Value) :
    ActsAlone (writeField h f field v) := by
  unfold writeField
  split
  · rfl
  · split
    · rfl
    · split
      · rfl
      · trivial

theorem actsAlone_callNative (clock : Nat) (h : Heap) (f : Frame) (name : String) (arity : Nat)
    (returns : Option FieldType) : ActsAlone (callNative clock h f name arity returns) := by
  unfold callNative
  split
  · rename_i hpop
    exact f.failsAlone_popMany arity _ hpop
  · split
    · rfl
    · trivial

theorem actsAlone_callRoutine (f : Frame) (id : RoutineId) (r : Routine) :
    ActsAlone (f.callRoutine id r) := by
  unfold callRoutine
  split
  · rename_i hpop
    exact f.failsAlone_popMany _ _ hpop
  · split
    · split
      · rename_i hpop
        exact failsAlone_popObject _ _ hpop
      · trivial
    · trivial

theorem actsAlone_afterPreparing {p : Program} {h : Heap} {id : ClassId}
    {k : Except ExecutionFailure Action} (hk : ActsAlone k) :
    ActsAlone (afterPreparing p h id k) := by
  unfold afterPreparing
  split
  · trivial
  · exact hk

theorem actsAlone_act (p : Program) (clock : Nat) (h : Heap) (f : Frame)
    (returns : Option FieldType) (i : Instruction) : ActsAlone (f.act p clock h returns i) := by
  cases i with
  | push => trivial
  | load =>
    rw [act]
    split
    · rfl
    · trivial
  | store =>
    refine actsAlone_bind f.failsAlone_pop ?_
    rintro ⟨_, f⟩
    dsimp only
    split
    · trivial
    · rfl
  | pop => exact actsAlone_bind f.failsAlone_pop fun _ => trivial
  | dup => exact actsAlone_bind f.failsAlone_pop fun _ => trivial
  | arithmetic =>
    refine actsAlone_bind f.failsAlone_pop ?_
    rintro ⟨_, f⟩
    refine actsAlone_bind f.failsAlone_pop ?_
    rintro ⟨_, f⟩
    dsimp only
    split
    · trivial
    · rfl
  | compareEq =>
    refine actsAlone_bind f.failsAlone_pop ?_
    rintro ⟨_, f⟩
    exact actsAlone_bind f.failsAlone_pop fun _ => trivial
  | compareLt =>
    refine actsAlone_bind f.failsAlone_pop ?_
    rintro ⟨_, f⟩
    refine actsAlone_bind f.failsAlone_pop ?_
    rintro ⟨_, f⟩
    dsimp only
    split
    · trivial
    · rfl
  | jump => trivial
  | jumpIfZero => exact actsAlone_bind f.failsAlone_pop fun _ => trivial
  | getField =>
    exact actsAlone_bind f.failsAlone_popObject fun _ => actsAlone_readField _ _ _
  | putField =>
    refine actsAlone_bind f.failsAlone_pop ?_
    rintro ⟨_, f⟩
    exact actsAlone_bind f.failsAlone_popObject fun _ => actsAlone_writeField _ _ _ _
  | getStatic => exact actsAlone_afterPreparing (actsAlone_readField _ _ _)
  | putStatic =>
    exact actsAlone_afterPreparing
      (actsAlone_bind f.failsAlone_pop fun _ => actsAlone_writeField _ _ _ _)
  | newObject =>
    refine actsAlone_afterPreparing ?_
    split
    · rfl
    · trivial
  | newArray =>
    refine actsAlone_bind f.failsAlone_popInt ?_
    rintro ⟨_, f⟩
    dsimp only
    split
    · rfl
    · trivial
  | arrayLoad =>
    refine actsAlone_bind f.failsAlone_popInt ?_
    rintro ⟨_, f⟩
    refine actsAlone_bind f.failsAlone_popObject fun _ => ?_
    exact actsAlone_bind (failsAlone_element _ _ _) fun _ => trivial
  | arrayStore =>
    refine actsAlone_bind f.failsAlone_pop ?_
    rintro ⟨_, f⟩
    refine actsAlone_bind f.failsAlone_popInt ?_
    rintro ⟨_, f⟩
    refine actsAlone_bind f.failsAlone_popObject fun _ => ?_
    exact actsAlone_bind (failsAlone_element _ _ _) fun _ => trivial
  | invoke =>
    rw [act]
    split
    · rfl
    · split
      · exact actsAlone_afterPreparing (f.actsAlone_callRoutine _ _)
      · exact f.actsAlone_callRoutine _ _
  | invokeNative => exact actsAlone_callNative _ _ _ _ _ _
  | monitorEnter => exact actsAlone_bind f.failsAlone_popObject fun _ => trivial
  | monitorExit => exact actsAlone_bind f.failsAlone_popObject fun _ => trivial
  | throwTop => exact actsAlone_bind f.failsAlone_pop fun _ => rfl
  | leave =>
    cases returns with
    | none => trivial
    | some ty =>
      refine actsAlone_bind f.failsAlone_pop ?_
      rintro ⟨_, f⟩
      dsimp only
      split
      · trivial
      · rfl

end Frame

/-- No instruction fails with what has to do with a recorder, with a limit or with the watchdog. -/
theorem actsAlone_next (p : Program) (clock : Nat) (f : Frame) (h : Heap) :
    ActsAlone (f.next p clock h) := by
  unfold Frame.next
  split
  · rfl
  · split
    · rfl
    · exact f.actsAlone_act p clock h _ _

/-! ## Entering -/

namespace Machine

theorem failsAlone_receiver (id : RoutineId) (q : Routine) (callee : Option ObjectId) :
    FailsAlone (receiver id q callee) := by
  intro e he
  unfold receiver at he
  split at he
  · split at he <;> cases he
    rfl
  · cases he

theorem failsAlone_narrowArgs (args : List Value) (types : List FieldType) :
    FailsAlone (narrowArgs args types) := by
  induction args generalizing types with
  | nil =>
    intro e he
    cases he
  | cons v args ih =>
    intro e he
    cases types with
    | nil => cases he
    | cons ty types =>
      rw [narrowArgs] at he
      split at he
      · cases he
        rfl
      · rename_i hargs
        cases he
        exact ih types _ hargs
      · cases he

/-- A call is refused for the limit of the frames, or for a reason of its own. -/
theorem failure_of_entry {p : Program} {config : MachineConfig} {fs : List Frame} {id : RoutineId}
    {callee : Option ObjectId} {args : List Value} {e : Located}
    (hentry : entry p config fs id callee args = .error e) :
    e.failure = .callDepthExceeded config.maximumCallDepth ∨ e.failure.isPlain = true := by
  unfold entry at hentry
  split at hentry
  · cases hentry
    exact .inr rfl
  · rename_i q _
    split at hentry
    · cases hentry
      exact .inl rfl
    · split at hentry
      · rename_i failure haccepts
        cases hentry
        unfold Routine.accepts at haccepts
        split at haccepts
        · cases haccepts
          exact .inr rfl
        · split at haccepts
          · rename_i hreceiver
            cases haccepts
            exact .inr (failsAlone_receiver id q callee _ hreceiver)
          · split at haccepts
            · rename_i hargs
              cases haccepts
              exact .inr (failsAlone_narrowArgs args q.params _ hargs)
            · cases haccepts
      · cases hentry

/-- A call is refused for a reason that has nothing to do with a recorder. -/
theorem isOwn_of_entry {p : Program} {config : MachineConfig} {fs : List Frame} {id : RoutineId}
    {callee : Option ObjectId} {args : List Value} {e : Located}
    (hentry : entry p config fs id callee args = .error e) : e.failure.isOwn = true := by
  rcases failure_of_entry hentry with hdepth | hplain
  · rw [hdepth]
    rfl
  · exact ExecutionFailure.isOwn_of_isPlain hplain

end Machine

end Reprise
