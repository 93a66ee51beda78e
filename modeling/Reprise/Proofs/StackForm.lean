import Reprise.Proofs.Layout
import Reprise.Proofs.Moves

/-!
# Instructions keep values in stack form

Values in local slots and on operand stacks are in stack form, so that comparisons and jumps need
not look at how wide the location was that a value came from.  Whatever an instruction pushes is
widened before, computed from values in stack form, or moved within the frame; and what it does to
the heap keeps the layout or adds an object:

    f.IsWide → f.next p clock h = .ok a → a.IsSound p h                               (sound_next)
-/

namespace Reprise

/-! ## Stack form -/

namespace Value

/-- Whether values of the kind are only in fields, elements and arguments. -/
def isNarrow : Value → Bool
  | .short _ => true
  | .byte _ => true
  | .char _ => true
  | .bool _ => true
  | _ => false

/-- The value is in stack form: widening leaves it alone, and it is not narrow. -/
structure IsWide (v : Value) : Prop where
  widened : v.widened = v
  wide : v.isNarrow = false

theorem isWide_widened (v : Value) : v.widened.IsWide :=
  ⟨v.widened_widened, by cases v <;> rfl⟩

theorem isWide_onValues? {op : Arithmetic} {v w u : Value} (hu : op.onValues? v w = some u) :
    u.IsWide := by
  unfold Arithmetic.onValues? at hu
  split at hu
  case h_5 =>
    split at hu
    · cases hu
      exact ⟨rfl, rfl⟩
    · cases hu
  case h_6 => cases hu
  all_goals
    cases hu
    exact ⟨rfl, rfl⟩

end Value

/-- All values of the frame are in stack form. -/
structure Frame.IsWide (f : Frame) : Prop where
  locals : ∀ v ∈ f.locals, v.IsWide
  stack : ∀ v ∈ f.stack, v.IsWide

/-- If the computation succeeds, its result has the property. -/
def Gives {α : Type} (P : α → Prop) (x : Except ExecutionFailure α) : Prop :=
  ∀ a, x = .ok a → P a

namespace Gives

variable {α β : Type} {P : α → Prop} {Q : β → Prop}

theorem ok {a : α} (ha : P a) : Gives P (.ok a) := fun _ h => Except.ok.inj h ▸ ha

theorem error {e : ExecutionFailure} : Gives P (.error e) := fun _ h => by cases h

theorem bind {x : Except ExecutionFailure α} {k : α → Except ExecutionFailure β}
    (hx : Gives P x) (hk : ∀ a, P a → Gives Q (k a)) : Gives Q (x >>= k) := by
  intro b hb
  obtain ⟨a, ha, hb⟩ := bind_eq_ok hb
  exact hk a (hx a ha) b hb

/-- It does not matter what is computed first. -/
theorem bind_any {x : Except ExecutionFailure α} {k : α → Except ExecutionFailure β}
    (hk : ∀ a, Gives Q (k a)) : Gives Q (x >>= k) :=
  bind (P := fun _ => True) (fun _ _ => trivial) fun a _ => hk a

end Gives

/-! ## Instructions -/

/-- What the action does to the frame leaves it in stack form, and what it does to the heap lays it
out. -/
def Action.IsSound (p : Program) (h : Heap) : Action → Prop
  | .proceed h' f _ _ => f.IsWide ∧ p.Lays h h'
  | .failAfter _ _ => True
  | .prepare h' _ => h.SameLayout h'
  | .call f _ _ _ => f.IsWide
  | .finish f _ => f.IsWide

namespace Frame

variable {f : Frame}

namespace IsWide

theorem push (hf : f.IsWide) {v : Value} (hv : v.IsWide) : (f.push v).IsWide :=
  ⟨hf.locals, List.forall_mem_cons.mpr ⟨hv, hf.stack⟩⟩

theorem advance (hf : f.IsWide) : f.advance.IsWide := ⟨hf.locals, hf.stack⟩

theorem goto (hf : f.IsWide) (target : Nat) : (f.goto target).IsWide := ⟨hf.locals, hf.stack⟩

/-! ### Operands -/

theorem pop (hf : f.IsWide) : Gives (fun (v, g) => v.IsWide ∧ g.IsWide) f.pop := by
  unfold Frame.pop
  split
  · exact .error
  · rename_i v rest hstack
    have hwide := hf.stack
    rw [hstack] at hwide
    obtain ⟨hv, hrest⟩ := List.forall_mem_cons.mp hwide
    exact .ok ⟨hv, hf.locals, hrest⟩

theorem popInt (hf : f.IsWide) : Gives (fun (_, g) => g.IsWide) f.popInt := by
  unfold Frame.popInt
  split
  · exact .error
  · rename_i hpop
    exact .ok (hf.pop _ hpop).2
  · exact .error

theorem popObject (hf : f.IsWide) : Gives (fun (_, g) => g.IsWide) f.popObject := by
  unfold Frame.popObject
  split
  · exact .error
  · rename_i hpop
    split
    · exact .ok (hf.pop _ hpop).2
    · exact .error

theorem popMany (hf : f.IsWide) (count : Nat) :
    Gives (fun (_, g) => g.IsWide) (f.popMany count) := by
  unfold Frame.popMany
  split
  · exact .ok ⟨hf.locals, fun v hv => hf.stack v (List.mem_of_mem_drop hv)⟩
  · exact .error

end IsWide

/-! ### Parts of instructions -/

variable {p : Program} {h : Heap}

theorem sound_quietly (hf : f.IsWide) : (quietly h f).IsSound p h := ⟨hf, .keeps (.refl h)⟩

theorem sound_telling (hf : f.IsWide) {h' : Heap} (hh : p.Lays h h') (event : Event) :
    (telling h' f event).IsSound p h := ⟨hf, hh⟩

theorem sound_readField (hf : f.IsWide) (field : FieldRef) :
    Gives (Action.IsSound p h) (readField h f field) := by
  unfold readField
  split
  · exact .error
  · rename_i slot _
    exact .ok (sound_telling (hf.push slot.value.isWide_widened).advance (.keeps (.refl h)) _)

theorem sound_writeField (hf : f.IsWide) (field : FieldRef) (v : Value) :
    Gives (Action.IsSound p h) (writeField h f field v) := by
  unfold writeField
  split
  · exact .error
  · split
    · exact .error
    · split
      · exact .error
      · rename_i hstore
        exact .ok (sound_telling hf.advance (.keeps (Heap.sameLayout_store hstore)) _)

theorem sound_callNative (hf : f.IsWide) (clock : Nat) (name : String) (arity : Nat)
    (returns : Option FieldType) :
    Gives (Action.IsSound p h) (callNative clock h f name arity returns) := by
  unfold callNative
  split
  · exact .error
  · rename_i args g hpop
    have hg := hf.popMany arity _ hpop
    dsimp only
    split
    · exact .ok trivial
    · refine .ok ⟨?_, .keeps (.refl h)⟩
      cases returns with
      | none => exact hg.advance
      | some ty => exact (hg.push (Value.isWide_widened _)).advance

theorem sound_callRoutine (hf : f.IsWide) (id : RoutineId) (r : Routine) :
    Gives (Action.IsSound p h) (callRoutine f id r) := by
  unfold callRoutine
  split
  · exact .error
  · rename_i args g hpop
    have hg := hf.popMany _ _ hpop
    split
    · split
      · exact .error
      · rename_i hcallee
        exact .ok (hg.popObject _ hcallee).advance
    · exact .ok hg.advance

theorem sound_afterPreparing {id : ClassId} {k : Except ExecutionFailure Action}
    (hk : Gives (Action.IsSound p h) k) : Gives (Action.IsSound p h) (afterPreparing p h id k) := by
  unfold afterPreparing
  split
  · rename_i hprepare
    exact .ok (Heap.sameLayout_prepare hprepare)
  · exact hk

/-! ### All instructions -/

theorem sound_act (hf : f.IsWide) (clock : Nat) (returns : Option FieldType) (i : Instruction) :
    Gives (Action.IsSound p h) (f.act p clock h returns i) := by
  cases i with
  | push v => exact .ok (sound_quietly (hf.push v.isWide_widened).advance)
  | load index =>
    rw [act]
    split
    · exact .error
    · rename_i v hv
      exact .ok (sound_quietly (hf.push (hf.locals v (List.mem_of_getElem? hv))).advance)
  | store index =>
    refine hf.pop.bind ?_
    rintro ⟨v, g⟩ ⟨hv, hg⟩
    dsimp only
    split
    · refine .ok (sound_quietly (IsWide.advance ⟨fun w hw => ?_, hg.stack⟩))
      rcases List.mem_or_eq_of_mem_set hw with hw | rfl
      · exact hg.locals w hw
      · exact hv
    · exact .error
  | pop =>
    refine hf.pop.bind ?_
    rintro ⟨v, g⟩ ⟨-, hg⟩
    exact .ok (sound_quietly hg.advance)
  | dup =>
    refine hf.pop.bind ?_
    rintro ⟨v, g⟩ ⟨hv, hg⟩
    exact .ok (sound_quietly ((hg.push hv).push hv).advance)
  | arithmetic op =>
    refine hf.pop.bind ?_
    rintro ⟨right, g⟩ ⟨-, hg⟩
    refine hg.pop.bind ?_
    rintro ⟨left, g'⟩ ⟨-, hg'⟩
    dsimp only
    split
    · rename_i hv
      exact .ok (sound_quietly (hg'.push (Value.isWide_onValues? hv)).advance)
    · exact .error
  | compareEq =>
    refine hf.pop.bind ?_
    rintro ⟨right, g⟩ ⟨-, hg⟩
    refine hg.pop.bind ?_
    rintro ⟨left, g'⟩ ⟨-, hg'⟩
    exact .ok (sound_quietly (hg'.push ⟨rfl, rfl⟩).advance)
  | compareLt =>
    refine hf.pop.bind ?_
    rintro ⟨right, g⟩ ⟨-, hg⟩
    refine hg.pop.bind ?_
    rintro ⟨left, g'⟩ ⟨-, hg'⟩
    dsimp only
    split
    · exact .ok (sound_quietly (hg'.push ⟨rfl, rfl⟩).advance)
    · exact .error
  | jump target => exact .ok (sound_quietly (hf.goto target))
  | jumpIfZero target =>
    refine hf.pop.bind ?_
    rintro ⟨v, g⟩ ⟨-, hg⟩
    dsimp only
    split
    · exact .ok (sound_quietly (hg.goto target))
    · exact .ok (sound_quietly hg.advance)
  | getField name => exact hf.popObject.bind fun _ hg => sound_readField hg _
  | putField name =>
    refine hf.pop.bind ?_
    rintro ⟨v, g⟩ ⟨-, hg⟩
    exact hg.popObject.bind fun _ hg' => sound_writeField hg' _ v
  | getStatic id name => exact sound_afterPreparing (sound_readField hf _)
  | putStatic id name =>
    refine sound_afterPreparing (hf.pop.bind ?_)
    rintro ⟨v, g⟩ ⟨-, hg⟩
    exact sound_writeField hg _ v
  | newObject id =>
    refine sound_afterPreparing ?_
    split
    · exact .error
    · rename_i c hc
      exact .ok (sound_telling (hf.push ⟨rfl, rfl⟩).advance (p.lays_allocate h hc) _)
  | newArray =>
    refine hf.popInt.bind ?_
    rintro ⟨length, g⟩ hg
    dsimp only
    split
    · exact .error
    · exact .ok (sound_telling (hg.push ⟨rfl, rfl⟩).advance (p.lays_allocateArray h _) _)
  | arrayLoad =>
    refine hf.popInt.bind ?_
    rintro ⟨index, g⟩ hg
    refine hg.popObject.bind ?_
    rintro ⟨array, g'⟩ hg'
    refine Gives.bind (P := fun _ => True) (fun _ _ => trivial) ?_
    rintro ⟨position, v⟩ -
    exact .ok (sound_telling (hg'.push v.isWide_widened).advance (.keeps (.refl h)) _)
  | arrayStore =>
    refine hf.pop.bind ?_
    rintro ⟨v, g⟩ ⟨-, hg⟩
    refine hg.popInt.bind ?_
    rintro ⟨index, g'⟩ hg'
    refine hg'.popObject.bind ?_
    rintro ⟨array, g''⟩ hg''
    refine Gives.bind (P := fun _ => True) (fun _ _ => trivial) ?_
    rintro ⟨position, -⟩ -
    exact .ok (sound_telling hg''.advance (.keeps (Heap.sameLayout_setElement h _ _ _)) _)
  | invoke id =>
    rw [act]
    split
    · exact .error
    · split
      · exact sound_afterPreparing (sound_callRoutine hf _ _)
      · exact sound_callRoutine hf _ _
  | invokeNative name arity returns => exact sound_callNative hf clock name arity returns
  | monitorEnter =>
    refine hf.popObject.bind ?_
    rintro ⟨_, g⟩ hg
    exact .ok (sound_telling hg.advance (.keeps (.refl h)) _)
  | monitorExit =>
    refine hf.popObject.bind ?_
    rintro ⟨_, g⟩ hg
    exact .ok (sound_telling hg.advance (.keeps (.refl h)) _)
  | throwTop => exact hf.pop.bind fun _ _ => .ok trivial
  | leave =>
    cases returns with
    | none => exact .ok hf
    | some ty =>
      refine hf.pop.bind ?_
      rintro ⟨v, g⟩ ⟨-, hg⟩
      dsimp only
      split
      · exact .ok hg
      · exact .error

end Frame

/-- The next instruction of a frame in stack form. -/
theorem sound_next {p : Program} {clock : Nat} {f : Frame} (hf : f.IsWide) (h : Heap) :
    Gives (Action.IsSound p h) (f.next p clock h) := by
  unfold Frame.next
  split
  · exact .error
  · split
    · exact .error
    · exact Frame.sound_act hf clock _ _

end Reprise
