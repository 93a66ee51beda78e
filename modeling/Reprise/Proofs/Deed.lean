import Reprise.Proofs.Slots

/-!
# What an instruction depends on

`Deed p routine leaves look h a` says how the action `a` of an instruction in the heap `h` comes
about, where `look k` is what the instruction does in the heap `k`.  Most instructions do the same
in every heap that extends `h`; a read depends on the field that it reads, and a write changes one
field.  What allocates, touches an array, or interrupts is told to the recorder as such
(`Event.isUnseen`), and nothing is said of it in other heaps.

    f.act p clock h returns i = .ok a → Deed p f.routine _ (f.act p clock · returns i) h a
                                                                        (deed_of_act)
    i.readsClock = false → the clock does not matter                    (act_clock)
-/

namespace Reprise

/-- Whether the event says that something happened that no recording can hold. -/
def Event.isUnseen : Event → Bool
  | .allocation => true
  | .arrayAccess => true
  | .interruption _ => true
  | _ => false

/-- Whether the instruction depends on how many instructions have run. -/
def Instruction.readsClock : Instruction → Bool
  | .invokeNative name _ _ =>
    simpleName name == "currentTimeMillis" || simpleName name == "nanoTime"
  | _ => false

/-- The value is one that a routine with the return type gives back. -/
def Yields : Option FieldType → Option Value → Prop
  | none, none => True
  | some ty, some v => v.conformsTo ty = true
  | _, _ => False

theorem Yields.isSome {returns : Option FieldType} {v : Option Value} (hv : Yields returns v) :
    v.isSome = returns.isSome := by
  cases returns <;> cases v <;> first | rfl | cases hv

/-- How an action in the heap `h` of a frame of the routine comes about; `leaves` tells with which
values the frame may be left. -/
inductive Deed (p : Program) (routine : RoutineId) (leaves : Option Value → Prop)
    (look : Heap → Except ExecutionFailure Action) (h : Heap) : Action → Prop where
  /-- The heap plays no part. -/
  | quiet {f e printed} (hf : f.routine = routine)
    (he : ∀ event ∈ e, ∃ name, event = .nativeCall name)
    (hlook : ∀ k, h.Extends k → look k = .ok (.proceed k f e printed)) :
    Deed p routine leaves look h (.proceed h f e printed)
  | reads {f field slot} (hf : f.routine = routine) (hslot : h.slot? field = some slot)
    (hlook : ∀ k, h.Extends k → k.slot? field = some slot → look k =
      .ok (.proceed k f (some (.fieldRead ⟨field, slot.type, slot.value⟩)) none)) :
    Deed p routine leaves look h
      (.proceed h f (some (.fieldRead ⟨field, slot.type, slot.value⟩)) none)
  | writes {f field ty v} (hf : f.routine = routine) (hfield : h.HasSlot field ty)
    (hv : v.conformsTo ty = true)
    (hlook : ∀ k, h.Extends k → look k =
      .ok (.proceed (k.putSlot field ⟨ty, v⟩) f (some (.fieldWrite ⟨field, ty, v⟩)) none)) :
    Deed p routine leaves look h
      (.proceed (h.putSlot field ⟨ty, v⟩) f (some (.fieldWrite ⟨field, ty, v⟩)) none)
  | unseen {h' f e} (hf : f.routine = routine) (he : e.isUnseen = true) (hh : h.Becomes h')
    (hmarks : h'.marks = h.marks) :
    Deed p routine leaves look h (.proceed h' f (some e) none)
  | fails {e failure} (he : (∃ name, e = .nativeCall name) ∨ e.isUnseen = true) :
    Deed p routine leaves look h (.failAfter e failure)
  | prepares {id h' initializer} (hprepare : h.prepare? p id = some (h', initializer)) :
    Deed p routine leaves look h (.prepare h' initializer)
  | calls {f id callee args} (hf : f.routine = routine)
    (hlook : ∀ k, h.Extends k → look k = .ok (.call f id callee args)) :
    Deed p routine leaves look h (.call f id callee args)
  | finishes {f v} (hf : f.routine = routine) (hv : leaves v)
    (hlook : ∀ k, h.Extends k → look k = .ok (.finish f v)) :
    Deed p routine leaves look h (.finish f v)

theorem bind_eq_ok {ε α β : Type} {x : Except ε α} {f : α → Except ε β} {b : β}
    (hb : (x >>= f) = .ok b) : ∃ a, x = .ok a ∧ f a = .ok b := by
  cases x with
  | error e => cases hb
  | ok a => exact ⟨a, rfl, hb⟩

namespace Deed

variable {p : Program} {routine : RoutineId} {leaves : Option Value → Prop}
  {look : Heap → Except ExecutionFailure Action} {h : Heap} {a : Action}

/-- What is computed without the heap may stand before. -/
theorem bind {α : Type} {x : Except ExecutionFailure α}
    {look : α → Heap → Except ExecutionFailure Action} (ha : (x >>= fun v => look v h) = .ok a)
    (hd : ∀ v, x = .ok v → look v h = .ok a → Deed p routine leaves (look v) h a) :
    Deed p routine leaves (fun k => x >>= fun v => look v k) h a := by
  obtain ⟨v, rfl, ha⟩ := bind_eq_ok ha
  exact hd v rfl ha

theorem becomes {h' : Heap} {f : Frame} {e : Option Event} {printed : Option String}
    (ha : Deed p routine leaves look h (.proceed h' f e printed)) : h.Becomes h' := by
  cases ha with
  | quiet => exact .refl h
  | reads => exact .refl h
  | writes _ hfield hv => exact Heap.becomes_putSlot hfield hv
  | unseen _ _ hh => exact hh

theorem marks {h' : Heap} {f : Frame} {e : Option Event} {printed : Option String}
    (ha : Deed p routine leaves look h (.proceed h' f e printed)) : h'.marks = h.marks := by
  cases ha with
  | quiet => rfl
  | reads => rfl
  | writes => exact Heap.marks_modifyStorage _ _ _
  | unseen _ _ _ hmarks => exact hmarks

theorem mono {leaves' : Option Value → Prop} (ha : Deed p routine leaves look h a)
    (hleaves : ∀ v, leaves v → leaves' v) : Deed p routine leaves' look h a := by
  cases ha with
  | quiet hf he hlook => exact .quiet hf he hlook
  | reads hf hslot hlook => exact .reads hf hslot hlook
  | writes hf hfield hv hlook => exact .writes hf hfield hv hlook
  | unseen hf he hh hmarks => exact .unseen hf he hh hmarks
  | fails he => exact .fails he
  | prepares hprepare => exact .prepares hprepare
  | calls hf hlook => exact .calls hf hlook
  | finishes hf hv hlook => exact .finishes hf (hleaves _ hv) hlook

/-- A class that is ready in `h` is ready in every heap that extends `h`. -/
theorem afterPreparing {id : ClassId} (ha : Frame.afterPreparing p h id (look h) = .ok a)
    (hd : look h = .ok a → Deed p routine leaves look h a) :
    Deed p routine leaves (fun k => Frame.afterPreparing p k id (look k)) h a := by
  unfold Frame.afterPreparing at ha
  split at ha
  · rename_i h' initializer hprepare
    obtain rfl := Except.ok.inj ha
    exact .prepares hprepare
  · rename_i hnone
    have hready : ∀ k, h.Extends k → Frame.afterPreparing p k id (look k) = look k := by
      intro k hk
      rw [Frame.afterPreparing, hk.prepare? hnone]
    cases hd ha with
    | quiet hf he hlook => exact .quiet hf he fun k hk => (hready k hk).trans (hlook k hk)
    | reads hf hslot hlook =>
      exact .reads hf hslot fun k hk hk' => (hready k hk).trans (hlook k hk hk')
    | writes hf hfield hv hlook =>
      exact .writes hf hfield hv fun k hk => (hready k hk).trans (hlook k hk)
    | unseen hf he hh hmarks => exact .unseen hf he hh hmarks
    | fails he => exact .fails he
    | prepares hprepare => exact .prepares hprepare
    | calls hf hlook => exact .calls hf fun k hk => (hready k hk).trans (hlook k hk)
    | finishes hf hv hlook => exact .finishes hf hv fun k hk => (hready k hk).trans (hlook k hk)

end Deed

namespace Frame

variable {p : Program} {routine : RoutineId} {leaves : Option Value → Prop} {clock : Nat}
  {h : Heap} {a : Action}

/-! ## Operands -/

theorem routine_of_pop {f f' : Frame} {v : Value} (hpop : f.pop = .ok (v, f')) :
    f'.routine = f.routine := by
  unfold pop at hpop
  split at hpop
  · cases hpop
  · cases hpop
    rfl

theorem routine_of_popInt {f f' : Frame} {n : Int32} (hpop : f.popInt = .ok (n, f')) :
    f'.routine = f.routine := by
  unfold popInt at hpop
  split at hpop
  · cases hpop
  · rename_i hv
    cases hpop
    exact routine_of_pop hv
  · cases hpop

theorem routine_of_popObject {f f' : Frame} {id : ObjectId} (hpop : f.popObject = .ok (id, f')) :
    f'.routine = f.routine := by
  unfold popObject at hpop
  split at hpop
  · cases hpop
  · rename_i hv
    split at hpop
    · cases hpop
      exact routine_of_pop hv
    · cases hpop

theorem routine_of_popMany {f f' : Frame} {count : Nat} {vs : List Value}
    (hpop : f.popMany count = .ok (vs, f')) : f'.routine = f.routine := by
  unfold popMany at hpop
  split at hpop
  · cases hpop
    rfl
  · cases hpop

/-! ## Instructions -/

theorem deed_quietly {f : Frame} (hf : f.routine = routine) :
    Deed p routine leaves (fun k => .ok (quietly k f)) h (quietly h f) :=
  .quiet hf (by simp) fun _ _ => rfl

theorem deed_readField {f : Frame} (hf : f.routine = routine) {field : FieldRef}
    (ha : readField h f field = .ok a) :
    Deed p routine leaves (fun k => readField k f field) h a := by
  unfold readField at ha
  split at ha
  · cases ha
  · rename_i slot hslot
    obtain rfl := Except.ok.inj ha
    refine .reads hf hslot fun k _ hk => ?_
    simp only [readField, hk]
    rfl

theorem deed_writeField {f : Frame} (hf : f.routine = routine) {field : FieldRef} {v : Value}
    (ha : writeField h f field v = .ok a) :
    Deed p routine leaves (fun k => writeField k f field v) h a := by
  unfold writeField at ha
  split at ha
  · cases ha
  · rename_i slot hslot
    split at ha
    · cases ha
    · rename_i w hw
      have hconforms := Value.conformsTo_of_narrowedTo hw
      rw [Heap.store_eq_putSlot hslot hconforms] at ha
      obtain rfl := Except.ok.inj ha
      refine .writes hf ⟨slot.value, hslot⟩ hconforms fun k hk => ?_
      obtain ⟨u, hu⟩ := hk.slots field slot.type ⟨slot.value, hslot⟩
      simp only [writeField, hu, hw, Heap.store_eq_putSlot hu hconforms]
      rfl

theorem deed_callNative {f : Frame} (hf : f.routine = routine) {name : String} {arity : Nat}
    {returns : Option FieldType} (ha : callNative clock h f name arity returns = .ok a) :
    Deed p routine leaves (fun k => callNative clock k f name arity returns) h a := by
  unfold callNative at ha
  split at ha
  · cases ha
  · rename_i args f' hpop
    split at ha
    · obtain rfl := Except.ok.inj ha
      exact .fails (.inl ⟨name, rfl⟩)
    · rename_i result hnative
      obtain rfl := Except.ok.inj ha
      refine .quiet ?_ (fun event he => ⟨name, (Option.mem_some.mp he).symm⟩) fun k _ => ?_
      · cases returns <;> exact (routine_of_popMany hpop).trans hf
      · simp only [callNative, hpop, hnative]

theorem deed_callRoutine {f : Frame} (hf : f.routine = routine) {id : RoutineId} {r : Routine}
    (ha : f.callRoutine id r = .ok a) :
    Deed p routine leaves (fun _ => f.callRoutine id r) h a := by
  have hcall := ha
  unfold callRoutine at ha
  split at ha
  · cases ha
  · rename_i args f' hpop
    have hf' := (routine_of_popMany hpop).trans hf
    split at ha
    · split at ha
      · cases ha
      · rename_i callee f'' hobject
        obtain rfl := Except.ok.inj ha
        exact .calls ((routine_of_popObject hobject).trans hf') fun k _ => hcall
    · obtain rfl := Except.ok.inj ha
      exact .calls hf' fun k _ => hcall

/-- What an instruction does depends on the heap as its deed says. -/
theorem deed_of_act {f : Frame} {returns : Option FieldType} {i : Instruction}
    (ha : f.act p clock h returns i = .ok a) :
    Deed p f.routine (fun v => i = .leave ∧ Yields returns v) (fun k => f.act p clock k returns i)
      h a := by
  cases i with
  | push v =>
    obtain rfl := Except.ok.inj ha
    exact deed_quietly rfl
  | load index =>
    simp only [act] at ha ⊢
    cases hv : f.locals[index]? with
    | none => rw [hv] at ha; cases ha
    | some v =>
      rw [hv] at ha
      obtain rfl := Except.ok.inj ha
      exact deed_quietly rfl
  | store index =>
    refine .bind ha fun ⟨v, f'⟩ hpop ha => ?_
    have hf := routine_of_pop hpop
    simp only at ha ⊢
    by_cases hindex : index < f'.locals.length
    · simp only [if_pos hindex] at ha ⊢
      obtain rfl := Except.ok.inj ha
      exact deed_quietly hf
    · rw [if_neg hindex] at ha
      cases ha
  | pop =>
    refine .bind ha fun ⟨v, f'⟩ hpop ha => ?_
    obtain rfl := Except.ok.inj ha
    have hf := routine_of_pop hpop
    exact deed_quietly hf
  | dup =>
    refine .bind ha fun ⟨v, f'⟩ hpop ha => ?_
    obtain rfl := Except.ok.inj ha
    have hf := routine_of_pop hpop
    exact deed_quietly hf
  | arithmetic op =>
    refine .bind ha fun ⟨right, f'⟩ hright ha => .bind ha fun ⟨left, f''⟩ hleft ha => ?_
    simp only at ha ⊢
    cases hv : op.onValues? left right with
    | none => rw [hv] at ha; cases ha
    | some v =>
      rw [hv] at ha
      obtain rfl := Except.ok.inj ha
      exact deed_quietly ((routine_of_pop hleft).trans (routine_of_pop hright))
  | compareEq =>
    refine .bind ha fun ⟨right, f'⟩ hright ha => .bind ha fun ⟨left, f''⟩ hleft ha => ?_
    obtain rfl := Except.ok.inj ha
    exact deed_quietly ((routine_of_pop hleft).trans (routine_of_pop hright))
  | compareLt =>
    refine .bind ha fun ⟨right, f'⟩ hright ha => .bind ha fun ⟨left, f''⟩ hleft ha => ?_
    simp only at ha ⊢
    cases hv : left.isLess? right with
    | none => rw [hv] at ha; cases ha
    | some less =>
      rw [hv] at ha
      obtain rfl := Except.ok.inj ha
      exact deed_quietly ((routine_of_pop hleft).trans (routine_of_pop hright))
  | jump target =>
    obtain rfl := Except.ok.inj ha
    exact deed_quietly rfl
  | jumpIfZero target =>
    refine .bind ha fun ⟨v, f'⟩ hpop ha => ?_
    obtain rfl := Except.ok.inj ha
    have hf := routine_of_pop hpop
    refine deed_quietly ?_
    split <;> exact hf
  | getField name =>
    exact .bind ha fun ⟨object, f'⟩ hpop ha => deed_readField (routine_of_popObject hpop) ha
  | putField name =>
    refine .bind ha fun ⟨v, f'⟩ hv ha => .bind ha fun ⟨object, f''⟩ hobject ha => ?_
    exact deed_writeField ((routine_of_popObject hobject).trans (routine_of_pop hv)) ha
  | getStatic id name => exact .afterPreparing ha (deed_readField rfl)
  | putStatic id name =>
    refine .afterPreparing ha fun ha => .bind ha fun ⟨v, f'⟩ hv ha => ?_
    exact deed_writeField (routine_of_pop hv) ha
  | newObject id =>
    refine .afterPreparing ha fun ha => ?_
    split at ha
    · cases ha
    · rename_i c hc
      obtain rfl := Except.ok.inj ha
      exact .unseen rfl rfl (Heap.becomes_allocate h id c) rfl
  | newArray =>
    obtain ⟨⟨length, f'⟩, hpop, ha⟩ := bind_eq_ok ha
    have hf := routine_of_popInt hpop
    simp only at ha
    split at ha
    · cases ha
    · obtain rfl := Except.ok.inj ha
      exact .unseen hf rfl (Heap.becomes_allocateArray h _) rfl
  | arrayLoad =>
    obtain ⟨⟨index, f'⟩, hindex, ha⟩ := bind_eq_ok ha
    obtain ⟨⟨array, f''⟩, harray, ha⟩ := bind_eq_ok ha
    obtain ⟨⟨position, v⟩, -, ha⟩ := bind_eq_ok ha
    obtain rfl := Except.ok.inj ha
    exact .unseen ((routine_of_popObject harray).trans (routine_of_popInt hindex)) rfl
      (.refl h) rfl
  | arrayStore =>
    obtain ⟨⟨v, f₁⟩, hv, ha⟩ := bind_eq_ok ha
    obtain ⟨⟨index, f₂⟩, hindex, ha⟩ := bind_eq_ok ha
    obtain ⟨⟨array, f₃⟩, harray, ha⟩ := bind_eq_ok ha
    obtain ⟨⟨position, _⟩, -, ha⟩ := bind_eq_ok ha
    obtain rfl := Except.ok.inj ha
    exact .unseen ((routine_of_popObject harray).trans
      ((routine_of_popInt hindex).trans (routine_of_pop hv))) rfl
      (Heap.becomes_setElement h array position v) rfl
  | invoke id =>
    simp only [act] at ha ⊢
    cases hr : p.routine? id with
    | none => rw [hr] at ha; cases ha
    | some r =>
      rw [hr] at ha
      by_cases hkind : r.kind = .static
      · simp only [if_pos hkind] at ha ⊢
        exact .afterPreparing ha (deed_callRoutine rfl)
      · simp only [if_neg hkind] at ha ⊢
        exact deed_callRoutine rfl ha
  | invokeNative name arity returns => exact deed_callNative rfl ha
  | monitorEnter =>
    obtain ⟨⟨object, f'⟩, hpop, ha⟩ := bind_eq_ok ha
    have hf := routine_of_popObject hpop
    obtain rfl := Except.ok.inj ha
    exact .unseen hf rfl (.refl h) rfl
  | monitorExit =>
    obtain ⟨⟨object, f'⟩, hpop, ha⟩ := bind_eq_ok ha
    have hf := routine_of_popObject hpop
    obtain rfl := Except.ok.inj ha
    exact .unseen hf rfl (.refl h) rfl
  | throwTop =>
    obtain ⟨_, -, ha⟩ := bind_eq_ok ha
    obtain rfl := Except.ok.inj ha
    exact .fails (.inr rfl)
  | leave =>
    cases returns with
    | none =>
      obtain rfl := Except.ok.inj ha
      exact .finishes rfl ⟨rfl, trivial⟩ fun _ _ => rfl
    | some ty =>
      refine .bind ha fun ⟨v, f'⟩ hpop ha => ?_
      cases hw : v.narrowedTo ty with
      | none => simp only [hw] at ha; cases ha
      | some w =>
        simp only [hw] at ha
        obtain rfl := Except.ok.inj ha
        refine .finishes (routine_of_pop hpop) ⟨rfl, Value.conformsTo_of_narrowedTo hw⟩
          fun _ _ => ?_
        simp only [hw]

/-- Only two natives ask for the clock. -/
theorem native?_clock {name : String} (hmillis : simpleName name ≠ "currentTimeMillis")
    (hnano : simpleName name ≠ "nanoTime") (clock' : Nat) (args : List Value) :
    native? clock name args = native? clock' name args := by
  unfold native?
  split
  · rfl
  · rfl
  · rfl
  · rfl
  · exact absurd ‹simpleName name = _› hmillis
  · exact absurd ‹simpleName name = _› hnano
  · rfl

theorem act_clock {f : Frame} {returns : Option FieldType} {i : Instruction}
    (hi : i.readsClock = false) (clock' : Nat) :
    f.act p clock h returns i = f.act p clock' h returns i := by
  cases i with
  | invokeNative name arity returns =>
    simp only [Instruction.readsClock, Bool.or_eq_false_iff, beq_eq_false_iff_ne] at hi
    simp only [act, callNative, native?_clock hi.1 hi.2 clock']
  | _ => rfl

end Frame

end Reprise
