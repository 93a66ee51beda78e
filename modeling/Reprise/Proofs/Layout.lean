import Reprise.Proofs.Slots

/-!
# The layout of a heap

The layout of a heap is which fields it has, of which types, and of which class each object is.
Only an allocation changes it, by one new object:

    h.SameLayout g    the fields, their types and the classes of the objects are the same
    p.Lays h g        the layout is the same, or an object was added with the fields of its class
    p.HasLaidOut h    every field is there with its declared type, and no other field is

A heap is laid out when the machine is new, and stays so (`HasLaidOut.lays`).
-/

namespace Reprise

open Std

namespace Heap

/-- The type of a field, if it is there. -/
def type? (h : Heap) (f : FieldRef) : Option FieldType := (h.slot? f).map (·.type)

/-- The classes of the objects in the order of their identities; an array has none. -/
def kinds (h : Heap) : Array (Option ClassId) := h.objects.map (·.classId)

theorem size_kinds (h : Heap) : h.kinds.size = h.objects.size := Array.size_map

/-! ## Operations that keep the layout -/

/-- The same fields of the same types, and the same objects. -/
structure SameLayout (h g : Heap) : Prop where
  kinds : g.kinds = h.kinds
  types : ∀ f, g.type? f = h.type? f

namespace SameLayout

theorem refl (h : Heap) : h.SameLayout h := ⟨rfl, fun _ => rfl⟩

theorem trans {h g k : Heap} (hg : h.SameLayout g) (hk : g.SameLayout k) : h.SameLayout k :=
  ⟨hk.kinds.trans hg.kinds, fun f => (hk.types f).trans (hg.types f)⟩

theorem of_slots {h g : Heap} (hkinds : g.kinds = h.kinds) (hslots : ∀ f, g.slot? f = h.slot? f) :
    h.SameLayout g :=
  ⟨hkinds, fun f => by rw [type?, hslots, type?]⟩

end SameLayout

theorem kinds_modifyStorage (h : Heap) (owner : FieldOwner) (f : Storage → Storage) :
    (h.modifyStorage owner f).kinds = h.kinds := by
  rcases owner with ⟨i⟩ | ⟨i⟩
  · refine Array.ext_getElem? fun j => ?_
    simp only [kinds, modifyStorage, Array.getElem?_map, Array.getElem?_modify]
    split <;> simp [Function.comp_def]
  · rfl

theorem sameLayout_modifyStorage (h : Heap) (owner : FieldOwner) {f : Storage → Storage}
    (hf : ∀ s, (f s).fields = s.fields) : h.SameLayout (h.modifyStorage owner f) :=
  .of_slots (kinds_modifyStorage h owner f) (slot?_modifyStorage h owner hf)

theorem sameLayout_store {h h' : Heap} {field : FieldRef} {v : Value}
    (hstore : h.store field v = .ok h') : h.SameLayout h' := by
  obtain ⟨slot, hslot, -, rfl⟩ := store_eq_ok hstore
  refine ⟨kinds_modifyStorage _ _ _, fun f => ?_⟩
  rw [type?, slot?_putSlot ⟨slot.value, hslot⟩, type?]
  split
  · rename_i hf
    rw [← hf, hslot]
    rfl
  · rfl

theorem sameLayout_mark {h h' : Heap} {id : ClassId} (hmark : h.markInitialized? id = some h') :
    h.SameLayout h' := by
  refine .of_slots ?_ (slot?_mark hmark)
  obtain rfl := eq_of_markInitialized? hmark
  rfl

theorem sameLayout_prepare {h h' : Heap} {p : Program} {id : ClassId} {initializer : RoutineId}
    (hprepare : h.prepare? p id = some (h', initializer)) : h.SameLayout h' :=
  sameLayout_mark (prepare?_eq_some hprepare).2

theorem sameLayout_setElement (h : Heap) (array : ObjectId) (index : Nat) (v : Value) :
    h.SameLayout (h.setElement array index v) := by
  refine .of_slots ?_ (slot?_setElement h array index v)
  refine Array.ext_getElem? fun j => ?_
  simp only [kinds, setElement, Array.getElem?_map, Array.getElem?_modify]
  split <;> simp [Function.comp_def]

theorem sameLayout_setThreads (h : Heap) (threads : Nat) : h.SameLayout (h.setThreads threads) :=
  .of_slots rfl fun _ => rfl

end Heap

/-! ## Declared types -/

namespace Program

open Heap

/-- The declared type of a field of an object of the class; an array has no fields. -/
def instanceType? (p : Program) (kind : Option ClassId) (name : String) : Option FieldType :=
  (kind.bind p.class?).bind fun c => declared? c.fields name

/-- The declared type of a field, where the objects are of the classes. -/
def fieldType? (p : Program) (kinds : Array (Option ClassId)) (f : FieldRef) : Option FieldType :=
  match f.owner with
  | .object id => (kinds[id.index]?).bind (p.instanceType? · f.name)
  | .statics id => (p.class? id).bind fun c => declared? c.statics f.name

/-- The fields of the heap are those that the program declares, with their types. -/
def HasLaidOut (p : Program) (h : Heap) : Prop := ∀ f, h.type? f = p.fieldType? h.kinds f

/-- The layout is the same, or one object was added: it has the next identity and the fields of its
class, and all other owners have the fields that they had. -/
inductive Lays (p : Program) (h g : Heap) : Prop where
  | keeps (hsame : h.SameLayout g)
  | adds (kind : Option ClassId) (hkinds : g.kinds = h.kinds.push kind)
    (hfresh : ∀ name, h.type? ⟨.object h.nextObjectId, name⟩ = none)
    (hnew : ∀ name, g.type? ⟨.object h.nextObjectId, name⟩ = p.instanceType? kind name)
    (hold : ∀ f, f.owner ≠ .object h.nextObjectId → g.type? f = h.type? f)

theorem lays_add (p : Program) (h : Heap) {o : HeapObject}
    (ho : ∀ name, (o.fields[name]?).map (·.type) = p.instanceType? o.classId name) :
    p.Lays h (h.add o).2 := by
  refine .adds o.classId ?_ (fun name => ?_) (fun name => ?_) fun f hf => ?_
  · exact Array.map_push
  · rw [type?, slot?_nextObjectId rfl]
    rfl
  · rw [type?, slot?_add, if_pos rfl, ho]
  · rw [type?, slot?_add, if_neg hf, type?]

theorem type_ofDeclarations (fields : List (String × FieldType)) (name : String) :
    ((Storage.ofDeclarations fields).fields[name]?).map (·.type) = declared? fields name := by
  rw [getElem?_ofDeclarations]
  cases declared? fields name <;> rfl

theorem lays_allocate {p : Program} (h : Heap) {id : ClassId} {c : ClassDef}
    (hc : p.class? id = some c) : p.Lays h (h.allocate id c).2 := by
  refine lays_add p h fun name => ?_
  rw [type_ofDeclarations, instanceType?, Option.bind_some, hc, Option.bind_some]

theorem lays_allocateArray (p : Program) (h : Heap) (length : Nat) :
    p.Lays h (h.allocateArray length).2 :=
  lays_add p h fun name => by simp [instanceType?]

variable {p : Program} {h g : Heap}

theorem HasLaidOut.lays (hh : p.HasLaidOut h) (hg : p.Lays h g) : p.HasLaidOut g := by
  cases hg with
  | keeps hsame =>
    intro f
    rw [hsame.types, hsame.kinds, hh]
  | adds kind hkinds hfresh hnew hold =>
    rintro ⟨owner, name⟩
    by_cases howner : owner = .object h.nextObjectId
    · rw [howner, hnew, hkinds]
      simp only [fieldType?, nextObjectId, Array.getElem?_push, size_kinds, if_true,
        Option.bind_some]
    · rw [hold _ howner, hh, hkinds]
      rcases owner with ⟨⟨i⟩⟩ | i
      · have hi : i ≠ h.kinds.size := by
          rw [size_kinds]
          rintro rfl
          exact howner rfl
        simp only [fieldType?, Array.getElem?_push, if_neg hi]
      · rfl

theorem hasLaidOut_ofClasses (p : Program) : p.HasLaidOut (.ofClasses p.classes) := by
  rintro ⟨⟨i⟩ | i, name⟩
  · simp [type?, slot?, storage?, Heap.ofClasses, fieldType?, kinds]
  · simp only [type?, slot?, storage?, Heap.ofClasses, fieldType?, class?, Array.getElem?_map,
      Option.map_map]
    cases p.classes[i.index]? with
    | none => rfl
    | some c => exact type_ofDeclarations c.statics name

end Program

end Reprise
