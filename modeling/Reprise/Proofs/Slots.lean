import Reprise.Machine.Action
import Reprise.Proofs.Access

/-!
# Heaps as maps of typed slots

A heap is its slots and what is left when all fields are taken away (`Heap.bare`): heaps that agree
on both are equal (`ext_of_slots`).  Putting a value into a slot that is there changes that slot
only, so performing writes in any order is overwriting each field with its last write
(`slot?_putAll`), and that is what applying an effect to a heap does (`applyAll_frameView`).

    h.Extends g    the slots of `h` are in `g` with the same types, and what needs no
                   initialization in `h` needs none in `g`
    h.Typed        every slot holds a value of its type

Both are kept by everything that happens to a heap.
-/

namespace Reprise

open Std

namespace Heap

/-! ## Storages and slots -/

theorem storage?_modifyStorage (h : Heap) (owner owner' : FieldOwner) (f : Storage → Storage) :
    (h.modifyStorage owner f).storage? owner' =
      if owner = owner' then (h.storage? owner').map f else h.storage? owner' := by
  rcases owner with ⟨⟨i⟩⟩ | ⟨⟨i⟩⟩ <;> rcases owner' with ⟨⟨j⟩⟩ | ⟨⟨j⟩⟩
  case object.object | statics.statics =>
    simp only [modifyStorage, storage?, Array.getElem?_modify]
    by_cases hij : i = j
    · simp [hij, Function.comp_def]
    · simp [hij]
  all_goals simp [modifyStorage, storage?]

/-- The field is there and has the type. -/
def HasSlot (h : Heap) (field : FieldRef) (ty : FieldType) : Prop :=
  ∃ v, h.slot? field = some ⟨ty, v⟩

theorem slot?_putSlot {h : Heap} {field : FieldRef} {ty : FieldType} (hfield : h.HasSlot field ty)
    (slot : Slot) (g : FieldRef) :
    (h.putSlot field slot).slot? g = if field = g then some slot else h.slot? g := by
  obtain ⟨v, hv⟩ := hfield
  unfold slot? putSlot at *
  rw [storage?_modifyStorage]
  by_cases howner : field.owner = g.owner
  · rw [if_pos howner]
    rw [howner] at hv
    cases hs : h.storage? g.owner with
    | none => rw [hs] at hv; cases hv
    | some s =>
      simp only [Option.map_some, Option.bind_some, ExtTreeMap.getElem?_insert,
        Std.compare_eq_iff_eq]
      by_cases hname : field.name = g.name
      · have heq : field = g := by cases field; cases g; simp_all
        rw [if_pos hname, if_pos heq]
      · have hne : field ≠ g := fun heq => hname (by rw [heq])
        rw [if_neg hname, if_neg hne]
  · have hne : field ≠ g := fun heq => howner (by rw [heq])
    rw [if_neg howner, if_neg hne]

theorem store_eq_putSlot {h : Heap} {field : FieldRef} {slot : Slot}
    (hslot : h.slot? field = some slot) {v : Value} (hv : v.conformsTo slot.type = true) :
    h.store field v = .ok (h.putSlot field ⟨slot.type, v⟩) := by
  unfold slot? at hslot
  unfold store
  cases hs : h.storage? field.owner with
  | none => rw [hs] at hslot; cases hslot
  | some s =>
    rw [hs] at hslot
    simp only [Option.bind_some] at hslot
    simp only [hslot, if_pos hv]

theorem store_eq_ok {h h' : Heap} {field : FieldRef} {v : Value}
    (hstore : h.store field v = .ok h') :
    ∃ slot, h.slot? field = some slot ∧ v.conformsTo slot.type = true ∧
      h' = h.putSlot field ⟨slot.type, v⟩ := by
  unfold store at hstore
  split at hstore
  · cases hstore
  · rename_i s hs
    split at hstore
    · cases hstore
    · rename_i slot hslot
      split at hstore
      · rename_i hv
        exact ⟨slot, by rw [slot?, hs, Option.bind_some, hslot], hv, (Except.ok.inj hstore).symm⟩
      · cases hstore

/-! ## Heaps without their fields -/

/-- The heap with all fields taken away. -/
def bare (h : Heap) : Heap :=
  { h with
    objects := h.objects.map fun o => { o with fields := ∅ }
    classes := h.classes.map fun c => { c with fields := ∅ } }

theorem bare_putSlot (h : Heap) (field : FieldRef) (slot : Slot) :
    (h.putSlot field slot).bare = h.bare := by
  unfold putSlot
  rcases field with ⟨⟨⟨i⟩⟩ | ⟨⟨i⟩⟩, name⟩
  all_goals
    simp only [modifyStorage, bare, Heap.mk.injEq, and_true, true_and]
    refine Array.ext_getElem? fun j => ?_
    rw [Array.getElem?_map, Array.getElem?_map, Array.getElem?_modify]
    split <;> simp [Function.comp_def]

/-- Arrays that agree after `f` are equal if what `f` forgets of their elements agrees too. -/
theorem eq_of_map_eq {α β : Type} {as bs : Array α} (f : α → β) (hmap : as.map f = bs.map f)
    (hforgotten : ∀ (i : Nat) (a b : α), as[i]? = some a → bs[i]? = some b → f a = f b → a = b) :
    as = bs := by
  refine Array.ext_getElem? fun i => ?_
  have hi := congrArg (·[i]?) hmap
  simp only [Array.getElem?_map] at hi
  cases ha : as[i]? with
  | none => exact (Option.map_eq_none_iff.mp (by rw [← hi, ha, Option.map_none])).symm
  | some a =>
    cases hb : bs[i]? with
    | none => rw [ha, hb] at hi; cases hi
    | some b =>
      rw [ha, hb] at hi
      rw [hforgotten i a b ha hb (Option.some.inj hi)]

/-- Two heaps with the same slots, and the same without their fields, are equal. -/
theorem ext_of_slots {h g : Heap} (hbare : h.bare = g.bare)
    (hslots : ∀ field, h.slot? field = g.slot? field) : h = g := by
  obtain ⟨objects, classes, threads⟩ := h
  obtain ⟨objects', classes', threads'⟩ := g
  simp only [bare, Heap.mk.injEq] at hbare
  obtain ⟨hobjects, hclasses, rfl⟩ := hbare
  congr 1
  · refine eq_of_map_eq _ hobjects fun i a b ha hb hab => ?_
    have hfields : a.fields = b.fields := ExtTreeMap.ext_getElem? fun {name} => by
      simpa [slot?, storage?, ha, hb] using hslots ⟨.object ⟨i⟩, name⟩
    obtain ⟨⟨_, _, _⟩, _, _⟩ := a
    obtain ⟨⟨_, _, _⟩, _, _⟩ := b
    simp_all
  · refine eq_of_map_eq _ hclasses fun i a b ha hb hab => ?_
    have hfields : a.fields = b.fields := ExtTreeMap.ext_getElem? fun {name} => by
      simpa [slot?, storage?, ha, hb] using hslots ⟨.statics ⟨i⟩, name⟩
    obtain ⟨⟨_, _, _⟩, _⟩ := a
    obtain ⟨⟨_, _, _⟩, _⟩ := b
    simp_all

/-! ## Overwriting -/

/-- Performs writes in order. -/
def putAll (h : Heap) (l : List (FieldRef × FieldWrite)) : Heap :=
  l.foldl (fun h e => h.putSlot e.1 ⟨e.2.type, e.2.value⟩) h

/-- Gives fields new values. -/
def overwrite (h : Heap) (writes : FieldMap FieldWrite) : Heap := h.putAll writes.toList

/-- The heap has the fields that are to be written. -/
def Fits (h : Heap) (writes : FieldMap FieldWrite) : Prop :=
  ∀ f w, writes[f]? = some w → h.HasSlot f w.type

/-- A write of the type of the field keeps the fields and their types. -/
theorem hasSlot_putSlot {h : Heap} {field : FieldRef} {ty : FieldType}
    (hfield : h.HasSlot field ty) (v : Value) {g : FieldRef} {ty' : FieldType} :
    (h.putSlot field ⟨ty, v⟩).HasSlot g ty' ↔ h.HasSlot g ty' := by
  unfold HasSlot
  rw [slot?_putSlot hfield]
  by_cases hg : field = g
  · subst hg
    obtain ⟨u, hu⟩ := hfield
    rw [if_pos rfl, hu]
    simp
  · rw [if_neg hg]

/-- The heap has the fields of the list. -/
def HasAll (h : Heap) (l : List (FieldRef × FieldWrite)) : Prop :=
  ∀ e ∈ l, h.HasSlot e.1 e.2.type

theorem Fits.hasAll {h : Heap} {writes : FieldMap FieldWrite} (hfits : h.Fits writes) :
    h.HasAll writes.toList :=
  fun e he => hfits e.1 e.2 (ExtTreeMap.mem_toList_iff_getElem?_eq_some.mp he)

/-- The first write of a list keeps the fields of the others. -/
theorem HasAll.tail {h : Heap} {e : FieldRef × FieldWrite} {l : List (FieldRef × FieldWrite)}
    (hthere : h.HasAll (e :: l)) : (h.putSlot e.1 ⟨e.2.type, e.2.value⟩).HasAll l :=
  fun e' he' => (hasSlot_putSlot (hthere e List.mem_cons_self) _).mpr
    (hthere e' (List.mem_cons_of_mem _ he'))

theorem bare_putAll (h : Heap) (l : List (FieldRef × FieldWrite)) : (h.putAll l).bare = h.bare := by
  induction l generalizing h with
  | nil => rfl
  | cons e l ih => exact (ih _).trans (bare_putSlot h _ _)

theorem hasSlot_putAll {h : Heap} {l : List (FieldRef × FieldWrite)}
    (hthere : h.HasAll l) {g : FieldRef} {ty : FieldType} :
    (h.putAll l).HasSlot g ty ↔ h.HasSlot g ty := by
  induction l generalizing h with
  | nil => rfl
  | cons e l ih =>
    exact (ih hthere.tail).trans (hasSlot_putSlot (hthere e List.mem_cons_self) _)

/-- After some writes a field holds what was written to it last. -/
theorem slot?_putAll {h : Heap} {l : List (FieldRef × FieldWrite)}
    (hthere : h.HasAll l) (f : FieldRef) :
    (h.putAll l).slot? f =
      ((lastWrite? (l.map fun (f, w) => .write f w) f).map fun w => ⟨w.type, w.value⟩).or
        (h.slot? f) := by
  induction l generalizing h with
  | nil => rfl
  | cons e l ih =>
    rw [show h.putAll (e :: l) = (h.putSlot e.1 ⟨e.2.type, e.2.value⟩).putAll l from rfl,
      ih hthere.tail, slot?_putSlot (hthere e List.mem_cons_self), List.map_cons, lastWrite?_cons]
    cases lastWrite? (l.map fun (f, w) => .write f w) f with
    | some w => rfl
    | none =>
      by_cases hf : e.1 = f
      · simp [Access.writeTo?, hf]
      · simp [Access.writeTo?, hf]

theorem slot?_overwrite {h : Heap} {writes : FieldMap FieldWrite} (hfits : h.Fits writes)
    (f : FieldRef) :
    (h.overwrite writes).slot? f =
      ((writes[f]?).map fun w => (⟨w.type, w.value⟩ : Slot)).or (h.slot? f) := by
  rw [overwrite, slot?_putAll hfits.hasAll]
  rw [show lastWrite? (writes.toList.map fun (f, w) => .write f w) f = writes[f]? from
    Effect.lastWrite?_writeList { args := [], writes } f]

theorem hasSlot_overwrite {h : Heap} {writes : FieldMap FieldWrite} (hfits : h.Fits writes)
    {f : FieldRef} {ty : FieldType} : (h.overwrite writes).HasSlot f ty ↔ h.HasSlot f ty :=
  hasSlot_putAll hfits.hasAll

theorem overwrite_empty (h : Heap) : h.overwrite ∅ = h := by
  rw [overwrite, ExtTreeMap.toList_eq_nil_iff.mpr rfl]
  rfl

/-- Overwriting the same slots gives the same heap. -/
theorem eq_overwrite {h g : Heap} {writes : FieldMap FieldWrite} (hfits : h.Fits writes)
    (hbare : g.bare = h.bare)
    (hslots : ∀ f,
      g.slot? f = ((writes[f]?).map fun w => (⟨w.type, w.value⟩ : Slot)).or (h.slot? f)) :
    g = h.overwrite writes :=
  ext_of_slots (hbare.trans (bare_putAll h _).symm) fun f => by rw [hslots, slot?_overwrite hfits]

theorem putSlot_overwrite {h : Heap} {writes : FieldMap FieldWrite} (hfits : h.Fits writes)
    {f : FieldRef} {w : FieldWrite} (hf : h.HasSlot f w.type) :
    (h.overwrite writes).putSlot f ⟨w.type, w.value⟩ = h.overwrite (writes.insert f w) := by
  refine eq_overwrite ?_ ((bare_putSlot _ f _).trans (bare_putAll h _)) fun g => ?_
  · intro g u hu
    rw [ExtTreeMap.getElem?_insert] at hu
    split at hu
    · rename_i heq
      obtain rfl := Std.compare_eq_iff_eq.mp heq
      obtain rfl := Option.some.inj hu
      exact hf
    · exact hfits g u hu
  · rw [slot?_putSlot ((hasSlot_overwrite hfits).mpr hf), slot?_overwrite hfits,
      ExtTreeMap.getElem?_insert]
    by_cases hfg : f = g <;> simp [hfg]

theorem overwrite_overwrite {h : Heap} {writes writes' : FieldMap FieldWrite}
    (hfits : h.Fits writes) (hfits' : h.Fits writes') :
    (h.overwrite writes).overwrite writes' = h.overwrite (writes ∪ writes') := by
  have hlater : (h.overwrite writes).Fits writes' := fun f w hw =>
    (hasSlot_overwrite hfits).mpr (hfits' f w hw)
  refine eq_overwrite ?_ ((bare_putAll _ _).trans (bare_putAll h _)) fun f => ?_
  · intro f w hw
    rw [ExtTreeMap.getElem?_union, Option.or_eq_some_iff] at hw
    rcases hw with hw | ⟨-, hw⟩
    · exact hfits' f w hw
    · exact hfits f w hw
  · rw [slot?_overwrite hlater, slot?_overwrite hfits, ExtTreeMap.getElem?_union]
    cases writes'[f]? <;> rfl

/-! ## Growth -/

/-- Every field is still there with its type, and no class needs an initialization that it did not
need before. -/
structure Extends (h g : Heap) : Prop where
  slots : ∀ f ty, h.HasSlot f ty → g.HasSlot f ty
  marks : ∀ id, h.markInitialized? id = none → g.markInitialized? id = none

namespace Extends

theorem refl (h : Heap) : h.Extends h := ⟨fun _ _ => id, fun _ => id⟩

theorem trans {h g k : Heap} (hg : h.Extends g) (hk : g.Extends k) : h.Extends k :=
  ⟨fun f ty hf => hk.slots f ty (hg.slots f ty hf), fun id hid => hk.marks id (hg.marks id hid)⟩

theorem fits {h g : Heap} (hg : h.Extends g) {writes : FieldMap FieldWrite}
    (hfits : h.Fits writes) : g.Fits writes :=
  fun f w hw => hg.slots f w.type (hfits f w hw)

theorem prepare? {h g : Heap} (hg : h.Extends g) {p : Program} {id : ClassId}
    (hnone : h.prepare? p id = none) : g.prepare? p id = none := by
  unfold Heap.prepare? at *
  split
  · rfl
  · rename_i initializer hinitializer
    rw [hinitializer] at hnone
    simp only [Option.map_eq_none_iff] at hnone ⊢
    exact hg.marks id hnone

end Extends

/-- Every slot holds a value of its type. -/
def Typed (h : Heap) : Prop := ∀ f s, h.slot? f = some s → s.value.conformsTo s.type = true

/-- What every operation on a heap keeps. -/
structure Becomes (h g : Heap) : Prop where
  grows : h.Extends g
  typed : h.Typed → g.Typed

namespace Becomes

theorem refl (h : Heap) : h.Becomes h := ⟨.refl h, id⟩

theorem trans {h g k : Heap} (hg : h.Becomes g) (hk : g.Becomes k) : h.Becomes k :=
  ⟨hg.grows.trans hk.grows, fun hh => hk.typed (hg.typed hh)⟩

/-- An operation that keeps all slots, and adds typed ones only. -/
theorem of_slots {h g : Heap} (hkept : ∀ f s, h.slot? f = some s → g.slot? f = some s)
    (hnew : ∀ f s, g.slot? f = some s →
      h.slot? f = some s ∨ s.value.conformsTo s.type = true)
    (hmarks : ∀ id, h.markInitialized? id = none → g.markInitialized? id = none) :
    h.Becomes g :=
  ⟨⟨fun f _ ⟨v, hv⟩ => ⟨v, hkept f _ hv⟩, hmarks⟩, fun hh f s hs =>
    (hnew f s hs).elim (hh f s) id⟩

end Becomes

theorem markInitialized?_eq_none {h : Heap} {id : ClassId} :
    h.markInitialized? id = none ↔ ∀ c ∈ h.classes[id.index]?, c.initialized = true := by
  unfold markInitialized?
  cases h.classes[id.index]? with
  | none => simp
  | some c => by_cases hc : c.initialized = true <;> simp [hc]

/-- Whether the class is marked as initialized; `none` if the heap has no such class. -/
def marks (h : Heap) (x : ClassId) : Option Bool := (h.classes[x.index]?).map (·.initialized)

theorem marks_modifyStorage (h : Heap) (owner : FieldOwner) (f : Storage → Storage) :
    (h.modifyStorage owner f).marks = h.marks := by
  funext x
  rcases owner with ⟨i⟩ | ⟨i⟩
  · rfl
  · simp only [marks, modifyStorage, Array.getElem?_modify]
    split <;> simp [Function.comp_def]

theorem marks_store {h h' : Heap} {field : FieldRef} {v : Value}
    (hstore : h.store field v = .ok h') : h'.marks = h.marks := by
  obtain ⟨slot, -, -, rfl⟩ := store_eq_ok hstore
  exact marks_modifyStorage _ _ _

theorem markInitialized?_of_classes {h g : Heap} (hclasses : g.classes = h.classes) {id : ClassId}
    (hid : h.markInitialized? id = none) : g.markInitialized? id = none := by
  rw [markInitialized?_eq_none] at *
  rwa [hclasses]

theorem markInitialized?_modifyStorage {h : Heap} {owner : FieldOwner} {f : Storage → Storage}
    {id : ClassId} (hid : h.markInitialized? id = none) :
    (h.modifyStorage owner f).markInitialized? id = none := by
  rw [markInitialized?_eq_none] at *
  intro c hc
  rcases owner with ⟨i⟩ | ⟨i⟩
  · exact hid c hc
  · simp only [modifyStorage, Array.getElem?_modify] at hc
    split at hc
    · obtain ⟨c', hc', rfl⟩ := Option.map_eq_some_iff.mp hc
      exact hid c' hc'
    · exact hid c hc

theorem becomes_putSlot {h : Heap} {field : FieldRef} {ty : FieldType} {v : Value}
    (hfield : h.HasSlot field ty) (hv : v.conformsTo ty = true) :
    h.Becomes (h.putSlot field ⟨ty, v⟩) := by
  refine ⟨⟨fun _ _ => (hasSlot_putSlot hfield v).mpr, fun _ => markInitialized?_modifyStorage⟩,
    fun hh f s hs => ?_⟩
  rw [slot?_putSlot hfield] at hs
  split at hs
  · obtain rfl := Option.some.inj hs
    exact hv
  · exact hh f s hs

theorem becomes_putAll {h : Heap} {l : List (FieldRef × FieldWrite)} (hthere : h.HasAll l) :
    h.Becomes (h.putAll l) := by
  induction l generalizing h with
  | nil => exact .refl h
  | cons e l ih =>
    have hput := becomes_putSlot (hthere e List.mem_cons_self)
      (Bool.and_eq_true_iff.mp e.2.storable).2
    exact hput.trans (ih hthere.tail)

theorem becomes_overwrite {h : Heap} {writes : FieldMap FieldWrite} (hfits : h.Fits writes) :
    h.Becomes (h.overwrite writes) :=
  becomes_putAll hfits.hasAll

theorem becomes_store {h h' : Heap} {field : FieldRef} {v : Value}
    (hstore : h.store field v = .ok h') : h.Becomes h' := by
  obtain ⟨slot, hslot, hv, rfl⟩ := store_eq_ok hstore
  exact becomes_putSlot ⟨slot.value, hslot⟩ hv

/-- Flags of owners are no slots. -/
theorem slot?_modifyStorage (h : Heap) (owner : FieldOwner) {f : Storage → Storage}
    (hf : ∀ s, (f s).fields = s.fields) (g : FieldRef) :
    (h.modifyStorage owner f).slot? g = h.slot? g := by
  unfold slot?
  rw [storage?_modifyStorage]
  split
  · cases h.storage? g.owner <;> simp [hf]
  · rfl

theorem becomes_modifyStorage (h : Heap) (owner : FieldOwner) {f : Storage → Storage}
    (hf : ∀ s, (f s).fields = s.fields) : h.Becomes (h.modifyStorage owner f) := by
  have hslot := slot?_modifyStorage h owner hf
  exact .of_slots (fun g s hs => (hslot g).trans hs) (fun g s hs => .inl ((hslot g).symm.trans hs))
    fun _ => markInitialized?_modifyStorage

theorem becomes_setThreads (h : Heap) (threads : Nat) : h.Becomes (h.setThreads threads) :=
  .of_slots (fun _ _ hs => hs) (fun _ _ => .inl) fun _ => markInitialized?_of_classes (by rfl)

theorem eq_of_markInitialized? {h h' : Heap} {id : ClassId}
    (hmark : h.markInitialized? id = some h') :
    h' = { h with classes := h.classes.modify id.index ({ · with initialized := true }) } := by
  unfold markInitialized? at hmark
  split at hmark
  · cases hmark
  · split at hmark
    · cases hmark
    · exact (Option.some.inj hmark).symm

theorem prepare?_eq_some {h h' : Heap} {p : Program} {id : ClassId} {initializer : RoutineId}
    (hprepare : h.prepare? p id = some (h', initializer)) :
    (p.class? id).bind (·.initializer) = some initializer ∧ h.markInitialized? id = some h' := by
  unfold prepare? at hprepare
  split at hprepare
  · cases hprepare
  · rename_i i hinitializer
    obtain ⟨marked, hmark, heq⟩ := Option.map_eq_some_iff.mp hprepare
    cases heq
    exact ⟨hinitializer, hmark⟩

/-- Marking a class marks that class only, and it was not marked. -/
theorem marks_mark {h h' : Heap} {id : ClassId} (hmark : h.markInitialized? id = some h') :
    h.marks id = some false ∧ ∀ x, h'.marks x = if x = id then some true else h.marks x := by
  obtain rfl := eq_of_markInitialized? hmark
  unfold markInitialized? at hmark
  split at hmark
  · cases hmark
  · rename_i c hc
    split at hmark
    · cases hmark
    · rename_i hunmarked
      have hfalse : c.initialized = false := by simpa using hunmarked
      refine ⟨by rw [marks, hc, Option.map_some, hfalse], fun ⟨i⟩ => ?_⟩
      simp only [marks, Array.getElem?_modify]
      obtain ⟨j⟩ := id
      by_cases hij : i = j
      · subst hij
        simp [show h.classes[i]? = some c from hc]
      · simp [hij, Ne.symm hij]

theorem slot?_mark {h h' : Heap} {id : ClassId} (hmark : h.markInitialized? id = some h')
    (f : FieldRef) : h'.slot? f = h.slot? f := by
  obtain rfl := eq_of_markInitialized? hmark
  rcases f with ⟨⟨i⟩ | ⟨i⟩, name⟩
  · rfl
  · simp only [slot?, storage?, Array.getElem?_modify]
    split <;> simp [Function.comp_def]

theorem becomes_mark {h h' : Heap} {id : ClassId} (hmark : h.markInitialized? id = some h') :
    h.Becomes h' := by
  have hslot := slot?_mark hmark
  refine .of_slots (fun f s hs => (hslot f).trans hs)
    (fun f s hs => .inl ((hslot f).symm.trans hs)) fun id' hid => ?_
  obtain rfl := eq_of_markInitialized? hmark
  rw [markInitialized?_eq_none] at *
  intro c hc
  simp only [Array.getElem?_modify] at hc
  split at hc
  · obtain ⟨c', -, rfl⟩ := Option.map_eq_some_iff.mp hc
    rfl
  · exact hid c hc

theorem slot?_setElement (h : Heap) (array : ObjectId) (index : Nat) (v : Value) (f : FieldRef) :
    (h.setElement array index v).slot? f = h.slot? f := by
  rcases f with ⟨⟨i⟩ | ⟨i⟩, name⟩
  · simp only [slot?, storage?, setElement, Array.getElem?_modify]
    split <;> simp [Function.comp_def]
  · rfl

theorem becomes_setElement (h : Heap) (array : ObjectId) (index : Nat) (v : Value) :
    h.Becomes (h.setElement array index v) := by
  have hslot := slot?_setElement h array index v
  exact .of_slots (fun f s hs => (hslot f).trans hs)
    (fun f s hs => .inl ((hslot f).symm.trans hs)) fun _ => markInitialized?_of_classes (by rfl)

/-- The type that a name is declared with; of two declarations the later one counts. -/
def declared? (fields : List (String × FieldType)) (name : String) : Option FieldType :=
  fields.reverse.lookup name

theorem declared?_cons (e : String × FieldType) (fields : List (String × FieldType))
    (name : String) :
    declared? (e :: fields) name =
      (declared? fields name).or (if e.1 = name then some e.2 else none) := by
  rw [declared?, List.reverse_cons, List.lookup_append, declared?, List.lookup_cons,
    List.lookup_nil]
  by_cases hname : e.1 = name
  · simp [hname]
  · have hbeq : (name == e.1) = false := beq_eq_false_iff_ne.mpr (Ne.symm hname)
    simp [hname, hbeq]

theorem getElem?_insertMany (fields : List (String × FieldType)) (t : ExtTreeMap String Slot)
    (name : String) :
    (t.insertMany (fields.map fun (name, ty) => (name, Slot.ofType ty)))[name]? =
      ((declared? fields name).map Slot.ofType).or t[name]? := by
  induction fields generalizing t with
  | nil => simp [declared?]
  | cons e fields ih =>
    rw [List.map_cons, ExtTreeMap.insertMany_cons, ih, ExtTreeMap.getElem?_insert, declared?_cons]
    cases declared? fields name with
    | some ty => simp
    | none => by_cases hname : e.1 = name <;> simp [hname]

/-- Declared fields are there, unwritten. -/
theorem getElem?_ofDeclarations (fields : List (String × FieldType)) (name : String) :
    (Storage.ofDeclarations fields).fields[name]? = (declared? fields name).map Slot.ofType := by
  rw [Storage.ofDeclarations, ExtTreeMap.ofList_eq_insertMany_empty, getElem?_insertMany]
  simp

theorem typed_ofDeclarations (fields : List (String × FieldType)) {name : String} {slot : Slot}
    (hslot : (Storage.ofDeclarations fields).fields[name]? = some slot) :
    slot.value.conformsTo slot.type = true := by
  rw [getElem?_ofDeclarations] at hslot
  obtain ⟨ty, -, rfl⟩ := Option.map_eq_some_iff.mp hslot
  cases ty <;> rfl

/-- The new object has its fields, and every other owner keeps its own. -/
theorem slot?_add (h : Heap) (o : HeapObject) (f : FieldRef) :
    (h.add o).2.slot? f =
      if f.owner = .object h.nextObjectId then o.fields[f.name]? else h.slot? f := by
  rcases f with ⟨⟨⟨i⟩⟩ | ⟨⟨i⟩⟩, name⟩
  · simp only [slot?, storage?, add, nextObjectId, Array.getElem?_push, FieldOwner.object.injEq,
      ObjectId.mk.injEq]
    split <;> rfl
  · rfl

/-- The new object had no fields before. -/
theorem slot?_nextObjectId {h : Heap} {f : FieldRef} (hf : f.owner = .object h.nextObjectId) :
    h.slot? f = none := by
  simp [slot?, storage?, hf, nextObjectId]

theorem becomes_add (h : Heap) (o : HeapObject)
    (ho : ∀ (name : String) (s : Slot), o.fields[name]? = some s →
      s.value.conformsTo s.type = true) : h.Becomes (h.add o).2 := by
  refine .of_slots (fun f s hs => ?_) (fun f s hs => ?_) fun _ =>
    markInitialized?_of_classes (by rfl)
  · rw [slot?_add]
    split
    · rename_i hf
      rw [slot?_nextObjectId hf] at hs
      cases hs
    · exact hs
  · rw [slot?_add] at hs
    split at hs
    · exact .inr (ho f.name s hs)
    · exact .inl hs

theorem becomes_allocate (h : Heap) (id : ClassId) (c : ClassDef) :
    h.Becomes (h.allocate id c).2 :=
  becomes_add h _ fun _ _ => typed_ofDeclarations c.fields

theorem becomes_allocateArray (h : Heap) (length : Nat) : h.Becomes (h.allocateArray length).2 :=
  becomes_add h _ fun _ _ hs => by simp at hs

theorem typed_ofClasses (classes : Array ClassDef) : (ofClasses classes).Typed := by
  rintro ⟨⟨i⟩ | ⟨i⟩, name⟩ s hs
  · simp [slot?, storage?, ofClasses] at hs
  · simp only [slot?, storage?, ofClasses, Array.getElem?_map, Option.map_map] at hs
    cases hc : classes[i.index]? with
    | none => rw [hc] at hs; cases hs
    | some c =>
      rw [hc] at hs
      exact typed_ofDeclarations c.statics hs

end Heap

/-! ## Effects on a heap -/

open Heap

/-- Writes of the right types are all accepted, and leave the operand stack alone. -/
theorem applyAll_frameView {h : Heap} (stack : List Value) {l : List (FieldRef × FieldWrite)}
    (hthere : h.HasAll l) :
    Effect.applyAll l (FrameView.mk h stack) = ⟨⟨h.putAll l, stack⟩, none⟩ := by
  induction l generalizing h with
  | nil => rfl
  | cons e l ih =>
    obtain ⟨f, w⟩ := e
    obtain ⟨v, hv⟩ := hthere (f, w) List.mem_cons_self
    have hwrite : Host.write (FrameView.mk h stack) w.type f w.value =
        .ok ⟨h.putSlot f ⟨w.type, w.value⟩, stack⟩ := by
      rw [Host.write_of_storable w.storable]
      show (h.store f w.value).map _ = _
      rw [store_eq_putSlot hv (Bool.and_eq_true_iff.mp w.storable).2]
      rfl
    simp only [Effect.applyAll, hwrite]
    exact ih hthere.tail

theorem apply_frameView {h : Heap} (stack : List Value) {e : Effect} (hfits : h.Fits e.writes) :
    e.apply (FrameView.mk h stack) = ⟨⟨h.overwrite e.writes, stack⟩, none⟩ :=
  applyAll_frameView stack hfits.hasAll

end Reprise
