import Reprise.Recording
import Reprise.Recorder.Deliver

/-!
# Accesses, and what a recording keeps of them

An `Access` is a read of a field with the value found, or a write with the value stored.  Of a list
of accesses a recording keeps, for each field, the first access if it is a read, and the last write:

    (r.observeAll l).precondition.tracked[f]? =
      r.precondition.tracked[f]?.or (if f ∈ r.effect.writes then none else firstRead? l f)
                                                                            (tracked_observeAll)
    (r.observeAll l).effect.writes[f]? = (lastWrite? l f).or r.effect.writes[f]?
                                                                            (writes_observeAll)

Everything else of the recording stays (`SameInvocation`).  A summary is the accesses
`Summary.accesses`: what it tracks is read first, then its writes are made, and absorbing it is
observing them (`absorb_eq_observeAll`).
-/

namespace Reprise

open Std

/-- A read of a field with the value found, or a write of a conforming value. -/
inductive Access where
  | read (field : FieldRef) (v : Value)
  | write (field : FieldRef) (w : FieldWrite)

namespace Access

def field : Access → FieldRef
  | read f _ => f
  | write f _ => f

/-- The value found, if the access is a read. -/
def readValue? : Access → Option Value
  | read _ v => some v
  | write _ _ => none

/-- The write to the field, if the access is one. -/
def writeTo? (f : FieldRef) : Access → Option FieldWrite
  | read _ _ => none
  | write g w => if g = f then some w else none

/-- The field and what is written to it, if the access is a write. -/
def write? : Access → Option (FieldRef × FieldWrite)
  | read _ _ => none
  | write f w => some (f, w)

end Access

/-- The value of the first access to the field, if that is a read. -/
def firstRead? (l : List Access) (f : FieldRef) : Option Value :=
  (l.find? (·.field = f)).bind Access.readValue?

/-- The last write to the field. -/
def lastWrite? (l : List Access) (f : FieldRef) : Option FieldWrite :=
  l.reverse.findSome? (Access.writeTo? f)

/-- The writes of the list in order. -/
def writesOf (l : List Access) : List (FieldRef × FieldWrite) := l.filterMap Access.write?

/-! ## Lists -/

@[simp] theorem firstRead?_nil (f : FieldRef) : firstRead? [] f = none := rfl

theorem firstRead?_cons (a : Access) (l : List Access) (f : FieldRef) :
    firstRead? (a :: l) f = if a.field = f then a.readValue? else firstRead? l f := by
  unfold firstRead?
  rw [List.find?_cons]
  by_cases h : a.field = f <;> simp [h]

@[simp] theorem lastWrite?_nil (f : FieldRef) : lastWrite? [] f = none := rfl

theorem lastWrite?_cons (a : Access) (l : List Access) (f : FieldRef) :
    lastWrite? (a :: l) f = (lastWrite? l f).or (a.writeTo? f) := by
  unfold lastWrite?
  rw [List.reverse_cons, List.findSome?_append]
  cases h : a.writeTo? f <;> simp [h]

theorem firstRead?_append (l l' : List Access) (f : FieldRef) :
    firstRead? (l ++ l') f = if ∃ a ∈ l, a.field = f then firstRead? l f else firstRead? l' f := by
  induction l with
  | nil => simp
  | cons a l ih =>
    rw [List.cons_append, firstRead?_cons, firstRead?_cons, ih]
    by_cases h : a.field = f <;> simp [h]

theorem lastWrite?_append (l l' : List Access) (f : FieldRef) :
    lastWrite? (l ++ l') f = (lastWrite? l' f).or (lastWrite? l f) := by
  unfold lastWrite?
  rw [List.reverse_append, List.findSome?_append]

/-! ## Observing a list -/

namespace Recording

/-- Notes one access. -/
def observe (r : Recording) : Access → Recording
  | .read f v => r.observeRead f v
  | .write f w => r.observeWrite f w

/-- Notes accesses one by one. -/
def observeAll (r : Recording) (l : List Access) : Recording := l.foldl observe r

@[simp] theorem observeAll_nil (r : Recording) : r.observeAll [] = r := rfl

@[simp] theorem observeAll_cons (r : Recording) (a : Access) (l : List Access) :
    r.observeAll (a :: l) = (r.observe a).observeAll l := rfl

theorem observeAll_append (r : Recording) (l l' : List Access) :
    r.observeAll (l ++ l') = (r.observeAll l).observeAll l' := List.foldl_append

/-- The recording of an invocation that has done nothing yet. -/
def ofInvocation (i : Invocation) (singleThreaded : Bool) : Recording :=
  { routine := i.routine
    name := i.name
    depth := i.depth
    returns := i.returns
    precondition := { args := i.args, callee := i.callee, singleThreaded }
    effect := { args := i.args } }

/-- What the accesses of an invocation do not change in its recording. -/
structure SameInvocation (r s : Recording) : Prop where
  routine : s.routine = r.routine
  name : s.name = r.name
  depth : s.depth = r.depth
  returns : s.returns = r.returns
  args : s.precondition.args = r.precondition.args
  callee : s.precondition.callee = r.precondition.callee
  singleThreaded : s.precondition.singleThreaded = r.precondition.singleThreaded
  effectArgs : s.effect.args = r.effect.args
  returnValue : s.effect.returnValue = r.effect.returnValue

namespace SameInvocation

theorem refl (r : Recording) : SameInvocation r r := ⟨rfl, rfl, rfl, rfl, rfl, rfl, rfl, rfl, rfl⟩

theorem trans {r s t : Recording} (h : SameInvocation r s) (h' : SameInvocation s t) :
    SameInvocation r t :=
  ⟨h'.routine.trans h.routine, h'.name.trans h.name, h'.depth.trans h.depth,
    h'.returns.trans h.returns, h'.args.trans h.args, h'.callee.trans h.callee,
    h'.singleThreaded.trans h.singleThreaded, h'.effectArgs.trans h.effectArgs,
    h'.returnValue.trans h.returnValue⟩

end SameInvocation

/-- Two recordings of one invocation are equal once they track and write the same. -/
theorem eq_of_sameInvocation {r s t : Recording} (hs : SameInvocation r s)
    (ht : SameInvocation r t)
    (hreads : ∀ f : FieldRef, s.precondition.tracked[f]? = t.precondition.tracked[f]?)
    (hwrites : ∀ f : FieldRef, s.effect.writes[f]? = t.effect.writes[f]?) : s = t := by
  obtain ⟨sr, sn, sd, st, ⟨sa, sc, sf, sp⟩, ⟨se, sw, sv⟩⟩ := s
  obtain ⟨tr, tn, td, tt, ⟨ta, tc, tf, tp⟩, ⟨te, tw, tv⟩⟩ := t
  obtain ⟨h1, h2, h3, h4, h5, h6, h7, h8, h9⟩ := hs
  obtain ⟨k1, k2, k3, k4, k5, k6, k7, k8, k9⟩ := ht
  have hp : sp = tp := ExtTreeMap.ext_getElem? hreads
  have hw : sw = tw := ExtTreeMap.ext_getElem? hwrites
  simp_all

theorem sameInvocation_observe (r : Recording) (a : Access) : SameInvocation r (r.observe a) := by
  cases a with
  | read f v =>
    by_cases h : f ∈ r.effect.writes
    · simp only [observe, observeRead, if_pos h]
      exact .refl r
    · simp only [observe, observeRead, if_neg h]
      exact ⟨rfl, rfl, rfl, rfl, rfl, rfl, rfl, rfl, rfl⟩
  | write f w => exact ⟨rfl, rfl, rfl, rfl, rfl, rfl, rfl, rfl, rfl⟩

theorem sameInvocation_observeAll (r : Recording) (l : List Access) :
    SameInvocation r (r.observeAll l) := by
  induction l generalizing r with
  | nil => exact .refl r
  | cons a l ih => exact (sameInvocation_observe r a).trans (ih _)

theorem tracked_observe (r : Recording) (a : Access) (f : FieldRef) :
    (r.observe a).precondition.tracked[f]? =
      (r.precondition.tracked[f]?).or
        (if f ∈ r.effect.writes ∨ a.field ≠ f then none else a.readValue?) := by
  cases a with
  | read g v =>
    simp only [observe, observeRead, Access.field, Access.readValue?]
    split
    · by_cases h : g = f
      · subst h; simp [*]
      · simp [h]
    · by_cases h : g = f
      · subst h; grind [Precondition.track]
      · grind [Precondition.track]
  | write g w => simp [observe, observeWrite, Access.readValue?]

theorem writes_observe (r : Recording) (a : Access) (f : FieldRef) :
    (r.observe a).effect.writes[f]? = (a.writeTo? f).or r.effect.writes[f]? := by
  cases a with
  | read g v =>
    simp only [observe, observeRead, Access.writeTo?]
    split <;> simp
  | write g w =>
    simp only [observe, observeWrite, Effect.record, Access.writeTo?, ExtTreeMap.getElem?_insert,
      Std.compare_eq_iff_eq]
    split <;> simp

theorem mem_writes_observe (r : Recording) (a : Access) (f : FieldRef) :
    f ∈ (r.observe a).effect.writes ↔ (a.writeTo? f).isSome ∨ f ∈ r.effect.writes := by
  rw [ExtTreeMap.mem_iff_isSome_getElem?, ExtTreeMap.mem_iff_isSome_getElem?, writes_observe,
    Option.isSome_or, Bool.or_eq_true]

/-- The last write to each field is kept. -/
theorem writes_observeAll (r : Recording) (l : List Access) (f : FieldRef) :
    (r.observeAll l).effect.writes[f]? = (lastWrite? l f).or r.effect.writes[f]? := by
  induction l generalizing r with
  | nil => simp
  | cons a l ih =>
    rw [observeAll_cons, ih, writes_observe, lastWrite?_cons, Option.or_assoc]

/-- The first access to a field is kept, if it is a read and the field was not written before. -/
theorem tracked_observeAll (r : Recording) (l : List Access) (f : FieldRef) :
    (r.observeAll l).precondition.tracked[f]? =
      (r.precondition.tracked[f]?).or
        (if f ∈ r.effect.writes then none else firstRead? l f) := by
  induction l generalizing r with
  | nil => simp
  | cons a l ih =>
    rw [observeAll_cons, ih, tracked_observe, Option.or_assoc]
    congr 1
    rw [firstRead?_cons]
    by_cases hw : f ∈ r.effect.writes
    · rw [if_pos ((mem_writes_observe r a f).mpr (.inr hw))]
      simp [hw]
    · by_cases hf : a.field = f
      · -- the first access to `f`: a write hides all later reads, a read is what is kept
        cases a with
        | read g v => simp [hw, hf, Access.readValue?]
        | write g w =>
          have hmem : f ∈ (r.observe (.write g w)).effect.writes :=
            (mem_writes_observe r _ f).mpr (.inl (by simp [Access.writeTo?, show g = f from hf]))
          simp [hw, hf, hmem, Access.readValue?]
      · have hmem : f ∉ (r.observe a).effect.writes := by
          rw [mem_writes_observe]
          cases a <;> simp_all [Access.writeTo?, Access.field]
        simp [hw, hf, hmem]

/-- Of a list, only first reads and last writes count. -/
theorem observeAll_congr (r : Recording) {l l' : List Access}
    (hreads : ∀ f, firstRead? l f = firstRead? l' f)
    (hwrites : ∀ f, lastWrite? l f = lastWrite? l' f) : r.observeAll l = r.observeAll l' := by
  refine eq_of_sameInvocation (sameInvocation_observeAll r l) (sameInvocation_observeAll r l')
    (fun f => ?_) (fun f => ?_)
  · rw [tracked_observeAll, tracked_observeAll, hreads]
  · rw [writes_observeAll, writes_observeAll, hwrites]

theorem tracked_ofInvocation_observeAll (i : Invocation) (singleThreaded : Bool) (l : List Access)
    (f : FieldRef) :
    ((ofInvocation i singleThreaded).observeAll l).precondition.tracked[f]? = firstRead? l f := by
  simp [tracked_observeAll, ofInvocation]

theorem writes_ofInvocation_observeAll (i : Invocation) (singleThreaded : Bool) (l : List Access)
    (f : FieldRef) :
    ((ofInvocation i singleThreaded).observeAll l).effect.writes[f]? = lastWrite? l f := by
  simp [writes_observeAll, ofInvocation]

end Recording

/-! ## Summaries as accesses -/

theorem mem_of_firstRead? {l : List Access} {f : FieldRef} {v : Value}
    (h : firstRead? l f = some v) : Access.read f v ∈ l := by
  induction l with
  | nil => simp at h
  | cons a l ih =>
    rw [firstRead?_cons] at h
    split at h
    · rename_i hf
      cases a with
      | read g u =>
        obtain rfl : g = f := hf
        obtain rfl : u = v := Option.some.inj h
        exact List.mem_cons_self
      | write g w => cases h
    · exact List.mem_cons_of_mem _ (ih h)

theorem mem_of_lastWrite? {l : List Access} {f : FieldRef} {w : FieldWrite}
    (h : lastWrite? l f = some w) : Access.write f w ∈ l := by
  obtain ⟨a, ha, haw⟩ := List.exists_of_findSome?_eq_some h
  cases a with
  | read g v => cases haw
  | write g u =>
    simp only [Access.writeTo?, Option.ite_none_right_eq_some, Option.some.injEq] at haw
    obtain ⟨rfl, rfl⟩ := haw
    exact List.mem_reverse.mp ha

theorem lastWrite?_eq_none {l : List Access} {f : FieldRef} :
    lastWrite? l f = none ↔ ∀ w, Access.write f w ∉ l := by
  constructor
  · intro h w hw
    have := List.findSome?_eq_none_iff.mp h _ (List.mem_reverse.mpr hw)
    simp [Access.writeTo?] at this
  · intro h
    cases hl : lastWrite? l f with
    | none => rfl
    | some w => exact absurd (mem_of_lastWrite? hl) (h w)

theorem firstRead?_reads (l : List (FieldRef × Value)) (f : FieldRef) :
    firstRead? (l.map fun (f, v) => .read f v) f = (l.find? (·.1 = f)).map Prod.snd := by
  induction l with
  | nil => rfl
  | cons e l ih =>
    rw [List.map_cons, firstRead?_cons, ih, List.find?_cons]
    by_cases h : e.1 = f <;> simp [h, Access.field, Access.readValue?]

theorem firstRead?_writes (l : List (FieldRef × FieldWrite)) (f : FieldRef) :
    firstRead? (l.map fun (f, w) => .write f w) f = none := by
  refine Option.eq_none_iff_forall_ne_some.mpr fun v hv => ?_
  simpa using mem_of_firstRead? hv

theorem lastWrite?_reads (l : List (FieldRef × Value)) (f : FieldRef) :
    lastWrite? (l.map fun (f, v) => .read f v) f = none := by
  simp [lastWrite?_eq_none]

/-- What the summary depends on as reads, then what it changes as writes. -/
def Summary.accesses (s : Summary) : List Access :=
  s.precondition.trackedFields.map (fun (f, v) => .read f v) ++
    s.effect.writeList.map (fun (f, w) => .write f w)

theorem Precondition.firstRead?_trackedFields (p : Precondition) (f : FieldRef) :
    firstRead? (p.trackedFields.map fun (f, v) => .read f v) f = p.tracked[f]? := by
  rw [firstRead?_reads]
  cases hl : p.trackedFields.find? (·.1 = f) with
  | none =>
    refine (Option.eq_none_iff_forall_ne_some.mpr fun v hv => ?_).symm
    have hmem : (f, v) ∈ p.trackedFields := ExtTreeMap.mem_toList_iff_getElem?_eq_some.mpr hv
    simpa using List.find?_eq_none.mp hl _ hmem
  | some e =>
    have hf : e.1 = f := by simpa using List.find?_some hl
    have he := ExtTreeMap.mem_toList_iff_getElem?_eq_some.mp (List.mem_of_find?_eq_some hl)
    rw [← hf]
    exact he.symm

theorem Effect.lastWrite?_writeList (e : Effect) (f : FieldRef) :
    lastWrite? (e.writeList.map fun (f, w) => .write f w) f = e.writes[f]? := by
  have hmem : ∀ w, Access.write f w ∈ e.writeList.map (fun (f, w) => .write f w) ↔
      e.writes[f]? = some w := by
    simp [writeList, ExtTreeMap.mem_toList_iff_getElem?_eq_some]
  cases h : lastWrite? (e.writeList.map fun (f, w) => .write f w) f with
  | some w => exact ((hmem w).mp (mem_of_lastWrite? h)).symm
  | none =>
    refine (Option.eq_none_iff_forall_ne_some.mpr fun w hw => ?_).symm
    exact lastWrite?_eq_none.mp h w ((hmem w).mpr hw)

theorem Summary.lastWrite?_accesses (s : Summary) (f : FieldRef) :
    lastWrite? s.accesses f = s.effect.writes[f]? := by
  rw [accesses, lastWrite?_append, Effect.lastWrite?_writeList, lastWrite?_reads, Option.or_none]

theorem Summary.firstRead?_accesses (s : Summary) (f : FieldRef) :
    firstRead? s.accesses f = s.precondition.tracked[f]? := by
  rw [accesses, firstRead?_append, firstRead?_writes, Precondition.firstRead?_trackedFields]
  split
  · rfl
  · rename_i h
    refine (Option.eq_none_iff_forall_ne_some.mpr fun v hv => h ?_).symm
    exact ⟨.read f v, List.mem_map_of_mem (ExtTreeMap.mem_toList_iff_getElem?_eq_some.mpr hv), rfl⟩

namespace Recording

/-- Absorbing a summary is observing its accesses. -/
theorem absorb_eq_observeAll (r : Recording) (s : Summary) :
    r.absorb s = r.observeAll s.accesses := by
  unfold Summary.accesses
  rw [observeAll_append]
  have hread : r.observeAll (s.precondition.trackedFields.map fun (f, v) => .read f v) =
      s.precondition.trackedFields.foldl (fun r (f, v) => r.observeRead f v) r := List.foldl_map
  rw [hread]
  unfold absorb
  generalize s.precondition.trackedFields.foldl (fun r (f, v) => r.observeRead f v) r = read
  refine eq_of_sameInvocation (r := read) ⟨rfl, rfl, rfl, rfl, rfl, rfl, rfl, rfl, rfl⟩
    (sameInvocation_observeAll _ _) (fun f => ?_) (fun f => ?_)
  · simp [tracked_observeAll, firstRead?_writes]
  · rw [writes_observeAll, Effect.lastWrite?_writeList]
    exact ExtTreeMap.getElem?_union

end Recording

end Reprise
