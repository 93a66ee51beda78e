import Reprise.Proofs.Access
import Reprise.Host.Map

/-!
# Preconditions and effects are exact

A host performs a list of accesses (`Performs`) if every read finds the value it names and every
write is taken; the list is valid from the host (`ValidFrom`) if the host can perform it.  What is
recorded of a valid list is neither too strong nor too weak, on every host that has the written
fields:

    ValidFrom l h' ↔ recorded.precondition.fieldsHoldIn h' = true
    Performs l h' final → recorded.effect.apply h' ends in the state of final (recorded_exact)

Both sides of the first line come down to one condition on positions in the list
(`validFrom_iff`): a read finds the last write before it, and what the host holds if there is none.
Both sides of the second come down to the fields of `h'` with the writes of the list put in, one
after the other (`state_of_performs`, `apply_eq_insertAll`).
-/

namespace Reprise

open Std

variable {η : Type} [MapHost η]

/-- The host performs the accesses in order, finding what the reads say, and ends as the second. -/
inductive Performs : List Access → η → η → Prop where
  | nil {h} : Performs [] h h
  | read {f v l h h'} (hread : Host.field? h f = some v) (hrest : Performs l h h') :
    Performs (.read f v :: l) h h'
  | write {f w l h h₁ h'} (hwrite : Host.write h w.type f w.value = .ok h₁)
    (hrest : Performs l h₁ h') : Performs (.write f w :: l) h h'

/-- Whether the host can perform the accesses in order, finding what the reads say. -/
def ValidFrom (l : List Access) (h : η) : Prop := ∃ h', Performs l h h'

theorem validFrom_nil (h : η) : ValidFrom [] h := ⟨h, .nil⟩

theorem validFrom_read {f : FieldRef} {v : Value} {l : List Access} {h : η} :
    ValidFrom (.read f v :: l) h ↔ Host.field? h f = some v ∧ ValidFrom l h := by
  constructor
  · rintro ⟨h', hperforms⟩
    cases hperforms with
    | read hread hrest => exact ⟨hread, h', hrest⟩
  · rintro ⟨hread, h', hrest⟩
    exact ⟨h', .read hread hrest⟩

theorem validFrom_write {f : FieldRef} {w : FieldWrite} {l : List Access} {h : η} :
    ValidFrom (.write f w :: l) h ↔
      ∃ h₁, Host.write h w.type f w.value = .ok h₁ ∧ ValidFrom l h₁ := by
  constructor
  · rintro ⟨h', hperforms⟩
    cases hperforms with
    | write hwrite hrest => exact ⟨_, hwrite, h', hrest⟩
  · rintro ⟨h₁, hwrite, h', hrest⟩
    exact ⟨h', .write hwrite hrest⟩

/-- Whether the host has every field that the list writes. -/
def HasWritten (l : List Access) (h : η) : Prop :=
  ∀ f w, Access.write f w ∈ l → (Host.field? h f).isSome

/-! ## Performing writes -/

/-- The map with some writes performed in order. -/
def insertAll (m : FieldMap Value) (l : List (FieldRef × FieldWrite)) : FieldMap Value :=
  l.foldl (fun m (f, w) => m.insert f w.value) m

theorem applyAll_state (l : List (FieldRef × FieldWrite)) (h : η)
    (hl : ∀ e ∈ l, e.1 ∈ (MapHost.state h).fields) :
    (Effect.applyAll l h).failure = none ∧
      MapHost.state (Effect.applyAll l h).host =
        { MapHost.state h with fields := insertAll (MapHost.state h).fields l } := by
  induction l generalizing h with
  | nil => exact ⟨rfl, rfl⟩
  | cons e l ih =>
    obtain ⟨f, w⟩ := e
    obtain ⟨h', hwrite, hstate⟩ := MapHost.write_eq_ok w (hl (f, w) List.mem_cons_self)
    have hl' : ∀ e ∈ l, e.1 ∈ (MapHost.state h').fields := by
      intro e he
      rw [hstate]
      simp [hl e (List.mem_cons_of_mem _ he)]
    obtain ⟨hfail, hhost⟩ := ih h' hl'
    unfold Effect.applyAll
    rw [hwrite]
    refine ⟨hfail, ?_⟩
    rw [hhost, hstate]
    rfl

theorem getElem?_insertAll (m : FieldMap Value) (l : List Access) (f : FieldRef) :
    (insertAll m (writesOf l))[f]? = ((lastWrite? l f).map (·.value)).or m[f]? := by
  induction l generalizing m with
  | nil => simp [insertAll, writesOf]
  | cons a l ih =>
    rw [lastWrite?_cons]
    cases a with
    | read g v =>
      rw [Access.writeTo?, Option.or_none]
      exact ih m
    | write g w =>
      have hrest : insertAll m (writesOf (.write g w :: l)) =
        insertAll (m.insert g w.value) (writesOf l) := rfl
      rw [hrest, ih, ExtTreeMap.getElem?_insert]
      cases lastWrite? l f <;> by_cases h : g = f <;> simp [Access.writeTo?, h]

theorem writesOf_writes (l : List (FieldRef × FieldWrite)) :
    writesOf (l.map fun (f, w) => .write f w) = l := by
  induction l with
  | nil => rfl
  | cons e l ih => exact congrArg (e :: ·) ih

theorem field?_of_write {h h' : η} {f : FieldRef} {w : FieldWrite}
    (hwrite : Host.write h w.type f w.value = .ok h') (g : FieldRef) :
    Host.field? h' g = if f = g then some w.value else Host.field? h g := by
  rw [MapHost.field?_eq, MapHost.field?_eq, MapHost.state_of_write hwrite,
    ExtTreeMap.getElem?_insert]
  simp only [Std.compare_eq_iff_eq]

/-- A host that performed the accesses has the writes of the list put in, and is otherwise as it
was. -/
theorem state_of_performs {l : List Access} {h h' : η} (hperforms : Performs l h h') :
    MapHost.state h' =
      { MapHost.state h with fields := insertAll (MapHost.state h).fields (writesOf l) } := by
  induction hperforms with
  | nil => rfl
  | read _ _ ih => exact ih
  | write hwrite _ ih =>
    rw [ih, MapHost.state_of_write hwrite]
    rfl

/-! ## Validity by positions -/

/-- Whether each read of the list finds the last write before it, or what the host holds if there
is none. -/
def ReadsFit (l : List Access) (h : η) : Prop :=
  ∀ before f v after, l = before ++ Access.read f v :: after →
    ((lastWrite? before f).map (·.value)).or (Host.field? h f) = some v

theorem readsFit_read {f : FieldRef} {v : Value} {l : List Access} {h : η} :
    ReadsFit (.read f v :: l) h ↔ Host.field? h f = some v ∧ ReadsFit l h := by
  constructor
  · intro hfit
    refine ⟨by simpa using hfit [] f v l rfl, fun before g u after hl => ?_⟩
    have := hfit (.read f v :: before) g u after (by rw [hl]; rfl)
    simpa [lastWrite?_cons, Access.writeTo?] using this
  · rintro ⟨hread, hfit⟩ before g u after hl
    cases before with
    | nil =>
      obtain ⟨hgu, -⟩ := List.cons.inj hl
      cases hgu
      simpa using hread
    | cons a before =>
      obtain ⟨rfl, htail⟩ := List.cons.inj hl
      simpa [lastWrite?_cons, Access.writeTo?] using hfit before g u after htail

theorem readsFit_write {f : FieldRef} {w : FieldWrite} {l : List Access} {h h' : η}
    (hwrite : Host.write h w.type f w.value = .ok h') :
    ReadsFit (.write f w :: l) h ↔ ReadsFit l h' := by
  -- the write is what a later read finds, unless something was written in between
  have hshift : ∀ before g, ((lastWrite? (.write f w :: before) g).map (·.value)).or
      (Host.field? h g) = ((lastWrite? before g).map (·.value)).or (Host.field? h' g) := by
    intro before g
    rw [field?_of_write hwrite, lastWrite?_cons]
    cases lastWrite? before g <;> by_cases hf : f = g <;> simp [Access.writeTo?, hf]
  constructor
  · intro hfit before g u after hl
    rw [← hshift]
    exact hfit (.write f w :: before) g u after (by rw [hl]; rfl)
  · intro hfit before g u after hl
    cases before with
    | nil => cases hl
    | cons a before =>
      obtain ⟨rfl, htail⟩ := List.cons.inj hl
      rw [hshift]
      exact hfit before g u after htail

/-- Where the written fields are there, a list is valid if its reads fit. -/
theorem validFrom_iff (l : List Access) (h : η) :
    ValidFrom l h ↔ HasWritten l h ∧ ReadsFit l h := by
  induction l generalizing h with
  | nil => simp [validFrom_nil, HasWritten, ReadsFit]
  | cons a l ih =>
    cases a with
    | read f v =>
      rw [validFrom_read, ih, readsFit_read]
      have : HasWritten (.read f v :: l) h ↔ HasWritten l h := by simp [HasWritten]
      rw [this, and_left_comm]
    | write f w =>
      rw [validFrom_write]
      constructor
      · rintro ⟨h', hwrite, hvalid⟩
        obtain ⟨hthere, hfit⟩ := (ih h').mp hvalid
        refine ⟨fun g u hmem => ?_, (readsFit_write hwrite).mpr hfit⟩
        rcases List.mem_cons.mp hmem with heq | hmem
        · cases heq
          rw [MapHost.field?_eq, ← ExtTreeMap.mem_iff_isSome_getElem?]
          exact MapHost.mem_fields_of_write hwrite
        · have := hthere g u hmem
          rw [field?_of_write hwrite] at this
          split at this
          · rename_i hf
            subst hf
            rw [MapHost.field?_eq, ← ExtTreeMap.mem_iff_isSome_getElem?]
            exact MapHost.mem_fields_of_write hwrite
          · exact this
      · rintro ⟨hthere, hfit⟩
        have hf := hthere f w List.mem_cons_self
        rw [MapHost.field?_eq, ← ExtTreeMap.mem_iff_isSome_getElem?] at hf
        obtain ⟨h', hwrite, -⟩ := MapHost.write_eq_ok w hf
        refine ⟨h', hwrite, (ih h').mpr ⟨fun g u hmem => ?_, (readsFit_write hwrite).mp hfit⟩⟩
        rw [field?_of_write hwrite]
        split
        · rfl
        · exact hthere g u (List.mem_cons_of_mem _ hmem)

/-! ## Top theorem -/

theorem fieldsHoldIn_iff {η : Type} [Host η] (p : Precondition) (h : η) :
    p.fieldsHoldIn h = true ↔ ∀ f v, p.tracked[f]? = some v → Host.field? h f = some v := by
  simp only [Precondition.fieldsHoldIn, List.all_eq_true, beq_iff_eq, Prod.forall,
    Precondition.trackedFields, ExtTreeMap.mem_toList_iff_getElem?_eq_some]

theorem split_of_firstRead? {l : List Access} {f : FieldRef} {v : Value}
    (h : firstRead? l f = some v) :
    ∃ before after, l = before ++ Access.read f v :: after ∧ lastWrite? before f = none := by
  obtain ⟨a, ha, hv⟩ := Option.bind_eq_some_iff.mp h
  obtain ⟨hf, before, after, rfl, hbefore⟩ := List.find?_eq_some_iff_append.mp ha
  cases a with
  | write g w => cases hv
  | read g u =>
    obtain rfl : g = f := of_decide_eq_true hf
    obtain rfl : u = v := Option.some.inj hv
    refine ⟨before, after, rfl, lastWrite?_eq_none.mpr fun w hw => ?_⟩
    simpa [Access.field] using hbefore _ hw

/-- What the list reads before writing it has to be what the host holds. -/
theorem field?_of_firstRead? {l : List Access} {h : η} (hfit : ReadsFit l h) {f : FieldRef}
    {v : Value} (hfirst : firstRead? l f = some v) : Host.field? h f = some v := by
  obtain ⟨before, after, hl, hnone⟩ := split_of_firstRead? hfirst
  simpa [hnone] using hfit before f v after hl

/-- A read that no write comes before has a first access that is a read too. -/
theorem firstRead?_isSome {before : List Access} {f : FieldRef} (v : Value) (after : List Access)
    (hnone : lastWrite? before f = none) :
    (firstRead? (before ++ .read f v :: after) f).isSome := by
  induction before with
  | nil => simp [firstRead?_cons, Access.field, Access.readValue?]
  | cons a before ih =>
    rw [lastWrite?_cons, Option.or_eq_none_iff] at hnone
    rw [List.cons_append, firstRead?_cons]
    cases a with
    | read g u =>
      split
      · rfl
      · exact ih hnone.1
    | write g w =>
      have hg : g ≠ f := by simpa [Access.writeTo?] using hnone.2
      rw [if_neg (show ¬(Access.write g w).field = f from hg)]
      exact ih hnone.1

/-- If the first reads of a list are true of a host, its reads fit there as they do elsewhere. -/
theorem readsFit_of_firstRead? {l : List Access} {h h' : η} (hfit : ReadsFit l h)
    (hfirst : ∀ f v, firstRead? l f = some v → Host.field? h' f = some v) : ReadsFit l h' := by
  intro before f v after hl
  have hread := hfit before f v after hl
  cases hlast : lastWrite? before f with
  | some w => rw [hlast] at hread; exact hread
  | none =>
    obtain ⟨u, hu⟩ := Option.isSome_iff_exists.mp (firstRead?_isSome v after hlast)
    rw [← hl] at hu
    have huv : Host.field? h f = some u := field?_of_firstRead? hfit hu
    rw [hlast] at hread
    have : u = v := Option.some.inj (huv.symm.trans (by simpa using hread))
    simpa [this] using hfirst f u hu

/-- Applying an effect puts in the writes of any list that ends with the same writes. -/
theorem apply_eq_insertAll (e : Effect) (l : List Access) (h : η) (hthere : HasWritten l h)
    (hlast : ∀ f, e.writes[f]? = lastWrite? l f) :
    (e.apply h).failure = none ∧ MapHost.state (e.apply h).host =
      { MapHost.state h with fields := insertAll (MapHost.state h).fields (writesOf l) } := by
  have hkeys : ∀ entry ∈ e.writeList, entry.1 ∈ (MapHost.state h).fields := by
    rintro ⟨f, w⟩ hmem
    have hw : e.writes[f]? = some w := ExtTreeMap.mem_toList_iff_getElem?_eq_some.mp hmem
    rw [ExtTreeMap.mem_iff_isSome_getElem?, ← MapHost.field?_eq]
    exact hthere f w (mem_of_lastWrite? ((hlast f).symm.trans hw))
  have hfields : insertAll (MapHost.state h).fields e.writeList =
      insertAll (MapHost.state h).fields (writesOf l) := by
    refine ExtTreeMap.ext_getElem? fun f => ?_
    rw [← writesOf_writes e.writeList, getElem?_insertAll, getElem?_insertAll,
      Effect.lastWrite?_writeList, hlast]
  rw [← hfields]
  exact applyAll_state e.writeList h hkeys

/-- On any host that has the written fields, what is recorded of a valid list holds exactly where
the list is valid.  There the host can perform the list, the recorded effect is applied without a
failure, and both end in one state: that of the host with the writes of the list put in, in their
order. -/
theorem recorded_exact (i : Invocation) (singleThreaded : Bool) (l : List Access) (h h' : η)
    (hvalid : ValidFrom l h) (hthere : HasWritten l h') :
    (ValidFrom l h' ↔
        ((Recording.ofInvocation i singleThreaded).observeAll l).precondition.fieldsHoldIn h' =
          true) ∧
      (ValidFrom l h' → ∃ final, Performs l h' final ∧
        MapHost.state final =
          { MapHost.state h' with fields := insertAll (MapHost.state h').fields (writesOf l) } ∧
        (((Recording.ofInvocation i singleThreaded).observeAll l).effect.apply h').failure = none ∧
        MapHost.state
            (((Recording.ofInvocation i singleThreaded).observeAll l).effect.apply h').host =
          MapHost.state final) := by
  constructor
  · rw [fieldsHoldIn_iff, validFrom_iff]
    simp only [Recording.tracked_ofInvocation_observeAll]
    constructor
    · rintro ⟨-, hfit⟩ f v hfirst
      exact field?_of_firstRead? hfit hfirst
    · intro hfirst
      exact ⟨hthere, readsFit_of_firstRead? ((validFrom_iff l h).mp hvalid).2 hfirst⟩
  · rintro ⟨final, hperforms⟩
    have hfinal := state_of_performs hperforms
    obtain ⟨hok, hstate⟩ := apply_eq_insertAll _ l h' hthere fun f =>
      Recording.writes_ofInvocation_observeAll i singleThreaded l f
    exact ⟨final, hperforms, hfinal, hok, hstate.trans hfinal.symm⟩

/-- Reading a counter of one, setting it to two and reading it again. -/
def counting : List Access :=
  [.read ⟨.object ⟨0⟩, "count"⟩ (.int 1), .write ⟨.object ⟨0⟩, "count"⟩ ⟨.int, .int 2, rfl⟩,
    .read ⟨.object ⟨0⟩, "count"⟩ (.int 2)]

/-- A table with a counter and another field. -/
def counterTable (count other : Int32) : TableHost :=
  { fields := (∅ : FieldMap Value)
      |>.insert ⟨.object ⟨0⟩, "other"⟩ (.int other)
      |>.insert ⟨.object ⟨0⟩, "count"⟩ (.int count) }

theorem validFrom_counting (other : Int32) : ValidFrom counting (counterTable 1 other) := by
  have hmem : (⟨.object ⟨0⟩, "count"⟩ : FieldRef) ∈
      (MapHost.state (counterTable 1 other)).fields := by
    simp [counterTable, MapHost.state]
  obtain ⟨h', hwrite, -⟩ := MapHost.write_eq_ok ⟨.int, .int 2, rfl⟩ hmem
  exact ⟨h', .read rfl (.write hwrite (.read (by simp [field?_of_write hwrite]) .nil))⟩

theorem hasWritten_counting (count other : Int32) :
    HasWritten counting (counterTable count other) := by
  intro f w hmem
  simp only [counting, List.mem_cons, reduceCtorEq, Access.write.injEq, List.not_mem_nil,
    or_false, false_or] at hmem
  rw [hmem.1]
  simp [counterTable, Host.field?]

/-- What is recorded of the counter can be replayed where another field differs: the counter is two
then, and the other field is as it was. -/
theorem recorded_exact_counting :
    let recorded := (Recording.ofInvocation ⟨⟨0⟩, "C.count", .static, none, [], [], none, 1, 4⟩
      true).observeAll counting
    let applied := recorded.effect.apply (counterTable 1 8)
    ValidFrom counting (counterTable 1 7) ∧ HasWritten counting (counterTable 1 8) ∧
      recorded.precondition.fieldsHoldIn (counterTable 1 8) = true ∧ applied.failure = none ∧
      (MapHost.state applied.host).fields[(⟨.object ⟨0⟩, "count"⟩ : FieldRef)]? = some (.int 2) ∧
      (MapHost.state applied.host).fields[(⟨.object ⟨0⟩, "other"⟩ : FieldRef)]? =
        some (.int 8) := by
  intro recorded applied
  obtain ⟨hholds, heffect⟩ :=
    recorded_exact ⟨⟨0⟩, "C.count", .static, none, [], [], none, 1, 4⟩ true counting
      (counterTable 1 7) (counterTable 1 8) (validFrom_counting 7) (hasWritten_counting 1 8)
  obtain ⟨final, -, hfinal, hmade, hstate⟩ := heffect (validFrom_counting 8)
  refine ⟨validFrom_counting 7, hasWritten_counting 1 8, hholds.mp (validFrom_counting 8), hmade,
    ?_, ?_⟩
  · rw [hstate, hfinal]
    rfl
  · rw [hstate, hfinal]
    rfl

end Reprise
