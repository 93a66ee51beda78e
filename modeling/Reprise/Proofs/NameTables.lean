import Mathlib.Logic.Function.Basic
import Reprise.Machine.Program

/-!
# Names and definitions

The definitions of a program stand in arrays that additions only append to, and two-way tables say
which definition a name means.  Of several definitions of one name the tables hold the last
(`IsLast`), and nothing else:

    t.Holds index a name:  (n, i) ∈ t.entries ↔ IsLast a (name · = n) (index i)

An addition keeps that (`Holds.insert`), though it takes the place of an entry that shares its name;
the definition it replaces there loses its entry, not its place.  So whatever was added, the program
finds by name what was added last under it, and finds the name again from that and from nothing else
(`additions_resolve`).
-/

namespace Reprise

/-! ## Last elements -/

/-- At `k` stands the last element of the array for which `P` holds. -/
def IsLast {α : Type} (a : Array α) (P : α → Prop) (k : Nat) : Prop :=
  (∃ x, a[k]? = some x ∧ P x) ∧ ∀ (j : Nat) x, k < j → a[j]? = some x → ¬ P x

section Arrays

variable {α : Type} {a : Array α} {P : α → Prop} {x : α} {j k : Nat}

theorem IsLast.lt (h : IsLast a P k) : k < a.size := by
  obtain ⟨⟨y, hy, -⟩, -⟩ := h
  exact (Array.getElem?_eq_some_iff.mp hy).1

theorem IsLast.unique (hj : IsLast a P j) (hk : IsLast a P k) : j = k := by
  obtain ⟨⟨y, hy, hPy⟩, hafter⟩ := hj
  obtain ⟨⟨z, hz, hPz⟩, hafter'⟩ := hk
  rcases Nat.lt_trichotomy j k with hlt | heq | hlt
  · exact absurd hPz (hafter k z hlt hz)
  · exact heq
  · exact absurd hPy (hafter' j y hlt hy)

/-- A new element for which `P` holds is the last. -/
theorem isLast_push_of_pos (hx : P x) : IsLast (a.push x) P k ↔ k = a.size := by
  constructor
  · intro h
    have hle : k ≤ a.size := Nat.lt_succ_iff.mp (by simpa using h.lt)
    refine Nat.le_antisymm hle (Nat.le_of_not_lt fun hlt => ?_)
    exact h.2 a.size x hlt Array.getElem?_push_size hx
  · rintro rfl
    refine ⟨⟨x, Array.getElem?_push_size, hx⟩, fun j y hlt hy => ?_⟩
    have hj := (Array.getElem?_eq_some_iff.mp hy).1
    rw [Array.size_push] at hj
    omega

/-- Which element is the last depends on where there are elements for which `P` holds. -/
theorem isLast_congr {b : Array α}
    (h : ∀ j : Nat, (∃ y, a[j]? = some y ∧ P y) ↔ ∃ y, b[j]? = some y ∧ P y) :
    IsLast a P k ↔ IsLast b P k := by
  have hiff : ∀ a : Array α, IsLast a P k ↔ (∃ y, a[k]? = some y ∧ P y) ∧
      ∀ j : Nat, k < j → ¬ ∃ y, a[j]? = some y ∧ P y := by
    intro a
    simp only [IsLast, not_exists, not_and]
    exact and_congr_right' ⟨fun h j hlt y => h j y hlt, fun h j y hlt => h j hlt y⟩
  simp only [hiff, h]

/-- A new element for which `P` does not hold changes nothing. -/
theorem isLast_push_of_neg (hx : ¬ P x) : IsLast (a.push x) P k ↔ IsLast a P k := by
  refine isLast_congr fun j => ?_
  rw [Array.getElem?_push]
  split
  · next hj =>
    rw [hj, Array.getElem?_eq_none (Nat.le_refl _)]
    simp [hx]
  · rfl

/-- Changes that `P` does not see move no last element. -/
theorem isLast_modify {f : α → α} (hf : ∀ x, P (f x) ↔ P x) (i : Nat) :
    IsLast (a.modify i f) P k ↔ IsLast a P k := by
  refine isLast_congr fun j => ?_
  rw [Array.getElem?_modify]
  split
  · simp [hf]
  · rfl

/-- Where there is an element at all, there is a last one. -/
theorem exists_isLast (hx : a[k]? = some x) (hPx : P x) : ∃ m, IsLast a P m := by
  induction hn : a.size - k using Nat.strongRecOn generalizing k x with
  | ind n ih =>
    by_cases h : ∃ (j : Nat) (y : α), k < j ∧ a[j]? = some y ∧ P y
    · obtain ⟨j, y, hlt, hy, hPy⟩ := h
      have hj := (Array.getElem?_eq_some_iff.mp hy).1
      exact ih (a.size - j) (by omega) hy hPy rfl
    · exact ⟨k, ⟨x, hx, hPx⟩, fun j y hlt hy hPy => h ⟨j, y, hlt, hy, hPy⟩⟩

end Arrays

/-! ## Tables -/

namespace NameTable

variable {ι α : Type} {t : NameTable ι} {index : ι → Nat} {a : Array α} {name : α → String}
  {n : String} {i : ι}

/-- The table holds the last definition of every name. -/
def Holds (t : NameTable ι) (index : ι → Nat) (a : Array α) (name : α → String) : Prop :=
  ∀ n i, (n, i) ∈ t.entries ↔ IsLast a (name · = n) (index i)

theorem holds_empty (index : ι → Nat) (name : α → String) :
    ({} : NameTable ι).Holds index #[] name := by
  intro n i
  refine ⟨fun hmem => absurd hmem List.not_mem_nil, fun hlast => ?_⟩
  exact absurd hlast.lt (Nat.not_lt_zero _)

/-- What a definition is changed to leaves the tables right as long as it keeps its name. -/
theorem Holds.modify (h : t.Holds index a name) {f : α → α} (hf : ∀ x, name (f x) = name x)
    (k : Nat) : t.Holds index (a.modify k f) name := by
  intro n i
  rw [h n i, isLast_modify fun x => by rw [hf]]

/-- A name means the last definition that has it. -/
theorem Holds.id?_eq_some_iff (h : t.Holds index a name) (hindex : index.Injective) :
    t.id? n = some i ↔ IsLast a (name · = n) (index i) := by
  have hid : t.id? n = (t.entries.find? (·.1 == n)).map Prod.snd := rfl
  rw [← h n i, hid, Option.map_eq_some_iff]
  constructor
  · rintro ⟨⟨m, j⟩, hfind, rfl⟩
    obtain rfl : m = n := by simpa using List.find?_some hfind
    exact List.mem_of_find?_eq_some hfind
  · intro hmem
    obtain ⟨⟨m, j⟩, hfind⟩ := Option.isSome_iff_exists.mp
      (List.find?_isSome (p := (·.1 == n)).mpr ⟨_, hmem, BEq.rfl⟩)
    obtain rfl : m = n := by simpa using List.find?_some hfind
    have hj := (h m j).mp (List.mem_of_find?_eq_some hfind)
    exact ⟨(m, j), hfind, hindex (hj.unique ((h m i).mp hmem))⟩

theorem Holds.id?_eq_none_iff (h : t.Holds index a name) (hindex : index.Bijective) :
    t.id? n = none ↔ ∀ (k : Nat) x, a[k]? = some x → name x ≠ n := by
  constructor
  · intro hnone k x hx hname
    obtain ⟨m, hlast⟩ := exists_isLast (P := (name · = n)) hx hname
    obtain ⟨i, rfl⟩ := hindex.surjective m
    cases hnone.symm.trans ((h.id?_eq_some_iff hindex.injective).mpr hlast)
  · intro hnone
    refine Option.eq_none_iff_forall_ne_some.mpr fun i hi => ?_
    obtain ⟨⟨x, hx, hname⟩, -⟩ := (h.id?_eq_some_iff hindex.injective).mp hi
    exact hnone _ x hx hname

variable [DecidableEq ι]

/-- A definition is named exactly by the name that means it. -/
theorem Holds.name?_eq_some_iff (h : t.Holds index a name) (hindex : index.Injective) :
    t.name? i = some n ↔ t.id? n = some i := by
  have hname : t.name? i = (t.entries.find? (·.2 == i)).map Prod.fst := rfl
  rw [h.id?_eq_some_iff hindex, ← h n i, hname, Option.map_eq_some_iff]
  constructor
  · rintro ⟨⟨m, j⟩, hfind, rfl⟩
    obtain rfl : j = i := by simpa using List.find?_some hfind
    exact List.mem_of_find?_eq_some hfind
  · intro hmem
    obtain ⟨⟨m, j⟩, hfind⟩ := Option.isSome_iff_exists.mp
      (List.find?_isSome (p := (·.2 == i)).mpr ⟨_, hmem, BEq.rfl⟩)
    obtain rfl : j = i := by simpa using List.find?_some hfind
    obtain ⟨⟨x, hx, rfl⟩, -⟩ := (h m j).mp (List.mem_of_find?_eq_some hfind)
    obtain ⟨⟨y, hy, rfl⟩, -⟩ := (h n j).mp hmem
    exact ⟨(name x, j), hfind, congrArg name (Option.some.inj (hx.symm.trans hy))⟩

theorem mem_insert {m : String} {j : ι} :
    (m, j) ∈ (t.insert n i).entries ↔ m = n ∧ j = i ∨ (m, j) ∈ t.entries ∧ m ≠ n ∧ j ≠ i := by
  simp [insert]

/-- A new definition takes the place of an earlier one of its name. -/
theorem Holds.insert (h : t.Holds index a name) (hindex : index.Injective) {x : α}
    (hi : index i = a.size) : (t.insert (name x) i).Holds index (a.push x) name := by
  intro m j
  rw [mem_insert, h m j]
  by_cases hm : name x = m
  · subst hm
    rw [isLast_push_of_pos (P := (name · = name x)) rfl, ← hi, hindex.eq_iff]
    simp
  · rw [isLast_push_of_neg (P := (name · = m)) hm]
    constructor
    · rintro (⟨rfl, -⟩ | ⟨hlast, -⟩)
      · exact absurd rfl hm
      · exact hlast
    · intro hlast
      refine .inr ⟨hlast, Ne.symm hm, ?_⟩
      rintro rfl
      exact absurd hlast.lt (hi ▸ Nat.lt_irrefl _)

end NameTable

theorem ClassId.index_bijective : Function.Bijective ClassId.index :=
  ⟨fun x y h => by cases x; cases y; exact congrArg ClassId.mk h, fun k => ⟨⟨k⟩, rfl⟩⟩

theorem RoutineId.index_bijective : Function.Bijective RoutineId.index :=
  ⟨fun x y h => by cases x; cases y; exact congrArg RoutineId.mk h, fun k => ⟨⟨k⟩, rfl⟩⟩

/-! ## Additions -/

/-- Something to add to a program. -/
inductive Addition where
  | ofClass (c : ClassDef)
  | ofRoutine (owner : ClassId) (simpleName : String) (body : RoutineBody)

/-- Whether the routine was added as an initializer of the class. -/
def ClassId.IsInitializedBy (x : ClassId) (q : Routine) : Prop :=
  q.owner = x ∧ q.kind = .classInitializer

namespace Program

variable {p p' : Program} {x owner : ClassId} {c : ClassDef}

/-- The program with the addition; there is none with a routine of a class that it does not have. -/
def add (p : Program) : Addition → Except Defect Program
  | .ofClass c => .ok (p.addClass c).2
  | .ofRoutine owner simpleName body => (p.addRoutine owner simpleName body).map Prod.snd

/-- The program with one addition after the other. -/
def addAll (p : Program) : List Addition → Except Defect Program
  | [] => .ok p
  | a :: rest =>
    match p.add a with
    | .error defect => .error defect
    | .ok p => p.addAll rest

/-- The program with a routine under its qualified name. -/
def withRoutine (p : Program) (owner : ClassId) (name : String) (body : RoutineBody) : Program :=
  { p with
    classes := p.classes.modify owner.index fun c =>
      if body.kind = .classInitializer then { c with initializer := some p.nextRoutineId } else c
    routines := p.routines.push { body with owner, name }
    routineNames := p.routineNames.insert name p.nextRoutineId }

theorem addRoutine_eq (hc : p.class? owner = some c) (simpleName : String) (body : RoutineBody) :
    p.addRoutine owner simpleName body =
      .ok (p.nextRoutineId, p.withRoutine owner (c.name ++ "." ++ simpleName) body) := by
  rw [addRoutine, hc]
  rfl

theorem withRoutine_of_addRoutine {simpleName : String} {body : RoutineBody} {id : RoutineId}
    (hadd : p.addRoutine owner simpleName body = .ok (id, p')) :
    ∃ c, p.class? owner = some c ∧ id = p.nextRoutineId ∧
      p' = p.withRoutine owner (c.name ++ "." ++ simpleName) body := by
  cases hc : p.class? owner with
  | none =>
    rw [addRoutine, hc] at hadd
    cases hadd
  | some c =>
    rw [addRoutine_eq hc] at hadd
    cases hadd
    exact ⟨c, rfl, rfl, rfl⟩

/-- What one addition makes of a program. -/
inductive Grows (p : Program) : Program → Prop where
  | byClass (c : ClassDef) : Grows p (p.addClass c).2
  | byRoutine {owner : ClassId} {c : ClassDef} (hc : p.class? owner = some c)
    (simpleName : String) (body : RoutineBody) :
    Grows p (p.withRoutine owner (c.name ++ "." ++ simpleName) body)

theorem addRoutine_of_add {simpleName : String} {body : RoutineBody}
    (ha : p.add (.ofRoutine owner simpleName body) = .ok p') :
    ∃ id, p.addRoutine owner simpleName body = .ok (id, p') := by
  rw [add] at ha
  cases hadd : p.addRoutine owner simpleName body with
  | error defect =>
    rw [hadd] at ha
    cases ha
  | ok added =>
    rw [hadd] at ha
    cases ha
    exact ⟨added.1, rfl⟩

theorem grows_add {a : Addition} (ha : p.add a = .ok p') : p.Grows p' := by
  cases a with
  | ofClass c =>
    cases ha
    exact .byClass c
  | ofRoutine owner simpleName body =>
    obtain ⟨id, hadd⟩ := addRoutine_of_add ha
    obtain ⟨c, hc, -, rfl⟩ := withRoutine_of_addRoutine hadd
    exact .byRoutine hc simpleName body

/-- What every addition keeps, all of them keep. -/
theorem addAll_keeps {P : Program → Prop} (hkeeps : ∀ {p p'}, P p → p.Grows p' → P p')
    {l : List Addition} (hp : P p) (hl : p.addAll l = .ok p') : P p' := by
  induction l generalizing p with
  | nil => exact Except.ok.inj hl ▸ hp
  | cons a l ih =>
    rw [addAll] at hl
    split at hl
    · cases hl
    · next p₁ ha => exact ih (hkeeps hp (grows_add ha)) hl

/-! ### What an addition does -/

theorem class?_addClass (hx : p.class? x = some c) (c' : ClassDef) :
    (p.addClass c').2.class? x = some c := by
  have hlt := (Array.getElem?_eq_some_iff.mp hx).1
  exact (Array.getElem?_push_lt hlt).trans (Array.getElem?_eq_getElem hlt ▸ hx)

/-- A class keeps everything but its initializer. -/
theorem class?_withRoutine (p : Program) (owner : ClassId) (name : String) (body : RoutineBody)
    (x : ClassId) :
    (p.withRoutine owner name body).class? x = (p.class? x).map fun c =>
      if owner = x ∧ body.kind = .classInitializer then
        { c with initializer := some p.nextRoutineId }
      else c := by
  have howner : owner.index = x.index ↔ owner = x := ClassId.index_bijective.injective.eq_iff
  simp only [class?, withRoutine, Array.getElem?_modify, howner]
  by_cases hsame : owner = x
  · simp [hsame]
  · simp [hsame]

theorem class?_of_grows (hgrows : p.Grows p') (hx : p.class? x = some c) :
    ∃ initializer, p'.class? x = some { c with initializer } := by
  cases hgrows with
  | byClass c' => exact ⟨c.initializer, class?_addClass hx c'⟩
  | byRoutine hc simpleName body =>
    rw [class?_withRoutine, hx, Option.map_some]
    split
    · exact ⟨_, rfl⟩
    · exact ⟨c.initializer, rfl⟩

/-- A routine stays as it is. -/
theorem routine?_of_grows (hgrows : p.Grows p') {i : RoutineId} {q : Routine}
    (hi : p.routine? i = some q) : p'.routine? i = some q := by
  cases hgrows with
  | byClass c => exact hi
  | byRoutine hc simpleName body =>
    have hlt := (Array.getElem?_eq_some_iff.mp hi).1
    exact (Array.getElem?_push_lt hlt).trans (Array.getElem?_eq_getElem hlt ▸ hi)

/-! ### Tables -/

/-- The tables hold the last class and the last routine of every name, and routines are named after
their classes. -/
structure IsCoherent (p : Program) : Prop where
  classNames : p.classNames.Holds ClassId.index p.classes ClassDef.name
  routineNames : p.routineNames.Holds RoutineId.index p.routines Routine.name
  qualified : ∀ i q, p.routine? i = some q → ∃ c simpleName, p.class? q.owner = some c ∧
    q.name = c.name ++ "." ++ simpleName

theorem isCoherent_empty : IsCoherent {} where
  classNames := NameTable.holds_empty _ _
  routineNames := NameTable.holds_empty _ _
  qualified := fun i q hi => by simp [routine?] at hi

theorem routine?_withRoutine {name : String} {body : RoutineBody} {i : RoutineId} {q : Routine}
    (hi : (p.withRoutine owner name body).routine? i = some q) :
    q = { body with owner, name } ∨ p.routine? i = some q := by
  simp only [routine?, withRoutine, Array.getElem?_push] at hi
  split at hi
  · exact .inl (Option.some.inj hi).symm
  · exact .inr hi

theorem IsCoherent.grows (hp : p.IsCoherent) (hgrows : p.Grows p') : p'.IsCoherent := by
  have hqualified : ∀ i q, p.routine? i = some q → ∃ c simpleName, p'.class? q.owner = some c ∧
      q.name = c.name ++ "." ++ simpleName := by
    intro i q hi
    obtain ⟨c, simpleName, hc, hname⟩ := hp.qualified i q hi
    obtain ⟨initializer, hc'⟩ := class?_of_grows hgrows hc
    exact ⟨_, simpleName, hc', hname⟩
  cases hgrows with
  | byClass c =>
    exact ⟨hp.classNames.insert ClassId.index_bijective.injective rfl, hp.routineNames, hqualified⟩
  | @byRoutine owner c hc simpleName body =>
    let q : Routine := { body with owner, name := c.name ++ "." ++ simpleName }
    have hnamed : p.classNames.Holds ClassId.index
        (p.withRoutine owner q.name body).classes ClassDef.name :=
      hp.classNames.modify (fun c => by split <;> rfl) _
    have hlisted : (p.routineNames.insert q.name p.nextRoutineId).Holds RoutineId.index
        (p.routines.push q) Routine.name :=
      hp.routineNames.insert RoutineId.index_bijective.injective rfl
    refine ⟨hnamed, hlisted, fun i q' hi => ?_⟩
    rcases routine?_withRoutine hi with rfl | hi
    · obtain ⟨initializer, hc'⟩ := class?_of_grows (.byRoutine hc simpleName body) hc
      exact ⟨_, simpleName, hc', rfl⟩
    · exact hqualified i q' hi

/-! ### Initializers -/

/-- The class was created with the initializer `created`, and now has `found`: the last class
initializer that was added to it, if there is one. -/
inductive LatestInitializer (p : Program) (x : ClassId) (created : Option RoutineId) :
    Option RoutineId → Prop where
  | added {i : RoutineId} (hlast : IsLast p.routines x.IsInitializedBy i.index) :
    LatestInitializer p x created (some i)
  | created (hnone : ∀ i q, p.routine? i = some q → ¬ x.IsInitializedBy q) :
    LatestInitializer p x created created

/-- The class `x` is `c`, as it was added, but for its initializer. -/
def HasClass (p : Program) (x : ClassId) (c : ClassDef) : Prop :=
  ∃ found, p.class? x = some { c with initializer := found } ∧
    p.LatestInitializer x c.initializer found

/-- A class that was just added has no routine. -/
theorem IsCoherent.hasClass (hp : p.IsCoherent) (c : ClassDef) :
    (p.addClass c).2.HasClass p.nextClassId c := by
  refine ⟨c.initializer, Array.getElem?_push_size, .created ?_⟩
  rintro i q hi ⟨howner, -⟩
  obtain ⟨c', -, hc', -⟩ := hp.qualified i q hi
  have hlt : p.classes.size < p.classes.size := by
    rw [howner] at hc'
    exact (Array.getElem?_eq_some_iff.mp hc').1
  exact Nat.lt_irrefl _ hlt

theorem HasClass.grows (hx : p.HasClass x c) (hgrows : p.Grows p') : p'.HasClass x c := by
  obtain ⟨found, hc, hfound⟩ := hx
  cases hgrows with
  | byClass c' =>
    refine ⟨found, class?_addClass hc c', ?_⟩
    cases hfound with
    | added hlast => exact .added hlast
    | created hnone => exact .created hnone
  | @byRoutine owner c' hc' simpleName body =>
    let q : Routine := { body with owner, name := c'.name ++ "." ++ simpleName }
    have hclass := p.class?_withRoutine owner q.name body x
    rw [hc, Option.map_some] at hclass
    by_cases hinitializer : owner = x ∧ body.kind = .classInitializer
    · have hq : x.IsInitializedBy q := hinitializer
      rw [if_pos hinitializer] at hclass
      have hlast : IsLast (p.routines.push q) x.IsInitializedBy p.nextRoutineId.index :=
        (isLast_push_of_pos hq).mpr rfl
      exact ⟨some p.nextRoutineId, hclass, .added hlast⟩
    · have hq : ¬ x.IsInitializedBy q := hinitializer
      rw [if_neg hinitializer] at hclass
      refine ⟨found, hclass, ?_⟩
      cases hfound with
      | @added i hlast =>
        have hlast' : IsLast (p.routines.push q) x.IsInitializedBy i.index :=
          (isLast_push_of_neg hq).mpr hlast
        exact .added hlast'
      | created hnone =>
        refine .created fun i q' hi => ?_
        rcases routine?_withRoutine hi with rfl | hi
        · exact hq
        · exact hnone i q' hi

/-! ### Any number of additions -/

/-- What is found by name. -/
structure FindsByName (p : Program) : Prop where
  routineId? : ∀ n i, p.routineId? n = some i ↔ IsLast p.routines (·.name = n) i.index
  no_routineId? : ∀ n, p.routineId? n = none ↔ ∀ i q, p.routine? i = some q → q.name ≠ n
  routineName? : ∀ i n, p.routineName? i = some n ↔ p.routineId? n = some i
  /-- A routine is named by its own name, which is that of its class with a simple name. -/
  named : ∀ i n, p.routineName? i = some n → ∃ q c simpleName, p.routine? i = some q ∧
    q.name = n ∧ p.class? q.owner = some c ∧ n = c.name ++ "." ++ simpleName
  classId? : ∀ n x, p.classId? n = some x ↔ IsLast p.classes (·.name = n) x.index
  no_classId? : ∀ n, p.classId? n = none ↔ ∀ x c, p.class? x = some c → c.name ≠ n
  className? : ∀ x n, p.classNames.name? x = some n ↔ p.classId? n = some x

theorem IsCoherent.findsByName (hp : p.IsCoherent) : p.FindsByName := by
  have hclass := ClassId.index_bijective
  have hroutine := RoutineId.index_bijective
  have hnamed : ∀ i n, p.routineName? i = some n ↔ p.routineId? n = some i :=
    fun i n => hp.routineNames.name?_eq_some_iff hroutine.injective
  refine ⟨fun n i => hp.routineNames.id?_eq_some_iff hroutine.injective, fun n => ?_, hnamed,
    fun i n hi => ?_, fun n x => hp.classNames.id?_eq_some_iff hclass.injective, fun n => ?_,
    fun x n => hp.classNames.name?_eq_some_iff hclass.injective⟩
  · rw [Program.routineId?, hp.routineNames.id?_eq_none_iff hroutine]
    exact ⟨fun h i q hi => h i.index q hi, fun h k q hk => h ⟨k⟩ q hk⟩
  · obtain ⟨⟨q, hq, rfl⟩, -⟩ := (hp.routineNames.id?_eq_some_iff hroutine.injective).mp
      ((hnamed i n).mp hi)
    obtain ⟨c, simpleName, hc, hname⟩ := hp.qualified i q hq
    exact ⟨q, c, simpleName, hq, rfl, hc, hname⟩
  · rw [Program.classId?, hp.classNames.id?_eq_none_iff hclass]
    exact ⟨fun h x c hx => h x.index c hx, fun h k c hk => h ⟨k⟩ c hk⟩

/-- Whatever was added, a name means the last definition that has it, and that definition alone is
named by it; an addition returns the position of what it adds, which stays there unchanged, but for
the initializer of a class: that is the last class initializer added to it, and the one that it was
created with as long as there is none. -/
theorem additions_resolve {l : List Addition} (hl : ({} : Program).addAll l = .ok p) :
    p.FindsByName ∧
      (∀ c, (p.addClass c).1 = ⟨p.classes.size⟩ ∧
        ∀ l' p', (p.addClass c).2.addAll l' = .ok p' → p'.HasClass ⟨p.classes.size⟩ c) ∧
      (∀ owner c simpleName body, p.class? owner = some c →
        ∃ p₁, p.addRoutine owner simpleName body = .ok (⟨p.routines.size⟩, p₁) ∧
          ∀ l' p', p₁.addAll l' = .ok p' → p'.routine? ⟨p.routines.size⟩ =
            some { body with owner, name := c.name ++ "." ++ simpleName }) := by
  have hp : p.IsCoherent := addAll_keeps IsCoherent.grows isCoherent_empty hl
  refine ⟨hp.findsByName, fun c => ⟨rfl, fun l' p' hl' => ?_⟩,
    fun owner c simpleName body hc => ⟨_, addRoutine_eq hc simpleName body, fun l' p' hl' => ?_⟩⟩
  · exact addAll_keeps HasClass.grows (hp.hasClass c) hl'
  · have hadded : (p.withRoutine owner (c.name ++ "." ++ simpleName) body).routine?
        ⟨p.routines.size⟩ = some { body with owner, name := c.name ++ "." ++ simpleName } :=
      Array.getElem?_push_size
    exact addAll_keeps (fun hq hgrows => routine?_of_grows hgrows hq) hadded hl'

/-- Two routines whose names differ until the names of their classes are put before them. -/
def colliding : List Addition :=
  [.ofClass { name := "A" }, .ofClass { name := "A.b" }, .ofRoutine ⟨0⟩ "b.c" {},
    .ofRoutine ⟨1⟩ "c" {}]

def collided : Program :=
  ((({} : Program).addClass { name := "A" }).2.addClass { name := "A.b" }).2
    |>.withRoutine ⟨0⟩ "A.b.c" {} |>.withRoutine ⟨1⟩ "A.b.c" {}

/-- The first of the two keeps its place but is not found any more. -/
theorem additions_resolve_colliding :
    ({} : Program).addAll colliding = .ok collided ∧ collided.routineId? "A.b.c" = some ⟨1⟩ ∧
      IsLast collided.routines (·.name = "A.b.c") 1 ∧ collided.routineName? ⟨0⟩ = none ∧
      (collided.routine? ⟨0⟩).map (·.name) = some "A.b.c" := by
  have hbuilt : ({} : Program).addAll colliding = .ok collided := rfl
  have hfinds := (additions_resolve hbuilt).1
  have hlast : collided.routineId? "A.b.c" = some ⟨1⟩ := rfl
  have hfirst : (collided.routine? ⟨0⟩).map (·.name) = some "A.b.c" := rfl
  refine ⟨hbuilt, hlast, (hfinds.routineId? _ _).mp hlast, ?_, hfirst⟩
  refine Option.eq_none_iff_forall_ne_some.mpr fun n hn => ?_
  obtain ⟨q, -, -, hq, hname, -⟩ := hfinds.named ⟨0⟩ n hn
  rw [hq, Option.map_some, hname] at hfirst
  obtain rfl := Option.some.inj hfirst
  cases hlast.symm.trans ((hfinds.routineName? _ _).mp hn)

end Program

end Reprise
