import Reprise.Proofs.Exactness

/-!
# Applying effects

An effect acts on hosts that are maps: where all its fields are there, applying it overwrites them
and nothing else (`HostState.Overwritten`), so a second time changes nothing, and a merged effect
does what its two parts do one after the other:

    e.FitsIn h → (state h).Overwritten (state (e.apply h).host) e.value?      (overwritten_apply)
    (a.merge b).value? f = (b.value? f).or (a.value? f)                            (value?_merge)

Where a field is missing, the writes before it in the order of fields (`FieldRef.Precedes`) are made
and no others (`apply_of_not_fitsIn`).  Whatever is refused is refused by the host, as the values
of an effect conform to the types of their fields (`refused_of_apply`).
-/

namespace Reprise

open Std

/-! ## The order of fields -/

namespace FieldRef

/-- Instance fields come first, by object and then by name; static fields follow, by class and then
by name. -/
def Precedes : FieldRef → FieldRef → Prop
  | ⟨.object a, m⟩, ⟨.object b, n⟩ => a.index < b.index ∨ a = b ∧ m < n
  | ⟨.object _, _⟩, ⟨.statics _, _⟩ => True
  | ⟨.statics _, _⟩, ⟨.object _, _⟩ => False
  | ⟨.statics a, m⟩, ⟨.statics b, n⟩ => a.index < b.index ∨ a = b ∧ m < n

instance : DecidableRel Precedes
  | ⟨.object a, m⟩, ⟨.object b, n⟩ =>
    inferInstanceAs (Decidable (a.index < b.index ∨ a = b ∧ m < n))
  | ⟨.object _, _⟩, ⟨.statics _, _⟩ => inferInstanceAs (Decidable True)
  | ⟨.statics _, _⟩, ⟨.object _, _⟩ => inferInstanceAs (Decidable False)
  | ⟨.statics a, m⟩, ⟨.statics b, n⟩ =>
    inferInstanceAs (Decidable (a.index < b.index ∨ a = b ∧ m < n))

theorem compare_eq_lt_iff (f g : FieldRef) :
    compare f g = .lt ↔ f.owner.rank < g.owner.rank ∨ f.owner.rank = g.owner.rank ∧
      (f.owner.index < g.owner.index ∨ f.owner.index = g.owner.index ∧ f.name < g.name) := by
  have hcompare : compare f g = ((compare f.owner.rank g.owner.rank).then
      (compare f.owner.index g.owner.index)).then (compare f.name g.name) := rfl
  have hname : compare f.name g.name = .lt ↔ f.name < g.name := compareOfLessAndEq_eq_lt
  rw [hcompare]
  simp only [Ordering.then_eq_lt, Ordering.then_eq_eq, Nat.compare_eq_lt, Nat.compare_eq_eq, hname]
  rw [and_or_left, or_assoc, and_assoc]

/-- Maps over fields are sorted by this order. -/
theorem precedes_iff (f g : FieldRef) : f.Precedes g ↔ compare f g = .lt := by
  rw [compare_eq_lt_iff]
  rcases f with ⟨⟨⟨a⟩⟩ | ⟨⟨a⟩⟩, m⟩ <;> rcases g with ⟨⟨⟨b⟩⟩ | ⟨⟨b⟩⟩, n⟩ <;>
    simp [Precedes, FieldOwner.rank, FieldOwner.index]

theorem Precedes.asymm {f g : FieldRef} (hfg : f.Precedes g) : ¬ g.Precedes f := by
  rw [precedes_iff] at hfg ⊢
  rw [OrientedCmp.gt_of_lt hfg]
  exact nofun

end FieldRef

namespace Effect

variable {e : Effect}

theorem mem_writeList_iff {f : FieldRef} {w : FieldWrite} :
    (f, w) ∈ e.writeList ↔ e.writes[f]? = some w := ExtTreeMap.mem_toList_iff_getElem?_eq_some

theorem mem_writes_of_mem_writeList {entry : FieldRef × FieldWrite} (hmem : entry ∈ e.writeList) :
    entry.1 ∈ e.writes := by
  rw [ExtTreeMap.mem_iff_isSome_getElem?, mem_writeList_iff.mp hmem, Option.isSome_some]

variable (e)

theorem writeList_pairwise : e.writeList.Pairwise fun x y => x.1.Precedes y.1 :=
  ExtTreeMap.ordered_keys_toList.imp fun hlt => (FieldRef.precedes_iff _ _).mpr hlt

end Effect

/-! ## States with fields overwritten -/

namespace HostState

/-- `s'` is `s` with the fields overwritten for which there is a value, and otherwise the same. -/
structure Overwritten (s s' : HostState) (value? : FieldRef → Option Value) : Prop where
  fields : ∀ f : FieldRef, s'.fields[f]? = (value? f).or s.fields[f]?
  pushed : s'.pushed = s.pushed
  shared : s'.shared = s.shared
  frozen : s'.frozen = s.frozen
  singleThreaded : s'.singleThreaded = s.singleThreaded

variable {s s' s'' : HostState} {v w : FieldRef → Option Value}

/-- Later values go over earlier ones. -/
theorem Overwritten.trans (h : s.Overwritten s' v) (h' : s'.Overwritten s'' w) :
    s.Overwritten s'' fun f => (w f).or (v f) where
  fields := fun f => by rw [h'.fields, h.fields, Option.or_assoc]
  pushed := h'.pushed.trans h.pushed
  shared := h'.shared.trans h.shared
  frozen := h'.frozen.trans h.frozen
  singleThreaded := h'.singleThreaded.trans h.singleThreaded

/-- What is overwritten fixes the state. -/
theorem Overwritten.eq (h : s.Overwritten s' v) (h' : s.Overwritten s'' w) (hvw : ∀ f, v f = w f) :
    s' = s'' := by
  have hfields : s'.fields = s''.fields :=
    ExtTreeMap.ext_getElem? fun f => by rw [h.fields, h'.fields, hvw]
  obtain ⟨-, hp, hs, hz, ht⟩ := h
  obtain ⟨-, hp', hs', hz', ht'⟩ := h'
  cases s'
  cases s''
  simp_all

/-- Overwriting removes no field. -/
theorem Overwritten.mem_fields (h : s.Overwritten s' v) {f : FieldRef} (hf : f ∈ s.fields) :
    f ∈ s'.fields := by
  rw [ExtTreeMap.mem_iff_isSome_getElem?] at hf ⊢
  rw [h.fields, Option.isSome_or, hf, Bool.or_true]

end HostState

/-- What the effect leaves in the field, if it writes it. -/
def Effect.value? (e : Effect) (f : FieldRef) : Option Value := (e.writes[f]?).map (·.value)

theorem Effect.value?_record (e : Effect) (f g : FieldRef) (w : FieldWrite) :
    (e.record f w).value? g = if f = g then some w.value else e.value? g := by
  rw [value?, record, ExtTreeMap.getElem?_insert]
  simp only [Std.compare_eq_iff_eq]
  split <;> rfl

theorem Effect.value?_merge (a b : Effect) (f : FieldRef) :
    (a.merge b).value? f = (b.value? f).or (a.value? f) := by
  rw [value?, merge, ExtTreeMap.getElem?_union, value?, value?, Option.map_or]

/-! ## Performing writes -/

section AnyHost

variable {η : Type} [Host η]

namespace Effect

/-- What stops the writes is that the host, as they leave it, refuses one of them. -/
theorem refused_of_applyAll {l : List (FieldRef × FieldWrite)} {h : η} {failure : HostFailure}
    (hfailure : (applyAll l h).failure = some failure) :
    ∃ e ∈ l, Host.assign (applyAll l h).host e.2.type e.1 e.2.value = .error failure := by
  induction l generalizing h with
  | nil => cases hfailure
  | cons e l ih =>
    obtain ⟨f, w⟩ := e
    rw [applyAll] at hfailure ⊢
    cases hwrite : Host.write h w.type f w.value with
    | ok h' =>
      rw [hwrite] at hfailure
      obtain ⟨e, he, hrefused⟩ := ih hfailure
      exact ⟨e, List.mem_cons_of_mem _ he, hrefused⟩
    | error cause =>
      rw [hwrite] at hfailure
      obtain rfl := Option.some.inj hfailure
      exact ⟨(f, w), List.mem_cons_self, by rw [← Host.write_of_storable w.storable, hwrite]⟩

theorem refused_of_apply {e : Effect} {h : η} {failure : HostFailure}
    (hfailure : (e.apply h).failure = some failure) :
    ∃ f w, e.writes[f]? = some w ∧
      Host.assign (e.apply h).host w.type f w.value = .error failure := by
  obtain ⟨⟨f, w⟩, hmem, hrefused⟩ := refused_of_applyAll hfailure
  exact ⟨f, w, mem_writeList_iff.mp hmem, hrefused⟩

/-- Writes that are made are followed by the rest of the list. -/
theorem applyAll_append {l l' : List (FieldRef × FieldWrite)} {h : η}
    (hmade : (applyAll l h).failure = none) :
    applyAll (l ++ l') h = applyAll l' (applyAll l h).host := by
  induction l generalizing h with
  | nil => rfl
  | cons e l ih =>
    obtain ⟨f, w⟩ := e
    rw [List.cons_append, applyAll, applyAll]
    rw [applyAll] at hmade
    cases hwrite : Host.write h w.type f w.value with
    | ok h' =>
      rw [hwrite] at hmade
      exact ih hmade
    | error cause =>
      rw [hwrite] at hmade
      cases hmade

end Effect

end AnyHost

variable {η : Type} [MapHost η]

open MapHost

theorem MapHost.write_eq_error {h : η} {f : FieldRef} (w : FieldWrite)
    (hmissing : f ∉ (state h).fields) :
    Host.write h w.type f w.value = .error (.noSuchField f) := by
  have hassign := assign_eq h w.type f w.value
  rw [if_neg hmissing] at hassign
  rw [Host.write_of_storable w.storable]
  cases hrefused : Host.assign h w.type f w.value with
  | ok h' => rw [hrefused] at hassign; cases hassign
  | error cause =>
    rw [hrefused] at hassign
    exact congrArg Except.error (Except.error.inj hassign)

/-- Writes to fields that are there overwrite them and nothing else. -/
theorem Effect.overwritten_applyAll (l : List (FieldRef × FieldWrite)) {h : η}
    (hthere : ∀ e ∈ l, e.1 ∈ (state h).fields) :
    (applyAll l h).failure = none ∧
      (state h).Overwritten (state (applyAll l h).host) fun f =>
        (lastWrite? (l.map fun (f, w) => .write f w) f).map (·.value) := by
  obtain ⟨hmade, hstate⟩ := applyAll_state l h hthere
  rw [hstate]
  refine ⟨hmade, fun f => ?_, rfl, rfl, rfl, rfl⟩
  rw [← getElem?_insertAll, writesOf_writes]

namespace Effect

variable {e : Effect} {h : η}

/-- The host has every field that the effect writes. -/
def FitsIn (e : Effect) (h : η) : Prop := ∀ f ∈ e.writes, f ∈ (state h).fields

/-- An effect whose fields are there overwrites them and nothing else. -/
theorem overwritten_apply (hfits : e.FitsIn h) :
    (e.apply h).failure = none ∧ (state h).Overwritten (state (e.apply h).host) e.value? := by
  have hthere : ∀ entry ∈ e.writeList, entry.1 ∈ (state h).fields := fun entry hmem =>
    hfits _ (mem_writes_of_mem_writeList hmem)
  obtain ⟨hmade, hover⟩ := overwritten_applyAll e.writeList hthere
  simp only [lastWrite?_writeList] at hover
  exact ⟨hmade, hover⟩

theorem FitsIn.of_overwritten {h' : η} {v : FieldRef → Option Value} (hfits : e.FitsIn h)
    (hover : (state h).Overwritten (state h') v) : e.FitsIn h' :=
  fun f hf => hover.mem_fields (hfits f hf)

/-- Applying an effect twice is applying it once. -/
theorem apply_apply (hfits : e.FitsIn h) :
    (e.apply (e.apply h).host).failure = none ∧
      state (e.apply (e.apply h).host).host = state (e.apply h).host := by
  obtain ⟨-, honce⟩ := overwritten_apply hfits
  obtain ⟨hmade, htwice⟩ := overwritten_apply (hfits.of_overwritten honce)
  exact ⟨hmade, (honce.trans htwice).eq honce fun f => Option.or_self⟩

/-- A merged effect does what its parts do one after the other. -/
theorem apply_merge {a b : Effect} (ha : a.FitsIn h) (hb : b.FitsIn h) :
    ((a.merge b).apply h).failure = none ∧ (b.apply (a.apply h).host).failure = none ∧
      state ((a.merge b).apply h).host = state (b.apply (a.apply h).host).host := by
  have hmerge : (a.merge b).FitsIn h := fun f hf =>
    (ExtTreeMap.mem_union_iff.mp hf).elim (ha f) (hb f)
  obtain ⟨-, hfirst⟩ := overwritten_apply ha
  obtain ⟨hmade, hsecond⟩ := overwritten_apply (hb.of_overwritten hfirst)
  obtain ⟨hmade', hboth⟩ := overwritten_apply hmerge
  exact ⟨hmade', hmade, hboth.eq (hfirst.trans hsecond) (value?_merge a b)⟩

/-! ### A field that is missing -/

/-- Of the fields that the effect writes, `g` is the first that the host does not have. -/
structure FirstMissing (e : Effect) (h : η) (g : FieldRef) : Prop where
  written : g ∈ e.writes
  missing : g ∉ (state h).fields
  first : ∀ f ∈ e.writes, f.Precedes g → f ∈ (state h).fields

/-- The writes of an effect that does not fit, up to its first missing field. -/
theorem exists_split_of_not_fitsIn (hfits : ¬ e.FitsIn h) :
    ∃ before g w after, e.writeList = before ++ (g, w) :: after ∧ g ∉ (state h).fields ∧
      ∀ entry ∈ before, entry.1 ∈ (state h).fields := by
  obtain ⟨f, hf, hmissing⟩ : ∃ f ∈ e.writes, f ∉ (state h).fields := by
    simpa [FitsIn] using hfits
  obtain ⟨entry, hentry⟩ : ∃ entry, e.writeList.find? (·.1 ∉ (state h).fields) = some entry := by
    refine Option.isSome_iff_exists.mp (List.find?_isSome.mpr ⟨(f, e.writes[f]), ?_, ?_⟩)
    · exact mem_writeList_iff.mpr (ExtTreeMap.getElem?_eq_some_getElem hf)
    · simpa using hmissing
  obtain ⟨hgone, before, after, hlist, hbefore⟩ := List.find?_eq_some_iff_append.mp hentry
  exact ⟨before, entry.1, entry.2, after, hlist, by simpa using hgone, by simpa using hbefore⟩

/-- What stands before an entry of the sorted list are the writes to fields that precede it. -/
theorem mem_before_iff {before after : List (FieldRef × FieldWrite)} {g : FieldRef} {w : FieldWrite}
    (hlist : e.writeList = before ++ (g, w) :: after) {f : FieldRef} {u : FieldWrite} :
    (f, u) ∈ before ↔ e.writes[f]? = some u ∧ f.Precedes g := by
  have hsorted := e.writeList_pairwise
  rw [hlist, List.pairwise_append, List.pairwise_cons] at hsorted
  obtain ⟨-, ⟨hafter, -⟩, hbefore⟩ := hsorted
  rw [← mem_writeList_iff, hlist, List.mem_append, List.mem_cons]
  constructor
  · intro hmem
    exact ⟨.inl hmem, hbefore _ hmem _ List.mem_cons_self⟩
  · rintro ⟨hmem | hmem | hmem, hprec⟩
    · exact hmem
    · cases hmem
      exact absurd hprec hprec.asymm
    · exact absurd hprec (hafter _ hmem).asymm

theorem lastWrite?_before {before after : List (FieldRef × FieldWrite)} {g : FieldRef}
    {w : FieldWrite} (hlist : e.writeList = before ++ (g, w) :: after) (f : FieldRef) :
    lastWrite? (before.map fun (f, w) => .write f w) f =
      if f.Precedes g then e.writes[f]? else none := by
  have hmem : ∀ u, Access.write f u ∈ before.map (fun (f, w) => .write f w) ↔
      e.writes[f]? = some u ∧ f.Precedes g := fun u => by simp [← mem_before_iff hlist]
  cases hlast : lastWrite? (before.map fun (f, w) => .write f w) f with
  | some u =>
    obtain ⟨hwrites, hprec⟩ := (hmem u).mp (mem_of_lastWrite? hlast)
    rw [if_pos hprec, hwrites]
  | none =>
    split
    · next hprec =>
      refine (Option.eq_none_iff_forall_ne_some.mpr fun u hwrites => ?_).symm
      exact lastWrite?_eq_none.mp hlast u ((hmem u).mpr ⟨hwrites, hprec⟩)
    · rfl

/-- Where a field is missing, exactly the writes to the fields before the first such are made. -/
theorem apply_of_not_fitsIn (hfits : ¬ e.FitsIn h) :
    ∃ g, e.FirstMissing h g ∧ (e.apply h).failure = some (.noSuchField g) ∧
      (state h).Overwritten (state (e.apply h).host) fun f =>
        if f.Precedes g then e.value? f else none := by
  obtain ⟨before, g, w, after, hlist, hmissing, hthere⟩ := exists_split_of_not_fitsIn hfits
  obtain ⟨hmade, hover⟩ := overwritten_applyAll before hthere
  simp only [lastWrite?_before hlist] at hover
  have hgone : g ∉ (state (applyAll before h).host).fields := by
    rw [ExtTreeMap.mem_iff_isSome_getElem?] at hmissing ⊢
    rw [hover.fields, if_neg fun hprec => hprec.asymm hprec]
    exact hmissing
  have hstop : e.apply h = ⟨(applyAll before h).host, some (.noSuchField g)⟩ := by
    rw [apply, hlist, applyAll_append hmade, applyAll, MapHost.write_eq_error w hgone]
  refine ⟨g, ⟨?_, hmissing, fun f hf hprec => ?_⟩, by rw [hstop], ?_⟩
  · have hmem : (g, w) ∈ e.writeList := by simp [hlist]
    exact mem_writes_of_mem_writeList hmem
  · have hmem : (f, e.writes[f]) ∈ before :=
      (mem_before_iff hlist).mpr ⟨ExtTreeMap.getElem?_eq_some_getElem hf, hprec⟩
    exact hthere _ hmem
  · rw [hstop]
    refine ⟨fun f => ?_, hover.pushed, hover.shared, hover.frozen, hover.singleThreaded⟩
    rw [hover.fields, value?]
    split <;> rfl

/-- Effects act on hosts: where the fields are there, an effect overwrites them and nothing else, a
second time changes nothing, and merging is performing one after the other; where a field is
missing, exactly the writes before the first such in the order of fields are made.  On any host at
all, what stops an effect is a write that the host itself refuses. -/
theorem apply_acts (a b : Effect) :
    (∀ {κ : Type} [Host κ] (h : κ) (failure : HostFailure), (a.apply h).failure = some failure →
      ∃ f w, a.writes[f]? = some w ∧
        Host.assign (a.apply h).host w.type f w.value = .error failure) ∧
    ∀ h : η,
      (a.FitsIn h → (a.apply h).failure = none ∧
        (state h).Overwritten (state (a.apply h).host) a.value? ∧
        (a.apply (a.apply h).host).failure = none ∧
        state (a.apply (a.apply h).host).host = state (a.apply h).host) ∧
      (a.FitsIn h → b.FitsIn h → ((a.merge b).apply h).failure = none ∧
        (b.apply (a.apply h).host).failure = none ∧
        state ((a.merge b).apply h).host = state (b.apply (a.apply h).host).host) ∧
      (¬ a.FitsIn h → ∃ g, a.FirstMissing h g ∧ (a.apply h).failure = some (.noSuchField g) ∧
        (state h).Overwritten (state (a.apply h).host) fun f =>
          if f.Precedes g then a.value? f else none) :=
  ⟨fun _ _ hfailure => refused_of_apply hfailure, fun _ =>
    ⟨fun ha => ⟨(overwritten_apply ha).1, (overwritten_apply ha).2, apply_apply ha⟩,
      fun ha hb => apply_merge ha hb, apply_of_not_fitsIn⟩⟩

/-- Sets the field to an integer too. -/
def setting (e : Effect) (f : FieldRef) (n : Int32) : Effect := e.record f ⟨.int, .int n, rfl⟩

/-- Sets the counter to zero. -/
def resetting : Effect := ({ args := [] } : Effect).setting ⟨.object ⟨0⟩, "count"⟩ 0

/-- Sets the counter to two and the other field of its object to nine. -/
def raising : Effect :=
  (({ args := [] } : Effect).setting ⟨.object ⟨0⟩, "other"⟩ 9).setting ⟨.object ⟨0⟩, "count"⟩ 2

/-- Sets a total, which no table of counters has, and the counter. -/
def straying : Effect :=
  (({ args := [] } : Effect).setting ⟨.statics ⟨0⟩, "total"⟩ 2).setting ⟨.object ⟨0⟩, "count"⟩ 2

theorem fitsIn_raising (count other : Int32) : raising.FitsIn (counterTable count other) := by
  simp [FitsIn, raising, setting, record, counterTable, state]

theorem fitsIn_resetting (count other : Int32) : resetting.FitsIn (counterTable count other) := by
  simp [FitsIn, resetting, setting, record, counterTable, state]

theorem not_fitsIn_straying (count other : Int32) :
    ¬ straying.FitsIn (counterTable count other) := by
  simp [FitsIn, straying, setting, record, counterTable, state]

/-- Raising a counter and setting it back leaves what was merged of the two; a total that is not
there stops the effect once the counter is set. -/
theorem apply_acts_counter :
    state (((raising.merge resetting).apply (counterTable 1 7)).host) =
        state (resetting.apply (raising.apply (counterTable 1 7)).host).host ∧
      (straying.apply (counterTable 1 7)).failure =
        some (.noSuchField ⟨.statics ⟨0⟩, "total"⟩) ∧
      (state (straying.apply (counterTable 1 7)).host).fields[(⟨.object ⟨0⟩, "count"⟩ :
        FieldRef)]? = some (.int 2) := by
  have hmerge := (apply_acts raising resetting).2 (counterTable 1 7)
  have hstray := (apply_acts straying raising).2 (counterTable 1 7)
  obtain ⟨g, hfirst, hfailure, hover⟩ := hstray.2.2 (not_fitsIn_straying 1 7)
  obtain rfl : ⟨.statics ⟨0⟩, "total"⟩ = g := by
    have hwritten : ⟨.object ⟨0⟩, "count"⟩ = g ∨ ⟨.statics ⟨0⟩, "total"⟩ = g := by
      simpa [straying, setting, record] using hfirst.written
    refine hwritten.resolve_left fun hcount => hfirst.missing ?_
    simp [← hcount, counterTable, state]
  refine ⟨(hmerge.2.1 (fitsIn_raising 1 7) (fitsIn_resetting 1 7)).2.2, hfailure, ?_⟩
  rw [hover.fields]
  simp [FieldRef.Precedes, straying, setting, value?_record]

end Effect

end Reprise
