import Reprise.Proofs.Exactness

/-!
# Which summary a lookup finds

A stored summary describes a call if it starts as the summarized invocation did, as far as that one
looked.  A lookup finds the oldest summary that describes the call (`firstHolding_iff`), provided
that the summaries of the routine have a callee if the call has one; what it finds it finds among
the stored ones without that (`mem_of_firstHolding`).
-/

namespace Reprise

variable {η : Type} [Host η]

/-- The invocation starts as the summarized one did, as far as that one looked. -/
structure Summary.Describes (s : Summary) (h : η) (i : Invocation) : Prop where
  singleThreaded : s.precondition.singleThreaded = Host.isSingleThreaded h
  args : s.precondition.args = i.args
  callee : s.precondition.callee = i.callee
  fields : ∀ f v, s.precondition.tracked[f]? = some v → Host.field? h f = some v

/-- The first summary of the list that describes the invocation. -/
def IsOldest (l : List Summary) (h : η) (i : Invocation) (s : Summary) : Prop :=
  ∃ before after, l = before ++ s :: after ∧ s.Describes h i ∧ ∀ t ∈ before, ¬ t.Describes h i

/-- Against a call that has a callee if the recorded one did, a precondition holds if both start
alike and the tracked fields are as they were. -/
theorem Precondition.holdsIn_eq_ok {p : Precondition} (h : η) {callee : Option ObjectId}
    (hcallee : p.callee.isSome = callee.isSome) (args : List Value) (singleThreaded : Bool) :
    p.holdsIn h callee args singleThreaded =
      .ok (decide (p.singleThreaded = singleThreaded ∧ p.args = args ∧ p.callee = callee) &&
        p.fieldsHoldIn h) := by
  by_cases hthreads : p.singleThreaded = singleThreaded
  · by_cases hargs : p.args = args
    · cases hexpected : p.callee with
      | none =>
        cases callee with
        | none => simp [holdsIn, hthreads, hargs, hexpected]
        | some actual => simp [hexpected] at hcallee
      | some expected =>
        cases callee with
        | none => simp [hexpected] at hcallee
        | some actual =>
          by_cases hsame : expected = actual <;> simp [holdsIn, hthreads, hargs, hexpected, hsame]
    · simp [holdsIn, hthreads, hargs]
  · simp [holdsIn, hthreads]

theorem holdsIn_iff {s : Summary} {i : Invocation} (h : η)
    (hcallee : s.precondition.callee.isSome = i.callee.isSome) :
    ∃ holds, s.precondition.holdsIn h i.callee i.args (Host.isSingleThreaded h) = .ok holds ∧
      (holds = true ↔ s.Describes h i) := by
  refine ⟨_, Precondition.holdsIn_eq_ok h hcallee i.args (Host.isSingleThreaded h), ?_⟩
  rw [Bool.and_eq_true, decide_eq_true_eq, fieldsHoldIn_iff]
  constructor
  · rintro ⟨⟨hthreads, hargs, hcallee⟩, hfields⟩
    exact ⟨hthreads, hargs, hcallee, hfields⟩
  · rintro ⟨hthreads, hargs, hcallee, hfields⟩
    exact ⟨⟨hthreads, hargs, hcallee⟩, hfields⟩

theorem isOldest_cons {s t : Summary} {l : List Summary} {h : η} {i : Invocation} :
    IsOldest (t :: l) h i s ↔
      t.Describes h i ∧ s = t ∨ ¬ t.Describes h i ∧ IsOldest l h i s := by
  constructor
  · rintro ⟨before, after, hl, hs, hbefore⟩
    cases before with
    | nil =>
      obtain ⟨rfl, -⟩ := List.cons.inj hl
      exact .inl ⟨hs, rfl⟩
    | cons u before =>
      obtain ⟨rfl, hrest⟩ := List.cons.inj hl
      exact .inr ⟨hbefore t List.mem_cons_self, before, after, hrest, hs,
        fun v hv => hbefore v (List.mem_cons_of_mem _ hv)⟩
  · rintro (⟨ht, rfl⟩ | ⟨ht, before, after, rfl, hs, hbefore⟩)
    · exact ⟨[], l, rfl, ht, by simp⟩
    · exact ⟨t :: before, after, rfl, hs, List.forall_mem_cons.mpr ⟨ht, hbefore⟩⟩

theorem firstHolding_iff (h : η) {i : Invocation} {l : List Summary}
    (hl : ∀ s ∈ l, s.precondition.callee.isSome = i.callee.isSome) :
    ∃ found, Store.firstHolding h i.callee i.args (Host.isSingleThreaded h) l = .ok found ∧
      ∀ s, found = some s ↔ IsOldest l h i s := by
  induction l with
  | nil => exact ⟨none, rfl, fun s => by simp [IsOldest]⟩
  | cons t l ih =>
    obtain ⟨found, hfound, hspec⟩ := ih fun s hs => hl s (List.mem_cons_of_mem _ hs)
    obtain ⟨holds, hholds, hdescribes⟩ := holdsIn_iff h (hl t List.mem_cons_self)
    rw [Store.firstHolding, hholds]
    cases holds with
    | true =>
      have ht := hdescribes.mp rfl
      refine ⟨some t, rfl, fun s => ?_⟩
      simp only [isOldest_cons, ht, not_true, false_and, or_false, true_and, Option.some.injEq]
      exact eq_comm
    | false =>
      have ht : ¬ t.Describes h i := fun ht => Bool.false_ne_true (hdescribes.mpr ht)
      refine ⟨found, hfound, fun s => ?_⟩
      simp only [isOldest_cons, ht, not_false_eq_true, false_and, false_or, true_and]
      exact hspec s

theorem IsOldest.mem {l : List Summary} {h : η} {i : Invocation} {s : Summary}
    (hs : IsOldest l h i s) : s ∈ l := by
  obtain ⟨before, after, rfl, -⟩ := hs
  exact List.mem_append_right before List.mem_cons_self

theorem IsOldest.describes {l : List Summary} {h : η} {i : Invocation} {s : Summary}
    (hs : IsOldest l h i s) : s.Describes h i := by
  obtain ⟨before, after, -, hdescribes, -⟩ := hs
  exact hdescribes

theorem Store.mem_of_firstHolding {h : η} {callee : Option ObjectId}
    {args : List Value} {singleThreaded : Bool} {l : List Summary} {s : Summary}
    (hfind : firstHolding h callee args singleThreaded l = .ok (some s)) : s ∈ l := by
  induction l with
  | nil => cases hfind
  | cons t l ih =>
    rw [firstHolding] at hfind
    split at hfind
    · cases hfind
    · cases hfind
      exact List.mem_cons_self
    · exact List.mem_cons_of_mem t (ih hfind)

end Reprise
