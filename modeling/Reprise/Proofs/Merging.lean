import Reprise.Proofs.Lookup
import Reprise.Proofs.Refusal

/-!
# Merging preconditions

A merged precondition tracks the fields of both, and where both track one it keeps the value that
was seen earlier, which is that of the receiver.  It is what comes of tracking the fields of the
other one after the other:

    (a.merge b).tracked[f]? = (a.tracked[f]?).or b.tracked[f]?                      (tracked_merge)
    a.merge b = a.trackAll b.trackedFields                                      (merge_eq_trackAll)

The receiver's arguments, callee and threading stay, so the merged precondition holds where the
receiver does and the fields that only `b` tracks are as `b` has them (`holdsIn_merge_iff`).  A
recording that absorbs a summary goes another way to the same end: it merges what the summary
tracks, without the fields that the recording has written itself.

    (R.absorb s).precondition = R.precondition.merge (s.precondition.without R.effect.writes)
-/

namespace Reprise

open Std

namespace Precondition

/-- Tracks fields one after the other. -/
def trackAll (p : Precondition) (l : List (FieldRef × Value)) : Precondition :=
  l.foldl (fun p (f, v) => p.track f v) p

/-- The precondition without the fields that a map has. -/
def without {β : Type} (p : Precondition) (m : FieldMap β) : Precondition :=
  { p with tracked := p.tracked.filter fun f _ => f ∉ m }

/-! ## Tracked fields -/

/-- Preconditions of one invocation are equal if they track the same. -/
theorem eq_of_tracked {p q : Precondition} (hargs : p.args = q.args) (hcallee : p.callee = q.callee)
    (hthreads : p.singleThreaded = q.singleThreaded)
    (htracked : ∀ f : FieldRef, p.tracked[f]? = q.tracked[f]?) : p = q := by
  have hmaps : p.tracked = q.tracked := ExtTreeMap.ext_getElem? htracked
  cases p
  cases q
  simp_all

theorem tracked_merge (a b : Precondition) (f : FieldRef) :
    (a.merge b).tracked[f]? = (a.tracked[f]?).or b.tracked[f]? := ExtTreeMap.getElem?_union

theorem tracked_without {β : Type} (p : Precondition) (m : FieldMap β) (f : FieldRef) :
    (p.without m).tracked[f]? = if f ∈ m then none else p.tracked[f]? := by
  rw [without, ExtTreeMap.getElem?_filter']
  split <;> cases p.tracked[f]? <;> simp [*]

theorem tracked_track (p : Precondition) (f g : FieldRef) (v : Value) :
    (p.track f v).tracked[g]? = (p.tracked[g]?).or (if f = g then some v else none) := by
  grind [track]

/-- Of fields tracked one after the other the first value counts. -/
theorem tracked_trackAll (p : Precondition) (l : List (FieldRef × Value)) (f : FieldRef) :
    (p.trackAll l).tracked[f]? =
      (p.tracked[f]?).or (firstRead? (l.map fun (f, v) => .read f v) f) := by
  induction l generalizing p with
  | nil => simp [trackAll]
  | cons e l ih =>
    rw [show p.trackAll (e :: l) = (p.track e.1 e.2).trackAll l from rfl, ih, tracked_track,
      Option.or_assoc, List.map_cons, firstRead?_cons]
    congr 1
    by_cases hf : e.1 = f <;> simp [hf, Access.field, Access.readValue?]

theorem trackAll_keeps (p : Precondition) (l : List (FieldRef × Value)) :
    (p.trackAll l).args = p.args ∧ (p.trackAll l).callee = p.callee ∧
      (p.trackAll l).singleThreaded = p.singleThreaded := by
  induction l generalizing p with
  | nil => exact ⟨rfl, rfl, rfl⟩
  | cons e l ih => exact ih (p.track e.1 e.2)

/-! ## Merging -/

/-- Merging is tracking the fields of the other one by one. -/
theorem merge_eq_trackAll (a b : Precondition) : a.merge b = a.trackAll b.trackedFields := by
  obtain ⟨hargs, hcallee, hthreads⟩ := trackAll_keeps a b.trackedFields
  refine eq_of_tracked hargs.symm hcallee.symm hthreads.symm fun f => ?_
  rw [tracked_merge, tracked_trackAll, firstRead?_trackedFields]

theorem merge_assoc (a b c : Precondition) : (a.merge b).merge c = a.merge (b.merge c) :=
  eq_of_tracked rfl rfl rfl fun f => by simp only [tracked_merge, Option.or_assoc]

theorem merge_self (a : Precondition) : a.merge a = a :=
  eq_of_tracked rfl rfl rfl fun f => by rw [tracked_merge, Option.or_self]

section Holding

variable {η : Type} [Host η]

/-- What a merged precondition asks of the fields. -/
theorem fieldsHoldIn_merge_iff (a b : Precondition) (h : η) :
    (a.merge b).fieldsHoldIn h = true ↔ a.fieldsHoldIn h = true ∧
      ∀ f v, f ∉ a.tracked → b.tracked[f]? = some v → Host.field? h f = some v := by
  have huntracked : ∀ f : FieldRef, a.tracked[f]? = none ↔ f ∉ a.tracked := fun f => by
    rw [ExtTreeMap.mem_iff_isSome_getElem?, Bool.not_eq_true, Option.isSome_eq_false_iff,
      Option.isNone_iff_eq_none]
  simp only [fieldsHoldIn_iff, tracked_merge, Option.or_eq_some_iff, huntracked]
  constructor
  · intro hall
    exact ⟨fun f v hv => hall f v (.inl hv), fun f v hf hv => hall f v (.inr ⟨hf, hv⟩)⟩
  · rintro ⟨ha, hb⟩ f v (hv | ⟨hf, hv⟩)
    · exact ha f v hv
    · exact hb f v hf hv

/-- Merging changes nothing about when two invocations start alike, so that it can only add to what
is asked. -/
theorem holdsIn_merge_iff {a : Precondition} (b : Precondition) (h : η) {callee : Option ObjectId}
    (hcallee : a.callee.isSome = callee.isSome) (args : List Value) (singleThreaded : Bool) :
    (a.merge b).holdsIn h callee args singleThreaded = .ok true ↔
      a.holdsIn h callee args singleThreaded = .ok true ∧
        ∀ f v, f ∉ a.tracked → b.tracked[f]? = some v → Host.field? h f = some v := by
  rw [holdsIn_eq_ok h hcallee, holdsIn_eq_ok (p := a.merge b) h hcallee, Except.ok.injEq,
    Except.ok.injEq, Bool.and_eq_true, Bool.and_eq_true, fieldsHoldIn_merge_iff, and_assoc]
  -- how the invocation started is the receiver's on both sides
  rfl

end Holding

/-- Absorbing a summary merges what it tracks outside the fields that the recording has written. -/
theorem precondition_absorb (R : Recording) (s : Summary) :
    (R.absorb s).precondition =
      R.precondition.merge (s.precondition.without R.effect.writes) := by
  obtain ⟨-, -, -, -, hargs, hcallee, hthreads, -, -⟩ := Recorder.sameInvocation_absorb R s
  refine eq_of_tracked hargs hcallee hthreads fun f => ?_
  rw [Recording.tracked_absorb, tracked_merge, tracked_without]

/-! ## Top theorem -/

/-- Merging is a union that prefers what the receiver tracks: it tracks the fields of the other
precondition one by one, is associative and idempotent, and keeps how the receiver's invocation
started.  So the merged precondition holds exactly where the receiver does and the fields that it
did not track are as `b` has them, and neither comparison is a defect.  A recording that absorbs a
summary ends with the union of its precondition and what the summary tracks outside the fields
written before. -/
theorem merge_strengthens (a b c : Precondition) :
    (∀ f : FieldRef, (a.merge b).tracked[f]? = (a.tracked[f]?).or b.tracked[f]?) ∧
    a.merge b = a.trackAll b.trackedFields ∧
    (a.merge b).merge c = a.merge (b.merge c) ∧ a.merge a = a ∧
    ((a.merge b).args = a.args ∧ (a.merge b).callee = a.callee ∧
      (a.merge b).singleThreaded = a.singleThreaded) ∧
    (∀ {η : Type} [Host η] (h : η) (callee : Option ObjectId) (args : List Value)
      (singleThreaded : Bool), a.callee.isSome = callee.isSome →
      (∃ holds, a.holdsIn h callee args singleThreaded = .ok holds) ∧
      (∃ holds, (a.merge b).holdsIn h callee args singleThreaded = .ok holds) ∧
      ((a.merge b).holdsIn h callee args singleThreaded = .ok true ↔
        a.holdsIn h callee args singleThreaded = .ok true ∧
          ∀ f v, f ∉ a.tracked → b.tracked[f]? = some v → Host.field? h f = some v)) ∧
    (∀ (R : Recording) (s : Summary), (R.absorb s).precondition =
      R.precondition.merge (s.precondition.without R.effect.writes)) := by
  refine ⟨tracked_merge a b, merge_eq_trackAll a b, merge_assoc a b c, merge_self a,
    ⟨rfl, rfl, rfl⟩, fun h callee args singleThreaded hcallee => ⟨?_, ?_, ?_⟩, precondition_absorb⟩
  · exact ⟨_, holdsIn_eq_ok h hcallee args singleThreaded⟩
  · exact ⟨_, holdsIn_eq_ok (p := a.merge b) h hcallee args singleThreaded⟩
  · exact holdsIn_merge_iff b h hcallee args singleThreaded

/-- The counter was found to be one. -/
def countSeen : Precondition :=
  ({ args := [], callee := none, singleThreaded := true } : Precondition).track
    ⟨.object ⟨0⟩, "count"⟩ (.int 1)

/-- The counter was found to be two, and the field next to it to be seven. -/
def bothSeen : Precondition :=
  (({ args := [], callee := none, singleThreaded := true } : Precondition).track
    ⟨.object ⟨0⟩, "count"⟩ (.int 2)).track ⟨.object ⟨0⟩, "other"⟩ (.int 7)

/-- The counter that was seen first is the one that counts, and the other field is asked for too. -/
theorem merge_strengthens_counter :
    (countSeen.merge bothSeen).holdsIn (counterTable 1 7) none [] true = .ok true ∧
      countSeen.holdsIn (counterTable 1 8) none [] true = .ok true ∧
      (countSeen.merge bothSeen).holdsIn (counterTable 1 8) none [] true ≠ .ok true := by
  obtain ⟨-, -, -, -, -, hholds, -⟩ := merge_strengthens countSeen bothSeen bothSeen
  refine ⟨(hholds (counterTable 1 7) none [] true rfl).2.2.mpr ⟨rfl, fun f v hf hv => ?_⟩, rfl,
    fun hmerged => ?_⟩
  · have hcount : (⟨.object ⟨0⟩, "count"⟩ : FieldRef) ≠ f := by
      rintro rfl
      exact hf (by simp [countSeen, track])
    obtain ⟨rfl, rfl⟩ : ⟨.object ⟨0⟩, "other"⟩ = f ∧ Value.int 7 = v := by
      simpa [bothSeen, tracked_track, hcount] using hv
    rfl
  · have hfields := ((hholds (counterTable 1 8) none [] true rfl).2.2.mp hmerged).2
    have hother := hfields ⟨.object ⟨0⟩, "other"⟩ (.int 7) (by simp [countSeen, track])
      (by simp [bothSeen, tracked_track])
    cases hother

end Precondition

end Reprise
