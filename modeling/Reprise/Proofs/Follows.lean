import Reprise.Proofs.Viable

/-!
# What a recording and a summary say

A recording that is open says of the frames `top`, from that of its invocation on, how they came to
be: in every heap in which the tracked fields hold their values, the frame that the invocation
started with reaches `top`, and what changes is what was written (`Carries`).  Each instruction
keeps this with what is noted of it (`Follows.moves`, `Follows.reads`, `Follows.writes`), and so do
a return into the frames (`Follows.finish`) and absorbing the summary of a call (`Follows.absorb`).

A summary says the same of a single frame that is about to be left with the return value
(`Summary.Sound`).  That is what a recording says when its invocation returns (`Follows.sound`), and
it stays true as the heap changes (`Sound.mono`).
-/

namespace Reprise

open Std

/-- The fields hold the values. -/
def Heap.Holds (h : Heap) (tracked : FieldMap Value) : Prop :=
  ∀ f v, tracked[f]? = some v → ∃ ty, h.slot? f = some ⟨ty, v⟩

/-- Started anywhere in the future of `h` where the tracked fields hold, the frame reaches `top` and
makes the writes. -/
def Carries (p : Program) (h : Heap) (start : Frame) (tracked : FieldMap Value)
    (writes : FieldMap FieldWrite) (top : List Frame) : Prop :=
  ∀ g, h.Extends g → g.Holds tracked → Reaches p g [start] (g.overwrite writes) top

theorem Carries.mono {p : Program} {h h' : Heap} {start : Frame} {tracked tracked' : FieldMap Value}
    {writes : FieldMap FieldWrite} {top : List Frame} (hc : Carries p h start tracked writes top)
    (hh : h.Extends h')
    (htracked : ∀ (f : FieldRef) (v : Value), tracked[f]? = some v → tracked'[f]? = some v) :
    Carries p h' start tracked' writes top :=
  fun g hg hholds => hc g (hh.trans hg) fun f v hv => hholds f v (htracked f v hv)

/-- The frame that the invocation started with. -/
def Precondition.start (q : Precondition) (id : RoutineId) (r : Routine) : Frame :=
  Machine.calleeFrame id r q.callee q.args

/-! ## Recordings -/

/-- What an open recording of a routine says of the heap and of the frames `top`. -/
structure Follows (p : Program) (r : Routine) (h : Heap) (top : List Frame) (R : Recording) :
    Prop where
  routine : p.routine? R.routine = some r
  returns : R.returns = r.returns
  noArray : ∀ ty ∈ r.returns, ty.isSnapshottable = true
  callee : R.precondition.callee.isSome = r.hasReceiver
  unreturned : R.effect.returnValue = none
  outermost : ∃ f, top.getLast? = some f ∧ f.routine = R.routine
  written : ∀ f w, R.effect.writes[f]? = some w → h.slot? f = some ⟨w.type, w.value⟩
  kept : ∀ f v, R.precondition.tracked[f]? = some v → f ∉ R.effect.writes →
    ∃ ty, h.slot? f = some ⟨ty, v⟩
  carries : Carries p h (R.precondition.start R.routine r) R.precondition.tracked R.effect.writes
    top

namespace Follows

variable {p : Program} {r : Routine} {h : Heap} {top : List Frame} {R : Recording}

theorem fits (hR : Follows p r h top R) : h.Fits R.effect.writes :=
  fun f w hw => ⟨w.value, hR.written f w hw⟩

theorem viable (hR : Follows p r h top R) : R.Viable p r h :=
  ⟨hR.routine, hR.returns, hR.noArray, hR.callee, hR.unreturned, hR.fits⟩

theorem ne_nil (hR : Follows p r h top R) : top ≠ [] := by
  rintro rfl
  obtain ⟨f, hf, -⟩ := hR.outermost
  cases hf

/-- Where the tracked fields hold, the writes leave a field that is tracked or written as it is in
the heap of the recording. -/
theorem slot?_overwrite (hR : Follows p r h top R) {g : Heap} (hg : h.Extends g)
    (hholds : g.Holds R.precondition.tracked) {f : FieldRef}
    (hf : f ∈ R.effect.writes ∨ f ∈ R.precondition.tracked) :
    (g.overwrite R.effect.writes).slot? f = h.slot? f := by
  rw [Heap.slot?_overwrite (hg.fits hR.fits)]
  cases hw : R.effect.writes[f]? with
  | some w => rw [hR.written f w hw]; rfl
  | none =>
    have hnot : f ∉ R.effect.writes := by
      rw [ExtTreeMap.mem_iff_isSome_getElem?, hw]
      simp
    have htracked := hf.resolve_left hnot
    rw [ExtTreeMap.mem_iff_isSome_getElem?] at htracked
    obtain ⟨v, hv⟩ := Option.isSome_iff_exists.mp htracked
    obtain ⟨ty, hslot⟩ := hR.kept f v hv hnot
    obtain ⟨ty', hslot'⟩ := hholds f v hv
    -- the field of `g` has the type that it has in `h`
    obtain ⟨u, hu⟩ := hg.slots f ty ⟨v, hslot⟩
    rw [hslot'] at hu
    obtain ⟨rfl, -⟩ := Slot.mk.inj (Option.some.inj hu)
    rw [Option.map_none, Option.none_or, hslot, hslot']

/-- The heap of the recording extends to what the writes make of any heap that extends it. -/
theorem extends_overwrite (hR : Follows p r h top R) {g : Heap} (hg : h.Extends g) :
    h.Extends (g.overwrite R.effect.writes) :=
  hg.trans (Heap.becomes_overwrite (hg.fits hR.fits)).grows

/-- What a recording of the same invocation has to say anew. -/
theorem of_same (hR : Follows p r h top R) {h' : Heap} {top' : List Frame} {R' : Recording}
    (hsame : R.SameInvocation R')
    (houtermost : ∃ f, top'.getLast? = some f ∧ f.routine = R.routine)
    (hwritten : ∀ f w, R'.effect.writes[f]? = some w → h'.slot? f = some ⟨w.type, w.value⟩)
    (hkept : ∀ f v, R'.precondition.tracked[f]? = some v → f ∉ R'.effect.writes →
      ∃ ty, h'.slot? f = some ⟨ty, v⟩)
    (hcarries : Carries p h' (R.precondition.start R.routine r) R'.precondition.tracked
      R'.effect.writes top') : Follows p r h' top' R' where
  routine := hsame.routine ▸ hR.routine
  returns := hsame.returns.trans hR.returns
  noArray := hR.noArray
  callee := hsame.callee ▸ hR.callee
  unreturned := hsame.returnValue.trans hR.unreturned
  outermost := hsame.routine ▸ houtermost
  written := hwritten
  kept := hkept
  carries := by
    rw [Precondition.start, hsame.routine, hsame.callee, hsame.args]
    exact hcarries

/-! ### Moves -/

theorem getLast?_append_ne_nil {α : Type} {xs : List α} (ys : List α) (hxs : xs ≠ []) :
    (ys ++ xs).getLast? = xs.getLast? := by
  rw [List.getLast?_append, List.getLast?_eq_some_getLast hxs, Option.some_or]

/-- The outermost frame stays of its routine when the innermost one is replaced. -/
theorem outermost_replace {f : Frame} {rest : List Frame} (hR : Follows p r h (f :: rest) R)
    (new : List Frame) (hnew : ∃ g, new.getLast? = some g ∧ g.routine = f.routine) :
    ∃ g, (new ++ rest).getLast? = some g ∧ g.routine = R.routine := by
  obtain ⟨g, hg, hroutine⟩ := hR.outermost
  cases rest with
  | nil =>
    obtain rfl : f = g := Option.some.inj hg
    obtain ⟨g', hg', hf⟩ := hnew
    exact ⟨g', by rwa [List.append_nil], hf.trans hroutine⟩
  | cons f' rest =>
    rw [List.getLast?_cons_cons] at hg
    exact ⟨g, by rw [getLast?_append_ne_nil _ (List.cons_ne_nil f' rest), hg], hroutine⟩

/-- A move that does not look at fields. -/
theorem moves (hR : Follows p r h top R) {top' : List Frame}
    (houtermost : ∃ f, top'.getLast? = some f ∧ f.routine = R.routine)
    (hmove : ∀ k, h.Extends k → Moves p k top k top') : Follows p r h top' R :=
  hR.of_same (.refl R) houtermost hR.written hR.kept fun g hg hholds =>
    (hR.carries g hg hholds).moved (hmove _ (hR.extends_overwrite hg))

/-- A read of a field may be noted as soon as the field holds the value. -/
theorem note (hR : Follows p r h top R) {field : FieldRef} {slot : Slot}
    (hslot : h.slot? field = some slot) :
    Follows p r h top (R.observe (.read field slot.value)) := by
  have hwrites : (R.observe (.read field slot.value)).effect.writes = R.effect.writes :=
    ExtTreeMap.ext_getElem? fun {g} => by
      rw [Recording.writes_observe, Access.writeTo?, Option.none_or]
  refine hR.of_same (Recording.sameInvocation_observe R _) hR.outermost ?_ ?_ ?_
  · intro g w hw
    rw [hwrites] at hw
    exact hR.written g w hw
  · intro g v hv hnot
    rw [hwrites] at hnot
    rw [Recording.tracked_observe, Option.or_eq_some_iff] at hv
    rcases hv with hv | ⟨-, hv⟩
    · exact hR.kept g v hv hnot
    · simp only [hnot, Access.field, Access.readValue?, false_or, ite_not] at hv
      split at hv
      · rename_i hg
        obtain rfl := Option.some.inj hv
        exact ⟨slot.type, by rw [← hg, hslot]⟩
      · cases hv
  · rw [hwrites]
    refine hR.carries.mono (.refl h) fun g v hv => ?_
    rw [Recording.tracked_observe, hv, Option.some_or]

theorem noteAll (hR : Follows p r h top R) {l : List (FieldRef × Value)}
    (hl : ∀ e ∈ l, ∃ ty, h.slot? e.1 = some ⟨ty, e.2⟩) :
    Follows p r h top (R.observeAll (l.map fun (f, v) => .read f v)) := by
  induction l generalizing R with
  | nil => exact hR
  | cons e l ih =>
    obtain ⟨ty, hslot⟩ := hl e List.mem_cons_self
    exact ih (hR.note hslot) fun e' he' => hl e' (List.mem_cons_of_mem _ he')

theorem reads {f f' : Frame} {rest : List Frame} (hR : Follows p r h (f :: rest) R)
    (hf : f'.routine = f.routine) {field : FieldRef} {slot : Slot}
    (hslot : h.slot? field = some slot)
    (hmove : ∀ k, h.Extends k → k.slot? field = some slot →
      Moves p k (f :: rest) k (f' :: rest)) :
    Follows p r h (f' :: rest) (R.observe (.read field slot.value)) := by
  have hnoted := hR.note hslot
  have hread : field ∈ (R.observe (.read field slot.value)).effect.writes ∨
      field ∈ (R.observe (.read field slot.value)).precondition.tracked := by
    by_cases hw : field ∈ R.effect.writes
    · exact .inl ((Recording.mem_writes_observe _ _ _).mpr (.inr hw))
    · refine .inr ?_
      rw [ExtTreeMap.mem_iff_isSome_getElem?, Recording.tracked_observe]
      simp [hw, Access.field, Access.readValue?]
  refine hnoted.of_same (.refl _) (hnoted.outermost_replace [f'] ⟨f', rfl, hf⟩) hnoted.written
    hnoted.kept fun g hg hholds => ?_
  refine (hnoted.carries g hg hholds).moved (hmove _ (hnoted.extends_overwrite hg) ?_)
  rw [hnoted.slot?_overwrite hg hholds hread, hslot]

theorem writes {f f' : Frame} {rest : List Frame} (hR : Follows p r h (f :: rest) R)
    (hf : f'.routine = f.routine) {field : FieldRef} {w : FieldWrite}
    (hfield : h.HasSlot field w.type)
    (hmove : ∀ k, h.Extends k →
      Moves p k (f :: rest) (k.putSlot field ⟨w.type, w.value⟩) (f' :: rest)) :
    Follows p r (h.putSlot field ⟨w.type, w.value⟩) (f' :: rest) (R.observe (.write field w)) := by
  refine hR.of_same (Recording.sameInvocation_observe R _)
    (hR.outermost_replace [f'] ⟨f', rfl, hf⟩) ?_ ?_ ?_
  · intro g u hu
    rw [Recording.writes_observe] at hu
    rw [Heap.slot?_putSlot hfield]
    by_cases hg : field = g
    · rw [if_pos hg]
      simp only [Access.writeTo?, if_pos hg, Option.some_or, Option.some.injEq] at hu
      rw [hu]
    · rw [if_neg hg]
      simp only [Access.writeTo?, if_neg hg, Option.none_or] at hu
      exact hR.written g u hu
  · intro g v hv hnot
    rw [Recording.mem_writes_observe, not_or] at hnot
    have hne : field ≠ g := by
      rintro rfl
      simp [Access.writeTo?] at hnot
    rw [Heap.slot?_putSlot hfield, if_neg hne]
    exact hR.kept g v hv hnot.2
  · intro g hg hholds
    have hput := (Heap.becomes_putSlot hfield (Bool.and_eq_true_iff.mp w.storable).2).grows
    have hg := hput.trans hg
    rw [show (R.observe (.write field w)).effect.writes = R.effect.writes.insert field w from rfl,
      ← Heap.putSlot_overwrite (hg.fits hR.fits) (hg.slots _ _ hfield)]
    exact (hR.carries g hg hholds).moved (hmove _ (hR.extends_overwrite hg))

/-- A frame is left while others of the invocation remain. -/
theorem finish {f g : Frame} {rest : List Frame} {v : Option Value}
    (hR : Follows p r h (f :: g :: rest) R) (hleaves : f.Leaves p h v) :
    Follows p r h (deliverTo v (g :: rest)) R := by
  refine hR.moves ?_ fun k hk => (hleaves k hk).elim fun f' hf' => .finish hf'
  obtain ⟨g', hg', hroutine⟩ := hR.outermost
  rw [List.getLast?_cons_cons] at hg'
  cases rest with
  | nil =>
    obtain rfl : g = g' := Option.some.inj hg'
    exact ⟨_, rfl, by cases v <;> exact hroutine⟩
  | cons g'' rest =>
    rw [List.getLast?_cons_cons] at hg'
    exact ⟨g', List.getLast?_cons_cons.trans hg', hroutine⟩

end Follows

/-! ## Summaries -/

/-- What a summary of a routine says: `last` is the frame that the routine ends in. -/
structure Summary.Sound (p : Program) (r : Routine) (id : RoutineId) (h : Heap) (last : Frame)
    (s : Summary) : Prop where
  routine : p.routine? id = some r
  noArray : ∀ ty ∈ r.returns, ty.isSnapshottable = true
  callee : s.precondition.callee.isSome = r.hasReceiver
  returns : p.Returns id s.effect.returnValue
  ends : last.routine = id
  fits : h.Fits s.effect.writes
  finish : last.Leaves p h s.effect.returnValue
  carries : Carries p h (s.precondition.start id r) s.precondition.tracked s.effect.writes [last]

/-- What is true of a summary stays true. -/
theorem Summary.Sound.mono {p : Program} {r : Routine} {id : RoutineId} {h h' : Heap} {last : Frame}
    {s : Summary} (hs : s.Sound p r id h last) (hh : h.Extends h') : s.Sound p r id h' last :=
  { hs with
    fits := hh.fits hs.fits
    finish := fun k hk => hs.finish k (hh.trans hk)
    carries := hs.carries.mono hh fun _ _ hv => hv }

theorem Summary.Sound.viable {p : Program} {r : Routine} {id : RoutineId} {h : Heap} {last : Frame}
    {s : Summary} (hs : s.Sound p r id h last) : s.Viable p r id h :=
  ⟨hs.routine, hs.noArray, hs.callee, hs.returns, hs.fits⟩

/-- Pushing the return value of a sound summary succeeds, and its return instruction takes the value
from there. -/
theorem Summary.Sound.pushResult {p : Program} {r : Routine} {id : RoutineId} {h : Heap}
    {last : Frame} {s : Summary} (hs : s.Sound p r id h last) (g : Heap) :
    ∃ stack, Recorder.pushResult (FrameView.mk g []) r.returns s = .ok ⟨g, stack⟩ ∧
      ∀ f : Frame, f.routine = id → r.finalReturn? = some f.pc → f.stack = stack →
        f.Leaves p g s.effect.returnValue := by
  obtain ⟨stack, hpush, hnext⟩ := hs.viable.pushResult g
  exact ⟨stack, hpush, fun f hf hpc hstack k _ => ⟨_, hnext f 0 k hf hpc hstack⟩⟩

namespace Follows

variable {p : Program} {r : Routine} {h : Heap} {top : List Frame} {R : Recording}

/-- The recording of an invocation that has done nothing yet. -/
theorem ofInvocation {q : Routine} {id : RoutineId} (hq : p.routine? id = some q)
    {callee : Option ObjectId} {args : List Value} {depth : Nat}
    (hcallee : callee.isSome = q.hasReceiver)
    (hsignature : (q.invocation id callee args depth).hasArraySignature = false)
    (singleThreaded : Bool) :
    Follows p q h [Machine.calleeFrame id q callee args]
      (.ofInvocation (q.invocation id callee args depth) singleThreaded) :=
  { Recording.Viable.ofInvocation (h := h) hq hcallee hsignature singleThreaded with
    outermost := ⟨_, rfl, rfl⟩
    written := fun f w hw => by simp [Recording.ofInvocation] at hw
    kept := fun f v hv => by simp [Recording.ofInvocation] at hv
    carries := fun g _ _ => by
      rw [show (Recording.ofInvocation (q.invocation id callee args depth)
        singleThreaded).effect.writes = ∅ from rfl, Heap.overwrite_empty]
      exact .refl }

/-- When the invocation returns, its recording is a sound summary. -/
theorem sound {f : Frame} {v : Option Value} (hR : Follows p r h [f] R)
    (hleaves : f.Leaves p h v) (hv : p.Returns f.routine v) :
    (Recorder.returning R v).summary.Sound p r R.routine h f := by
  obtain ⟨g, hg, hroutine⟩ := hR.outermost
  obtain rfl : f = g := Option.some.inj hg
  obtain ⟨hviable, hreturning⟩ := hR.viable.returned (hroutine ▸ hv)
  rw [hreturning] at hviable ⊢
  exact { hviable with
    ends := hroutine
    finish := hleaves
    carries := hR.carries }

variable {r' : Routine} {id : RoutineId} {last : Frame} {rest : List Frame} {s : Summary}

/-- What a recording that knows what a summary tracks says after the summary was replayed. -/
theorem merge (hR : Follows p r h (s.precondition.start id r' :: rest) R)
    (hs : s.Sound p r' id h last) (hholds : h.Holds s.precondition.tracked)
    (hseen : ∀ (f : FieldRef) (v : Value), s.precondition.tracked[f]? = some v →
      f ∈ R.effect.writes ∨ f ∈ R.precondition.tracked) :
    Follows p r (h.overwrite s.effect.writes) (last :: rest)
      { R with effect := R.effect.merge s.effect } := by
  refine hR.of_same ⟨rfl, rfl, rfl, rfl, rfl, rfl, rfl, rfl, rfl⟩
    (hR.outermost_replace [last] ⟨last, rfl, hs.ends⟩) ?_ ?_ ?_
  · intro f w hw
    rw [Heap.slot?_overwrite hs.fits]
    have hw : (R.effect.writes ∪ s.effect.writes)[f]? = some w := hw
    rw [ExtTreeMap.getElem?_union, Option.or_eq_some_iff] at hw
    rcases hw with hw | ⟨hnone, hw⟩
    · rw [hw]
      rfl
    · rw [hnone, Option.map_none, Option.none_or, hR.written f w hw]
  · intro f v hv hnot
    have hnot : f ∉ R.effect.writes ∪ s.effect.writes := hnot
    rw [ExtTreeMap.mem_union_iff, not_or] at hnot
    rw [Heap.slot?_overwrite hs.fits, ExtTreeMap.getElem?_eq_none hnot.2, Option.map_none,
      Option.none_or]
    exact hR.kept f v hv hnot.1
  · intro g hg hread
    have hg := (Heap.becomes_overwrite hs.fits).grows.trans hg
    have hk := hR.extends_overwrite hg
    rw [show (R.effect.merge s.effect).writes = R.effect.writes ∪ s.effect.writes from rfl,
      ← Heap.overwrite_overwrite (hg.fits hR.fits) (hg.fits hs.fits)]
    -- the frame of the call, then what the summary says from there on
    refine (hR.carries g hg hread).trans ?_
    refine (hs.carries _ hk fun f v hv => ?_).append rest
    rw [hR.slot?_overwrite hg hread (hseen f v hv)]
    exact hholds f v hv

/-- What a recording says after the summary of a call was replayed: the reads of the summary come
first, and change neither the heap nor the frames. -/
theorem absorb (hR : Follows p r h (s.precondition.start id r' :: rest) R)
    (hs : s.Sound p r' id h last) (hholds : h.Holds s.precondition.tracked) :
    Follows p r (h.overwrite s.effect.writes) (last :: rest) (R.absorb s) := by
  have hnoted := hR.noteAll (l := s.precondition.trackedFields) fun e he =>
    hholds e.1 e.2 (ExtTreeMap.mem_toList_iff_getElem?_eq_some.mp he)
  have habsorb : R.absorb s =
      let read := R.observeAll (s.precondition.trackedFields.map fun (f, v) => .read f v)
      { read with effect := read.effect.merge s.effect } := by
    rw [Recording.observeAll, List.foldl_map]
    rfl
  rw [habsorb]
  refine hnoted.merge hs hholds fun f v hv => ?_
  simp only [ExtTreeMap.mem_iff_isSome_getElem?, Recording.tracked_observeAll,
    Recording.writes_observeAll, lastWrite?_reads, Precondition.firstRead?_trackedFields, hv]
  by_cases hw : R.effect.writes[f]?.isSome <;> simp [hw]

end Follows

end Reprise
