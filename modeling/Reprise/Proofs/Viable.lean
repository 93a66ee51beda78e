import Reprise.Proofs.Commit
import Reprise.Proofs.Lookup
import Reprise.Proofs.Moves
import Reprise.Proofs.StorageForm

/-!
# Summaries that can always be replayed

A summary is viable in a heap if every field that it writes exists there with the type of the write,
and what it returns is what its routine returns.  It stays viable as the heap grows (`Viable.mono`),
and replaying it never fails: the host takes all its writes, and its return value is what the last
return of the routine takes off the stack (`Viable.pushResult`).

A recording is viable if it needs no more than to see its invocation return
(`Recording.Viable.returned`).  Where all stored summaries are viable, every call is handled without
a failure (`Store.IsViable.handles_call`).  Nothing is said of what the summaries are summaries of.
-/

namespace Reprise

/-! ## Summaries -/

/-- Replaying the summary in place of a call of the routine cannot fail. -/
structure Summary.Viable (p : Program) (q : Routine) (id : RoutineId) (h : Heap) (s : Summary) :
    Prop where
  routine : p.routine? id = some q
  noArray : ∀ ty ∈ q.returns, ty.isSnapshottable = true
  callee : s.precondition.callee.isSome = q.hasReceiver
  returns : p.Returns id s.effect.returnValue
  fits : h.Fits s.effect.writes

namespace Summary.Viable

variable {p : Program} {q : Routine} {id : RoutineId} {h h' : Heap} {s : Summary}

theorem mono (hs : s.Viable p q id h) (hh : h.Extends h') : s.Viable p q id h' :=
  { hs with fits := hh.fits hs.fits }

/-- What the summary returns is what its routine returns, and the routine has a return. -/
theorem yields (hs : s.Viable p q id h) :
    q.finalReturn? ≠ none ∧ Yields q.returns s.effect.returnValue := by
  obtain ⟨q', hq', hfinal, hyields⟩ := hs.returns
  rw [hs.routine] at hq'
  obtain rfl := Option.some.inj hq'
  exact ⟨hfinal, hyields⟩

/-- Pushing the return value succeeds, and the last return takes it from there: whatever the heap and
the clock are, the frame is left with that value and an empty stack. -/
theorem pushResult (hs : s.Viable p q id h) (g : Heap) :
    ∃ stack, Recorder.pushResult (FrameView.mk g []) q.returns s = .ok ⟨g, stack⟩ ∧
      ∀ (f : Frame) (clock : Nat) (k : Heap), f.routine = id → q.finalReturn? = some f.pc →
        f.stack = stack →
        f.next p clock k = .ok (.finish { f with stack := [] } s.effect.returnValue) := by
  have hyields := hs.yields.2
  have hnext : ∀ (f : Frame) (clock : Nat) (k : Heap), f.routine = id →
      q.finalReturn? = some f.pc → f.next p clock k = f.act p clock k q.returns .leave := by
    rintro f clock k rfl hpc
    simp only [Frame.next, hs.routine, code_finalReturn hpc]
  cases hty : q.returns with
  | none =>
    rw [hty] at hyields
    cases hv : s.effect.returnValue with
    | some v => rw [hv] at hyields; cases hyields
    | none =>
      refine ⟨[], rfl, fun f clock k hf hpc hstack => ?_⟩
      have hsame : { f with stack := [] } = f := by rw [← hstack]
      rw [hnext f clock k hf hpc, hty, hsame]
      rfl
  | some ty =>
    rw [hty] at hyields
    cases hv : s.effect.returnValue with
    | none => rw [hv] at hyields; cases hyields
    | some v =>
      rw [hv] at hyields
      have hstorable : Host.storable ty v = true :=
        Bool.and_eq_true_iff.mpr ⟨hs.noArray ty hty, hyields⟩
      refine ⟨[v.widened], Recorder.pushResult_of_storable hv hstorable g [],
        fun f clock k hf hpc hstack => ?_⟩
      rw [hnext f clock k hf hpc, hty]
      obtain ⟨routine, pc, locals, stack⟩ := f
      obtain rfl : stack = [v.widened] := hstack
      exact Frame.act_leave (Value.narrowedTo_widened hyields) p clock k ⟨routine, pc, locals, []⟩

end Summary.Viable

/-! ## Recordings -/

/-- The recording becomes a viable summary when its invocation returns. -/
structure Recording.Viable (p : Program) (q : Routine) (h : Heap) (R : Recording) : Prop where
  routine : p.routine? R.routine = some q
  returns : R.returns = q.returns
  noArray : ∀ ty ∈ q.returns, ty.isSnapshottable = true
  callee : R.precondition.callee.isSome = q.hasReceiver
  unreturned : R.effect.returnValue = none
  fits : h.Fits R.effect.writes

namespace Recording.Viable

variable {p : Program} {q : Routine} {h h' : Heap} {R R' : Recording}

theorem mono (hR : R.Viable p q h) (hh : h.Extends h') : R.Viable p q h' :=
  { hR with fits := hh.fits hR.fits }

/-- Of the same invocation, only other writes matter. -/
theorem of_same (hR : R.Viable p q h) (hsame : R.SameInvocation R')
    (hfits : h.Fits R'.effect.writes) : R'.Viable p q h where
  routine := hsame.routine ▸ hR.routine
  returns := hsame.returns.trans hR.returns
  noArray := hR.noArray
  callee := hsame.callee ▸ hR.callee
  unreturned := hsame.returnValue.trans hR.unreturned
  fits := hfits

/-- The recording of an invocation that has done nothing yet. -/
theorem ofInvocation {id : RoutineId} (hq : p.routine? id = some q) {callee : Option ObjectId}
    {args : List Value} {depth : Nat} (hcallee : callee.isSome = q.hasReceiver)
    (hsignature : (q.invocation id callee args depth).hasArraySignature = false)
    (singleThreaded : Bool) :
    (Recording.ofInvocation (q.invocation id callee args depth) singleThreaded).Viable p q h where
  routine := hq
  returns := rfl
  noArray := fun ty hty => by
    simp only [Invocation.hasArraySignature, List.any_eq_false] at hsignature
    simpa using hsignature ty (List.mem_append_right _ (Option.mem_toList.mpr hty))
  callee := hcallee
  unreturned := rfl
  fits := fun f w hw => by simp [Recording.ofInvocation] at hw

theorem observe (hR : R.Viable p q h) {a : Access}
    (ha : ∀ f w, a.writeTo? f = some w → h.HasSlot f w.type) : (R.observe a).Viable p q h := by
  refine hR.of_same (Recording.sameInvocation_observe R a) fun f w hw => ?_
  rw [Recording.writes_observe, Option.or_eq_some_iff] at hw
  rcases hw with hw | ⟨-, hw⟩
  · exact ha f w hw
  · exact hR.fits f w hw

/-- A replayed summary brings only writes that fit. -/
theorem absorb (hR : R.Viable p q h) {s : Summary} (hs : h.Fits s.effect.writes) :
    (R.absorb s).Viable p q h := by
  rw [Recording.absorb_eq_observeAll]
  refine hR.of_same (Recording.sameInvocation_observeAll R _) fun f w hw => ?_
  rw [Recording.writes_observeAll, Summary.lastWrite?_accesses, Option.or_eq_some_iff] at hw
  rcases hw with hw | ⟨-, hw⟩
  · exact hs f w hw
  · exact hR.fits f w hw

/-- A returned value has the form of the return type already. -/
theorem returning_eq (hR : R.Viable p q h) {v : Option Value} (hv : Yields q.returns v) :
    Recorder.returning R v = { R with effect := { R.effect with returnValue := v } } := by
  rw [← hR.returns] at hv
  cases v with
  | none =>
    have hsame : { R.effect with returnValue := none } = R.effect := by rw [← hR.unreturned]
    rw [hsame]
    rfl
  | some w =>
    cases hty : R.returns with
    | none => rw [hty] at hv; cases hv
    | some ty =>
      rw [hty] at hv
      simp only [Recorder.returning, hty, Value.narrowedOrSelf, Value.narrowedTo_self hv,
        Option.getD_some]

/-- When the invocation returns, its recording is a viable summary that returns the value. -/
theorem returned (hR : R.Viable p q h) {v : Option Value} (hv : p.Returns R.routine v) :
    (Recorder.returning R v).summary.Viable p q R.routine h ∧
      Recorder.returning R v = { R with effect := { R.effect with returnValue := v } } := by
  have hyields : Yields q.returns v := by
    obtain ⟨q', hq', -, hyields⟩ := hv
    rw [hR.routine] at hq'
    obtain rfl := Option.some.inj hq'
    exact hyields
  have hreturning := hR.returning_eq hyields
  refine ⟨?_, hreturning⟩
  rw [hreturning]
  exact ⟨hR.routine, hR.noArray, hR.callee, hv, hR.fits⟩

end Recording.Viable

/-! ## Calls -/

namespace Store

open Recorder

/-- Every stored summary can be replayed. -/
def IsViable (s : Store) (p : Program) (h : Heap) : Prop :=
  ∀ id, ∀ summary ∈ s.summaries id, ∃ q, summary.Viable p q id h

namespace IsViable

variable {p : Program} {h : Heap} {r : Recorder} {q : Routine} {id : RoutineId}
  {callee : Option ObjectId}

theorem of_mem {store : Store} (hstored : store.IsViable p h) (hq : p.routine? id = some q)
    {s : Summary} (hs : s ∈ store.summaries id) : s.Viable p q id h := by
  obtain ⟨q', hviable⟩ := hstored id s hs
  obtain rfl := Option.some.inj (hq.symm.trans hviable.routine)
  exact hviable

/-- A lookup finds no defect. -/
theorem find {η : Type} [Host η] {store : Store} (hstored : store.IsViable p h) (host : η)
    {i : Invocation} (hq : p.routine? i.routine = some q)
    (hcallee : i.callee.isSome = q.hasReceiver) :
    ∃ found, store.find host i.routine i.callee i.args (Host.isSingleThreaded host) = .ok found ∧
      ∀ s, found = some s ↔ IsOldest (store.summaries i.routine) host i s :=
  firstHolding_iff host fun _ hs => (hstored.of_mem hq hs).callee.trans hcallee.symm

/-- A call past the entry point is answered without a failure.  If that is `skipToReturn`, a summary
was replayed. -/
theorem handles_call (hstored : r.store.IsViable p h) (hq : p.routine? id = some q)
    (hcallee : callee.isSome = q.hasReceiver) (args : List Value) (depth : Nat) :
    ∃ r' h' stack d, r.handle (FrameView.mk h []) (.call (q.invocation id callee args depth)) =
        .ok ⟨r', ⟨h', stack⟩, .ok d⟩ ∧ h.Extends h' ∧
      (d = .skipToReturn → ∃ s, r.matching? (FrameView.mk h [])
          (q.invocation id callee args depth) = some s ∧ s.Viable p q id h ∧
        pushResult (FrameView.mk h' []) q.returns s = .ok ⟨h', stack⟩) := by
  obtain ⟨found, hfound, -⟩ :=
    hstored.find (FrameView.mk h []) (i := q.invocation id callee args depth) hq hcallee
  have hviable : ∀ s, r.store.find (FrameView.mk h []) id callee args h.isSingleThreaded =
      .ok (some s) → s.Viable p q id h := fun s hfind =>
    hstored.of_mem hq (mem_of_firstHolding hfind)
  cases hhandle : r.handle (FrameView.mk h []) (.call (q.invocation id callee args depth)) with
  | error defect =>
    rcases cause_of_handle_error hhandle with ⟨i, hi, hfind⟩ | ⟨access, haccess, -⟩
    · obtain rfl := Event.call.inj hi
      cases hfound.symm.trans hfind
    · cases haccess
  | ok reply =>
    obtain ⟨r', host, answer⟩ := reply
    have hreaction : Reaction r (FrameView.mk h []) r' _ host answer := reaction_of_handle hhandle
    cases hreaction with
    | discards => exact ⟨r', h, [], _, rfl, .refl h, by simp⟩
    | passes => exact ⟨r', h, [], _, rfl, .refl h, by simp⟩
    | opens => exact ⟨r', h, [], _, rfl, .refl h, by simp⟩
    | @replays _ s host _ hfind _ _ hpush _ =>
      have hs := hviable s hfind
      rw [apply_frameView [] hs.fits] at hpush
      obtain ⟨stack, hpushed, -⟩ := hs.pushResult (h.overwrite s.effect.writes)
      obtain rfl := Except.ok.inj (hpushed.symm.trans hpush)
      refine ⟨r', h.overwrite s.effect.writes, stack, _, rfl,
        (Heap.becomes_overwrite hs.fits).grows, fun _ => ⟨s, ?_, hs, hpushed⟩⟩
      rw [matching?, hfind]
    | @refuses _ s failure hfind _ hwhy _ =>
      have hs := hviable s hfind
      obtain ⟨stack, hpushed, -⟩ := hs.pushResult (h.overwrite s.effect.writes)
      rw [apply_frameView [] hs.fits] at hwhy
      rcases hwhy with hfailure | hpush
      · cases hfailure
      · cases hpushed.symm.trans hpush

end IsViable

end Store

end Reprise
