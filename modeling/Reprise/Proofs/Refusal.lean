import Reprise.Proofs.Absorption
import Reprise.Proofs.Contents
import Reprise.Proofs.Standing

/-!
# Replays that a host refuses

A host may refuse one of the writes that a replay asks for, or the push of the returned value, and
the call then fails.  By that time every open recording has absorbed the summary, and the refusal
takes nothing back: no recording is discarded, and one is left as it was only if it knew everything
that the summary says (`Recording.Covers`).

    the call fails → the open recordings are those from before, each with the summary absorbed
    R.absorb s = R ↔ R.Covers s                                             (absorb_eq_self_iff)

So when the invocation of such a recording returns, it stores a summary with all writes of the one
that was refused, those that the host never made included (`failed_replay_is_absorbed`).
-/

namespace Reprise

open Std

/-! ## What absorbing leaves alone -/

namespace Recording

/-- The recording has tracked or written every field that the summary tracks, and writes what the
summary writes. -/
structure Covers (R : Recording) (s : Summary) : Prop where
  reads : ∀ f : FieldRef, f ∈ s.precondition.tracked →
    f ∈ R.precondition.tracked ∨ f ∈ R.effect.writes
  writes : ∀ (f : FieldRef) (w : FieldWrite), s.effect.writes[f]? = some w →
    R.effect.writes[f]? = some w

theorem tracked_absorb (R : Recording) (s : Summary) (f : FieldRef) :
    (R.absorb s).precondition.tracked[f]? = (R.precondition.tracked[f]?).or
      (if f ∈ R.effect.writes then none else s.precondition.tracked[f]?) := by
  rw [absorb_eq_observeAll, tracked_observeAll, Summary.firstRead?_accesses]

theorem writes_absorb (R : Recording) (s : Summary) (f : FieldRef) :
    (R.absorb s).effect.writes[f]? = (s.effect.writes[f]?).or R.effect.writes[f]? := by
  rw [absorb_eq_observeAll, writes_observeAll, Summary.lastWrite?_accesses]

theorem tracked_absorb_eq_iff {R : Recording} {s : Summary} {f : FieldRef} :
    (R.absorb s).precondition.tracked[f]? = R.precondition.tracked[f]? ↔
      (f ∈ s.precondition.tracked → f ∈ R.precondition.tracked ∨ f ∈ R.effect.writes) := by
  rw [tracked_absorb]
  by_cases hwritten : f ∈ R.effect.writes
  · simp [hwritten]
  · rw [if_neg hwritten, ExtTreeMap.mem_iff_isSome_getElem?, ExtTreeMap.mem_iff_isSome_getElem?]
    cases R.precondition.tracked[f]? <;> cases s.precondition.tracked[f]? <;> simp [hwritten]

theorem writes_absorb_eq_iff {R : Recording} {s : Summary} {f : FieldRef} :
    (R.absorb s).effect.writes[f]? = R.effect.writes[f]? ↔
      ∀ w, s.effect.writes[f]? = some w → R.effect.writes[f]? = some w := by
  rw [writes_absorb]
  cases s.effect.writes[f]? with
  | none => simp
  | some w => simp [eq_comm]

/-- Only a recording that covers a summary stays as it is when it absorbs it. -/
theorem absorb_eq_self_iff {R : Recording} {s : Summary} : R.absorb s = R ↔ R.Covers s := by
  constructor
  · intro hsame
    refine ⟨fun f => tracked_absorb_eq_iff.mp (by rw [hsame]),
      fun f => writes_absorb_eq_iff.mp (by rw [hsame])⟩
  · intro hcovers
    exact eq_of_sameInvocation (Recorder.sameInvocation_absorb R s) (.refl R)
      (fun f => tracked_absorb_eq_iff.mpr (hcovers.reads f))
      (fun f => writes_absorb_eq_iff.mpr (hcovers.writes f))

end Recording

namespace Recorder

theorem map_absorb_eq_self_iff {l : List Recording} {s : Summary} :
    l.map (·.absorb s) = l ↔ ∀ R ∈ l, R.Covers s := by
  have hid : l.map (·.absorb s) = l ↔ l.map (·.absorb s) = l.map id := by rw [List.map_id]
  simp only [hid, List.map_inj_left, id, Recording.absorb_eq_self_iff]

/-! ## Calls that fail -/

variable {η : Type} [Host η]

/-- The host stops on the way when the summary is carried out for the invocation. -/
def Stops (h : η) (i : Invocation) (s : Summary) (failure : HostFailure) : Prop :=
  (s.effect.apply h).failure = some failure ∨
    pushResult (s.effect.apply h).host i.returns s = .error failure

/-- A call fails only on a replay. -/
theorem tryReplay_of_failed {r r' : Recorder} {h h' : η} {i : Invocation} {failure : HostFailure}
    (hcall : r.onEvent h (.call i) = .ok ⟨r', h', .error failure⟩) :
    { r with entered := true, statistics := r.statistics.recordCall i }.tryReplay h i =
      .ok (.refused r' h' failure) := by
  unfold onEvent at hcall
  split at hcall
  · cases called_onCall hcall with
    | refuses _ htry => exact htry
  · cases hcall

/-- A call that fails has found a summary and has handed it to every open recording; the routines
stand as before. -/
theorem absorbed_of_failed {r r' : Recorder} {h h' : η} {i : Invocation} {failure : HostFailure}
    (hcall : r.onEvent h (.call i) = .ok ⟨r', h', .error failure⟩) :
    ∃ s, r.store.find h i.routine i.callee i.args (Host.isSingleThreaded h) = .ok (some s) ∧
      Stops h i s failure ∧ h' = (s.effect.apply h).host ∧
      Turns { r with entered := true } r' (r.recordings.map (·.absorb s)) r.store ∧
      r'.standing = r.standing := by
  have htry := tryReplay_of_failed hcall
  have hstanding : r'.standing = r.standing := standing_tryReplay htry
  cases attempted_tryReplay (r := { r with entered := true }) (turns_recordCall _ i) htry with
  | refused hfind _ hwhy hr => exact ⟨_, hfind, hwhy, rfl, hr, hstanding⟩

/-- The recording of an invocation that is still open when a call fails absorbs its summary. -/
theorem Holds.failed {j : Invocation} {R : Recording} {r r' : Recorder} {s : Summary}
    (hR : Holds j R r)
    (hr : Turns { r with entered := true } r' (r.recordings.map (·.absorb s)) r.store) :
    Holds j (R.absorb s) r' :=
  hR.map (·.absorb s) (fun S => sameInvocation_absorb S s)
    ⟨hr.recordings, hr.store, hr.entered.trans hR.entered.symm, hr.config, hr.blocked⟩

/-- The return of an invocation stores a summary with every write that its recording has. -/
theorem Holds.returned_writes {j : Invocation} {R : Recording} {r : Recorder} (hR : Holds j R r)
    (h : η) (value : Option Value) :
    ∃ r' t, r.onEvent h (.returned j.routine j.depth value) = .ok ⟨r', h, .ok .proceed⟩ ∧
      (∀ x, r'.store.summaries x = r.store.summaries x ++ if x = j.routine then [t] else []) ∧
      t.effect.writes = R.effect.writes := by
  obtain ⟨r', hreturn, hstore⟩ := hR.returned h value
  refine ⟨r', (returning R value).summary, hreturn, fun x => ?_, writes_returning R value⟩
  rw [hstore, summaries_put _ hR.hasRoom]

/-- A call fails if the host refuses on the way to carry out the summary found for it.  Every open
recording stays open and has then absorbed that summary; none has changed exactly if all of them
covered it before.  The return of an invocation that is recorded stores a summary with all of its
writes, whichever of them the host made. -/
theorem failed_replay_is_absorbed {r r' : Recorder} {h h' : η} {i : Invocation}
    {failure : HostFailure} (hcall : r.onEvent h (.call i) = .ok ⟨r', h', .error failure⟩) :
    ∃ s ∈ r.store.summaries i.routine, Stops h i s failure ∧ h' = (s.effect.apply h).host ∧
      r'.recordings = r.recordings.map (·.absorb s) ∧ (∀ x, r'.state x = r.state x) ∧
      (r'.recordings = r.recordings ↔ ∀ R ∈ r.recordings, R.Covers s) ∧
      ∀ j R, Holds j R r → ∀ (later : η) (value : Option Value), ∃ r₂ t,
        r'.onEvent later (.returned j.routine j.depth value) = .ok ⟨r₂, later, .ok .proceed⟩ ∧
        (∀ x, r₂.store.summaries x =
          r.store.summaries x ++ if x = j.routine then [t] else []) ∧
        ∀ (f : FieldRef) (w : FieldWrite), s.effect.writes[f]? = some w →
          t.effect.writes[f]? = some w := by
  obtain ⟨s, hfind, hstops, hhost, hr, hstanding⟩ := absorbed_of_failed hcall
  have hrecordings : r'.recordings = r.recordings.map (·.absorb s) := hr.recordings
  refine ⟨s, Store.mem_of_firstHolding hfind, hstops, hhost, hrecordings, fun x => ?_, ?_, ?_⟩
  · rw [state_eq, state_eq, hstanding]
  · rw [hrecordings]
    exact map_absorb_eq_self_iff
  · intro j R hR later value
    obtain ⟨r₂, t, hreturn, hstore, hwrites⟩ := (hR.failed hr).returned_writes later value
    have hsame : r'.store = r.store := hr.store
    refine ⟨r₂, t, hreturn, fun x => by rw [hstore, hsame], fun f w hw => ?_⟩
    rw [hwrites, Recording.writes_absorb, hw, Option.some_or]

/-! ## A write that was never made -/

/-- The inner routine is recorded; then the outer one is called, in a host without the field that
the inner one wrote. -/
def beforeRefusal : List Operation :=
  [.event table (.call innerCall), .event table (.fieldWrite (counterAt 3)),
    .event table (.returned ⟨1⟩ 2 none), .event table (.call outerCall)]

/-- The recorder in which the outer routine is being recorded. -/
def awaiting : Recorder := (fresh.operateAll beforeRefusal).toOption.getD fresh

/-- The recording of the outer routine has not seen anything yet. -/
theorem holds_awaiting : Holds outerCall (.ofInvocation outerCall true) awaiting :=
  ⟨rfl, rfl, rfl, [], [], rfl, by simp, by simp⟩

/-- The call of the inner routine fails, and the outer one gets its write. -/
theorem failed_replay_is_absorbed_awaiting :
    ∃ r' r₂ s t, awaiting.onEvent table (.call innerCall) =
        .ok ⟨r', table, .error (.noSuchField (counterAt 3).field)⟩ ∧
      s ∈ awaiting.store.summaries ⟨1⟩ ∧ r'.recordings = awaiting.recordings.map (·.absorb s) ∧
      r'.state ⟨0⟩ = .recording ∧
      r'.onEvent table (.returned ⟨0⟩ 1 (some (.int 1))) = .ok ⟨r₂, table, .ok .proceed⟩ ∧
      r₂.store.summaries ⟨0⟩ = awaiting.store.summaries ⟨0⟩ ++ [t] ∧
      ∀ (f : FieldRef) (w : FieldWrite), s.effect.writes[f]? = some w →
        t.effect.writes[f]? = some w := by
  obtain ⟨s, hs, -, -, habsorbed, hstates, -, hcommits⟩ :=
    failed_replay_is_absorbed (r := awaiting) (h := table) (i := innerCall) rfl
  obtain ⟨r₂, t, hreturn, hstore, hwrites⟩ := hcommits _ _ holds_awaiting table (some (.int 1))
  exact ⟨_, r₂, s, t, rfl, hs, habsorbed, (hstates ⟨0⟩).trans rfl, hreturn, hstore ⟨0⟩, hwrites⟩

/-- A failed call changes an open recording, and what that one then stores was never done: the host
does not even have the field. -/
theorem failed_call_leaks :
    ∃ r r' r₂ R S t, fresh.operateAll beforeRefusal = .ok r ∧ r.recordings = [R] ∧
      r.onEvent table (.call innerCall) =
        .ok ⟨r', table, .error (.noSuchField (counterAt 3).field)⟩ ∧
      r'.recordings = [S] ∧ R.effect.writes[(counterAt 3).field]? = none ∧
      S.effect.writes[(counterAt 3).field]? = some ⟨.int, .int 3, rfl⟩ ∧
      r'.onEvent table (.returned ⟨0⟩ 1 (some (.int 1))) = .ok ⟨r₂, table, .ok .proceed⟩ ∧
      r₂.store.summaries ⟨0⟩ = [t] ∧
      t.effect.writes[(counterAt 3).field]? = some ⟨.int, .int 3, rfl⟩ ∧
      Host.field? table (counterAt 3).field = none :=
  ⟨_, _, _, _, _, _, rfl, rfl, rfl, rfl, rfl, rfl, rfl, rfl, rfl, rfl⟩

end Recorder

end Reprise
