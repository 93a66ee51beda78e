import Reprise.Proofs.Contents
import Reprise.Proofs.Exactness
import Reprise.Proofs.Standing

/-!
# Which calls are replayed, and what a replay does

A lookup finds the oldest summary that describes the call (`firstHolding_iff`), a summary may be
replayed if nothing it read or wrote can have changed unseen (`isReplayable_iff`), and a replay goes
through if the host takes its writes and the push (`applyAll_eq_iff`, `pushResult_eq_iff`).
Together they decide how a call is answered when a match may be attempted:

    reply.answer = .ok .skipToReturn ↔ ∃ s h', r.CanReplay h i s h'              (replay_contract)

The host is then `h'`, whose state is the one before with the writes of `s` over it and the return
value pushed; an event that is answered `proceed` leaves the host alone (`host_of_proceed`).

A comparison needs the stored summaries of the routine to have a callee if the call has one.  They
do if every call so far was made that way (`receives_operateAll`), so in a run of such calls nothing
else has to be known of the store (`call_contract_of_run`).
-/

namespace Reprise

open Std Recorder

section AnyHost

variable {η : Type} [Host η]

/-! ## Replaying -/

/-- Nothing that the summary read or wrote can have changed unseen, and it returns something if the
routine does. -/
structure Summary.IsCurrent (s : Summary) (h : η) (returns : Option FieldType) : Prop where
  reads : ∀ f ∈ s.precondition.tracked,
    f.isStatic = false ∧ Host.isShared h f.owner = false ∧ Host.isFrozen h f.owner = false
  writes : ∀ f ∈ s.effect.writes,
    Host.isShared h f.owner = false ∧ Host.isFrozen h f.owner = false
  returns : s.effect.returnValue.isSome = returns.isSome

theorem isReplayable_iff (h : η) (s : Summary) (returns : Option FieldType) :
    isReplayable h s returns = true ↔ s.IsCurrent h returns := by
  have htracked : ∀ P : FieldRef → Prop, (∀ e ∈ s.precondition.trackedFields, P e.1) ↔
      ∀ f ∈ s.precondition.tracked, P f := by
    intro P
    constructor
    · intro hall f hf
      obtain ⟨v, hv⟩ := ExtTreeMap.mem_iff_isSome_getElem?.mp hf |> Option.isSome_iff_exists.mp
      exact hall (f, v) (ExtTreeMap.mem_toList_iff_getElem?_eq_some.mpr hv)
    · intro hall e he
      have hv := ExtTreeMap.mem_toList_iff_getElem?_eq_some.mp (show (e.1, e.2) ∈ _ from he)
      exact hall e.1 (ExtTreeMap.mem_iff_isSome_getElem?.mpr (by rw [hv]; rfl))
  have hstatic : s.precondition.hasStaticFields = false ↔
      ∀ f ∈ s.precondition.tracked, f.isStatic = false := by
    rw [Precondition.hasStaticFields, List.any_eq_false, ← htracked]
    simp only [Bool.not_eq_true]
  have hreads : ∀ test : FieldRef × Value → Bool, (∀ e, test e = Host.isUntrackable h e.1.owner) →
      (s.precondition.trackedFields.any test = false ↔
        ∀ f ∈ s.precondition.tracked, Host.isUntrackable h f.owner = false) := by
    intro test htest
    rw [List.any_eq_false, ← htracked]
    simp only [htest, Bool.not_eq_true]
  have hwrites : s.effect.isBlockedIn h = false ↔
      ∀ f ∈ s.effect.writes, Host.isUntrackable h f.owner = false := by
    simp [Effect.isBlockedIn, Effect.targets, ExtTreeMap.mem_keys]
  simp only [isReplayable, Bool.and_eq_true, Bool.not_eq_true', hstatic,
    hreads _ (fun _ => rfl), hwrites, beq_iff_eq]
  have htrackable : ∀ owner, Host.isUntrackable h owner = false ↔
      Host.isShared h owner = false ∧ Host.isFrozen h owner = false := fun _ =>
    Bool.or_eq_false_iff
  constructor
  · rintro ⟨⟨⟨hstatic, hreads⟩, hwrites⟩, hreturns⟩
    exact ⟨fun f hf => ⟨hstatic f hf, (htrackable _).mp (hreads f hf)⟩,
      fun f hf => (htrackable _).mp (hwrites f hf), hreturns.symm⟩
  · rintro ⟨hreads, hwrites, hreturns⟩
    exact ⟨⟨⟨fun f hf => (hreads f hf).1, fun f hf => (htrackable _).mpr (hreads f hf).2⟩,
      fun f hf => (htrackable _).mpr (hwrites f hf)⟩, hreturns.symm⟩

/-- The host takes the writes one after the other. -/
inductive Takes : List (FieldRef × FieldWrite) → η → η → Prop where
  | nil {h} : Takes [] h h
  | cons {f w l h h₁ h'} (hwrite : Host.write h w.type f w.value = .ok h₁) (hrest : Takes l h₁ h') :
    Takes ((f, w) :: l) h h'

theorem applyAll_eq_iff (l : List (FieldRef × FieldWrite)) (h h' : η) :
    (Effect.applyAll l h).failure = none ∧ (Effect.applyAll l h).host = h' ↔ Takes l h h' := by
  induction l generalizing h with
  | nil =>
    constructor
    · rintro ⟨-, rfl⟩
      exact .nil
    · rintro ⟨⟩
      exact ⟨rfl, rfl⟩
  | cons e l ih =>
    obtain ⟨f, w⟩ := e
    rw [Effect.applyAll]
    cases hwrite : Host.write h w.type f w.value with
    | ok h₁ =>
      refine (ih h₁).trans ⟨.cons hwrite, fun htakes => ?_⟩
      cases htakes with
      | cons hwrite' hrest =>
        obtain rfl := Except.ok.inj (hwrite.symm.trans hwrite')
        exact hrest
    | error failure =>
      refine ⟨fun hfailure => by simp at hfailure, fun htakes => ?_⟩
      cases htakes with
      | cons hwrite' _ => cases hwrite.symm.trans hwrite'

/-- The host takes a return value, if one is declared. -/
inductive Pushes : Option FieldType → Option Value → η → η → Prop where
  | none {h} : Pushes none none h h
  | some {ty v h h'} (hpush : Host.pushReturn h ty v = .ok h') : Pushes (some ty) (some v) h h'

theorem pushResult_eq_iff {s : Summary} {returns : Option FieldType} (h h' : η)
    (hreturns : s.effect.returnValue.isSome = returns.isSome) :
    pushResult h returns s = .ok h' ↔ Pushes returns s.effect.returnValue h h' := by
  unfold pushResult
  cases returns with
  | none =>
    cases hv : s.effect.returnValue with
    | some v => simp [hv] at hreturns
    | none =>
      constructor
      · rintro ⟨⟩
        exact .none
      · rintro ⟨⟩
        rfl
  | some ty =>
    cases hv : s.effect.returnValue with
    | none => simp [hv] at hreturns
    | some v =>
      refine ⟨.some, fun hpushes => ?_⟩
      cases hpushes with
      | some hpush => exact hpush

namespace Recorder

/-- A match may be attempted for the call. -/
structure Attempts (r : Recorder) (i : Invocation) : Prop where
  summarizable : i.kind.isSummarizable = true
  unblocked : r.blocked i.name = false
  unbanned : i.routine ∉ r.blacklist
  allowed : (r.mayAttemptMatch i.routine).1 = true

/-- The oldest summary that describes the call is current, and the host takes it and is `h'`
afterwards. -/
structure CanReplay (r : Recorder) (h : η) (i : Invocation) (s : Summary) (h' : η) : Prop where
  oldest : IsOldest (r.store.summaries i.routine) h i s
  current : s.IsCurrent h i.returns
  taken : ∃ h₁, Takes s.effect.writeList h h₁ ∧ Pushes i.returns s.effect.returnValue h₁ h'

theorem replay_eq_replayed_iff {r : Recorder} {h : η} {i : Invocation} {s : Summary} {h' : η}
    (hcurrent : s.IsCurrent h i.returns) :
    (∃ r', r.replay h i s = .replayed r' h') ↔
      ∃ h₁, Takes s.effect.writeList h h₁ ∧ Pushes i.returns s.effect.returnValue h₁ h' := by
  simp only [← applyAll_eq_iff, ← pushResult_eq_iff _ _ hcurrent.returns]
  unfold replay Effect.apply
  simp only
  split
  · rename_i failure hfailure
    simp [hfailure]
  · rename_i hfailure
    split
    · rename_i failure hpush
      simp [hfailure, hpush]
    · rename_i h'' hpush
      simp [hfailure, hpush]

/-- An attempt ends in a replay exactly if there is a summary that can be replayed. -/
theorem tryReplay_spec {r : Recorder} (h : η) {i : Invocation}
    (hallowed : (r.mayAttemptMatch i.routine).1 = true)
    (hstored : ∀ s ∈ r.store.summaries i.routine,
      s.precondition.callee.isSome = i.callee.isSome) :
    ∃ attempt, r.tryReplay h i = .ok attempt ∧
      ∀ h', (∃ r', attempt = .replayed r' h') ↔ ∃ s, r.CanReplay h i s h' := by
  obtain ⟨found, hfound, holdest⟩ := firstHolding_iff h hstored
  unfold tryReplay
  split
  · rename_i hnone
    refine ⟨_, rfl, fun h' => ⟨by simp, fun ⟨s, hs⟩ => ?_⟩⟩
    obtain ⟨before, after, hl, -⟩ := hs.oldest
    simp [Store.hasSummary, hl] at hnone
  · have hstore := (turns_mayAttemptMatch r i.routine).store
    split
    · rename_i r₁ heq
      rw [heq] at hallowed
      cases hallowed
    · rename_i r₁ heq
      rw [heq] at hstore
      have hfind : (r₁.count i.routine fun stats =>
          { stats with attemptedMatches := stats.attemptedMatches + 1 }).store.find h i.routine
            i.callee i.args (Host.isSingleThreaded h) = .ok found := by
        rw [show (r₁.count i.routine _).store = r.store from hstore]
        exact hfound
      simp only [hfind]
      cases found with
      | none =>
        refine ⟨_, rfl, fun h' => ⟨by simp, fun ⟨s, hs⟩ => ?_⟩⟩
        cases (holdest s).mpr hs.oldest
      | some s =>
        have honly : ∀ h' t, r.CanReplay h i t h' → t = s := fun h' t ht =>
          (Option.some.inj ((holdest t).mpr ht.oldest)).symm
        by_cases hreplayable : isReplayable h s i.returns = true
        · have hcurrent := (isReplayable_iff h s i.returns).mp hreplayable
          simp only [if_pos hreplayable]
          refine ⟨_, rfl, fun h' => (replay_eq_replayed_iff hcurrent).trans ⟨fun htaken => ?_, ?_⟩⟩
          · exact ⟨s, (holdest s).mp rfl, hcurrent, htaken⟩
          · rintro ⟨t, ht⟩
            obtain rfl := honly h' t ht
            exact ht.taken
        · simp only [if_neg hreplayable]
          refine ⟨_, rfl, fun h' => ⟨by simp, fun ⟨t, ht⟩ => ?_⟩⟩
          obtain rfl := honly h' t ht
          exact absurd ((isReplayable_iff h t i.returns).mpr ht.current) hreplayable

/-- Only the misses of the routine decide. -/
theorem mayAttemptMatch_fst (r : Recorder) (routine : RoutineId) :
    (r.mayAttemptMatch routine).1 = (r.misses[routine]?).all fun misses =>
      decide (misses < r.config.missBudget) ||
        !decide (misses - r.config.missBudget < r.config.missBackoff) := by
  unfold mayAttemptMatch
  cases r.misses[routine]? with
  | none => rfl
  | some misses =>
    simp only [Option.all_some]
    by_cases hbudget : misses < r.config.missBudget
    · simp [hbudget]
    · by_cases hbackoff : misses - r.config.missBudget < r.config.missBackoff <;>
        simp [hbudget, hbackoff]

/-- How a call is answered when a match may be attempted. -/
theorem call_spec {r : Recorder} (hentered : r.entered = true) (h : η) {i : Invocation}
    (hi : r.Attempts i)
    (hstored : ∀ s ∈ r.store.summaries i.routine,
      s.precondition.callee.isSome = i.callee.isSome) :
    ∃ reply, r.onEvent h (.call i) = .ok reply ∧
      ∀ h', reply.answer = .ok .skipToReturn ∧ reply.host = h' ↔ ∃ s, r.CanReplay h i s h' := by
  generalize hcounted : { r with statistics := r.statistics.recordCall i } = counted
  have hallowed : (counted.mayAttemptMatch i.routine).1 = true := by
    rw [← hi.allowed, ← hcounted, mayAttemptMatch_fst, mayAttemptMatch_fst]
  obtain ⟨attempt, htry, hreplayed⟩ : ∃ attempt, counted.tryReplay h i = .ok attempt ∧
      ∀ h', (∃ r', attempt = .replayed r' h') ↔ ∃ s, counted.CanReplay h i s h' :=
    tryReplay_spec h hallowed (by rw [← hcounted]; exact hstored)
  have hsame : ∀ s h', counted.CanReplay h i s h' ↔ r.CanReplay h i s h' := fun s h' => by
    rw [← hcounted]
    exact ⟨fun ⟨h1, h2, h3⟩ => ⟨h1, h2, h3⟩, fun ⟨h1, h2, h3⟩ => ⟨h1, h2, h3⟩⟩
  simp only [hsame] at hreplayed
  rw [onEvent_of_entered hentered, handle, onCall, hcounted]
  simp only [hi.summarizable, show counted.blocked i.name = false from hcounted ▸ hi.unblocked,
    show i.routine ∉ counted.blacklist from hcounted ▸ hi.unbanned, htry]
  cases attempt with
  | replayed r' h'' => exact ⟨_, rfl, fun h' => by simp [← hreplayed]⟩
  | refused r' h'' failure => exact ⟨_, rfl, fun h' => by simp [← hreplayed]⟩
  | passed r' => exact ⟨_, rfl, fun h' => by simp [← hreplayed]⟩

/-- Only a replay changes the host. -/
theorem host_of_proceed {r : Recorder} {h : η} {e : Event} {reply : Reply η}
    (hevent : r.onEvent h e = .ok reply) (hanswer : reply.answer = .ok .proceed) :
    reply.host = h := by
  unfold onEvent at hevent
  split at hevent
  · obtain ⟨r', h', answer⟩ := reply
    have hreaction : Reaction { r with entered := true } h r' e h' answer :=
      reaction_of_handle hevent
    cases hreaction with
    | replays => cases hanswer
    | refuses => cases hanswer
    | _ => rfl
  · obtain rfl := Except.ok.inj hevent
    rfl

end Recorder

end AnyHost

/-! ## Callees -/

/-- A call that the operation delivers has a callee exactly if its routine receives one. -/
def Operation.Receives (receives : RoutineId → Bool) : Operation → Prop
  | @event _ _host _ (.call i) => i.callee.isSome = receives i.routine
  | _ => True

namespace Recorder

/-- What was recorded has a callee exactly if its routine receives one. -/
def Receives (receives : RoutineId → Bool) : Recorder → Prop :=
  Has (fun x s => s.precondition.callee.isSome = receives x)
    fun R => R.precondition.callee.isSome = receives R.routine

/-- A recording of such a call has a callee if its routine receives one, whatever it observes. -/
theorem respects_of_receives {η : Type} [Host η] {receives : RoutineId → Bool} {h : η} {e : Event}
    (he : (Operation.event h e).Receives receives) :
    e.Respects (fun x s => s.precondition.callee.isSome = receives x)
      fun R => R.precondition.callee.isSome = receives R.routine where
  opens := fun i _ hi _ => by
    subst hi
    exact he
  absorbs := fun _ s R _ _ hR => by
    rwa [(sameInvocation_absorb R s).callee, (sameInvocation_absorb R s).routine]
  reads := fun _ _ R _ hR => by
    rwa [(Recording.sameInvocation_observe R _).callee,
      (Recording.sameInvocation_observe R _).routine]
  writes := fun _ _ R _ _ hR => by
    rwa [(Recording.sameInvocation_observe R _).callee,
      (Recording.sameInvocation_observe R _).routine]
  returns := fun _ v _ hR => by cases v <;> exact hR

theorem receives_operate {receives : RoutineId → Bool} {r r' : Recorder} {o : Operation}
    (hr : r.Receives receives) (ho : o.Receives receives) (hoperate : r.operate o = .ok r') :
    r'.Receives receives := by
  cases o with
  | event h e =>
    obtain ⟨h', answer, hevent⟩ := onEvent_of_operate hoperate
    exact Has.event hr hevent (respects_of_receives ho)
  | unwind depth =>
    obtain rfl := Except.ok.inj hoperate
    exact Has.of_turns hr (turns_unwind r depth) (Has.shallow hr)
  | finishRun =>
    obtain rfl := Except.ok.inj hoperate
    exact ⟨hr.stored, by simp [finishRun]⟩

/-- If every call has a callee exactly if its routine receives one, so has every summary. -/
theorem receives_operateAll {r₀ r : Recorder} {runId : RunId} {receives : RoutineId → Bool}
    {l : List Operation} (hl : ∀ o ∈ l, o.Receives receives)
    (hrun : (r₀.beginRun runId).operateAll l = .ok r) : r.Receives receives := by
  refine operateAll_keeps receives_operate hl ⟨fun x s hs => ?_, by simp [beginRun]⟩ hrun
  simp [beginRun, Store.clear, Store.summaries] at hs

end Recorder

/-! ## Hosts that are maps -/

section Maps

variable {η : Type} [MapHost η]

theorem state_of_takes {l : List (FieldRef × FieldWrite)} {h h' : η} (htakes : Takes l h h') :
    MapHost.state h' =
      { MapHost.state h with fields := insertAll (MapHost.state h).fields l } := by
  induction htakes with
  | nil => rfl
  | cons hwrite _ ih =>
    rw [ih, MapHost.state_of_write hwrite]
    rfl

/-- Performing the writes of an effect puts them over the fields. -/
theorem insertAll_writeList (m : FieldMap Value) (e : Effect) :
    insertAll m e.writeList = m ∪ e.writes.map fun _ w => w.value := by
  refine ExtTreeMap.ext_getElem? fun f => ?_
  rw [← writesOf_writes e.writeList, getElem?_insertAll, Effect.lastWrite?_writeList,
    ExtTreeMap.getElem?_union, ExtTreeMap.getElem?_map]

theorem state_of_pushes {returns : Option FieldType} {v : Option Value} {h h' : η}
    (hpushes : Pushes returns v h h') :
    MapHost.state h' = { MapHost.state h with
      pushed := (MapHost.state h).pushed ++ (v.map Value.widened).toList } := by
  cases hpushes with
  | none => simp
  | some hpush =>
    unfold Host.pushReturn at hpush
    split at hpush
    · rw [MapHost.push_eq _ _ _ hpush]
      rfl
    · cases hpush

namespace Recorder

/-- The reply to a call replays the oldest summary that describes it, if that is current and the
host takes it.  The host then has the writes of the summary over its fields and the return value
pushed, and nothing else of it changes. -/
structure Replays (r : Recorder) (h : η) (i : Invocation) (reply : Reply η) : Prop where
  skips : reply.answer = .ok .skipToReturn ↔ ∃ s h', r.CanReplay h i s h'
  carriedOut : ∀ s h', r.CanReplay h i s h' → reply.host = h' ∧
    s.effect.returnValue.isSome = i.returns.isSome ∧
    MapHost.state h' = { MapHost.state h with
      fields := (MapHost.state h).fields ∪ s.effect.writes.map fun _ w => w.value
      pushed := (MapHost.state h).pushed ++ (s.effect.returnValue.map Value.widened).toList }

theorem call_contract {r : Recorder} (hentered : r.entered = true) (h : η) {i : Invocation}
    (hi : r.Attempts i)
    (hstored : ∀ s ∈ r.store.summaries i.routine,
      s.precondition.callee.isSome = i.callee.isSome) :
    ∃ reply, r.onEvent h (.call i) = .ok reply ∧ r.Replays h i reply := by
  obtain ⟨reply, hreply, hspec⟩ := call_spec hentered h hi hstored
  refine ⟨reply, hreply, ⟨fun hanswer => ?_, ?_⟩, fun s h' hs => ?_⟩
  · obtain ⟨s, hs⟩ := (hspec reply.host).mp ⟨hanswer, rfl⟩
    exact ⟨s, reply.host, hs⟩
  · rintro ⟨s, h', hs⟩
    exact ((hspec h').mpr ⟨s, hs⟩).1
  · obtain ⟨h₁, htakes, hpushes⟩ := hs.taken
    refine ⟨((hspec h').mpr ⟨s, hs⟩).2, hs.current.returns, ?_⟩
    rw [state_of_pushes hpushes, state_of_takes htakes, insertAll_writeList]

/-- In a run whose calls all have a callee exactly if their routine receives one, the contract holds
of every further call that is made that way. -/
theorem call_contract_of_run {r₀ r : Recorder} {runId : RunId} {receives : RoutineId → Bool}
    {l : List Operation} (hl : ∀ o ∈ l, o.Receives receives)
    (hrun : (r₀.beginRun runId).operateAll l = .ok r) (hentered : r.entered = true) (h : η)
    {i : Invocation} (hi : r.Attempts i) (hcallee : i.callee.isSome = receives i.routine) :
    ∃ reply, r.onEvent h (.call i) = .ok reply ∧ r.Replays h i reply :=
  call_contract hentered h hi fun s hs =>
    ((receives_operateAll hl hrun).stored i.routine s hs).trans hcallee.symm

/-- A counter is set from one to two in one host, and then in another one by a replay. -/
example :
    let counting := [Event.call outerCall, .fieldRead (counterAt 1), .fieldWrite (counterAt 2),
      .returned ⟨0⟩ 1 (some (.int 1))].map (Operation.event (counterTable 1 7))
    ∃ r reply, (fresh.beginRun ⟨1⟩).operateAll counting = .ok r ∧
      r.onEvent (counterTable 1 8) (.call outerCall) = .ok reply ∧
      reply.answer = .ok .skipToReturn ∧
      reply.host.fields[(counterAt 1).field]? = some (.int 2) := ⟨_, _, rfl, rfl, rfl, rfl⟩

/-- A call for which a match may be attempted is answered `skipToReturn` exactly if the oldest
summary that describes it is current and the host takes its writes and its return value.  Nothing
else of the host changes, and an event that is answered `proceed` changes nothing. -/
theorem replay_contract {r : Recorder} (hentered : r.entered = true) (h : η) :
    (∀ i, r.Attempts i →
      (∀ s ∈ r.store.summaries i.routine, s.precondition.callee.isSome = i.callee.isSome) →
      ∃ reply, r.onEvent h (.call i) = .ok reply ∧
        (reply.answer = .ok .skipToReturn ↔ ∃ s h', r.CanReplay h i s h') ∧
        ∀ s h', r.CanReplay h i s h' → reply.host = h' ∧
          s.effect.returnValue.isSome = i.returns.isSome ∧
          MapHost.state h' = { MapHost.state h with
            fields := (MapHost.state h).fields ∪ s.effect.writes.map fun _ w => w.value
            pushed := (MapHost.state h).pushed ++
              (s.effect.returnValue.map Value.widened).toList }) ∧
      ∀ e reply, r.onEvent h e = .ok reply → reply.answer = .ok .proceed → reply.host = h := by
  refine ⟨fun i hi hstored => ?_, fun e reply hevent => host_of_proceed hevent⟩
  obtain ⟨reply, hreply, hskips, hcarriedOut⟩ := call_contract hentered h hi hstored
  exact ⟨reply, hreply, hskips, hcarriedOut⟩

theorem storable_two : Host.storable .int (.int 2) = true := rfl

/-- The counter was one, was set to two, and the routine returned true. -/
def counted : Summary where
  precondition :=
    { args := [], callee := none, singleThreaded := true
      tracked := (∅ : FieldMap Value).insert (counterAt 1).field (.int 1) }
  effect :=
    { args := []
      writes := (∅ : FieldMap FieldWrite).insert (counterAt 1).field ⟨.int, .int 2, storable_two⟩
      returnValue := some (.bool true) }

/-- A recorder with that summary. -/
def withCounted : Recorder :=
  { fresh with store := { entries := (∅ : RoutineMap (List Summary)).insert ⟨0⟩ [counted] } }

theorem attempts_withCounted : withCounted.Attempts outerCall where
  summarizable := rfl
  unblocked := rfl
  unbanned := ExtTreeSet.not_mem_empty
  allowed := rfl

theorem canReplay_withCounted :
    ∃ h', withCounted.CanReplay (counterTable 1 7) outerCall counted h' := by
  have hdescribes : counted.Describes (counterTable 1 7) outerCall :=
    ⟨rfl, rfl, rfl, (fieldsHoldIn_iff _ _).mp rfl⟩
  have hcurrent : counted.IsCurrent (counterTable 1 7) outerCall.returns :=
    (isReplayable_iff _ _ _).mp rfl
  exact ⟨_, ⟨[], [], rfl, hdescribes, by simp⟩, hcurrent, _, .cons rfl .nil, .some rfl⟩

/-- The summary is replayed where the counter is one, and nothing happens where it is five. -/
theorem replay_contract_withCounted :
    withCounted.entered = true ∧ withCounted.Attempts outerCall ∧
      (∀ s ∈ withCounted.store.summaries outerCall.routine,
        s.precondition.callee.isSome = outerCall.callee.isSome) ∧
      (∃ reply, withCounted.onEvent (counterTable 1 7) (.call outerCall) = .ok reply ∧
        reply.answer = .ok .skipToReturn ∧
        (MapHost.state reply.host).fields[(counterAt 1).field]? = some (.int 2) ∧
        (MapHost.state reply.host).pushed = [.int 1]) ∧
      ∃ reply, withCounted.onEvent (counterTable 5 7) (.call outerCall) = .ok reply ∧
        reply.answer = .ok .proceed ∧ reply.host = counterTable 5 7 := by
  have hcallee : ∀ s ∈ withCounted.store.summaries outerCall.routine,
      s.precondition.callee.isSome = outerCall.callee.isSome := by decide
  refine ⟨rfl, attempts_withCounted, hcallee, ?_, _, rfl, rfl, ?_⟩
  · obtain ⟨hspec, -⟩ := replay_contract (r := withCounted) rfl (counterTable 1 7)
    obtain ⟨reply, hreply, hskip, hreplays⟩ := hspec outerCall attempts_withCounted hcallee
    obtain ⟨h', hs⟩ := canReplay_withCounted
    obtain ⟨rfl, -, hstate⟩ := hreplays counted h' hs
    refine ⟨reply, hreply, hskip.mpr ⟨counted, _, hs⟩, ?_, ?_⟩
    · rw [hstate, ExtTreeMap.getElem?_union, ExtTreeMap.getElem?_map]
      rfl
    · rw [hstate]
      rfl
  · exact (replay_contract (r := withCounted) rfl (counterTable 5 7)).2 (.call outerCall) _ rfl rfl

end Recorder

end Maps

end Reprise
