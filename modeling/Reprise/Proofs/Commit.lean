import Mathlib.Data.List.TakeWhile
import Reprise.Host.Table
import Reprise.Proofs.Reaction

/-!
# What a commit stores

Between the call that opens a recording and the return that commits it, the recording gets the
accesses of all events in between, and nothing else: an access counts as itself, and a nested call
that is replayed counts as what its summary read and wrote (`eventAccesses`).  Which nested calls
were recorded, committed, unwound or replayed does not matter.

    Body i r body r' l    `body` takes `r` to `r'` with the recording of `i` open, and counts as `l`
    Holds i R r           the recording `R` of `i` is open in `r`

    Holds i R r → Body i r body r' l → Holds i (R.observeAll l) r'                  (Holds.body)
    the return of `i` then stores exactly what `l` reads first and writes last      (commit_stores)
-/

namespace Reprise

namespace Recorder

variable {η : Type} [Host η]

/-- The stored summary that answers a call of the invocation. -/
def matching? (r : Recorder) (h : η) (i : Invocation) : Option Summary :=
  match r.store.find h i.routine i.callee i.args (Host.isSingleThreaded h) with
  | .ok s => s
  | .error _ => none

/-- The accesses that an event counts as, given how it was answered. -/
def eventAccesses (r : Recorder) (h : η) (d : Directive) : Event → List Access
  | .fieldRead access => [.read access.field (access.value.narrowedOrSelf access.type)]
  | .fieldWrite access =>
    match FieldWrite.check access.type (access.value.narrowedOrSelf access.type) with
    | .ok w => [.write access.field w]
    | .error _ => []
  | .call i =>
    match d, r.matching? h i with
    | .skipToReturn, some s => s.accesses
    | _, _ => []
  | _ => []

/-- Whether the event is no call or return, or one of a frame deeper than `depth`. -/
def isDeeper (depth : Nat) : Event → Bool
  | .call i => depth < i.depth
  | .returned _ d _ => depth < d
  | _ => true

/-- The events of an invocation, each with the host it happens in: all are handled, calls and
returns among them are deeper, and none discards the recording of the invocation.  The list is what
they count as. -/
inductive Body (i : Invocation) : Recorder → List (η × Event) → Recorder → List Access → Prop where
  | nil {r} : Body i r [] r []
  | cons {r r' r'' h h' e d rest l} (hdeeper : isDeeper i.depth e = true)
    (hevent : r.onEvent h e = .ok ⟨r', h', .ok d⟩)
    (hopen : ∃ R ∈ r'.recordings, R.isFor i.routine i.depth = true)
    (hrest : Body i r' rest r'' l) :
    Body i r ((h, e) :: rest) r'' (r.eventAccesses h d e ++ l)

/-- The recording `R` of the invocation is open: the recordings around it are shallower, those
inside it deeper and of other routines, and there is room for its summary. -/
structure Holds (i : Invocation) (R : Recording) (r : Recorder) : Prop where
  entered : r.entered = true
  hasRoom : r.store.hasRoom i.routine = true
  isFor : R.isFor i.routine i.depth = true
  split : ∃ outer inner, r.recordings = outer ++ R :: inner ∧ (∀ S ∈ outer, S.depth < i.depth) ∧
    ∀ S ∈ inner, i.depth < S.depth ∧ S.routine ≠ i.routine

/-! ## The call -/

/-- A call that adds a recording adds the empty recording of its invocation. -/
theorem holds_of_call {r r' : Recorder} {h h' : η} {i : Invocation} {d : Directive}
    (hcall : r.onEvent h (.call i) = .ok ⟨r', h', .ok d⟩)
    (hshallow : ∀ R ∈ r.recordings, R.depth < i.depth)
    (hmore : r'.recordings.length = r.recordings.length + 1) :
    Holds i (.ofInvocation i (Host.isSingleThreaded h)) r' := by
  unfold onEvent at hcall
  split at hcall
  · generalize hr₀ : ({ r with entered := true } : Recorder) = r₀ at hcall
    have hrecordings : r₀.recordings = r.recordings := by rw [← hr₀]
    have hentered : r₀.entered = true := by rw [← hr₀]
    rw [← hrecordings] at hshallow hmore
    cases reaction_of_handle hcall with
    | discards _ hr => rw [hr.recordings] at hmore; simp at hmore
    | passes _ hr => rw [hr.recordings] at hmore; omega
    | replays _ _ _ _ _ hr => rw [hr.recordings, List.length_map] at hmore; omega
    | opens _ _ hroom _ hr =>
      exact ⟨hr.entered.trans hentered, by rwa [hr.store], isFor_iff.mpr ⟨rfl, rfl⟩,
        _, [], hr.recordings, hshallow, by simp⟩
  · obtain ⟨rfl⟩ := Reply.mk.inj (Except.ok.inj hcall)
    omega

/-! ## The events in between -/

theorem hasRoom_put_of_ne {s : Store} {routine other : RoutineId} (summary : Summary)
    (hne : routine ≠ other) : (s.put routine summary).hasRoom other = s.hasRoom other := by
  unfold Store.put
  split
  · simp [Store.hasRoom, Std.ExtTreeMap.getElem?_insert, hne]
  · rfl

/-- What every open recording gets, the recording of the invocation gets. -/
theorem Holds.map {i : Invocation} {R : Recording} {r r' : Recorder} (hR : Holds i R r)
    (f : Recording → Recording) (hf : ∀ S : Recording, S.SameInvocation (f S))
    (hr : r.Turns r' (r.recordings.map f) r.store) : Holds i (f R) r' := by
  obtain ⟨outer, inner, hsplit, houter, hinner⟩ := hR.split
  refine ⟨hr.entered.trans hR.entered, by rw [hr.store]; exact hR.hasRoom, ?_,
    outer.map f, inner.map f, by rw [hr.recordings, hsplit]; simp, ?_, ?_⟩
  · rw [isFor_iff, (hf R).routine, (hf R).depth]
    exact isFor_iff.mp hR.isFor
  · intro S hS
    obtain ⟨T, hT, rfl⟩ := List.mem_map.mp hS
    rw [(hf T).depth]
    exact houter T hT
  · intro S hS
    obtain ⟨T, hT, rfl⟩ := List.mem_map.mp hS
    rw [(hf T).depth, (hf T).routine]
    exact hinner T hT

/-- A return cuts off recordings inside that are deeper than its frame, and no others. -/
theorem Holds.shallow {i : Invocation} {R : Recording} {r : Recorder} (hR : Holds i R r)
    {depth : Nat} (hdepth : i.depth ≤ depth) :
    ∃ outer inner, r.shallow depth = outer ++ R :: inner ∧ (∀ S ∈ outer, S.depth < i.depth) ∧
      (∀ S ∈ inner, i.depth < S.depth ∧ S.routine ≠ i.routine) ∧
      ∀ S ∈ inner, S.depth ≤ depth := by
  obtain ⟨outer, inner, hsplit, houter, hinner⟩ := hR.split
  have hRdepth : R.depth = i.depth := (isFor_iff.mp hR.isFor).2
  refine ⟨outer, inner.takeWhile fun S => decide (S.depth ≤ depth), ?_, houter,
    fun S hS => hinner S ((List.takeWhile_sublist _).subset hS),
    fun S hS => by simpa using List.mem_takeWhile_imp hS⟩
  unfold Recorder.shallow
  rw [hsplit, List.takeWhile_append_of_pos, List.takeWhile_cons_of_pos]
  · rw [decide_eq_true_eq]
    omega
  · intro S hS
    have := houter S hS
    rw [decide_eq_true_eq]
    omega

/-- A recording that a deeper call opens is inside. -/
theorem Holds.opens {i j : Invocation} {R : Recording} {r r' : Recorder} (hR : Holds i R r)
    (hdeeper : i.depth < j.depth) (hnew : ∀ S ∈ r.recordings, S.routine ≠ j.routine)
    {singleThreaded : Bool}
    (hr : r.Turns r' (r.recordings ++ [.ofInvocation j singleThreaded]) r.store) :
    Holds i R r' := by
  obtain ⟨outer, inner, hsplit, houter, hinner⟩ := hR.split
  have hj : j.routine ≠ i.routine := by
    have := hnew R (by rw [hsplit]; simp)
    rw [(isFor_iff.mp hR.isFor).1] at this
    exact this.symm
  refine ⟨hr.entered.trans hR.entered, by rw [hr.store]; exact hR.hasRoom, hR.isFor,
    outer, inner ++ [.ofInvocation j singleThreaded],
    by rw [hr.recordings, hsplit, List.append_assoc]; rfl, houter, fun S hS => ?_⟩
  rcases List.mem_append.mp hS with hS | hS
  · exact hinner S hS
  · rw [List.mem_singleton.mp hS]
    exact ⟨hdeeper, hj⟩

/-- A recording that a deeper return commits is one inside. -/
theorem Holds.commits {i : Invocation} {R S : Recording} {r r' : Recorder} (hR : Holds i R r)
    {routine : RoutineId} {depth : Nat} (hdeeper : i.depth < depth) {kept : List Recording}
    (hlast : r.shallow depth = kept ++ [S]) (hfor : S.isFor routine depth = true)
    {summary : Summary} (hr : r.Turns r' kept (r.store.put routine summary)) : Holds i R r' := by
  obtain ⟨outer, inner, hsplit, houter, hinner, -⟩ := hR.shallow (Nat.le_of_lt hdeeper)
  obtain ⟨hroutine, hdepth⟩ := isFor_iff.mp hfor
  rcases List.eq_nil_or_concat inner with rfl | ⟨inner', T, rfl⟩
  · -- the recording of the invocation is not as deep
    have hRS := List.append_inj_right' (hlast.symm.trans hsplit) rfl
    obtain rfl : S = R := (List.cons.inj hRS).1
    have hdepth' := (isFor_iff.mp hR.isFor).2
    omega
  · rw [hlast, List.concat_eq_append, ← List.cons_append, ← List.append_assoc] at hsplit
    obtain ⟨hkept, hTS⟩ := List.append_inj' hsplit rfl
    obtain rfl : S = T := (List.cons.inj hTS).1
    have hother : routine ≠ i.routine := by
      rw [← hroutine]
      exact (hinner S (by simp)).2
    refine ⟨hr.entered.trans hR.entered, ?_, hR.isFor, outer, inner',
      hr.recordings.trans hkept, houter, fun U hU => hinner U (by simp [hU])⟩
    rw [hr.store, hasRoom_put_of_ne _ hother]
    exact hR.hasRoom

/-- One event gives the recording what the event counts as. -/
theorem Holds.event {i : Invocation} {R : Recording} {r r' : Recorder} (hR : Holds i R r)
    {h h' : η} {e : Event} {d : Directive} (hdeeper : isDeeper i.depth e = true)
    (hevent : r.onEvent h e = .ok ⟨r', h', .ok d⟩)
    (hopen : ∃ S ∈ r'.recordings, S.isFor i.routine i.depth = true) :
    Holds i (R.observeAll (r.eventAccesses h d e)) r' := by
  rw [onEvent_of_entered hR.entered] at hevent
  have hsame : ∀ {r' : Recorder}, r.Turns r' r.recordings r.store → Holds i R r' := fun hr =>
    hR.map id Recording.SameInvocation.refl (by rwa [List.map_id])
  have hreaction : Reaction r h r' e h' (.ok d) := reaction_of_handle hevent
  cases hreaction with
  | discards _ hr =>
    obtain ⟨S, hS, -⟩ := hopen
    rw [hr.recordings] at hS
    cases hS
  | passes _ hr => exact hsame hr
  | passesNative _ hr => exact hsame hr
  | opens _ _ _ hnew hr => exact hR.opens (of_decide_eq_true hdeeper) hnew hr
  | @replays j s _ _ hfind _ _ _ hr =>
    have hmatch : r.matching? h j = some s := by rw [matching?, hfind]
    rw [show r.eventAccesses h .skipToReturn (.call j) = s.accesses by
      simp [eventAccesses, hmatch], ← Recording.absorb_eq_observeAll]
    refine hR.map (·.absorb s) (fun S => ?_) hr
    rw [Recording.absorb_eq_observeAll]
    exact Recording.sameInvocation_observeAll S _
  | reads _ hr => exact hR.map _ (fun S => Recording.sameInvocation_observe S _) hr
  | @writes access w _ hcheck hr =>
    rw [show r.eventAccesses h .proceed (.fieldWrite access) = [.write access.field w] by
      simp [eventAccesses, hcheck]]
    exact hR.map _ (fun S => Recording.sameInvocation_observe S _) hr
  | @returns _ depth _ _ hr =>
    obtain ⟨outer, inner, hsplit, houter, hinner, -⟩ :=
      hR.shallow (Nat.le_of_lt (of_decide_eq_true hdeeper))
    exact ⟨hr.entered.trans hR.entered, by rw [hr.store]; exact hR.hasRoom, hR.isFor,
      outer, inner, hr.recordings.trans hsplit, houter, hinner⟩
  | commits hlast hfor hr => exact hR.commits (of_decide_eq_true hdeeper) hlast hfor hr

/-- All events of the invocation give the recording what they count as. -/
theorem Holds.body {i : Invocation} {R : Recording} {r r' : Recorder} {body : List (η × Event)}
    {l : List Access} (hR : Holds i R r) (hbody : Body i r body r' l) :
    Holds i (R.observeAll l) r' := by
  induction hbody generalizing R with
  | nil => exact hR
  | cons hdeeper hevent hopen _ ih =>
    rw [Recording.observeAll_append]
    exact ih (hR.event hdeeper hevent hopen)

/-! ## The return -/

/-- What the summary of a recording says once the invocation has returned. -/
theorem summary_returning (i : Invocation) (singleThreaded : Bool) (l : List Access)
    (value : Option Value) :
    let s := (returning ((Recording.ofInvocation i singleThreaded).observeAll l) value).summary
    s.precondition.args = i.args ∧ s.precondition.callee = i.callee ∧
      s.precondition.singleThreaded = singleThreaded ∧
      (∀ f : FieldRef, s.precondition.tracked[f]? = firstRead? l f) ∧
      (∀ f : FieldRef, s.effect.writes[f]? = lastWrite? l f) ∧
      s.effect.returnValue = value.map fun v => (i.returns.map v.narrowedOrSelf).getD v := by
  have hsame := Recording.sameInvocation_observeAll (.ofInvocation i singleThreaded) l
  cases value with
  | none =>
    exact ⟨hsame.args, hsame.callee, hsame.singleThreaded,
      Recording.tracked_ofInvocation_observeAll i singleThreaded l,
      Recording.writes_ofInvocation_observeAll i singleThreaded l, hsame.returnValue⟩
  | some v =>
    refine ⟨hsame.args, hsame.callee, hsame.singleThreaded,
      Recording.tracked_ofInvocation_observeAll i singleThreaded l,
      Recording.writes_ofInvocation_observeAll i singleThreaded l, ?_⟩
    have hreturns : ((Recording.ofInvocation i singleThreaded).observeAll l).returns = i.returns :=
      hsame.returns
    simp only [returning, Recording.summary, hreturns, Option.map_some, Option.some.injEq]
    cases i.returns <;> rfl

/-- The return of an invocation whose recording is open stores what the recording stands for. -/
theorem Holds.returned {i : Invocation} {R : Recording} {r : Recorder} (hR : Holds i R r) (h : η)
    (value : Option Value) :
    ∃ r', r.onEvent h (.returned i.routine i.depth value) = .ok ⟨r', h, .ok .proceed⟩ ∧
      r'.store = r.store.put i.routine (returning R value).summary := by
  obtain ⟨outer, inner, hshallow, -, hdeeper, hcut⟩ := hR.shallow (Nat.le_refl i.depth)
  -- the frames of all recordings inside are gone
  obtain rfl : inner = [] := by
    refine List.eq_nil_iff_forall_not_mem.mpr fun S hS => ?_
    have hdepth := (hdeeper S hS).1
    have hle := hcut S hS
    omega
  obtain ⟨r', hevent, hobserves⟩ :=
    r.observes (e := .returned i.routine i.depth value) trivial h
  refine ⟨r', hevent, ?_⟩
  cases hobserves with
  | ignores hentered =>
    rw [hR.entered] at hentered
    cases hentered
  | reacts _ hreaction =>
    cases hreaction with
    | discards hevent => exact absurd rfl (hevent _ _ _)
    | returns hlast hr =>
      have := hlast R (by simp [hshallow])
      rw [hR.isFor] at this
      cases this
    | commits hlast _ hr =>
      obtain ⟨-, hsame⟩ := List.append_inj' (hlast.symm.trans hshallow) rfl
      rw [hr.store, (List.cons.inj hsame).1]

theorem summaries_put {s : Store} {routine : RoutineId} (summary : Summary)
    (hroom : s.hasRoom routine = true) (other : RoutineId) :
    (s.put routine summary).summaries other =
      s.summaries other ++ if other = routine then [summary] else [] := by
  rw [Store.put, if_pos hroom]
  unfold Store.summaries
  rw [Std.ExtTreeMap.getElem?_insert]
  by_cases hother : other = routine
  · simp [hother]
  · simp [hother, Ne.symm hother]

theorem summaries_put_of_ne {s : Store} {routine other : RoutineId} (summary : Summary)
    (hne : other ≠ routine) : (s.put routine summary).summaries other = s.summaries other := by
  by_cases hroom : s.hasRoom routine = true
  · rw [summaries_put summary hroom, if_neg hne, List.append_nil]
  · rw [Store.put, if_neg hroom]

/-- A put stores the summary under its routine, or nothing. -/
theorem mem_summaries_put {store : Store} {routine other : RoutineId} {summary s : Summary}
    (hs : s ∈ (store.put routine summary).summaries other) :
    s ∈ store.summaries other ∨ other = routine ∧ s = summary := by
  by_cases hroom : store.hasRoom routine = true
  · rw [summaries_put summary hroom] at hs
    rcases List.mem_append.mp hs with hs | hs
    · exact .inl hs
    · split at hs
      · exact .inr ⟨‹_›, List.mem_singleton.mp hs⟩
      · cases hs
  · rw [Store.put, if_neg hroom] at hs
    exact .inl hs

/-- The call of a routine that starts a recording, what happens until its return, and the return:
exactly one summary is stored, and it says what was read first, what was written last, and what was
returned, whatever became of the invocations inside. -/
theorem commit_stores {r r₁ r₂ : Recorder} {h h₁ : η} {i : Invocation} {d : Directive}
    {body : List (η × Event)} {l : List Access}
    (hshallow : ∀ R ∈ r.recordings, R.depth < i.depth)
    (hcall : r.onEvent h (.call i) = .ok ⟨r₁, h₁, .ok d⟩)
    (hmore : r₁.recordings.length = r.recordings.length + 1)
    (hbody : Body i r₁ body r₂ l) (h₂ : η) (value : Option Value) :
    ∃ r₃ s, r₂.onEvent h₂ (.returned i.routine i.depth value) = .ok ⟨r₃, h₂, .ok .proceed⟩ ∧
      (∀ routine, r₃.store.summaries routine =
        r₂.store.summaries routine ++ if routine = i.routine then [s] else []) ∧
      s.precondition.args = i.args ∧ s.precondition.callee = i.callee ∧
      s.precondition.singleThreaded = Host.isSingleThreaded h ∧
      (∀ f : FieldRef, s.precondition.tracked[f]? = firstRead? l f) ∧
      (∀ f : FieldRef, s.effect.writes[f]? = lastWrite? l f) ∧
      s.effect.returnValue = value.map fun v => (i.returns.map v.narrowedOrSelf).getD v := by
  have hR := (holds_of_call hcall hshallow hmore).body hbody
  obtain ⟨r₃, hreturn, hstore⟩ := hR.returned h₂ value
  refine ⟨r₃, _, hreturn, fun routine => ?_, summary_returning i _ l value⟩
  rw [hstore, summaries_put _ hR.hasRoom]

/-! ## An invocation with another inside -/

/-- A recorder that has seen nothing. -/
def fresh : Recorder := .start {} (fun _ => false) ⟨0⟩

/-- A host in which nothing is shared. -/
def table : TableHost := {}

/-- An access to the counter of an object. -/
def counterAt (n : Int32) : FieldAccess := ⟨⟨.object ⟨0⟩, "count"⟩, .int, .int n⟩

def outerCall : Invocation := ⟨⟨0⟩, "C.outer", .static, none, [], [], some .bool, 1, 4⟩

def innerCall : Invocation := ⟨⟨1⟩, "C.inner", .static, none, [], [], none, 2, 2⟩

/-- A read, and a nested call that writes. -/
def visit : List (TableHost × Event) :=
  [(table, .fieldRead (counterAt 1)), (table, .call innerCall),
    (table, .fieldWrite (counterAt 3)), (table, .returned ⟨1⟩ 2 none)]

def visitAccesses : List Access :=
  [.read ⟨.object ⟨0⟩, "count"⟩ (.int 1), .write ⟨.object ⟨0⟩, "count"⟩ ⟨.int, .int 3, rfl⟩]

/-- The recorder after the call, and inside the nested one. -/
def called (r : Recorder) (i : Invocation) : Recorder :=
  { r with statistics := r.statistics.recordCall i }.executeCall table i

theorem body_visit : ∃ r, Body outerCall (fresh.called outerCall) visit r visitAccesses := by
  let inside := ((fresh.called outerCall).onFieldRead table (counterAt 1)).called innerCall
  have hinside : Body outerCall inside (visit.drop 2) _ _ :=
    .cons rfl rfl ⟨_, List.mem_cons_self, rfl⟩
      (.cons rfl rfl ⟨_, List.mem_singleton.mpr rfl, rfl⟩ .nil)
  have hbody : Body outerCall (fresh.called outerCall) visit _ _ :=
    .cons rfl rfl ⟨_, List.mem_singleton.mpr rfl, rfl⟩
      (.cons rfl rfl ⟨_, List.mem_cons_self, rfl⟩ hinside)
  exact ⟨_, hbody⟩

/-- The write of the nested invocation is in the summary of the outer one. -/
theorem commit_stores_visit :
    (∀ R ∈ fresh.recordings, R.depth < outerCall.depth) ∧
      fresh.onEvent table (.call outerCall) =
        .ok ⟨fresh.called outerCall, table, .ok .proceed⟩ ∧
      (fresh.called outerCall).recordings.length = fresh.recordings.length + 1 ∧
      ∃ r₂ r₃ s, Body outerCall (fresh.called outerCall) visit r₂ visitAccesses ∧
        r₂.onEvent table (.returned ⟨0⟩ 1 (some (.int 1))) = .ok ⟨r₃, table, .ok .proceed⟩ ∧
        r₃.store.summaries ⟨0⟩ = r₂.store.summaries ⟨0⟩ ++ [s] ∧
        s.precondition.tracked[(counterAt 1).field]? = some (.int 1) ∧
        s.effect.writes[(counterAt 1).field]? = some ⟨.int, .int 3, rfl⟩ ∧
        s.effect.returnValue = some (.bool true) := by
  have hshallow : ∀ R ∈ fresh.recordings, R.depth < outerCall.depth := fun R hR => by cases hR
  obtain ⟨r₂, hbody⟩ := body_visit
  obtain ⟨r₃, s, hreturn, hstore, -, -, -, hreads, hwrites, hvalue⟩ :=
    commit_stores hshallow rfl rfl hbody table (some (.int 1))
  exact ⟨hshallow, rfl, rfl, r₂, r₃, s, hbody, hreturn, hstore ⟨0⟩, hreads _, hwrites _, hvalue⟩

end Recorder

end Reprise
