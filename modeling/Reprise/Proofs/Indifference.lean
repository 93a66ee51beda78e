import Mathlib.Data.List.Forall2
import Reprise.Proofs.StoreGrowth

/-!
# What no decision depends on

A recorder writes its counters and never looks at them, its run is a mere name, and the entry point
does not matter once it has been called.  Two recorders that differ in nothing else (`Guise.Alike`)
do the same: each function takes alike recorders to alike recorders with equal results, so the
courses that they take through the same operations agree step by step:

    d.Alike r r' → List.Forall₂ (Coincide d.Matches) (r.course l) (r'.course l)   (course_alike)

What is seen of a step is the `Sight`: the host after it and the answer.  Operations bring their
hosts with them, so it does not matter what the program does to its host in between.
-/

namespace Reprise

/-! ## Courses -/

/-- What can be seen of an operation apart from the recorder. -/
inductive Sight : Type 1 where
  /-- The host after an event, and the answer to it. -/
  | reply {η : Type} (host : η) (answer : Except HostFailure Directive)
  | silence

namespace Recorder

/-- Performs an operation; there is nothing after a `Defect`. -/
def perform (r : Recorder) : Operation → Except Defect (Sight × Recorder)
  | @Operation.event _ _host h e =>
    (r.onEvent h e).map fun reply => (.reply reply.host reply.answer, reply.recorder)
  | .unwind depth => .ok (.silence, r.unwind depth)
  | .finishRun => .ok (.silence, r.finishRun)

/-- What is seen of operations performed one after the other, with the recorder after each; a
`Defect` ends the list. -/
def course (r : Recorder) : List Operation → List (Except Defect (Sight × Recorder))
  | [] => []
  | o :: rest =>
    match r.perform o with
    | .error defect => [.error defect]
    | .ok (sight, r) => .ok (sight, r) :: r.course rest

end Recorder

/-- The same defect, or results in the relation. -/
inductive Coincide {α : Type _} {β : Type _} (R : α → β → Prop) :
    Except Defect α → Except Defect β → Prop where
  | error (defect : Defect) : Coincide R (.error defect) (.error defect)
  | ok {a b} (h : R a b) : Coincide R (.ok a) (.ok b)

theorem Coincide.imp {α β : Type _} {R S : α → β → Prop} (hRS : ∀ a b, R a b → S a b)
    {x : Except Defect α} {y : Except Defect β} (h : Coincide R x y) : Coincide S x y := by
  cases h with
  | error defect => exact .error defect
  | ok h => exact .ok (hRS _ _ h)

theorem Coincide.error_or_ok {α β : Type _} {R : α → β → Prop} {x : Except Defect α}
    {y : Except Defect β} (h : Coincide R x y) :
    (∃ defect, x = .error defect ∧ y = .error defect) ∨
      ∃ a b, x = .ok a ∧ y = .ok b ∧ R a b := by
  cases h with
  | error defect => exact .inl ⟨defect, rfl, rfl⟩
  | ok h => exact .inr ⟨_, _, rfl, rfl, h⟩

/-! ## Recorders in another guise -/

/-- How a recorder may differ from another one. -/
structure Guise where
  /-- The entry point in place of that of the configuration. -/
  entry : RecorderConfig → Option String
  /-- Whether the counters are the same. -/
  counted : Prop
  runId : RunId

namespace Guise

/-- `r'` is `r` with the entry point and the run of the guise, and perhaps with other counters. -/
structure Alike (d : Guise) (r r' : Recorder) : Prop where
  config : r'.config = { r.config with entryPoint := d.entry r.config }
  blocked : r'.blocked = r.blocked
  store : r'.store = r.store
  recordings : r'.recordings = r.recordings
  recorded : r'.recorded = r.recorded
  blacklist : r'.blacklist = r.blacklist
  misses : r'.misses = r.misses
  statistics : d.counted → r'.statistics = r.statistics
  runId : r'.runId = d.runId
  entered : r'.entered = r.entered

/-- The entry point has been called, or the guise keeps it. -/
def EntryFits (d : Guise) (r : Recorder) : Prop :=
  r.entered = true ∨ d.entry r.config = r.config.entryPoint

/-- Attempts with the same outcome that leave alike recorders. -/
inductive AlikeAttempt (d : Guise) {η : Type} : Attempt η → Attempt η → Prop where
  | passed {r r'} (h : d.Alike r r') : AlikeAttempt d (.passed r) (.passed r')
  | replayed {r r'} (h : d.Alike r r') (host : η) :
    AlikeAttempt d (.replayed r host) (.replayed r' host)
  | refused {r r'} (h : d.Alike r r') (host : η) (failure : HostFailure) :
    AlikeAttempt d (.refused r host failure) (.refused r' host failure)

/-- The same reply with alike recorders. -/
structure AlikeReply (d : Guise) {η : Type} (reply reply' : Reply η) : Prop where
  host : reply'.host = reply.host
  answer : reply'.answer = reply.answer
  recorder : d.Alike reply.recorder reply'.recorder

namespace Alike

open Recorder

variable {d : Guise} {r r' : Recorder}

/-! ### Changes that are no decisions -/

theorem withRecordings (h : d.Alike r r') (l : List Recording) :
    d.Alike { r with recordings := l } { r' with recordings := l } :=
  { h with recordings := rfl }

theorem mapRecordings (h : d.Alike r r') (f : Recording → Recording) :
    d.Alike { r with recordings := r.recordings.map f }
      { r' with recordings := r'.recordings.map f } := by
  rw [h.recordings]
  exact h.withRecordings _

theorem withMisses (h : d.Alike r r') (f : RoutineMap Nat → RoutineMap Nat) :
    d.Alike { r with misses := f r.misses } { r' with misses := f r'.misses } :=
  { h with misses := congrArg f h.misses }

theorem withStatistics (h : d.Alike r r') (f : Statistics → Statistics) :
    d.Alike { r with statistics := f r.statistics } { r' with statistics := f r'.statistics } :=
  { h with statistics := fun hcounted => congrArg f (h.statistics hcounted) }

theorem enter (h : d.Alike r r') :
    d.Alike { r with entered := true } { r' with entered := true } :=
  { h with entered := rfl }

theorem count (h : d.Alike r r') (x : RoutineId) (f : RoutineStatistics → RoutineStatistics) :
    d.Alike (r.count x f) (r'.count x f) :=
  h.withStatistics (·.update x f)

theorem ban (h : d.Alike r r') (reason : AbortReason) (x : RoutineId) :
    d.Alike (r.ban reason x) (r'.ban reason x) :=
  { h.withStatistics (·.recordInterruption x reason) with
    blacklist := congrArg (·.insert x) h.blacklist }

theorem banAll (h : d.Alike r r') (reason : AbortReason) (l : List Recording) :
    d.Alike (r.banAll reason l) (r'.banAll reason l) := by
  induction l generalizing r r' with
  | nil => exact h
  | cons R l ih => exact ih (h.ban reason R.routine)

theorem abort (h : d.Alike r r') (reason : AbortReason) :
    d.Alike (r.abort reason) (r'.abort reason) := by
  rw [Recorder.abort, Recorder.abort, h.recordings]
  exact (h.withRecordings []).banAll reason r.recordings

theorem abortCall (h : d.Alike r r') (x : RoutineId) (reason : AbortReason) :
    d.Alike (r.abortCall x reason) (r'.abortCall x reason) :=
  (h.abort reason).ban reason x

theorem unwind (h : d.Alike r r') (depth : Nat) :
    d.Alike (r.unwind depth) (r'.unwind depth) := by
  simp only [Recorder.unwind, h.recordings]
  exact (h.withRecordings _).banAll .unwound _

theorem finishRun (h : d.Alike r r') : d.Alike r.finishRun r'.finishRun := h.withRecordings []

/-! ### Observations -/

theorem markRecorded (h : d.Alike r r') (x : RoutineId) :
    d.Alike (r.markRecorded x) (r'.markRecorded x) := by
  rw [Recorder.markRecorded, Recorder.markRecorded, h.recorded]
  split
  · exact h
  · have hfull : d.Alike { r with recorded := r.recorded.insert x }
        { r' with recorded := r.recorded.insert x } := { h with recorded := rfl }
    exact hfull.count x _

theorem commit (h : d.Alike r r') (R : Recording) : d.Alike (r.commit R) (r'.commit R) := by
  rw [Recorder.commit, Recorder.commit, h.store]
  cases r.store.add R.routine R.summary with
  | error _ => exact h.markRecorded R.routine
  | ok store =>
    have hstored : d.Alike { r with store, misses := r.misses.erase R.routine }
        { r' with store, misses := r'.misses.erase R.routine } :=
      { h.withMisses (·.erase R.routine) with store := rfl }
    have hcounted := hstored.count R.routine fun stats =>
      { stats with summariesCommitted := stats.summariesCommitted + 1 }
    simp only
    rw [hcounted.store]
    split
    · exact hcounted
    · exact hcounted.markRecorded R.routine

theorem innermost? (h : d.Alike r r') : r'.innermost? = r.innermost? :=
  congrArg List.getLast? h.recordings

theorem onReturn (h : d.Alike r r') (x : RoutineId) (depth : Nat) (value : Option Value) :
    d.Alike (r.onReturn x depth value) (r'.onReturn x depth value) := by
  have hunwound := h.unwind depth
  simp only [Recorder.onReturn, hunwound.innermost?]
  cases (r.unwind depth).innermost? with
  | none => exact hunwound
  | some R =>
    simp only
    split
    · rw [hunwound.recordings]
      exact (hunwound.withRecordings _).commit _
    · exact hunwound

variable {η : Type} [Host η]

theorem onFieldRead (h : d.Alike r r') (host : η) (access : FieldAccess) :
    d.Alike (r.onFieldRead host access) (r'.onFieldRead host access) := by
  simp only [Recorder.onFieldRead, h.innermost?]
  cases r.innermost? with
  | none => exact h
  | some R =>
    have hcounted := h.count R.routine fun stats => { stats with readCount := stats.readCount + 1 }
    cases accessProblem? host access with
    | some reason => exact hcounted.abort reason
    | none => exact hcounted.mapRecordings _

theorem onFieldWrite (h : d.Alike r r') (host : η) (access : FieldAccess) :
    Coincide d.Alike (r.onFieldWrite host access) (r'.onFieldWrite host access) := by
  simp only [Recorder.onFieldWrite, h.innermost?]
  cases r.innermost? with
  | none => exact .ok h
  | some R =>
    have hcounted := h.count R.routine fun stats =>
      { stats with writeCount := stats.writeCount + 1 }
    cases accessProblem? host access with
    | some reason => exact .ok (hcounted.abort reason)
    | none =>
      cases FieldWrite.check access.type (access.value.narrowedOrSelf access.type) with
      | error defect => exact .error defect
      | ok w => exact .ok (hcounted.mapRecordings _)

theorem onNativeCall (h : d.Alike r r') (name : String) :
    d.Alike (r.onNativeCall name) (r'.onNativeCall name) := by
  rw [Recorder.onNativeCall, Recorder.onNativeCall, h.config]
  split
  · exact h
  · exact h.abort _

/-! ### Calls -/

theorem mayAttemptMatch (h : d.Alike r r') (x : RoutineId) :
    (r'.mayAttemptMatch x).1 = (r.mayAttemptMatch x).1 ∧
      d.Alike (r.mayAttemptMatch x).2 (r'.mayAttemptMatch x).2 := by
  have hbudget : r'.config.missBudget = r.config.missBudget := by rw [h.config]
  have hbackoff : r'.config.missBackoff = r.config.missBackoff := by rw [h.config]
  simp only [Recorder.mayAttemptMatch, h.misses, hbudget, hbackoff]
  split
  · exact ⟨rfl, h⟩
  · split
    · exact ⟨rfl, h⟩
    · split
      · exact ⟨rfl, h.withMisses fun _ => _⟩
      · exact ⟨rfl, h.withMisses fun _ => _⟩

theorem miss (h : d.Alike r r') (x : RoutineId) : d.Alike (r.miss x) (r'.miss x) :=
  (h.withMisses fun misses => misses.insert x ((misses[x]?).getD 0 + 1)).count x _

theorem replay (h : d.Alike r r') (host : η) (i : Invocation) (s : Summary) :
    d.AlikeAttempt (r.replay host i s) (r'.replay host i s) := by
  have habsorbed := (h.withMisses (·.erase i.routine)).mapRecordings (·.absorb s)
  unfold Recorder.replay
  simp only
  cases (s.effect.apply host).failure with
  | some failure => exact .refused habsorbed _ failure
  | none =>
    simp only
    cases pushResult (s.effect.apply host).host i.returns s with
    | error failure => exact .refused habsorbed _ failure
    | ok host' => exact .replayed (habsorbed.withStatistics fun stats => stats.recordReplay _ _ _) _

theorem tryReplay (h : d.Alike r r') (host : η) (i : Invocation) :
    Coincide d.AlikeAttempt (r.tryReplay host i) (r'.tryReplay host i) := by
  rw [Recorder.tryReplay, Recorder.tryReplay, h.store]
  split
  · exact .ok (.passed h)
  · obtain ⟨hsame, hallowed⟩ := h.mayAttemptMatch i.routine
    revert hsame hallowed
    generalize r.mayAttemptMatch i.routine = may
    generalize r'.mayAttemptMatch i.routine = may'
    obtain ⟨allowed, r₁⟩ := may
    obtain ⟨allowed', r₁'⟩ := may'
    rintro rfl h₁
    cases allowed' with
    | false => exact .ok (.passed h₁)
    | true =>
      have hcounted := h₁.count i.routine fun stats =>
        { stats with attemptedMatches := stats.attemptedMatches + 1 }
      simp only [hcounted.store]
      cases Store.find _ host i.routine i.callee i.args (Host.isSingleThreaded host) with
      | error defect => exact .error defect
      | ok found =>
        cases found with
        | none => exact .ok (.passed (hcounted.miss i.routine))
        | some s =>
          simp only
          split
          · exact .ok (hcounted.replay host i s)
          · exact .ok (.passed (hcounted.miss i.routine))

theorem openRecording (h : d.Alike r r') (host : η) (i : Invocation) :
    d.Alike (r.openRecording host i) (r'.openRecording host i) := by
  have hcounted := h.count i.routine fun stats =>
    { stats with recordingsStarted := stats.recordingsStarted + 1 }
  simp only [Recorder.openRecording, hcounted.recordings]
  exact hcounted.withRecordings _

theorem executeCall (h : d.Alike r r') (host : η) (i : Invocation) :
    d.Alike (r.executeCall host i) (r'.executeCall host i) := by
  have hrecording : r'.isRecording i.routine = r.isRecording i.routine := by
    rw [isRecording, isRecording, h.recordings]
  simp only [Recorder.executeCall, h.recorded, hrecording, h.store]
  split
  · exact h
  · split
    · exact h.abortCall _ _
    · split
      · exact h.markRecorded _
      · exact h.openRecording host i

theorem onCall (h : d.Alike r r') (host : η) (i : Invocation) :
    Coincide d.AlikeReply (r.onCall host i) (r'.onCall host i) := by
  unfold Recorder.onCall
  extract_lets r₁ r₁'
  have h₁ : d.Alike r₁ r₁' := h.withStatistics (·.recordCall i)
  clear_value r₁ r₁'
  rw [h₁.blocked, h₁.blacklist]
  split
  · exact .ok ⟨rfl, rfl, h₁.abortCall _ _⟩
  · split
    · exact .ok ⟨rfl, rfl, h₁.abortCall _ _⟩
    · split
      · exact .ok ⟨rfl, rfl, h₁⟩
      · rcases (h₁.tryReplay host i).error_or_ok with ⟨defect, hr, hr'⟩ | ⟨_, _, hr, hr', hattempt⟩
        · rw [hr, hr']
          exact .error defect
        · rw [hr, hr']
          cases hattempt with
          | passed h₂ => exact .ok ⟨rfl, rfl, h₂.executeCall host i⟩
          | replayed h₂ host' => exact .ok ⟨rfl, rfl, h₂⟩
          | refused h₂ host' failure => exact .ok ⟨rfl, rfl, h₂⟩

/-! ### Events and operations -/

theorem handle (h : d.Alike r r') (host : η) (e : Event) :
    Coincide d.AlikeReply (r.handle host e) (r'.handle host e) := by
  cases e with
  | call i => exact h.onCall host i
  | returned x depth value => exact .ok ⟨rfl, rfl, h.onReturn x depth value⟩
  | fieldRead access => exact .ok ⟨rfl, rfl, h.onFieldRead host access⟩
  | fieldWrite access =>
    rw [Recorder.handle, Recorder.handle]
    rcases (h.onFieldWrite host access).error_or_ok with ⟨defect, hr, hr'⟩ | ⟨_, _, hr, hr', h₁⟩
    · rw [hr, hr']
      exact .error defect
    · rw [hr, hr']
      exact .ok ⟨rfl, rfl, h₁⟩
  | nativeCall name => exact .ok ⟨rfl, rfl, h.onNativeCall name⟩
  | allocation => exact .ok ⟨rfl, rfl, h.abort _⟩
  | arrayAccess => exact .ok ⟨rfl, rfl, h.abort _⟩
  | interruption what => exact .ok ⟨rfl, rfl, h.abort _⟩

/-- Alike recorders handle the same events if their entry points are the same, or do not matter any
more. -/
theorem onEvent (h : d.Alike r r') (hentry : d.EntryFits r) (host : η) (e : Event) :
    Coincide d.AlikeReply (r.onEvent host e) (r'.onEvent host e) := by
  have hadmits : r'.admits e = r.admits e := by
    unfold admits
    rw [h.entered, h.config]
    rcases hentry with hentry | hentry
    · rw [hentry, Bool.true_or, Bool.true_or]
    · simp only [hentry]
  rw [Recorder.onEvent, Recorder.onEvent, hadmits]
  split
  · exact h.enter.handle host e
  · exact .ok ⟨rfl, rfl, h⟩

end Alike

/-- The same sight with alike recorders. -/
def Matches (d : Guise) (x x' : Sight × Recorder) : Prop := x'.1 = x.1 ∧ d.Alike x.2 x'.2

end Guise

namespace Recorder

variable {d : Guise} {r r' : Recorder}

theorem perform_alike (h : d.Alike r r') (hentry : d.EntryFits r) (o : Operation) :
    Coincide d.Matches (r.perform o) (r'.perform o) := by
  cases o with
  | event host e =>
    rw [perform, perform]
    rcases (h.onEvent hentry host e).error_or_ok with ⟨defect, hr, hr'⟩ | ⟨_, _, hr, hr', hreply⟩
    · rw [hr, hr']
      exact .error defect
    · rw [hr, hr']
      refine .ok ⟨?_, hreply.recorder⟩
      simp only [hreply.host, hreply.answer]
  | unwind depth => exact .ok ⟨rfl, h.unwind depth⟩
  | finishRun => exact .ok ⟨rfl, h.finishRun⟩

/-- What is performed is the operation. -/
theorem operate_of_perform {r r' : Recorder} {o : Operation} {sight : Sight}
    (ho : r.perform o = .ok (sight, r')) : r.operate o = .ok r' := by
  cases o with
  | event host e =>
    rw [perform] at ho
    rw [operate]
    cases hevent : r.onEvent host e with
    | error defect => rw [hevent] at ho; cases ho
    | ok reply => rw [hevent] at ho; cases ho; rfl
  | unwind depth => cases ho; rfl
  | finishRun => cases ho; rfl

theorem entryFits_perform (hentry : d.EntryFits r) {o : Operation} {sight : Sight}
    {r₁ : Recorder} (ho : r.perform o = .ok (sight, r₁)) : d.EntryFits r₁ := by
  have hoperate := operate_of_perform ho
  rcases hentry with hentered | hsame
  · rcases entered_operate hoperate with hentered₁ | ⟨hentered₁, -⟩
    · exact .inl hentered₁
    · exact .inl (hentered₁.trans hentered)
  · right
    rw [(setup_operate hoperate).1]
    exact hsame

/-- Alike recorders show the same in every step, and stay alike. -/
theorem course_alike (h : d.Alike r r') (hentry : d.EntryFits r) (l : List Operation) :
    List.Forall₂ (Coincide d.Matches) (r.course l) (r'.course l) := by
  induction l generalizing r r' with
  | nil => exact .nil
  | cons o l ih =>
    rw [course, course]
    rcases (perform_alike h hentry o).error_or_ok with
      ⟨defect, hr, hr'⟩ | ⟨⟨sight, r₁⟩, ⟨sight', r₁'⟩, hr, hr', hsight, h₁⟩
    · rw [hr, hr']
      exact .cons (.error defect) .nil
    · rw [hr, hr']
      exact .cons (.ok ⟨hsight, h₁⟩) (ih h₁ (entryFits_perform hentry hr))

end Recorder

/-! ## Counters and the name of the run -/

/-- Alike recorders with one entry point differ in nothing but their counters and their run. -/
theorem Guise.Alike.eq {d : Guise} {r r' : Recorder} (h : d.Alike r r') :
    r' = { r with
      config := { r.config with entryPoint := d.entry r.config }
      statistics := r'.statistics
      runId := d.runId } := by
  obtain ⟨hconfig, hblocked, hstore, hrecordings, hrecorded, hblacklist, hmisses, -, hrunId,
    hentered⟩ := h
  cases r'
  simp_all

/-- Two recorders that differ in nothing but their counters and their run give the same answers to
every sequence of operations, leave the hosts in the same states, fail with the same defect, if at
all, and still differ in nothing else after every step. -/
theorem Recorder.course_indifferent (r : Recorder) (statistics : Statistics) (runId : RunId)
    (l : List Operation) :
    List.Forall₂ (Coincide fun x x' => x'.1 = x.1 ∧
        ∃ statistics', x'.2 = { x.2 with statistics := statistics', runId })
      (r.course l) ({ r with statistics, runId }.course l) := by
  let d : Guise := ⟨(·.entryPoint), False, runId⟩
  have halike : d.Alike r { r with statistics, runId } :=
    ⟨rfl, rfl, rfl, rfl, rfl, rfl, rfl, False.elim, rfl, rfl⟩
  refine (course_alike halike (.inr rfl) l).imp fun x x' hsame => hsame.imp fun y y' hmatches => ?_
  exact ⟨hmatches.1, y'.2.statistics, hmatches.2.eq⟩

end Reprise
