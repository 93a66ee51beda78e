import Reprise.Proofs.Access

/-!
# How a recorder reacts to an event

`Reaction r h r' e h' answer` lists everything that one handled event can do to the open recordings
and the store: keep them, discard all recordings, open one, give an access to all of them, let all
of them absorb a replayed summary, and, on a return, cut off the deeper ones and commit the
innermost.  Every handled event is one of these:

    r.handle h e = .ok reply → Reaction r h reply.recorder e reply.host reply.answer
                                                                        (reaction_of_handle)
    r.handle h e = .error defect → a callee mismatch, or a write of an unsuitable value
                                                                        (cause_of_handle_error)
    e is no call, and no write of an unsuitable value → e is handled and h stays    (observes)

What becomes of an open recording in a run is derived from the constructors, never from the code.
-/

namespace Reprise

/-- Adds a summary where there is room for it. -/
def Store.put (s : Store) (routine : RoutineId) (summary : Summary) : Store :=
  if s.hasRoom routine then
    { s with entries := s.entries.insert routine (s.summaries routine ++ [summary]) }
  else s

/-- Every recorder takes the event and lets the machine go on: it is no call, and what it says was
written conforms. -/
def Event.IsObservable : Event → Prop
  | .call _ => False
  | .fieldWrite access => access.value.conformsTo access.type = true
  | _ => True

namespace Recorder

/-- `r'` is `r` with these open recordings and this store; the blacklist, the recorded set, the
misses and the counters may differ. -/
structure Turns (r r' : Recorder) (recordings : List Recording) (store : Store) : Prop where
  recordings : r'.recordings = recordings
  store : r'.store = store
  entered : r'.entered = r.entered
  config : r'.config = r.config
  blocked : r'.blocked = r.blocked

theorem Turns.trans {r r' r'' : Recorder} {l l' : List Recording} {s s' : Store}
    (h : r.Turns r' l s) (h' : r'.Turns r'' l' s') : r.Turns r'' l' s' :=
  ⟨h'.recordings, h'.store, h'.entered.trans h.entered, h'.config.trans h.config,
    h'.blocked.trans h.blocked⟩

variable {η : Type} [Host η]

theorem isFor_iff {R : Recording} {routine : RoutineId} {depth : Nat} :
    R.isFor routine depth = true ↔ R.routine = routine ∧ R.depth = depth := by
  simp [Recording.isFor]

/-- The recordings of frames no deeper than `depth`. -/
def shallow (r : Recorder) (depth : Nat) : List Recording :=
  r.recordings.takeWhile fun R => decide (R.depth ≤ depth)

/-- What an event in the host `h` does to the recorder `r`: the recorder after it, the host after it
and the answer. -/
inductive Reaction (r : Recorder) (h : η) (r' : Recorder) :
    Event → η → Except HostFailure Directive → Prop where
  /-- No recording is open afterwards; a return does not do this. -/
  | discards {e} (hevent : ∀ routine depth value, e ≠ .returned routine depth value)
    (hr : r.Turns r' [] r.store) : Reaction r h r' e h (.ok .proceed)
  /-- A call that is executed without a recording of its own. -/
  | passes {i} (hkind : i.kind.isSummarizable = true) (hr : r.Turns r' r.recordings r.store) :
    Reaction r h r' (.call i) h (.ok .proceed)
  | passesNative {name} (hwhite : r.config.nativeWhitelist.contains (simpleName name) = true)
    (hr : r.Turns r' r.recordings r.store) : Reaction r h r' (.nativeCall name) h (.ok .proceed)
  /-- A call that is executed and recorded. -/
  | opens {i} (hkind : i.kind.isSummarizable = true) (hsignature : i.hasArraySignature = false)
    (hroom : r.store.hasRoom i.routine = true) (hnew : ∀ R ∈ r.recordings, R.routine ≠ i.routine)
    (hr : r.Turns r'
      (r.recordings ++ [.ofInvocation i (Host.isSingleThreaded h)]) r.store) :
    Reaction r h r' (.call i) h (.ok .proceed)
  /-- A call in whose place a summary was replayed. -/
  | replays {i s h'} (hkind : i.kind.isSummarizable = true)
    (hfind : r.store.find h i.routine i.callee i.args (Host.isSingleThreaded h) = .ok (some s))
    (hreplayable : isReplayable h s i.returns = true)
    (hwrites : (s.effect.apply h).failure = none)
    (hpush : pushResult (s.effect.apply h).host i.returns s = .ok h')
    (hr : r.Turns r' (r.recordings.map (·.absorb s)) r.store) :
    Reaction r h r' (.call i) h' (.ok .skipToReturn)
  /-- A call whose replay the host refused on the way. -/
  | refuses {i s failure}
    (hfind : r.store.find h i.routine i.callee i.args (Host.isSingleThreaded h) = .ok (some s))
    (hreplayable : isReplayable h s i.returns = true)
    (hwhy : (s.effect.apply h).failure = some failure ∨
      pushResult (s.effect.apply h).host i.returns s = .error failure)
    (hr : r.Turns r' (r.recordings.map (·.absorb s)) r.store) :
    Reaction r h r' (.call i) (s.effect.apply h).host (.error failure)
  | reads {access} (hproblem : accessProblem? h access = none)
    (hr : r.Turns r' (r.recordings.map
      (·.observe (.read access.field (access.value.narrowedOrSelf access.type)))) r.store) :
    Reaction r h r' (.fieldRead access) h (.ok .proceed)
  | writes {access w} (hproblem : accessProblem? h access = none)
    (hcheck : FieldWrite.check access.type (access.value.narrowedOrSelf access.type) = .ok w)
    (hr : r.Turns r' (r.recordings.map (·.observe (.write access.field w))) r.store) :
    Reaction r h r' (.fieldWrite access) h (.ok .proceed)
  /-- A return of an invocation without a recording. -/
  | returns {routine depth value}
    (hlast : ∀ R ∈ (r.shallow depth).getLast?, R.isFor routine depth = false)
    (hr : r.Turns r' (r.shallow depth) r.store) :
    Reaction r h r' (.returned routine depth value) h (.ok .proceed)
  /-- A return of an invocation that is recorded. -/
  | commits {routine depth value outer R} (hlast : r.shallow depth = outer ++ [R])
    (hfor : R.isFor routine depth = true)
    (hr : r.Turns r' outer (r.store.put routine (returning R value).summary)) :
    Reaction r h r' (.returned routine depth value) h (.ok .proceed)

/-! ## What the operations do -/

theorem banAll_eq (r : Recorder) (reason : AbortReason) (l : List Recording) :
    ∃ blacklist statistics, r.banAll reason l = { r with blacklist, statistics } := by
  induction l generalizing r with
  | nil => exact ⟨_, _, rfl⟩
  | cons recording l ih =>
    obtain ⟨blacklist, statistics, h⟩ := ih (r.ban reason recording.routine)
    exact ⟨blacklist, statistics, h⟩

theorem turns_count (r : Recorder) (routine : RoutineId)
    (f : RoutineStatistics → RoutineStatistics) :
    r.Turns (r.count routine f) r.recordings r.store := ⟨rfl, rfl, rfl, rfl, rfl⟩

theorem turns_recordCall (r : Recorder) (i : Invocation) :
    r.Turns { r with statistics := r.statistics.recordCall i } r.recordings r.store :=
  ⟨rfl, rfl, rfl, rfl, rfl⟩

theorem turns_abort (r : Recorder) (reason : AbortReason) :
    r.Turns (r.abort reason) [] r.store := by
  unfold abort
  obtain ⟨_, _, h⟩ := banAll_eq { r with recordings := [] } reason r.recordings
  rw [h]
  exact ⟨rfl, rfl, rfl, rfl, rfl⟩

theorem turns_abortCall (r : Recorder) (routine : RoutineId) (reason : AbortReason) :
    r.Turns (r.abortCall routine reason) [] r.store := by
  obtain ⟨h1, h2, h3, h4, h5⟩ := turns_abort r reason
  exact ⟨h1, h2, h3, h4, h5⟩

theorem turns_unwind (r : Recorder) (depth : Nat) :
    r.Turns (r.unwind depth) (r.shallow depth) r.store := by
  unfold unwind
  obtain ⟨_, _, h⟩ := banAll_eq { r with recordings := r.shallow depth } .unwound
    (r.recordings.dropWhile fun R => decide (R.depth ≤ depth))
  exact h ▸ ⟨rfl, rfl, rfl, rfl, rfl⟩

/-- Frames are counted from one, so where none is left no recording is. -/
theorem shallow_zero {r : Recorder} (hdepth : ∀ R ∈ r.recordings, 1 ≤ R.depth) :
    r.shallow 0 = [] := by
  unfold shallow
  cases hrecordings : r.recordings with
  | nil => rfl
  | cons R l =>
    have hR := hdepth R (by rw [hrecordings]; exact List.mem_cons_self)
    exact List.takeWhile_cons_of_neg (by simp; omega)

theorem turns_markRecorded (r : Recorder) (routine : RoutineId) :
    r.Turns (r.markRecorded routine) r.recordings r.store := by
  unfold markRecorded
  split
  · exact ⟨rfl, rfl, rfl, rfl, rfl⟩
  · exact ⟨rfl, rfl, rfl, rfl, rfl⟩

theorem turns_mayAttemptMatch (r : Recorder) (routine : RoutineId) :
    r.Turns (r.mayAttemptMatch routine).2 r.recordings r.store := by
  unfold mayAttemptMatch
  split
  · exact ⟨rfl, rfl, rfl, rfl, rfl⟩
  · split
    · exact ⟨rfl, rfl, rfl, rfl, rfl⟩
    · split <;> exact ⟨rfl, rfl, rfl, rfl, rfl⟩

theorem turns_commit (r : Recorder) (R : Recording) :
    r.Turns (r.commit R) r.recordings (r.store.put R.routine R.summary) := by
  unfold commit Store.put Store.add
  by_cases hroom : r.store.hasRoom R.routine = true
  · simp only [if_pos hroom]
    generalize hadded : Recorder.count _ R.routine _ = added
    have hr : r.Turns added r.recordings
        { r.store with
          entries := r.store.entries.insert R.routine
            (r.store.summaries R.routine ++ [R.summary]) } := by
      rw [← hadded]
      exact ⟨rfl, rfl, rfl, rfl, rfl⟩
    split
    · exact hr
    · have hmark := turns_markRecorded added R.routine
      rw [hr.recordings, hr.store] at hmark
      exact hr.trans hmark
  · simp only [if_neg hroom]
    exact turns_markRecorded r R.routine

theorem routine_returning (R : Recording) (value : Option Value) :
    (returning R value).routine = R.routine := by
  cases value <;> rfl

theorem reaction_onReturn (r : Recorder) (h : η) (routine : RoutineId) (depth : Nat)
    (value : Option Value) :
    Reaction r h (r.onReturn routine depth value) (.returned routine depth value) h
      (.ok .proceed) := by
  have hunwind := turns_unwind r depth
  unfold onReturn innermost?
  simp only
  rw [hunwind.recordings]
  cases hlast : (r.shallow depth).getLast? with
  | none => exact .returns (by simp [hlast]) hunwind
  | some R =>
    by_cases hfor : R.isFor routine depth = true
    · obtain ⟨outer, hsplit⟩ := List.getLast?_eq_some_iff.mp hlast
      have hroutine : R.routine = routine := by
        simp only [Recording.isFor, Bool.and_eq_true, beq_iff_eq] at hfor
        exact hfor.1
      have houter : r.Turns { r.unwind depth with recordings := outer } outer r.store :=
        ⟨rfl, hunwind.store, hunwind.entered, hunwind.config, hunwind.blocked⟩
      have hcommit := turns_commit { r.unwind depth with recordings := outer } (returning R value)
      rw [routine_returning, hroutine, hunwind.store] at hcommit
      simp only [if_pos hfor, hsplit, List.dropLast_concat]
      exact .commits hsplit hfor (houter.trans hcommit)
    · simp only [if_neg hfor]
      exact .returns (by simpa [hlast] using hfor) hunwind

theorem reaction_onFieldRead (r : Recorder) (h : η) (access : FieldAccess) :
    Reaction r h (r.onFieldRead h access) (.fieldRead access) h (.ok .proceed) := by
  unfold onFieldRead innermost?
  cases hlast : r.recordings.getLast? with
  | none =>
    rw [List.getLast?_eq_none_iff] at hlast
    exact .discards (by simp) ⟨hlast, rfl, rfl, rfl, rfl⟩
  | some R =>
    simp only
    cases hproblem : accessProblem? h access with
    | none => exact .reads hproblem ⟨rfl, rfl, rfl, rfl, rfl⟩
    | some reason =>
      exact .discards (by simp) ((turns_count r R.routine _).trans (turns_abort _ reason))

theorem reaction_onFieldWrite (r : Recorder) (h : η) (access : FieldAccess) {r' : Recorder}
    (hr : r.onFieldWrite h access = .ok r') :
    Reaction r h r' (.fieldWrite access) h (.ok .proceed) := by
  unfold onFieldWrite innermost? at hr
  cases hlast : r.recordings.getLast? with
  | none =>
    rw [List.getLast?_eq_none_iff] at hlast
    simp only [hlast, List.getLast?_nil] at hr
    obtain rfl := Except.ok.inj hr
    exact .discards (by simp) ⟨hlast, rfl, rfl, rfl, rfl⟩
  | some R =>
    simp only [hlast] at hr
    cases hproblem : accessProblem? h access with
    | some reason =>
      simp only [hproblem] at hr
      obtain rfl := Except.ok.inj hr
      exact .discards (by simp) ((turns_count r R.routine _).trans (turns_abort _ reason))
    | none =>
      simp only [hproblem] at hr
      cases hcheck : FieldWrite.check access.type (access.value.narrowedOrSelf access.type) with
      | error defect => rw [hcheck] at hr; cases hr
      | ok w =>
        rw [hcheck] at hr
        obtain rfl := Except.ok.inj hr
        exact .writes hproblem hcheck ⟨rfl, rfl, rfl, rfl, rfl⟩

/-! ## Calls -/

/-- A call that is executed: `r` differs in counters from the recorder before the call. -/
theorem reaction_executeCall {r r₁ : Recorder} (hr : r.Turns r₁ r.recordings r.store) (h : η)
    (i : Invocation) (hkind : i.kind.isSummarizable = true) :
    Reaction r h (r₁.executeCall h i) (.call i) h (.ok .proceed) := by
  unfold executeCall
  split
  · exact .passes hkind hr
  · rename_i hnew
    split
    · exact .discards (by simp) (hr.store ▸ hr.trans (turns_abortCall r₁ i.routine .arraySignature))
    · rename_i hsignature
      split
      · refine .passes hkind (hr.trans ?_)
        have hmark := turns_markRecorded r₁ i.routine
        rwa [hr.recordings, hr.store] at hmark
      · rename_i hroom
        simp only [Bool.or_eq_true, decide_eq_true_eq, not_or] at hnew
        have hother : ∀ R ∈ r.recordings, R.routine ≠ i.routine := by
          simpa [isRecording, hr.recordings] using hnew.2
        refine .opens hkind (by simpa using hsignature) ?_ hother ?_
        · rw [← hr.store]
          simpa using hroom
        · refine hr.trans ⟨?_, hr.store, rfl, rfl, rfl⟩
          rw [← hr.recordings]
          rfl

/-- What an attempt to replay a call leaves. -/
inductive Attempted (r : Recorder) (h : η) (i : Invocation) : Attempt η → Prop where
  | passed {r₁} (hr : r.Turns r₁ r.recordings r.store) : Attempted r h i (.passed r₁)
  | replayed {r₁ h' s}
    (hfind : r.store.find h i.routine i.callee i.args (Host.isSingleThreaded h) = .ok (some s))
    (hreplayable : isReplayable h s i.returns = true)
    (hwrites : (s.effect.apply h).failure = none)
    (hpush : pushResult (s.effect.apply h).host i.returns s = .ok h')
    (hr : r.Turns r₁ (r.recordings.map (·.absorb s)) r.store) : Attempted r h i (.replayed r₁ h')
  | refused {r₁ s failure}
    (hfind : r.store.find h i.routine i.callee i.args (Host.isSingleThreaded h) = .ok (some s))
    (hreplayable : isReplayable h s i.returns = true)
    (hwhy : (s.effect.apply h).failure = some failure ∨
      pushResult (s.effect.apply h).host i.returns s = .error failure)
    (hr : r.Turns r₁ (r.recordings.map (·.absorb s)) r.store) :
    Attempted r h i (.refused r₁ (s.effect.apply h).host failure)

theorem attempted_replay {r r₁ : Recorder} (hr : r.Turns r₁ r.recordings r.store) {h : η}
    {i : Invocation} {s : Summary}
    (hfind : r.store.find h i.routine i.callee i.args (Host.isSingleThreaded h) = .ok (some s))
    (hreplayable : isReplayable h s i.returns = true) :
    Attempted r h i (r₁.replay h i s) := by
  have habsorb : r.Turns { r₁ with
      misses := r₁.misses.erase i.routine
      recordings := r₁.recordings.map (·.absorb s) } (r.recordings.map (·.absorb s)) r.store :=
    ⟨by rw [hr.recordings], hr.store, hr.entered, hr.config, hr.blocked⟩
  unfold replay
  simp only
  split
  · rename_i failure hfailure
    exact .refused hfind hreplayable (.inl hfailure) habsorb
  · rename_i hfailure
    split
    · rename_i failure hpush
      exact .refused hfind hreplayable (.inr hpush) habsorb
    · rename_i h' hpush
      exact .replayed hfind hreplayable hfailure hpush
        ⟨habsorb.recordings, habsorb.store, habsorb.entered, habsorb.config, habsorb.blocked⟩

theorem attempted_tryReplay {r r₀ : Recorder} (hr : r.Turns r₀ r.recordings r.store) {h : η}
    {i : Invocation} {attempt : Attempt η} (htry : r₀.tryReplay h i = .ok attempt) :
    Attempted r h i attempt := by
  unfold tryReplay at htry
  split at htry
  · obtain rfl := Except.ok.inj htry
    exact .passed hr
  · have hmay : r.Turns (r₀.mayAttemptMatch i.routine).2 r.recordings r.store := by
      have := turns_mayAttemptMatch r₀ i.routine
      rw [hr.recordings, hr.store] at this
      exact hr.trans this
    split at htry
    · rename_i r₁ heq
      obtain rfl := Except.ok.inj htry
      exact .passed (by rwa [heq] at hmay)
    · rename_i r₁ heq
      rw [heq] at hmay
      have hcount : r.Turns (r₁.count i.routine fun stats =>
          { stats with attemptedMatches := stats.attemptedMatches + 1 }) r.recordings r.store :=
        ⟨hmay.recordings, hmay.store, hmay.entered, hmay.config, hmay.blocked⟩
      simp only [hcount.store] at htry
      split at htry
      · cases htry
      · obtain rfl := Except.ok.inj htry
        exact .passed ⟨hcount.recordings, hcount.store, hcount.entered, hcount.config,
          hcount.blocked⟩
      · rename_i s hfind
        split at htry
        · rename_i hreplayable
          obtain rfl := Except.ok.inj htry
          exact attempted_replay hcount hfind hreplayable
        · obtain rfl := Except.ok.inj htry
          exact .passed ⟨hcount.recordings, hcount.store, hcount.entered, hcount.config,
            hcount.blocked⟩

/-- The call gets as far as the summaries of its routine. -/
structure Eligible (r : Recorder) (i : Invocation) : Prop where
  summarizable : i.kind.isSummarizable = true
  unblocked : r.blocked i.name = false
  unbanned : i.routine ∉ r.blacklist

/-- What a call comes to, in the recorder that has counted it. -/
inductive Called (r : Recorder) (h : η) (i : Invocation) : Reply η → Prop where
  /-- The routine is an initializer, or its name is blocked: the call bans it. -/
  | bars {reason} (hunfit : i.kind.isSummarizable = false ∨ r.blocked i.name = true)
    (hreason : reason.isInterruption = false) :
    Called r h i ⟨r.abortCall i.routine reason, h, .ok .proceed⟩
  | passes (hkind : i.kind.isSummarizable = true) (hbanned : i.routine ∈ r.blacklist) :
    Called r h i ⟨r, h, .ok .proceed⟩
  | replays {r₁ h'} (hi : r.Eligible i) (htry : r.tryReplay h i = .ok (.replayed r₁ h')) :
    Called r h i ⟨r₁, h', .ok .skipToReturn⟩
  | refuses {r₁ h' failure} (hi : r.Eligible i)
    (htry : r.tryReplay h i = .ok (.refused r₁ h' failure)) : Called r h i ⟨r₁, h', .error failure⟩
  | executes {r₁} (hi : r.Eligible i) (htry : r.tryReplay h i = .ok (.passed r₁)) :
    Called r h i ⟨r₁.executeCall h i, h, .ok .proceed⟩

theorem called_onCall {r : Recorder} {h : η} {i : Invocation} {reply : Reply η}
    (hcall : r.onCall h i = .ok reply) :
    Called { r with statistics := r.statistics.recordCall i } h i reply := by
  simp only [onCall] at hcall
  split at hcall
  · rename_i hkind
    obtain rfl := Except.ok.inj hcall
    exact .bars (.inl (by simpa using hkind)) rfl
  · rename_i hkind
    have hkind : i.kind.isSummarizable = true := by simpa using hkind
    split at hcall
    · rename_i hname
      obtain rfl := Except.ok.inj hcall
      exact .bars (.inr hname) rfl
    · rename_i hname
      have hname : r.blocked i.name = false := by simpa using hname
      split at hcall
      · rename_i hbanned
        obtain rfl := Except.ok.inj hcall
        exact .passes hkind hbanned
      · rename_i hfree
        have hi : Eligible { r with statistics := r.statistics.recordCall i } i :=
          ⟨hkind, hname, hfree⟩
        split at hcall
        · cases hcall
        · rename_i htry
          obtain rfl := Except.ok.inj hcall
          exact .replays hi htry
        · rename_i htry
          obtain rfl := Except.ok.inj hcall
          exact .refuses hi htry
        · rename_i htry
          obtain rfl := Except.ok.inj hcall
          exact .executes hi htry

theorem reaction_onCall {r : Recorder} {h : η} {i : Invocation} {reply : Reply η}
    (hcall : r.onCall h i = .ok reply) :
    Reaction r h reply.recorder (.call i) reply.host reply.answer := by
  have hr := turns_recordCall r i
  cases called_onCall hcall with
  | bars => exact .discards (by simp) (hr.trans (turns_abortCall _ i.routine _))
  | passes hkind => exact .passes hkind hr
  | replays hi htry =>
    cases attempted_tryReplay hr htry with
    | replayed hfind hreplayable hwrites hpush hr₁ =>
      exact .replays hi.summarizable hfind hreplayable hwrites hpush hr₁
  | refuses _ htry =>
    cases attempted_tryReplay hr htry with
    | refused hfind hreplayable hwhy hr₁ => exact .refuses hfind hreplayable hwhy hr₁
  | executes hi htry =>
    cases attempted_tryReplay hr htry with
    | passed hr₁ => exact reaction_executeCall hr₁ h i hi.summarizable

/-! ## All events -/

theorem reaction_onNativeCall (r : Recorder) (h : η) (name : String) :
    Reaction r h (r.onNativeCall name) (.nativeCall name) h (.ok .proceed) := by
  unfold onNativeCall
  split
  · rename_i hwhite
    exact .passesNative hwhite ⟨rfl, rfl, rfl, rfl, rfl⟩
  · exact .discards (by simp) (turns_abort r _)

theorem reaction_of_handle {r : Recorder} {h : η} {e : Event} {reply : Reply η}
    (hhandle : r.handle h e = .ok reply) :
    Reaction r h reply.recorder e reply.host reply.answer := by
  cases e with
  | call i => exact reaction_onCall hhandle
  | returned routine depth value =>
    obtain rfl := Except.ok.inj hhandle
    exact reaction_onReturn r h routine depth value
  | fieldRead access =>
    obtain rfl := Except.ok.inj hhandle
    exact reaction_onFieldRead r h access
  | fieldWrite access =>
    simp only [handle] at hhandle
    split at hhandle
    · cases hhandle
    · rename_i r' hwrite
      obtain rfl := Except.ok.inj hhandle
      exact reaction_onFieldWrite r h access hwrite
  | nativeCall name =>
    obtain rfl := Except.ok.inj hhandle
    exact reaction_onNativeCall r h name
  | allocation =>
    obtain rfl := Except.ok.inj hhandle
    exact .discards (by simp) (turns_abort r _)
  | arrayAccess =>
    obtain rfl := Except.ok.inj hhandle
    exact .discards (by simp) (turns_abort r _)
  | interruption what =>
    obtain rfl := Except.ok.inj hhandle
    exact .discards (by simp) (turns_abort r _)

theorem cause_of_tryReplay_error {r : Recorder} {h : η} {i : Invocation} {defect : Defect}
    (htry : r.tryReplay h i = .error defect) :
    r.store.find h i.routine i.callee i.args (Host.isSingleThreaded h) = .error defect := by
  unfold tryReplay at htry
  split at htry
  · cases htry
  · have hstore := (turns_mayAttemptMatch r i.routine).store
    split at htry
    · cases htry
    · rename_i r₁ heq
      rw [heq] at hstore
      simp only [(turns_count r₁ i.routine _).store] at htry
      split at htry
      · rename_i defect' hfind
        rw [← Except.error.inj htry, ← hfind, ← hstore]
      · cases htry
      · split at htry <;> cases htry

/-- What keeps an event from being handled. -/
theorem cause_of_handle_error {r : Recorder} {h : η} {e : Event} {defect : Defect}
    (hhandle : r.handle h e = .error defect) :
    (∃ i, e = .call i ∧
      r.store.find h i.routine i.callee i.args (Host.isSingleThreaded h) = .error defect) ∨
    (∃ access, e = .fieldWrite access ∧ accessProblem? h access = none ∧
      FieldWrite.check access.type (access.value.narrowedOrSelf access.type) = .error defect) := by
  cases e with
  | call i =>
    left
    refine ⟨i, rfl, ?_⟩
    simp only [handle, onCall] at hhandle
    split at hhandle
    · cases hhandle
    · split at hhandle
      · cases hhandle
      · split at hhandle
        · cases hhandle
        · split at hhandle
          · rename_i defect' htry
            rw [← Except.error.inj hhandle, ← cause_of_tryReplay_error htry]
          all_goals cases hhandle
  | fieldWrite access =>
    right
    refine ⟨access, rfl, ?_⟩
    simp only [handle, onFieldWrite] at hhandle
    cases hlast : r.innermost? with
    | none => simp only [hlast] at hhandle; cases hhandle
    | some R =>
      simp only [hlast] at hhandle
      cases hproblem : accessProblem? h access with
      | some reason => simp only [hproblem] at hhandle; cases hhandle
      | none =>
        simp only [hproblem] at hhandle
        cases hcheck : FieldWrite.check access.type
            (access.value.narrowedOrSelf access.type) with
        | ok w => simp only [hcheck] at hhandle; cases hhandle
        | error defect' =>
          simp only [hcheck] at hhandle
          exact ⟨rfl, congrArg Except.error (Except.error.inj hhandle)⟩
  | _ => cases hhandle

/-- Past its entry point a recorder handles every event. -/
theorem onEvent_of_entered {r : Recorder} (hentered : r.entered = true) (h : η) (e : Event) :
    r.onEvent h e = r.handle h e := by
  have hsame : { r with entered := true } = r := by rw [← hentered]
  rw [onEvent, if_pos (by simp [admits, hentered]), hsame]

/-- What an event other than a call does: nothing before the entry point. -/
inductive Observes (r : Recorder) (h : η) (e : Event) : Recorder → Prop where
  | ignores (hentered : r.entered = false) : Observes r h e r
  | reacts {r'} (hentered : r.entered = true)
    (hreaction : Reaction r h r' e h (.ok .proceed)) : Observes r h e r'

/-- An access is tracked if it is of no array and of an owner that is neither shared nor frozen. -/
theorem accessProblem?_eq_none_iff {h : η} {access : FieldAccess} :
    accessProblem? h access = none ↔
      access.type.isSnapshottable = true ∧ Host.isUntrackable h access.field.owner = false := by
  unfold accessProblem? Host.isUntrackable
  cases access.type.isSnapshottable <;> cases Host.isShared h access.field.owner <;>
    cases Host.isFrozen h access.field.owner <;> simp

/-- A value that conforms is never refused. -/
theorem check_eq_ok {h : η} {access : FieldAccess} (hproblem : accessProblem? h access = none)
    (hv : access.value.conformsTo access.type = true) :
    ∃ w, FieldWrite.check access.type (access.value.narrowedOrSelf access.type) = .ok w ∧
      w.type = access.type ∧ w.value = access.value := by
  have hsnapshottable := (accessProblem?_eq_none_iff.mp hproblem).1
  have hstorable : Host.storable access.type access.value = true := by
    simp [Host.storable, hsnapshottable, hv]
  rw [Value.narrowedOrSelf, Value.narrowedTo_self hv, Option.getD_some, FieldWrite.check,
    dif_pos hstorable]
  exact ⟨_, rfl, rfl, rfl⟩

/-- Every observable event is taken. -/
theorem observes (r : Recorder) {e : Event} (he : e.IsObservable) (h : η) :
    ∃ r', r.onEvent h e = .ok ⟨r', h, .ok .proceed⟩ ∧ Observes r h e r' := by
  cases hentered : r.entered with
  | false =>
    have hadmits : r.admits e = false := by
      cases e with
      | call i => cases he
      | _ => simp [admits, hentered]
    exact ⟨r, by rw [onEvent, hadmits]; rfl, .ignores hentered⟩
  | true =>
    rw [onEvent_of_entered hentered]
    cases hhandle : r.handle h e with
    | error defect =>
      rcases cause_of_handle_error hhandle with ⟨i, rfl, -⟩ | ⟨access, rfl, hproblem, hcheck⟩
      · cases he
      · obtain ⟨w, hok, -⟩ := check_eq_ok hproblem he
        cases hok.symm.trans hcheck
    | ok reply =>
      obtain ⟨r', h', answer⟩ := reply
      have hreaction : Reaction r h r' e h' answer := reaction_of_handle hhandle
      obtain ⟨rfl, rfl⟩ : h' = h ∧ answer = .ok .proceed := by
        cases hreaction with
        | replays => cases he
        | refuses => cases he
        | _ => exact ⟨rfl, rfl⟩
      exact ⟨r', rfl, .reacts hentered hreaction⟩

end Recorder

end Reprise
