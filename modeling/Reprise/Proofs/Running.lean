import Reprise.Proofs.Moves

/-!
# How a machine runs

`At p config r h fs k m` is all of the machine `m` that its next step depends on: the program and
the limits, the recorder, the heap, the frames, and the number of instructions executed, with a
watchdog that never stops it.  Each operation of the machine is given by one lemma from `At` to
`At`; where it tells the recorder something, `Hears` says that the recorder, if there is one, lets
the machine go on.

A machine without a recorder follows the moves of its frames, one instruction for each, until a
limit stops it (`runFrom_reaches`).
-/

namespace Reprise

/-- Whether the failure is that of a limit of the machine. -/
def ExecutionFailure.isLimit : ExecutionFailure → Bool
  | .callDepthExceeded _ => true
  | .instructionLimitExceeded _ => true
  | _ => false

/-- The operation was stopped by a limit. -/
def HitsLimit {α : Type} (result : Except Located α) : Prop :=
  ∃ e, result = .error e ∧ e.failure.isLimit = true

instance {α : Type} (result : Except Located α) : Decidable (HitsLimit result) :=
  match result with
  | .ok _ => .isFalse (by rintro ⟨e, he, -⟩; cases he)
  | .error e => decidable_of_iff (e.failure.isLimit = true)
      ⟨fun hlimit => ⟨e, rfl, hlimit⟩, by rintro ⟨e', he, hlimit⟩; cases he; exact hlimit⟩

namespace Machine

/-- The location of the innermost frame. -/
def locationOf : List Frame → Location
  | [] => ⟨⟨0⟩, 0⟩
  | f :: _ => ⟨f.routine, min f.pc (UInt32.size - 1)⟩

/-- The state of a machine that is never stopped from outside. -/
structure At (p : Program) (config : MachineConfig) (r : Option Recorder) (h : Heap)
    (fs : List Frame) (k : Nat) (m : Machine) : Prop where
  program : m.program = p
  config : m.config = config
  recorder : m.recorder = r
  heap : m.heap = h
  frames : m.frames = fs
  executed : m.executed = k
  endless : ∀ n, m.watchdog.answers n = false

/-- A recorder, if there is one, handles the event and lets the machine go on as it is. -/
inductive Hears (host : FrameView) (e : Event) : Option Recorder → Option Recorder → Prop where
  | absent : Hears host e none none
  | present {r r'} (hevent : r.onEvent host e = .ok ⟨r', host, .ok .proceed⟩) :
    Hears host e (some r) (some r')

variable {p : Program} {config : MachineConfig} {r r' : Option Recorder} {h h' : Heap}
  {f f' : Frame} {fs : List Frame} {k : Nat} {m : Machine}

theorem At.location (hm : At p config r h fs k m) : m.location = locationOf fs := by
  cases fs with
  | nil => simp only [Machine.location, locationOf, hm.frames]
  | cons f fs => simp only [Machine.location, locationOf, hm.frames]

/-! ## Telling the recorder -/

theorem notify_hears (hm : At p config r h (f :: fs) k m) {e : Event}
    (hr : Hears ⟨h, f.stack⟩ e r r') :
    ∃ m', m.notify e = ⟨m', .ok .proceed⟩ ∧ At p config r' h (f :: fs) k m' := by
  unfold notify
  rw [hm.recorder, hm.frames]
  cases hr with
  | absent => exact ⟨m, rfl, hm⟩
  | present hevent =>
    simp only [hm.heap, hevent]
    exact ⟨_, rfl, hm.program, hm.config, rfl, rfl, rfl, hm.executed, hm.endless⟩

theorem tell_hears (hm : At p config r h (f :: fs) k m) {e : Event}
    (hr : Hears ⟨h, f.stack⟩ e r r') :
    ∃ m', m.tell (some e) = ⟨m', .ok ()⟩ ∧ At p config r' h (f :: fs) k m' := by
  obtain ⟨m', hnotify, hm'⟩ := notify_hears hm hr
  exact ⟨m', by simp only [tell, hnotify]; rfl, hm'⟩

/-! ## Performing an action -/

theorem perform_proceed (hm : At p config r h (f :: fs) k m) (here : Location) {e : Option Event}
    (printed : Option String)
    (hr : (e = none ∧ r' = r) ∨ ∃ event, e = some event ∧ Hears ⟨h', f'.stack⟩ event r r') :
    ∃ m', m.perform here (.proceed h' f' e printed) = ⟨m', .ok .goesOn⟩ ∧
      At p config r' h' (f' :: fs) k m' := by
  have hset : At p config r h' (f' :: fs) k
      (Machine.setTop { m with heap := h', output := m.output ++ printed.toList } f') :=
    ⟨hm.program, hm.config, hm.recorder, rfl, by simp [setTop, hm.frames], hm.executed, hm.endless⟩
  rcases hr with ⟨rfl, rfl⟩ | ⟨event, rfl, hhears⟩
  · exact ⟨_, rfl, hset⟩
  · obtain ⟨m', htell, hm'⟩ := tell_hears hset hhears
    exact ⟨m', by simp only [perform, htell]; rfl, hm'⟩

theorem perform_failAfter (hm : At p config r h (f :: fs) k m) (here : Location) {e : Event}
    (failure : ExecutionFailure) (hr : Hears ⟨h, f.stack⟩ e r r') :
    ∃ m', m.perform here (.failAfter e failure) = ⟨m', .error ⟨here, failure⟩⟩ ∧
      At p config r' h (f :: fs) k m' := by
  obtain ⟨m', htell, hm'⟩ := tell_hears hm hr
  exact ⟨m', by simp only [perform, htell]; rfl, hm'⟩

theorem perform_finish (hm : At p config r h (f :: fs) k m) (here : Location) {v : Option Value}
    (hr : Hears ⟨h, f'.stack⟩ (.returned here.routine (fs.length + 1) v) r r') :
    ∃ m', m.perform here (.finish f' v) = ⟨m', .ok (.returned v)⟩ ∧
      At p config r' h fs k m' := by
  have hset : At p config r h (f' :: fs) k (m.setTop f') :=
    ⟨hm.program, hm.config, hm.recorder, hm.heap, by simp [setTop, hm.frames], hm.executed,
      hm.endless⟩
  obtain ⟨m', htell, hm'⟩ := tell_hears hset hr
  refine ⟨{ m' with frames := m'.frames.tail }, ?_, hm'.program, hm'.config, hm'.recorder, hm'.heap,
    by rw [hm'.frames]; rfl, hm'.executed, hm'.endless⟩
  simp only [perform, hm.frames, List.length_cons, htell]

/-! ## Entering a routine -/

/-- What a call enters, or what stops it before its frame stands. -/
def entry (p : Program) (config : MachineConfig) (fs : List Frame) (id : RoutineId)
    (callee : Option ObjectId) (args : List Value) :
    Except Located (Routine × Option ObjectId × List Value) :=
  match p.routine? id with
  | none => .error ⟨⟨id, 0⟩, .noSuchRoutine id⟩
  | some q =>
    if config.maximumCallDepth ≤ fs.length then
      .error ⟨locationOf fs, .callDepthExceeded config.maximumCallDepth⟩
    else
      match q.accepts id callee args with
      | .error e => .error ⟨⟨id, 0⟩, e⟩
      | .ok (callee, args) => .ok (q, callee, args)

variable {id : RoutineId} {callee callee' : Option ObjectId} {args args' : List Value} {q : Routine}

theorem isSome_of_accepts (haccepts : q.accepts id callee args = .ok (callee', args')) :
    callee'.isSome = q.hasReceiver := by
  unfold Routine.accepts at haccepts
  split at haccepts
  · cases haccepts
  · split at haccepts
    · cases haccepts
    · rename_i hreceiver
      split at haccepts
      · cases haccepts
      · cases haccepts
        unfold receiver at hreceiver
        split at hreceiver
        · rename_i hhas
          split at hreceiver
          · cases hreceiver
            exact hhas.symm
          · cases hreceiver
        · rename_i hhas
          cases hreceiver
          simpa using hhas

theorem accepts_of_entry (hentry : entry p config fs id callee args = .ok (q, callee', args')) :
    p.routine? id = some q ∧ q.accepts id callee args = .ok (callee', args') := by
  unfold entry at hentry
  split at hentry
  · cases hentry
  · rename_i q' hq
    split at hentry
    · cases hentry
    · split at hentry
      · cases hentry
      · rename_i haccepts
        cases hentry
        exact ⟨hq, haccepts⟩

/-- A call is accepted only where there is room for its frame. -/
theorem length_lt_of_entry {accepted : Routine × Option ObjectId × List Value}
    (hentry : entry p config fs id callee args = .ok accepted) :
    fs.length < config.maximumCallDepth := by
  unfold entry at hentry
  split at hentry
  · cases hentry
  · split at hentry
    · cases hentry
    · omega

/-- A call that is accepted is entered, unless there are too many frames. -/
theorem entry_of_accepts (config : MachineConfig) (fs : List Frame) (hq : p.routine? id = some q)
    (haccepts : q.accepts id callee args = .ok (callee', args')) :
    entry p config fs id callee args = .ok (q, callee', args') ∨
      ∃ e, entry p config fs id callee args = .error e ∧ e.failure.isLimit = true := by
  unfold entry
  simp only [hq, haccepts]
  split
  · exact .inr ⟨_, rfl, rfl⟩
  · exact .inl rfl

/-- Pushes the frame of an accepted call and announces the call. -/
def announce (m : Machine) (id : RoutineId) (q : Routine) (callee : Option ObjectId)
    (args : List Value) : Outcome Unit :=
  let m := { m with frames := calleeFrame id q callee args :: m.frames }
  let told := m.notify (.call (q.invocation id callee args m.frames.length))
  match told.result with
  | .error e => ⟨told.machine, .error e⟩
  | .ok .proceed => ⟨told.machine, .ok ()⟩
  | .ok .skipToReturn =>
    match q.finalReturn?, told.machine.frames with
    | some target, f :: _ => ⟨told.machine.setTop (f.goto target), .ok ()⟩
    | _, _ => told.machine.fail ⟨id, 0⟩ (.noReturnInstruction id)

theorem enter_eq (m : Machine) (id : RoutineId) (callee : Option ObjectId) (args : List Value) :
    m.enter id callee args =
      match entry m.program m.config m.frames id callee args with
      | .error e => ⟨m, .error e⟩
      | .ok (q, callee, args) => m.announce id q callee args := by
  unfold enter entry Routine.accepts
  cases m.program.routine? id with
  | none => rfl
  | some q =>
    simp only
    by_cases hdepth : m.config.maximumCallDepth ≤ m.frames.length
    · simp only [if_pos hdepth]
      rw [fail, show m.location = locationOf m.frames by
        unfold Machine.location locationOf; cases m.frames <;> rfl]
    · simp only [if_neg hdepth]
      by_cases harity : q.params.length ≠ args.length
      · simp only [if_pos harity]
        rfl
      · simp only [if_neg harity]
        cases receiver id q callee with
        | error e => rfl
        | ok callee =>
          simp only
          cases narrowArgs args q.params with
          | error e => rfl
          | ok args => rfl

theorem enter_error (hm : At p config r h fs k m) {e : Located}
    (hentry : entry p config fs id callee args = .error e) :
    m.enter id callee args = ⟨m, .error e⟩ := by
  rw [enter_eq, hm.program, hm.config, hm.frames, hentry]

theorem enter_executes (hm : At p config r h fs k m)
    (hentry : entry p config fs id callee args = .ok (q, callee', args'))
    (hr : Hears ⟨h, []⟩ (.call (q.invocation id callee' args' (fs.length + 1))) r r') :
    ∃ m', m.enter id callee args = ⟨m', .ok ()⟩ ∧
      At p config r' h (calleeFrame id q callee' args' :: fs) k m' := by
  have hpush : At p config r h (calleeFrame id q callee' args' :: fs) k
      { m with frames := calleeFrame id q callee' args' :: m.frames } :=
    ⟨hm.program, hm.config, hm.recorder, hm.heap, by rw [hm.frames], hm.executed, hm.endless⟩
  obtain ⟨m', hnotify, hm'⟩ := notify_hears hpush hr
  refine ⟨m', ?_, hm'⟩
  rw [enter_eq, hm.program, hm.config, hm.frames, hentry]
  simp only [announce, List.length_cons, hm.frames] at hnotify ⊢
  simp only [hnotify]

/-- A replayed call stands before its last return. -/
theorem enter_skips {r r' : Recorder} {stack : List Value} {target : Nat}
    (hm : At p config (some r) h fs k m)
    (hentry : entry p config fs id callee args = .ok (q, callee', args'))
    (hr : r.onEvent (FrameView.mk h [])
        (.call (q.invocation id callee' args' (fs.length + 1))) =
      .ok ⟨r', ⟨h', stack⟩, .ok .skipToReturn⟩) (htarget : q.finalReturn? = some target) :
    ∃ m', m.enter id callee args = ⟨m', .ok ()⟩ ∧
      At p config (some r') h'
        ({ calleeFrame id q callee' args' with stack, pc := target } :: fs) k m' := by
  refine ⟨{ m with
      recorder := some r'
      heap := h'
      frames := { calleeFrame id q callee' args' with stack, pc := target } :: m.frames }, ?_,
    hm.program, hm.config, rfl, rfl, by rw [hm.frames], hm.executed, hm.endless⟩
  have hview : (calleeFrame id q callee' args').stack = [] := rfl
  rw [enter_eq, hm.program, hm.config, hm.frames, hentry]
  simp only [announce, notify, hm.recorder, hm.frames, hm.heap, List.length_cons, hview, hr,
    hm.program, hm.config, htarget, setTop, List.tail_cons, Frame.goto]

/-! ## Executing instructions -/

theorem step_error (hm : At p config r h (f :: fs) k m) {e : ExecutionFailure}
    (hnext : f.next p k h = .error e) : m.step = ⟨m, .error ⟨locationOf (f :: fs), e⟩⟩ := by
  unfold Frame.next at hnext
  unfold step
  simp only [hm.frames, hm.program, hm.heap, hm.executed, hm.location]
  cases hq : p.routine? f.routine with
  | none =>
    rw [hq] at hnext
    simp only [fail, Except.error.inj hnext]
  | some q =>
    simp only [hq] at hnext ⊢
    cases hi : q.code[f.pc]? with
    | none =>
      simp only [hi] at hnext ⊢
      rw [fail, Except.error.inj hnext]
    | some i =>
      simp only [hi] at hnext ⊢
      simp only [hnext, fail]

theorem step_ok (hm : At p config r h (f :: fs) k m) {a : Action} (hnext : f.next p k h = .ok a) :
    m.step = m.perform (locationOf (f :: fs)) a := by
  unfold Frame.next at hnext
  unfold step
  simp only [hm.frames, hm.program, hm.heap, hm.executed, hm.location]
  cases hq : p.routine? f.routine with
  | none => rw [hq] at hnext; cases hnext
  | some q =>
    simp only [hq] at hnext ⊢
    cases hi : q.code[f.pc]? with
    | none => rw [hi] at hnext; cases hnext
    | some i =>
      simp only [hi] at hnext ⊢
      simp only [hnext]

/-- How a run goes on after an instruction. -/
def thenRun (remaining counter : Nat) (o : Outcome Flow) : Outcome (Option Value) :=
  match o.result with
  | .error e => ⟨o.machine, .error e⟩
  | .ok .goesOn => runFrom 0 remaining counter o.machine
  | .ok (.returned value) =>
    if o.machine.frames.length ≤ 0 then ⟨o.machine, .ok value⟩
    else runFrom 0 remaining counter (o.machine.deliver value)

theorem poll_eq (hm : At p config r h fs k m) (counter : Nat) :
    ∃ w, m.poll counter = (false, { m with watchdog := w }) ∧ ∀ n, w.answers n = false := by
  unfold poll
  split
  · exact ⟨m.watchdog.ask.2, by simp [Watchdog.ask, hm.endless], hm.endless⟩
  · exact ⟨m.watchdog, rfl, hm.endless⟩

theorem runFrom_zero (hm : At p config r h fs k m) (counter : Nat) :
    HitsLimit (runFrom 0 0 counter m).result := by
  obtain ⟨w, hpoll, -⟩ := poll_eq hm counter
  rw [runFrom, hpoll]
  exact ⟨_, rfl, rfl⟩

theorem runFrom_succ (hm : At p config r h fs k m) (remaining counter : Nat) :
    ∃ m', At p config r h fs (k + 1) m' ∧
      runFrom 0 (remaining + 1) counter m = thenRun remaining (counter + 1) m'.step := by
  obtain ⟨w, hpoll, hw⟩ := poll_eq hm counter
  refine ⟨{ m with watchdog := w, executed := m.executed + 1 }, ⟨hm.program, hm.config,
    hm.recorder, hm.heap, hm.frames, by rw [hm.executed], hw⟩, ?_⟩
  rw [runFrom, hpoll]
  rfl

/-- The value that a frame returned goes to the frame below it. -/
theorem deliver_at (hm : At p config r h fs k m) (v : Option Value) :
    At p config r h (deliverTo v fs) k (m.deliver v) := by
  unfold deliver
  rw [hm.frames]
  cases v with
  | none => exact ⟨hm.program, hm.config, hm.recorder, hm.heap, by cases fs <;> exact hm.frames,
      hm.executed, hm.endless⟩
  | some v =>
    cases fs with
    | nil => exact hm
    | cons f fs =>
      exact ⟨hm.program, hm.config, hm.recorder, hm.heap, by simp [setTop, hm.frames, deliverTo],
        hm.executed, hm.endless⟩

/-! ## Following the moves -/

/-- A machine without a recorder makes the next move of its frames, or hits a limit. -/
theorem runFrom_moves (hp : p.IsTimeless) {fs' : List Frame} (hmoves : Moves p h fs h' fs')
    (hm : At p config none h fs k m) (n counter : Nat) :
    HitsLimit (runFrom 0 n counter m).result ∨
      ∃ n' counter' m', n = n' + 1 ∧ At p config none h' fs' (k + 1) m' ∧
        runFrom 0 n counter m = runFrom 0 n' counter' m' := by
  cases n with
  | zero => exact .inl (runFrom_zero hm counter)
  | succ n =>
    obtain ⟨m₁, hm₁, hrun⟩ := runFrom_succ hm n counter
    rw [hrun]
    cases hmoves with
    | @within _ f f' below e printed hnext =>
      rw [next_clock hp 0 (k + 1)] at hnext
      have hhears : (e = none ∧ (none : Option Recorder) = none) ∨
          ∃ event, e = some event ∧ Hears ⟨h', f'.stack⟩ event none none := by
        cases e with
        | none => exact .inl ⟨rfl, rfl⟩
        | some event => exact .inr ⟨event, rfl, .absent⟩
      obtain ⟨m', hperform, hm'⟩ :=
        perform_proceed hm₁ (locationOf (f :: below)) printed hhears
      refine .inr ⟨n, counter + 1, m', rfl, hm', ?_⟩
      rw [step_ok hm₁ hnext, hperform]
      rfl
    | @call f f' below id callee args q callee' args' hnext hq haccepts =>
      rw [next_clock hp 0 (k + 1)] at hnext
      have hset : At p config none h (f' :: below) (k + 1) (m₁.setTop f') :=
        ⟨hm₁.program, hm₁.config, hm₁.recorder, hm₁.heap, by simp [setTop, hm₁.frames],
          hm₁.executed, hm₁.endless⟩
      rw [step_ok hm₁ hnext, perform]
      rcases entry_of_accepts config (f' :: below) hq haccepts with
        hentry | ⟨e, hentry, hlimit⟩
      · obtain ⟨m', henter, hm'⟩ := enter_executes hset hentry .absent
        refine .inr ⟨n, counter + 1, m', rfl, hm', ?_⟩
        rw [henter]
        rfl
      · left
        rw [enter_error hset hentry]
        exact ⟨e, rfl, hlimit⟩
    | @finish f f' g below v hnext =>
      rw [next_clock hp 0 (k + 1)] at hnext
      obtain ⟨m', hperform, hm'⟩ := perform_finish hm₁ (locationOf (f :: g :: below)) .absent
      refine .inr ⟨n, counter + 1, m'.deliver v, rfl, deliver_at hm' v, ?_⟩
      rw [step_ok hm₁ hnext, hperform]
      simp only [thenRun, hm'.frames, List.length_cons]
      rfl

/-- A machine without a recorder gets where its frames get, one instruction for each move, or hits
a limit. -/
theorem runFrom_reaches (hp : p.IsTimeless) {fs' : List Frame} (hreaches : Reaches p h fs h' fs')
    (hm : At p config none h fs k m) (n counter : Nat) :
    HitsLimit (runFrom 0 n counter m).result ∨
      ∃ moves n' counter' m', n = n' + moves ∧ At p config none h' fs' (k + moves) m' ∧
        runFrom 0 n counter m = runFrom 0 n' counter' m' := by
  induction hreaches generalizing k m n counter with
  | refl => exact .inr ⟨0, n, counter, m, rfl, hm, rfl⟩
  | move hmove _ ih =>
    rcases runFrom_moves hp hmove hm n counter with hlimit | ⟨n₁, counter₁, m₁, rfl, hm₁, hrun₁⟩
    · exact .inl hlimit
    · rw [hrun₁]
      rcases ih hm₁ n₁ counter₁ with hlimit | ⟨moves, n₂, counter₂, m₂, rfl, hm₂, hrun₂⟩
      · exact .inl hlimit
      · refine .inr ⟨moves + 1, n₂, counter₂, m₂, rfl, ?_, hrun₂⟩
        rwa [Nat.add_assoc, Nat.add_comm 1 moves] at hm₂

end Machine

end Reprise
