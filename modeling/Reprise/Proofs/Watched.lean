import Reprise.Proofs.Contract
import Reprise.Proofs.Failures
import Reprise.Proofs.Running
import Reprise.Proofs.Tracks

/-!
# What one operation does to a machine that is watched

`Entered m id callee args o` and `Executed m o` list everything that entering a routine and executing
an instruction can do to any machine: what becomes of the heap, the frames and the recorder, and
which event the recorder was told.  Every way of failing is among them.

    Entered m id callee args (m.enter id callee args)                            (entered_enter)
    Executed m m.step                                                            (executed_step)

Events other than calls are always handled, and change only the recorder (`tell_eq`).
-/

namespace Reprise

namespace Machine

/-! ## Telling the recorder -/

/-- What cannot be answered by skipping is handled, and only the recorder changes. -/
theorem tell_eq {m : Machine} {f : Frame} {fs : List Frame} (hframes : m.frames = f :: fs)
    {e : Event} (he : e.IsObservable) :
    ∃ r, Hears ⟨m.heap, f.stack⟩ e m.recorder r ∧
      m.tell (some e) = ⟨{ m with recorder := r }, .ok ()⟩ := by
  obtain ⟨p, config, heap, frames, recorder, watchdog, executed, output⟩ := m
  obtain rfl : frames = f :: fs := hframes
  cases recorder with
  | none => exact ⟨none, .absent, rfl⟩
  | some r =>
    obtain ⟨r', hevent, -⟩ := r.observes he (FrameView.mk heap f.stack)
    refine ⟨some r', .present hevent, ?_⟩
    simp only [tell, notify, hevent]
    rfl

/-! ## Entering a routine -/

/-- The machine with the frame of a call on top. -/
def pushed (m : Machine) (id : RoutineId) (q : Routine) (callee : Option ObjectId)
    (args : List Value) : Machine :=
  { m with frames := calleeFrame id q callee args :: m.frames }

/-- The call of a routine that the recorder is told about when its frame stands. -/
def callOf (m : Machine) (id : RoutineId) (q : Routine) (callee : Option ObjectId)
    (args : List Value) : Event :=
  .call (q.invocation id callee args (m.frames.length + 1))

/-- What entering a routine can do to a machine. -/
inductive Entered (m : Machine) (id : RoutineId) (callee : Option ObjectId) (args : List Value) :
    Outcome Unit → Prop where
  | refused {e} (hentry : entry m.program m.config m.frames id callee args = .error e) :
    Entered m id callee args ⟨m, .error e⟩
  | unwatched {q c a} (hentry : entry m.program m.config m.frames id callee args = .ok (q, c, a))
    (hrecorder : m.recorder = none) : Entered m id callee args ⟨m.pushed id q c a, .ok ()⟩
  /-- The recorder cannot handle the call. -/
  | lost {q c a r defect e}
    (hentry : entry m.program m.config m.frames id callee args = .ok (q, c, a))
    (hrecorder : m.recorder = some r)
    (hevent : r.onEvent (FrameView.mk m.heap []) (m.callOf id q c a) = .error defect)
    (hlimit : e.failure.isLimit = false) :
    Entered m id callee args ⟨m.pushed id q c a, .error e⟩
  /-- The recorder handles the call, but the machine cannot go on: a replay was refused on the way,
  or the routine has no return instruction. -/
  | stops {q c a r r' h stack answer e}
    (hentry : entry m.program m.config m.frames id callee args = .ok (q, c, a))
    (hrecorder : m.recorder = some r)
    (hevent : r.onEvent (FrameView.mk m.heap []) (m.callOf id q c a) = .ok ⟨r', ⟨h, stack⟩, answer⟩)
    (hwhy : (∃ failure, answer = .error failure) ∨
      answer = .ok .skipToReturn ∧ q.finalReturn? = none)
    (hlimit : e.failure.isLimit = false) :
    Entered m id callee args
      ⟨{ m with
          recorder := some r'
          heap := h
          frames := { calleeFrame id q c a with stack } :: m.frames }, .error e⟩
  | executes {q c a r r'}
    (hentry : entry m.program m.config m.frames id callee args = .ok (q, c, a))
    (hrecorder : m.recorder = some r)
    (hevent : r.onEvent (FrameView.mk m.heap []) (m.callOf id q c a) =
      .ok ⟨r', ⟨m.heap, []⟩, .ok .proceed⟩) :
    Entered m id callee args ⟨{ m.pushed id q c a with recorder := some r' }, .ok ()⟩
  /-- A replayed call stands before its last return. -/
  | skips {q c a r r' h stack target}
    (hentry : entry m.program m.config m.frames id callee args = .ok (q, c, a))
    (hrecorder : m.recorder = some r)
    (hevent : r.onEvent (FrameView.mk m.heap []) (m.callOf id q c a) =
      .ok ⟨r', ⟨h, stack⟩, .ok .skipToReturn⟩)
    (htarget : q.finalReturn? = some target) :
    Entered m id callee args
      ⟨{ m with
          recorder := some r'
          heap := h
          frames := { calleeFrame id q c a with stack, pc := target } :: m.frames }, .ok ()⟩

theorem entered_enter (m : Machine) (id : RoutineId) (callee : Option ObjectId)
    (args : List Value) : Entered m id callee args (m.enter id callee args) := by
  rw [enter_eq]
  obtain ⟨p, config, heap, frames, recorder, watchdog, executed, output⟩ := m
  cases hentry : entry p config frames id callee args with
  | error e => exact .refused hentry
  | ok accepted =>
    obtain ⟨q, c, a⟩ := accepted
    cases recorder with
    | none => exact .unwatched hentry rfl
    | some r =>
      have hview : (calleeFrame id q c a).stack = [] := rfl
      simp only [announce, notify, hview, List.length_cons]
      cases hevent : r.onEvent (FrameView.mk heap [])
          (.call (q.invocation id c a (frames.length + 1))) with
      | error defect => exact .lost hentry rfl hevent rfl
      | ok reply =>
        obtain ⟨r', ⟨h, stack⟩, answer⟩ := reply
        cases answer with
        | error failure => exact .stops hentry rfl hevent (.inl ⟨failure, rfl⟩) rfl
        | ok directive =>
          cases directive with
          | proceed =>
            obtain ⟨rfl, rfl⟩ := FrameView.mk.inj (Recorder.host_of_proceed hevent rfl)
            exact .executes hentry rfl hevent
          | skipToReturn =>
            simp only [setTop, List.tail_cons]
            cases htarget : q.finalReturn? with
            | none => exact .stops hentry rfl hevent (.inr ⟨rfl, htarget⟩) rfl
            | some target => exact .skips hentry rfl hevent htarget

/-- A call that is accepted pushes one frame of its routine, whatever comes of it; one that is not
changes nothing. -/
theorem Entered.frames {m : Machine} {id : RoutineId} {callee : Option ObjectId}
    {args : List Value} {o : Outcome Unit} (hentered : m.Entered id callee args o) :
    (∃ accepted f, entry m.program m.config m.frames id callee args = .ok accepted ∧
      f.routine = id ∧ o.machine.frames = f :: m.frames) ∨
    ∃ e, entry m.program m.config m.frames id callee args = .error e ∧ o = ⟨m, .error e⟩ := by
  cases hentered with
  | refused hentry => exact .inr ⟨_, hentry, rfl⟩
  | unwatched hentry => exact .inl ⟨_, _, hentry, rfl, rfl⟩
  | lost hentry => exact .inl ⟨_, _, hentry, rfl, rfl⟩
  | stops hentry => exact .inl ⟨_, _, hentry, rfl, rfl⟩
  | executes hentry => exact .inl ⟨_, _, hentry, rfl, rfl⟩
  | skips hentry => exact .inl ⟨_, _, hentry, rfl, rfl⟩

/-! ## Executing an instruction -/

/-- The next instruction makes the machine `m₁` enter a routine. -/
inductive Calls (m : Machine) : Machine → RoutineId → Option ObjectId → List Value → Prop where
  | prepares {f fs h i} (hframes : m.frames = f :: fs)
    (hnext : f.next m.program m.executed m.heap = .ok (.prepare h i)) :
    Calls m { m with heap := h } i none []
  | calls {f fs f' i c a} (hframes : m.frames = f :: fs)
    (hnext : f.next m.program m.executed m.heap = .ok (.call f' i c a)) :
    Calls m { m with frames := f' :: fs } i c a

/-- What executing an instruction can do to a machine. -/
inductive Executed (m : Machine) : Outcome Flow → Prop where
  | stuck {e} (hplain : e.failure.isPlain = true) : Executed m ⟨m, .error e⟩
  | unheard {f fs h f' printed} (hframes : m.frames = f :: fs)
    (hnext : f.next m.program m.executed m.heap = .ok (.proceed h f' none printed)) :
    Executed m
      ⟨{ m with heap := h, frames := f' :: fs, output := m.output ++ printed.toList }, .ok .goesOn⟩
  | heard {f fs h f' e printed r} (hframes : m.frames = f :: fs)
    (hnext : f.next m.program m.executed m.heap = .ok (.proceed h f' (some e) printed))
    (hhears : Hears ⟨h, f'.stack⟩ e m.recorder r) :
    Executed m
      ⟨{ m with
          heap := h, frames := f' :: fs, recorder := r
          output := m.output ++ printed.toList }, .ok .goesOn⟩
  | fails {f fs e failure r located} (hframes : m.frames = f :: fs)
    (hnext : f.next m.program m.executed m.heap = .ok (.failAfter e failure))
    (hhears : Hears ⟨m.heap, f.stack⟩ e m.recorder r) (hplain : located.failure.isPlain = true) :
    Executed m ⟨{ m with recorder := r }, .error located⟩
  | enters {m₁ i c a} (hcalls : m.Calls m₁ i c a) : Executed m (Outcome.goesOn (m₁.enter i c a))
  | leaves {f fs f' v r} (hframes : m.frames = f :: fs)
    (hnext : f.next m.program m.executed m.heap = .ok (.finish f' v))
    (hhears : Hears ⟨m.heap, f'.stack⟩ (.returned f.routine (fs.length + 1) v) m.recorder r) :
    Executed m ⟨{ m with frames := fs, recorder := r }, .ok (.returned v)⟩

section

variable {m : Machine} {f f' : Frame} {fs : List Frame}

/-- A frame goes on, and the recorder is told. -/
theorem perform_told (hframes : m.frames = f :: fs) (h : Heap) (f' : Frame) {e : Event}
    (he : e.IsObservable) (printed : Option String) :
    ∃ r, Hears ⟨h, f'.stack⟩ e m.recorder r ∧
      m.perform (locationOf (f :: fs)) (.proceed h f' (some e) printed) =
        ⟨{ m with
            heap := h, frames := f' :: fs, recorder := r
            output := m.output ++ printed.toList }, .ok .goesOn⟩ := by
  obtain ⟨p, config, heap, frames, recorder, watchdog, executed, output⟩ := m
  obtain rfl : frames = f :: fs := hframes
  obtain ⟨r, hhears, htell⟩ := tell_eq
    (m := ⟨p, config, h, f' :: fs, recorder, watchdog, executed, output ++ printed.toList⟩) rfl he
  refine ⟨r, hhears, ?_⟩
  simp only [perform, setTop, List.tail_cons, htell]
  rfl

/-- The recorder is told before an instruction fails. -/
theorem perform_failing (hframes : m.frames = f :: fs) {e : Event} (he : e.IsObservable)
    (failure : ExecutionFailure) :
    ∃ r, Hears ⟨m.heap, f.stack⟩ e m.recorder r ∧
      m.perform (locationOf (f :: fs)) (.failAfter e failure) =
        ⟨{ m with recorder := r }, .error ⟨locationOf (f :: fs), failure⟩⟩ := by
  obtain ⟨r, hhears, htell⟩ := tell_eq hframes he
  refine ⟨r, hhears, ?_⟩
  simp only [perform, htell]
  rfl

/-- A frame that is left goes, after the recorder was told. -/
theorem perform_leave (hframes : m.frames = f :: fs) (f' : Frame) (v : Option Value) :
    ∃ r, Hears ⟨m.heap, f'.stack⟩ (.returned f.routine (fs.length + 1) v) m.recorder r ∧
      m.perform (locationOf (f :: fs)) (.finish f' v) =
        ⟨{ m with frames := fs, recorder := r }, .ok (.returned v)⟩ := by
  obtain ⟨p, config, heap, frames, recorder, watchdog, executed, output⟩ := m
  obtain rfl : frames = f :: fs := hframes
  obtain ⟨r, hhears, htell⟩ := tell_eq
    (m := ⟨p, config, heap, f' :: fs, recorder, watchdog, executed, output⟩)
    (e := .returned f.routine (fs.length + 1) v) rfl trivial
  refine ⟨r, hhears, ?_⟩
  simp only [perform, setTop, List.tail_cons, List.length_cons, locationOf, htell]

theorem executed_perform (hframes : m.frames = f :: fs) {a : Action}
    (hnext : f.next m.program m.executed m.heap = .ok a) :
    Executed m (m.perform (locationOf (f :: fs)) a) := by
  have hdeed := deed_of_next hnext
  cases a with
  | proceed h f' event printed =>
    cases event with
    | none =>
      rw [show m.perform (locationOf (f :: fs)) (.proceed h f' none printed) =
        ⟨{ m with heap := h, frames := f' :: fs, output := m.output ++ printed.toList },
          .ok .goesOn⟩ by
        simp only [perform, tell, setTop, hframes, List.tail_cons]
        rfl]
      exact .unheard hframes hnext
    | some e =>
      obtain ⟨r, hhears, hperform⟩ := perform_told hframes h f' hdeed.observable printed
      rw [hperform]
      exact .heard hframes hnext hhears
  | failAfter e failure =>
    obtain ⟨r, hhears, hperform⟩ := perform_failing hframes hdeed.observable_failing failure
    rw [hperform]
    have halone := actsAlone_next m.program m.executed f m.heap
    rw [hnext] at halone
    exact .fails hframes hnext hhears halone
  | prepare h i => exact .enters (.prepares hframes hnext)
  | call f' i c a =>
    rw [show m.perform (locationOf (f :: fs)) (.call f' i c a) =
      Outcome.goesOn ({ m with frames := f' :: fs }.enter i c a) by
      simp only [perform, setTop, hframes, List.tail_cons]]
    exact .enters (.calls hframes hnext)
  | finish f' v =>
    obtain ⟨r, hhears, hperform⟩ := perform_leave hframes f' v
    rw [hperform]
    exact .leaves hframes hnext hhears

end

/-- What a step does is what the next instruction of the innermost frame does. -/
theorem step_eq {m : Machine} {f : Frame} {fs : List Frame} (hframes : m.frames = f :: fs) :
    m.step = match f.next m.program m.executed m.heap with
      | .error failure => ⟨m, .error ⟨locationOf (f :: fs), failure⟩⟩
      | .ok a => m.perform (locationOf (f :: fs)) a := by
  have hlocation : m.location = locationOf (f :: fs) := by rw [Machine.location, hframes]; rfl
  unfold step Frame.next
  simp only [hframes, hlocation]
  cases m.program.routine? f.routine with
  | none => rfl
  | some q =>
    simp only
    cases q.code[f.pc]? with
    | none => rfl
    | some i => rfl

theorem step_eq_perform {m : Machine} {f : Frame} {fs : List Frame} (hframes : m.frames = f :: fs)
    {a : Action} (hnext : f.next m.program m.executed m.heap = .ok a) :
    m.step = m.perform (locationOf (f :: fs)) a := by
  rw [step_eq hframes, hnext]

theorem executed_step (m : Machine) : Executed m m.step := by
  cases hframes : m.frames with
  | nil =>
    unfold step
    simp only [hframes]
    exact .stuck rfl
  | cons f fs =>
    cases hnext : f.next m.program m.executed m.heap with
    | error failure =>
      have halone := actsAlone_next m.program m.executed f m.heap
      rw [hnext] at halone
      rw [step_eq hframes, hnext]
      exact .stuck halone
    | ok a =>
      rw [step_eq_perform hframes hnext]
      exact executed_perform hframes hnext

/-- A frame that is about to be left is left by a step. -/
theorem step_finish {m : Machine} {f f' : Frame} {fs : List Frame} {v : Option Value}
    (hframes : m.frames = f :: fs)
    (hnext : f.next m.program m.executed m.heap = .ok (.finish f' v)) :
    ∃ r, Hears ⟨m.heap, f'.stack⟩ (.returned f.routine (fs.length + 1) v) m.recorder r ∧
      m.step = ⟨{ m with frames := fs, recorder := r }, .ok (.returned v)⟩ := by
  rw [step_eq_perform hframes hnext]
  exact perform_leave hframes f' v

/-- An instruction that leaves a frame tells the recorder and removes the frame. -/
theorem leaves_of_step {m m' : Machine} {v : Option Value}
    (hstep : m.step = ⟨m', .ok (.returned v)⟩) :
    ∃ f fs f' r, m.frames = f :: fs ∧ f.next m.program m.executed m.heap = .ok (.finish f' v) ∧
      Hears ⟨m.heap, f'.stack⟩ (.returned f.routine (fs.length + 1) v) m.recorder r ∧
      m' = { m with frames := fs, recorder := r } := by
  have hexecuted := m.executed_step
  generalize m.step = o at hexecuted hstep
  cases hexecuted with
  | enters hcalls =>
    rename_i m₁ i c a
    obtain ⟨-, hresult⟩ := Outcome.mk.inj hstep
    cases hentered : (m₁.enter i c a).result <;> rw [hentered] at hresult <;> cases hresult
  | leaves hframes hnext hhears =>
    cases hstep
    exact ⟨_, _, _, _, hframes, hnext, hhears, rfl⟩
  | _ => cases hstep

/-- What hears an event that it cannot answer by skipping observes it. -/
theorem Hears.observes {r r' : Recorder} {host : FrameView} {e : Event} (he : e.IsObservable)
    (hhears : Hears host e (some r) (some r')) : r.Observes host e r' := by
  obtain ⟨r'', hevent, hobserves⟩ := r.observes he host
  cases hhears with
  | present hevent' =>
    cases hevent.symm.trans hevent'
    exact hobserves

end Machine

end Reprise
