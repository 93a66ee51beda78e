import Reprise.Proofs.CallStack
import Reprise.Proofs.Contents

/-!
# A replay never fails

The summaries that a recorder stores while it watches a machine stay viable, whatever is done with
the machine (`Machine.lasts_isViable`): fields never go away and never change their types, and what
is returned is a value of the return type.  So every event that the machine tells its recorder is
handled without a failure, and the call of a routine that is answered `skipToReturn` stands before
its last return, which gives back what the summary has stored.  An invocation can fail, but not
because of the recorder (`replay_never_fails`).
-/

namespace Reprise

open Recorder

/-! ## Recorders -/

/-- What the event says is so in the program and the heap. -/
def Event.Suits (p : Program) (h : Heap) : Event → Prop
  | .call i => ∃ q id callee args depth, i = q.invocation id callee args depth ∧
      p.routine? id = some q ∧ callee.isSome = q.hasReceiver
  | .returned routine _ v => p.Returns routine v
  | .fieldWrite access => h.HasSlot access.field access.type
  | _ => True

theorem suits_of_isUnseen {p : Program} {h : Heap} {e : Event} (he : e.isUnseen = true) :
    e.Suits p h := by
  cases e with
  | call i => cases he
  | returned routine depth v => cases he
  | fieldWrite access => cases he
  | _ => trivial

theorem Event.Suits.respects {p : Program} {h : Heap} {e : Event} (he : e.Suits p h) :
    e.Respects (fun x s => ∃ q, s.Viable p q x h) fun R => ∃ q, R.Viable p q h where
  opens := by
    rintro i threads rfl hsignature
    obtain ⟨q, id, callee, args, depth, rfl, hq, hcallee⟩ := he
    exact ⟨q, .ofInvocation hq hcallee hsignature threads⟩
  absorbs := by
    rintro i s R rfl ⟨q', hs⟩ ⟨q, hR⟩
    exact ⟨q, hR.absorb hs.fits⟩
  reads := by
    rintro access v R rfl ⟨q, hR⟩
    exact ⟨q, hR.observe fun f w hw => by cases hw⟩
  writes := by
    rintro access w R rfl htype ⟨q, hR⟩
    refine ⟨q, hR.observe fun f w' hw => ?_⟩
    rw [Access.writeTo?] at hw
    split at hw
    · rename_i hf
      obtain rfl := Option.some.inj hw
      rw [← hf, htype]
      exact he
    · cases hw
  returns := by
    rintro R v rfl ⟨q, hR⟩
    exact ⟨q, (hR.returned he).1⟩

namespace Recorder

/-- Every stored summary can be replayed, and every open recording becomes one that can. -/
def IsViable (p : Program) (h : Heap) : Recorder → Prop :=
  Has (fun x s => ∃ q, s.Viable p q x h) fun R => ∃ q, R.Viable p q h

namespace IsViable

variable {p : Program} {h h' : Heap} {r r' : Recorder}

theorem mono (hr : r.IsViable p h) (hh : h.Extends h') : r.IsViable p h' :=
  ⟨fun x s hs => (hr.stored x s hs).imp fun _ hs => hs.mono hh,
    fun R hR => (hr.active R hR).imp fun _ hR => hR.mono hh⟩

theorem of_empty (hstore : r.store.entries = ∅) (hnil : r.recordings = []) : r.IsViable p h :=
  ⟨fun x s hs => by simp [Store.summaries, hstore] at hs, by simp [hnil]⟩

/-- Every call is answered without a failure, and what is stored stays viable. -/
theorem called (hr : r.IsViable p h) {q : Routine} {id : RoutineId} (hq : p.routine? id = some q)
    {callee : Option ObjectId} (hcallee : callee.isSome = q.hasReceiver) (args : List Value)
    (depth : Nat) :
    ∃ r' h' stack d, r.onEvent (FrameView.mk h []) (.call (q.invocation id callee args depth)) =
        .ok ⟨r', ⟨h', stack⟩, .ok d⟩ ∧ h.Extends h' ∧ r'.IsViable p h' ∧
      (d = .skipToReturn → ∃ s, r.matching? (FrameView.mk h [])
          (q.invocation id callee args depth) = some s ∧ s.Viable p q id h ∧
        pushResult (FrameView.mk h' []) q.returns s = .ok ⟨h', stack⟩) := by
  have hsuits : (Event.call (q.invocation id callee args depth)).Suits p h :=
    ⟨q, id, callee, args, depth, rfl, hq, hcallee⟩
  by_cases hadmits : r.admits (.call (q.invocation id callee args depth)) = true
  · have hentered : IsViable p h { r with entered := true } := ⟨hr.stored, hr.active⟩
    obtain ⟨r', h', stack, d, hhandle, hh, hskips⟩ :=
      Store.IsViable.handles_call hentered.stored hq hcallee args depth
    have hevent : r.onEvent (FrameView.mk h []) (.call (q.invocation id callee args depth)) =
        .ok ⟨r', ⟨h', stack⟩, .ok d⟩ := by
      rw [onEvent, if_pos hadmits, hhandle]
    have hr' : r'.IsViable p h := Has.event hr hevent hsuits.respects
    exact ⟨r', h', stack, d, hevent, hh, hr'.mono hh, hskips⟩
  · exact ⟨r, h, [], .proceed, by rw [onEvent, if_neg hadmits], .refl h, hr, by simp⟩

end IsViable

end Recorder

/-! ## Machines -/

/-- What an instruction tells the recorder is so. -/
theorem Deed.suits {p : Program} {routine : RoutineId} {leaves : Option Value → Prop}
    {look : Heap → Except ExecutionFailure Action} {h h' : Heap} {f : Frame} {e : Event}
    {printed : Option String} (hd : Deed p routine leaves look h (.proceed h' f (some e) printed)) :
    e.Suits p h' := by
  cases hd with
  | quiet _ he =>
    obtain ⟨name, rfl⟩ := he _ rfl
    trivial
  | reads => trivial
  | writes _ hfield hv => exact (Heap.becomes_putSlot hfield hv).grows.slots _ _ hfield
  | unseen _ he => exact suits_of_isUnseen he

theorem Deed.suits_failing {p : Program} {routine : RoutineId} {leaves : Option Value → Prop}
    {look : Heap → Except ExecutionFailure Action} {h : Heap} {e : Event}
    {failure : ExecutionFailure} (hd : Deed p routine leaves look h (.failAfter e failure)) :
    e.Suits p h := by
  cases hd with
  | fails he =>
    rcases he with ⟨name, rfl⟩ | he
    · trivial
    · exact suits_of_isUnseen he

namespace Machine

/-- What the recorder holds is viable in the program and the heap of the machine. -/
structure IsViable (p : Program) (m : Machine) : Prop where
  program : m.program = p
  held : ∀ r ∈ m.recorder, r.IsViable p m.heap

theorem Hears.viable {p : Program} {h : Heap} {host : FrameView} {e : Event}
    {r r' : Option Recorder} (hhears : Hears host e r r') (he : e.Suits p h)
    (hr : ∀ r₀ ∈ r, r₀.IsViable p h) : ∀ r₀ ∈ r', r₀.IsViable p h := by
  cases hhears with
  | absent => simp
  | present hevent =>
    intro r₀ hr₀
    obtain rfl := Option.mem_some.mp hr₀
    exact Has.event (hr _ rfl) hevent he.respects

namespace IsViable

variable {p : Program} {m m₁ : Machine} {i : RoutineId} {c : Option ObjectId} {a : List Value}

theorem of_some {r : Recorder} (hprogram : m.program = p) (hrecorder : m.recorder = some r)
    (hr : r.IsViable p m.heap) : m.IsViable p := by
  refine ⟨hprogram, fun r' hr' => ?_⟩
  obtain rfl := Option.some.inj (hrecorder.symm.trans hr')
  exact hr

/-- Everything stays viable when the heap grows. -/
theorem grows (hm : m.IsViable p) {h : Heap} (hh : m.heap.Extends h) :
    ∀ r ∈ m.recorder, r.IsViable p h := fun r hr => (hm.held r hr).mono hh

theorem calls (hm : m.IsViable p) (hcalls : m.Calls m₁ i c a) : m₁.IsViable p := by
  cases hcalls with
  | prepares hframes hnext =>
    cases deed_of_next hnext with
    | prepares hprepare => exact ⟨hm.program, hm.grows (mark_of_prepare hprepare).1.grows⟩
  | calls => exact ⟨hm.program, hm.held⟩

/-- The call of a routine that is entered is answered without a failure. -/
theorem answered (hm : m.IsViable p) {q : Routine} {c' : Option ObjectId} {a' : List Value}
    (hentry : entry m.program m.config m.frames i c a = .ok (q, c', a')) {r : Recorder}
    (hr : m.recorder = some r) :
    ∃ r' h' stack d, r.onEvent (FrameView.mk m.heap []) (m.callOf i q c' a') =
        .ok ⟨r', ⟨h', stack⟩, .ok d⟩ ∧ m.heap.Extends h' ∧ r'.IsViable p h' ∧
      (d = .skipToReturn → ∃ s, r.matching? (FrameView.mk m.heap [])
          (q.invocation i c' a' (m.frames.length + 1)) = some s ∧ s.Viable p q i m.heap ∧
        pushResult (FrameView.mk h' []) q.returns s = .ok ⟨h', stack⟩) := by
  obtain ⟨hq, haccepts⟩ := accepts_of_entry hentry
  rw [hm.program] at hq
  exact (hm.held r hr).called hq (isSome_of_accepts haccepts) a' _

theorem entered (hm : m.IsViable p) {o : Outcome Unit} (hentered : m.Entered i c a o) :
    o.machine.IsViable p := by
  cases hentered with
  | refused => exact hm
  | unwatched => exact ⟨hm.program, hm.held⟩
  | lost => exact ⟨hm.program, hm.held⟩
  | stops hentry hrecorder hevent =>
    obtain ⟨r', h', stack, d, hanswered, -, hr', -⟩ := hm.answered hentry hrecorder
    cases hevent.symm.trans hanswered
    exact .of_some hm.program rfl hr'
  | executes hentry hrecorder hevent =>
    obtain ⟨r', h', stack, d, hanswered, -, hr', -⟩ := hm.answered hentry hrecorder
    cases hevent.symm.trans hanswered
    exact .of_some hm.program rfl hr'
  | skips hentry hrecorder hevent =>
    obtain ⟨r', h', stack, d, hanswered, -, hr', -⟩ := hm.answered hentry hrecorder
    cases hevent.symm.trans hanswered
    exact .of_some hm.program rfl hr'

theorem executed (hm : m.IsViable p) {o : Outcome Flow} (hexecuted : m.Executed o) :
    o.machine.IsViable p := by
  cases hexecuted with
  | stuck => exact hm
  | unheard _ hnext => exact ⟨hm.program, hm.grows (deed_of_next hnext).becomes.grows⟩
  | heard _ hnext hhears =>
    rw [hm.program] at hnext
    have hdeed := deed_of_next hnext
    exact ⟨hm.program, hhears.viable hdeed.suits (hm.grows hdeed.becomes.grows)⟩
  | fails _ hnext hhears =>
    rw [hm.program] at hnext
    exact ⟨hm.program, hhears.viable (deed_of_next hnext).suits_failing hm.held⟩
  | enters hcalls => exact (hm.calls hcalls).entered (entered_enter _ _ _ _)
  | leaves _ hnext hhears =>
    rw [hm.program] at hnext
    cases deed_of_next hnext with
    | finishes _ hv => exact ⟨hm.program, hhears.viable hv hm.held⟩

theorem cutTo (hm : m.IsViable p) (base : Nat) : (m.cutTo base).IsViable p := by
  refine ⟨hm.program, fun r' hr' => ?_⟩
  obtain ⟨r, hr, rfl⟩ := Option.map_eq_some_iff.mp (Option.mem_def.mp hr')
  exact Has.of_turns (hm.held r hr) (turns_unwind r base) (Has.shallow (hm.held r hr))

theorem deliver (hm : m.IsViable p) (v : Option Value) : (m.deliver v).IsViable p := by
  unfold Machine.deliver
  split
  · exact ⟨hm.program, hm.held⟩
  · exact hm

end IsViable

/-- Whatever is done with a machine, what its recorder holds is viable. -/
theorem lasts_isViable (p : Program) : Lasts (IsViable p) where
  clocked := fun hm => ⟨hm.program, hm.held⟩
  prepared := fun hprepare hm => ⟨hm.program, hm.grows (mark_of_prepare hprepare).1.grows⟩
  calls := fun hcalls hm => hm.calls hcalls
  entered := fun hentered hm => hm.entered hentered
  executed := fun hexecuted hm => hm.executed hexecuted
  delivered := fun hm => hm.deliver _
  cut := fun hm => hm.cutTo _
  changed := fun hbecomes hm => ⟨hm.program, hm.grows hbecomes.grows⟩
  begun := by
    intro m id hm
    refine ⟨hm.program, fun r' hr' => ?_⟩
    obtain ⟨r, hr, rfl⟩ := Option.map_eq_some_iff.mp (Option.mem_def.mp hr')
    exact .of_empty rfl rfl
  finished := by
    intro m hm
    refine ⟨hm.program, fun r' hr' => ?_⟩
    obtain ⟨r, hr, rfl⟩ := Option.map_eq_some_iff.mp (Option.mem_def.mp hr')
    exact ⟨(hm.held r hr).stored, by simp [finishRun]⟩

/-! ## What the recorder is told -/

/-- With its next instruction, which is not a call, the machine tells its recorder about the event
with the host in view. -/
inductive Tells (m : Machine) : FrameView → Event → Prop where
  | proceeds {f fs h f' e printed} (hframes : m.frames = f :: fs)
    (hnext : f.next m.program m.executed m.heap = .ok (.proceed h f' (some e) printed)) :
    Tells m ⟨h, f'.stack⟩ e
  | fails {f fs e failure} (hframes : m.frames = f :: fs)
    (hnext : f.next m.program m.executed m.heap = .ok (.failAfter e failure)) :
    Tells m ⟨m.heap, f.stack⟩ e
  | returns {f fs f' v} (hframes : m.frames = f :: fs)
    (hnext : f.next m.program m.executed m.heap = .ok (.finish f' v)) :
    Tells m ⟨m.heap, f'.stack⟩ (.returned f.routine (fs.length + 1) v)

/-- Nothing else that a step does reaches the recorder, except calls. -/
theorem tells_of_step {m : Machine} (hrecorder : m.step.machine.recorder ≠ m.recorder) :
    (∃ host e, m.Tells host e) ∨ ∃ m₁ i c a, m.Calls m₁ i c a := by
  have hexecuted := m.executed_step
  generalize m.step = o at hexecuted hrecorder
  cases hexecuted with
  | stuck => exact absurd rfl hrecorder
  | unheard => exact absurd rfl hrecorder
  | heard hframes hnext => exact .inl ⟨_, _, .proceeds hframes hnext⟩
  | fails hframes hnext => exact .inl ⟨_, _, .fails hframes hnext⟩
  | enters hcalls => exact .inr ⟨_, _, _, _, hcalls⟩
  | leaves hframes hnext => exact .inl ⟨_, _, .returns hframes hnext⟩

/-- What the machine tells is answered `proceed`, and the answer leaves the recorder that the step
leaves. -/
theorem Tells.answered {m : Machine} {host : FrameView} {e : Event} (htells : m.Tells host e)
    {r : Recorder} (hr : m.recorder = some r) :
    ∃ r', r.onEvent host e = .ok ⟨r', host, .ok .proceed⟩ ∧ m.step.machine.recorder = some r' := by
  obtain ⟨r', hhears, hstep⟩ : ∃ r', Hears host e m.recorder r' ∧ m.step.machine.recorder = r' := by
    cases htells with
    | @proceeds _ _ h f' _ printed hframes hnext =>
      obtain ⟨r', hhears, hperform⟩ :=
        perform_told hframes h f' (deed_of_next hnext).observable printed
      exact ⟨r', hhears, by rw [step_eq_perform hframes hnext, hperform]⟩
    | @fails _ _ _ failure hframes hnext =>
      obtain ⟨r', hhears, hperform⟩ :=
        perform_failing hframes (deed_of_next hnext).observable_failing failure
      exact ⟨r', hhears, by rw [step_eq_perform hframes hnext, hperform]⟩
    | returns hframes hnext =>
      obtain ⟨r', hhears, hstep⟩ := step_finish hframes hnext
      exact ⟨r', hhears, by rw [hstep]⟩
  rw [hr] at hhears
  cases hhears with
  | present hevent => exact ⟨_, hevent, hstep⟩

/-! ## Replays -/

/-- The machine stands before the last return of the routine, and the stack of the innermost frame
holds just what the return takes: whatever the heap and the clock are, the value is given back. -/
structure StandsBeforeReturn (m : Machine) (q : Routine) (f : Frame) (fs : List Frame)
    (v : Option Value) : Prop where
  frames : m.frames = f :: fs
  routine : m.program.routine? f.routine = some q
  last : q.finalReturn? = some f.pc
  code : q.code[f.pc]? = some .leave
  returns : v.isSome = q.returns.isSome
  next : ∀ clock h, f.next m.program clock h = .ok (.finish { f with stack := [] } v)

/-- A call that is entered goes on, and one that is answered `skipToReturn` stands before its last
return, which then gives back what the replayed summary returns. -/
theorem IsViable.enters {p : Program} {m : Machine} (hm : m.IsViable p) {i : RoutineId}
    {c c' : Option ObjectId} {a a' : List Value} {q : Routine}
    (hentry : entry m.program m.config m.frames i c a = .ok (q, c', a')) {r : Recorder}
    (hr : m.recorder = some r) :
    ∃ r' host d m',
      r.onEvent (FrameView.mk m.heap []) (m.callOf i q c' a') = .ok ⟨r', host, .ok d⟩ ∧
      m.enter i c a = ⟨m', .ok ()⟩ ∧ m'.recorder = some r' ∧ m'.heap = host.heap ∧
      (d = .skipToReturn → ∃ s f, r.matching? (FrameView.mk m.heap [])
          (q.invocation i c' a' (m.frames.length + 1)) = some s ∧ f.routine = i ∧
        m'.StandsBeforeReturn q f m.frames s.effect.returnValue) := by
  obtain ⟨r', h, stack, d, hanswered, -, -, hskips⟩ := hm.answered hentry hr
  have hentered := m.entered_enter i c a
  generalize m.enter i c a = o at hentered ⊢
  cases hentered with
  | refused hentry' => cases hentry'.symm.trans hentry
  | unwatched _ hrecorder => cases hrecorder.symm.trans hr
  | lost hentry' hrecorder hevent =>
    cases hentry'.symm.trans hentry
    cases hrecorder.symm.trans hr
    cases hevent.symm.trans hanswered
  | stops hentry' hrecorder hevent hwhy =>
    cases hentry'.symm.trans hentry
    cases hrecorder.symm.trans hr
    cases hevent.symm.trans hanswered
    rcases hwhy with ⟨failure, hfailure⟩ | ⟨hskip, hnone⟩
    · cases hfailure
    · obtain ⟨s, -, hs, -⟩ := hskips (Except.ok.inj hskip)
      exact absurd hnone hs.yields.1
  | executes hentry' hrecorder hevent =>
    cases hentry'.symm.trans hentry
    cases hrecorder.symm.trans hr
    cases hevent.symm.trans hanswered
    exact ⟨r', _, _, _, hanswered, rfl, rfl, rfl, by simp⟩
  | skips hentry' hrecorder hevent htarget =>
    cases hentry'.symm.trans hentry
    cases hrecorder.symm.trans hr
    cases hevent.symm.trans hanswered
    refine ⟨r', _, _, _, hanswered, rfl, rfl, rfl, fun hskip => ?_⟩
    obtain ⟨s, hmatching, hs, hpushed⟩ := hskips hskip
    obtain ⟨stack', hpushed', hnext⟩ := hs.pushResult h
    cases hpushed.symm.trans hpushed'
    refine ⟨s, _, hmatching, rfl, rfl, hm.program ▸ hs.routine, htarget,
      code_finalReturn htarget, hs.yields.2.isSome, fun clock k => ?_⟩
    rw [hm.program]
    exact hnext _ clock k rfl htarget rfl

/-- The next instruction that is executed is the return. -/
theorem StandsBeforeReturn.step {m m' : Machine} {q : Routine} {f : Frame} {fs : List Frame}
    {v : Option Value} (hm : m.StandsBeforeReturn q f fs v) {t : Run} (ht : t.machine = m)
    (hexecutes : t.Executes m') :
    ∃ r, m'.step = ⟨{ m' with frames := fs, recorder := r }, .ok (.returned v)⟩ := by
  obtain ⟨w, rfl⟩ := hexecutes.eq
  subst ht
  obtain ⟨r, -, hstep⟩ := step_finish
    (m := { t.machine with watchdog := w, executed := t.machine.executed + 1 }) hm.frames
    (hm.next _ _)
  exact ⟨r, hstep⟩

/-! ## How an invocation fails -/

/-- An outcome that is a failure is one that a machine without a recorder can have. -/
def IsOwnOutcome {α : Type} (o : Outcome α) : Prop :=
  ∀ e, o.result = .error e → e.failure.isOwn = true

theorem isOwnOutcome_andThen {α : Type} {o : Outcome Unit} {k : Machine → Outcome α}
    (ho : IsOwnOutcome o) (hk : IsOwnOutcome (k o.machine)) :
    IsOwnOutcome (andThen o k) := by
  obtain ⟨m, e | ⟨⟩⟩ := o
  · intro e' he'
    cases he'
    exact ho e rfl
  · exact hk

namespace IsViable

variable {p : Program} {m : Machine}

theorem isOwnOutcome_enter (hm : m.IsViable p) (i : RoutineId) (c : Option ObjectId)
    (a : List Value) : IsOwnOutcome (m.enter i c a) := by
  have hentered := m.entered_enter i c a
  generalize m.enter i c a = o at hentered
  intro e he
  cases hentered with
  | refused hentry =>
    cases he
    exact isOwn_of_entry hentry
  | lost hentry hrecorder hevent =>
    obtain ⟨r', h, stack, d, hanswered, -, -, -⟩ := hm.answered hentry hrecorder
    cases hevent.symm.trans hanswered
  | stops hentry hrecorder hevent hwhy =>
    obtain ⟨r', h, stack, d, hanswered, -, -, hskips⟩ := hm.answered hentry hrecorder
    cases hevent.symm.trans hanswered
    rcases hwhy with ⟨failure, hfailure⟩ | ⟨hskip, hnone⟩
    · cases hfailure
    · obtain ⟨s, -, hs, -⟩ := hskips (Except.ok.inj hskip)
      exact absurd hnone hs.yields.1
  | _ => cases he

theorem isOwnOutcome_step (hm : m.IsViable p) : IsOwnOutcome m.step := by
  have hexecuted := m.executed_step
  generalize m.step = o at hexecuted
  intro e he
  cases hexecuted with
  | stuck hplain =>
    cases he
    exact ExecutionFailure.isOwn_of_isPlain hplain
  | fails _ _ _ hplain =>
    cases he
    exact ExecutionFailure.isOwn_of_isPlain hplain
  | @enters m₁ i c a hcalls =>
    have hown := (hm.calls hcalls).isOwnOutcome_enter i c a
    generalize m₁.enter i c a = o at hown he
    obtain ⟨m₂, e' | ⟨⟩⟩ := o <;> cases he
    exact hown _ rfl
  | _ => cases he

/-- A run reaches only viable machines, and ends with the watchdog, the limit or an instruction. -/
theorem isOwnOutcome_run (hm : m.IsViable p) (base : Nat) : IsOwnOutcome (m.run base) := by
  obtain ⟨t, hreaches, hends⟩ := Run.ends (m.started base)
  have ht := (lasts_isViable p).reaches hm hreaches
  change Run.Ends t (m.run base) at hends
  generalize m.run base = o at hends
  intro e he
  cases hends with
  | stopped _ hfailure =>
    cases he
    rw [hfailure]
    rfl
  | exhausted _ _ hfailure =>
    cases he
    rw [hfailure]
    rfl
  | fails hexecutes hstep =>
    cases he
    exact ((lasts_isViable p).executes ht hexecutes).isOwnOutcome_step e (by rw [hstep])
  | returns => cases he

theorem isOwnOutcome_enterRun (hm : m.IsViable p) (base : Nat) (i : RoutineId)
    (c : Option ObjectId) (a : List Value) : IsOwnOutcome (m.enterRun base i c a) :=
  isOwnOutcome_andThen (hm.isOwnOutcome_enter i c a)
    (((lasts_isViable p).enter hm rfl).isOwnOutcome_run base)

theorem isOwnOutcome_prepared (hm : m.IsViable p) (q : Routine) : IsOwnOutcome (m.prepared q) := by
  intro e he
  unfold Machine.prepared at he
  split at he
  · rw [runInitializer_eq] at he
    split at he
    · cases he
    · rename_i h i hprepare
      have hown := ((lasts_isViable p).prepared hprepare hm).isOwnOutcome_enterRun m.frames.length
        i none []
      generalize Machine.enterRun _ _ _ _ _ = o at hown he
      obtain ⟨m₂, e' | v⟩ := o <;> cases he
      exact hown _ rfl
  · cases he

theorem isOwnOutcome_invoke (hm : m.IsViable p) (id : RoutineId) (callee : Option ObjectId)
    (args : List Value) : IsOwnOutcome (m.invoke id callee args) := by
  have habove : IsOwnOutcome (m.invokeAbove id callee args) := by
    rw [invokeAbove_eq_prepared]
    split
    · intro e he
      cases he
      rfl
    · rename_i q _
      exact isOwnOutcome_andThen (hm.isOwnOutcome_prepared q)
        (((lasts_isViable p).preparation hm rfl).isOwnOutcome_enterRun _ _ _ _)
  intro e he
  unfold Machine.invoke at he
  generalize m.invokeAbove id callee args = o at habove he
  obtain ⟨m₂, e' | v⟩ := o <;> cases he
  exact habove _ rfl

end IsViable

/-! ## Top theorem -/

/-- No event that a machine tells its recorder is answered with a failure, whatever the program, the
configurations and the watchdog are.  A call that is answered `skipToReturn` stands before the last
return of its routine; the next instruction to be executed is that return, which succeeds, leaves
the stack of the frame empty and gives back what the replayed summary has stored.  An instruction
that changes the recorder is one that tells it such an event or makes such a call.  So an invocation
that fails does so for a reason that has nothing to do with the recorder. -/
theorem replay_never_fails (p : Program) (config : MachineConfig) (w : Watchdog)
    (settings : RecorderConfig) (blocked : String → Bool) (runId : RunId)
    (earlier commands : List Command) (id : RoutineId) (callee : Option ObjectId)
    (args : List Value) :
    let m := (((Machine.new p config w).obeyAll earlier).withRecorder
      (.start settings blocked runId)).obeyAll commands
    (∀ s m₁ host e, m.Visits id callee args s → s.Executes m₁ → m₁.Tells host e →
      ∃ r r', m₁.recorder = some r ∧ r.onEvent host e = .ok ⟨r', host, .ok .proceed⟩ ∧
        m₁.step.machine.recorder = some r') ∧
    (∀ m₁ i c a q c' a', m.Enters id callee args m₁ i c a →
      entry m₁.program m₁.config m₁.frames i c a = .ok (q, c', a') →
      ∃ r r' host d m₂, m₁.recorder = some r ∧
        r.onEvent (FrameView.mk m₁.heap []) (m₁.callOf i q c' a') = .ok ⟨r', host, .ok d⟩ ∧
        m₁.enter i c a = ⟨m₂, .ok ()⟩ ∧ m₂.recorder = some r' ∧ m₂.heap = host.heap ∧
        (d = .skipToReturn → ∃ summary f,
          r.matching? (FrameView.mk m₁.heap [])
            (q.invocation i c' a' (m₁.frames.length + 1)) = some summary ∧
          f.routine = i ∧ m₂.StandsBeforeReturn q f m₁.frames summary.effect.returnValue ∧
          ∀ (t : Run) (m₃ : Machine), t.machine = m₂ → t.Executes m₃ → ∃ r₃, m₃.step =
            ⟨{ m₃ with frames := m₁.frames, recorder := r₃ },
              .ok (.returned summary.effect.returnValue)⟩)) ∧
    (∀ s m₁, m.Visits id callee args s → s.Executes m₁ →
      m₁.step.machine.recorder ≠ m₁.recorder →
      (∃ host e, m₁.Tells host e) ∨
        ∃ m₂ i c a, m₁.Calls m₂ i c a ∧ m.Enters id callee args m₂ i c a) ∧
    ∀ e, (m.invoke id callee args).result = .error e → e.failure.isOwn = true := by
  intro m
  have hearlier : ((Machine.new p config w).obeyAll earlier).IsViable p :=
    (lasts_isViable p).obeyAll ⟨rfl, by simp [Machine.new]⟩ earlier
  have hstarted : (((Machine.new p config w).obeyAll earlier).withRecorder
      (.start settings blocked runId)).IsViable p :=
    .of_some hearlier.program rfl (.of_empty rfl rfl)
  have hm : m.IsViable p := (lasts_isViable p).obeyAll hstarted commands
  have hwatched : m.recorder.isSome = true := lasts_watched.obeyAll rfl commands
  refine ⟨fun s m₁ host e hvisits hexecutes htells => ?_,
    fun m₁ i c a q c' a' henters hentry => ?_, fun s m₁ hvisits hexecutes hchanges => ?_,
    hm.isOwnOutcome_invoke id callee args⟩
  · have hwatched₁ := lasts_watched.executes (lasts_watched.visits hwatched hvisits) hexecutes
    obtain ⟨r, hr⟩ := Option.isSome_iff_exists.mp hwatched₁
    obtain ⟨r', hanswered⟩ := htells.answered hr
    exact ⟨r, r', hr, hanswered⟩
  · obtain ⟨r, hr⟩ := Option.isSome_iff_exists.mp (lasts_watched.enters hwatched henters)
    obtain ⟨r', host, d, m₂, hevent, henter, hr', hheap, hskips⟩ :=
      ((lasts_isViable p).enters hm henters).enters hentry hr
    refine ⟨r, r', host, d, m₂, hr, hevent, henter, hr', hheap, fun hskip => ?_⟩
    obtain ⟨summary, f, hmatching, hf, hstands⟩ := hskips hskip
    exact ⟨summary, f, hmatching, hf, hstands, fun t m₃ ht hexecutes => hstands.step ht hexecutes⟩
  · exact (tells_of_step hchanges).imp_right fun ⟨m₂, i, c, a, hcalls⟩ =>
      ⟨m₂, i, c, a, hcalls, .calls hvisits hexecutes hcalls⟩

/-- A machine that has counted up once, with the counter back at zero. -/
def countedOnce : Machine :=
  (((new counter {} .never).obeyAll []).withRecorder (.start {} (fun _ => false) ⟨0⟩)).obeyAll
    [.allocate ⟨0⟩, .invoke ⟨0⟩ (some ⟨0⟩) [], .store ⟨.object ⟨0⟩, "n"⟩ (.int 0)]

/-- Counting up again is answered by a replay, and the next instruction is the return. -/
theorem replay_never_fails_countedOnce :
    ∃ m q f, countedOnce.enter ⟨0⟩ (some ⟨0⟩) [] = ⟨m, .ok ()⟩ ∧ f.pc = 6 ∧
      m.StandsBeforeReturn q f [] none ∧
      ∀ (t : Run) (m₃ : Machine), t.machine = m → t.Executes m₃ →
        ∃ r, m₃.step = ⟨{ m₃ with frames := [], recorder := r }, .ok (.returned none)⟩ := by
  have hunfailing := replay_never_fails counter {} .never {} (fun _ => false) ⟨0⟩ []
    [.allocate ⟨0⟩, .invoke ⟨0⟩ (some ⟨0⟩) [], .store ⟨.object ⟨0⟩, "n"⟩ (.int 0)] ⟨0⟩ (some ⟨0⟩) []
  rw [← countedOnce] at hunfailing
  obtain ⟨q, hentry, hlast, hreturns⟩ : ∃ q, entry countedOnce.program countedOnce.config
      countedOnce.frames ⟨0⟩ (some ⟨0⟩) [] = .ok (q, some ⟨0⟩, []) ∧
      q.finalReturn? = some 6 ∧ q.returns = none := ⟨_, rfl, rfl, rfl⟩
  have hskips : (countedOnce.recorder.bind fun r =>
      (r.onEvent (FrameView.mk countedOnce.heap [])
        (countedOnce.callOf ⟨0⟩ q (some ⟨0⟩) [])).toOption.bind (·.answer.toOption)) =
      some .skipToReturn := by
    obtain rfl : _ = q := (Prod.mk.inj (Except.ok.inj hentry)).1
    decide +kernel
  obtain ⟨r, r', host, d, m, hr, hevent, henter, -, -, hskip⟩ :=
    hunfailing.2.1 countedOnce ⟨0⟩ (some ⟨0⟩) [] q (some ⟨0⟩) [] (.begins (.routine rfl rfl)) hentry
  rw [hr, Option.bind_some, hevent] at hskips
  obtain ⟨summary, f, -, -, hstands, hsteps⟩ := hskip (Option.some.inj hskips)
  have hnone : summary.effect.returnValue = none := by
    have hreturned := hstands.returns
    rw [hreturns] at hreturned
    exact Option.isNone_iff_eq_none.mp (by simpa using hreturned)
  have hnil : countedOnce.frames = [] := rfl
  rw [hnone, hnil] at hstands hsteps
  exact ⟨m, q, f, henter, Option.some.inj (hstands.last.symm.trans hlast), hstands, hsteps⟩

end Machine

end Reprise
