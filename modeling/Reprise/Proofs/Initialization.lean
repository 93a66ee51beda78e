import Reprise.Proofs.ClassUse

/-!
# When a class counts as initialized

A class that has an initializer is marked when it is first used, and from then on it counts as
initialized.  The mark is set before the initializer is entered, and nothing takes it away again: if
the frame of the initializer cannot be pushed, the invocation fails, the class stays marked, and its
initializer is never run.  So after any commands

    the class is marked ↔ one of the commands was an invocation that used it  (initialized_iff_used)

whether or not the first of these uses could run the initializer.
-/

namespace Reprise

/-- The class of the program has the initializer. -/
def Program.HasInitializer (p : Program) (x : ClassId) (i : RoutineId) : Prop :=
  ∃ c, p.class? x = some c ∧ c.initializer = some i

/-! ## Uses in a run -/

namespace Run

variable {s t : Run} {x : ClassId}

/-- The next instruction of the run uses the class. -/
def IsUse (s : Run) (x : ClassId) : Prop := ∃ m, s.Executes m ∧ m.IsUse x

/-- The run goes through an instruction that uses the class. -/
def Uses (s : Run) (x : ClassId) : Prop := ∃ t, s.Reaches t ∧ t.IsUse x

/-- An instruction of a run changes no mark but that of the class that it uses. -/
theorem Executes.marks {m m' : Machine} {result : Except Located Flow} (hexecutes : s.Executes m)
    (hstep : m.step = ⟨m', result⟩) (x : ClassId) :
    m'.heap.marks x = s.machine.heap.marks x ∨ s.IsUse x := by
  by_cases huse : m.IsUse x
  · exact .inr ⟨m, hexecutes, huse⟩
  · have hsame := Machine.marks_of_not_isUse huse
    rw [hstep] at hsame
    obtain ⟨w, rfl⟩ := hexecutes.eq
    exact .inl hsame

theorem Next.marks (hnext : s.Next t) (x : ClassId) :
    t.machine.heap.marks x = s.machine.heap.marks x ∨ s.IsUse x := by
  cases hnext with
  | goesOn hexecutes hstep => exact hexecutes.marks hstep x
  | @returned m m' v hexecutes hstep =>
    rw [after, m'.heap_deliver v]
    exact hexecutes.marks hstep x

theorem Ends.marks {o : Outcome (Option Value)} (hends : s.Ends o) (x : ClassId) :
    o.machine.heap.marks x = s.machine.heap.marks x ∨ s.IsUse x := by
  cases hends with
  | stopped hpoll =>
    obtain ⟨w, rfl⟩ := eq_of_poll hpoll
    exact .inl rfl
  | exhausted hpoll =>
    obtain ⟨w, rfl⟩ := eq_of_poll hpoll
    exact .inl rfl
  | fails hexecutes hstep => exact hexecutes.marks hstep x
  | returns hexecutes hstep => exact hexecutes.marks hstep x

theorem Reaches.marks (hreaches : s.Reaches t) (x : ClassId) :
    t.machine.heap.marks x = s.machine.heap.marks x ∨ s.Uses x := by
  induction hreaches with
  | refl => exact .inl rfl
  | @tail t t' hreaches hnext ih =>
    rcases hnext.marks x with hsame | huse
    · rw [hsame]
      exact ih
    · exact .inr ⟨t, hreaches, huse⟩

/-- A run changes no marks but those of the classes that it uses. -/
theorem marks_outcome (s : Run) (x : ClassId) :
    s.outcome.machine.heap.marks x = s.machine.heap.marks x ∨ s.Uses x := by
  obtain ⟨t, hreaches, hends⟩ := s.ends
  rcases hends.marks x with hsame | huse
  · rw [outcome, hsame]
    exact hreaches.marks x
  · exact .inr ⟨t, hreaches, huse⟩

end Run

/-! ## Uses in an invocation -/

namespace Machine

/-- In the course of the invocation the machine `m'` uses the class: at the outset, if the routine
is a static one of the class, or on an instruction. -/
inductive Uses (m : Machine) (id : RoutineId) (callee : Option ObjectId) (args : List Value)
    (x : ClassId) : Machine → Prop where
  | outset {q} (hq : m.program.routine? id = some q) (hkind : q.kind = .static)
    (howner : q.owner = x) : Uses m id callee args x m
  | instruction {s m'} (hvisits : m.Visits id callee args s) (hexecutes : s.Executes m')
    (huse : m'.IsUse x) : Uses m id callee args x m'

variable {p : Program} {config : MachineConfig} {m m₁ m' : Machine} {id i : RoutineId}
  {callee c : Option ObjectId} {args a : List Value} {x : ClassId}

theorem marks_enterRun (hbegins : m.Begins id callee args m₁ i c a) (x : ClassId) :
    (m₁.enterRun m.frames.length i c a).machine.heap.marks x = m₁.heap.marks x ∨
      ∃ m', m.Uses id callee args x m' := by
  have hentered := (m₁.entered_enter i c a).marks_eq
  unfold enterRun andThen
  cases henter : m₁.enter i c a with
  | mk m₂ result =>
    rw [henter] at hentered
    have hsame : m₂.heap.marks x = m₁.heap.marks x := congrFun hentered x
    cases result with
    | error e => exact .inl hsame
    | ok u =>
      rcases (m₂.started m.frames.length).marks_outcome x with
        hrun | ⟨t, hreaches, m', hexecutes, huse⟩
      · exact .inl (hrun.trans hsame)
      · exact .inr ⟨m', .instruction ⟨m₁, i, c, a, m₂, hbegins, henter, hreaches⟩ hexecutes huse⟩

theorem marks_prepared {q : Routine} (hq : m.program.routine? id = some q)
    (callee : Option ObjectId) (args : List Value) (x : ClassId) :
    (m.prepared q).machine.heap.marks x = m.heap.marks x ∨ ∃ m', m.Uses id callee args x m' := by
  unfold prepared
  split
  · rename_i hkind
    by_cases howner : q.owner = x
    · exact .inr ⟨m, .outset hq hkind howner⟩
    · rw [runInitializer_eq]
      split
      · exact .inl rfl
      · rename_i h i hprepare
        have hbegins : m.Begins id callee args { m with heap := h } i none [] :=
          .initializer hq hkind hprepare
        have hmarked := (Heap.marks_mark (Heap.prepare?_eq_some hprepare).2).2 x
        rw [if_neg (Ne.symm howner)] at hmarked
        rcases marks_enterRun hbegins x with hsame | huses
        · exact .inl (hsame.trans hmarked)
        · exact .inr huses
  · exact .inl rfl

/-- An invocation changes no marks but those of the classes that it uses. -/
theorem marks_invoke (m : Machine) (id : RoutineId) (callee : Option ObjectId) (args : List Value)
    (x : ClassId) :
    (m.invoke id callee args).machine.heap.marks x = m.heap.marks x ∨
      ∃ m', m.Uses id callee args x m' := by
  have habove : (m.invokeAbove id callee args).machine.heap.marks x = m.heap.marks x ∨
      ∃ m', m.Uses id callee args x m' := by
    rw [invokeAbove_eq_prepared]
    cases hq : m.program.routine? id with
    | none => exact .inl rfl
    | some q =>
      rcases marks_prepared hq callee args x with hprepared | huses
      · simp only [andThen]
        cases hresult : m.prepared q with
        | mk m₁ result =>
          rw [hresult] at hprepared
          cases result with
          | error e => exact .inl hprepared
          | ok u =>
            rcases marks_enterRun (.routine hq hresult) x with hsame | huses
            · exact .inl (hsame.trans hprepared)
            · exact .inr huses
      · exact .inr huses
  have hcut : (m.invoke id callee args).machine.heap.marks x =
      (m.invokeAbove id callee args).machine.heap.marks x := by
    unfold invoke
    generalize m.invokeAbove id callee args = o
    obtain ⟨m', e | v⟩ := o <;> rfl
  rwa [hcut]

/-- The machine has the settings, and the class is one of its heap. -/
def Knows (p : Program) (config : MachineConfig) (x : ClassId) (m : Machine) : Prop :=
  (m.program = p ∧ m.config = config) ∧ m.heap.marks x ≠ none

theorem kept_knows (p : Program) (config : MachineConfig) (x : ClassId) :
    Kept (Knows p config x) :=
  (lasts_settings p config).toKept.and
    (kept_mark (P := (· ≠ none)) (fun _ _ => Option.some_ne_none true) x)

/-- After an invocation that uses it a class with an initializer is marked. -/
theorem Uses.marked (hm : m.Knows p config x) (hx : p.HasInitializer x i)
    (huses : m.Uses id callee args x m') :
    (m.invoke id callee args).machine.heap.marks x = some true := by
  have hkept := kept_marked x
  obtain ⟨d, hd, hi⟩ := hx
  cases huses with
  | outset hq hkind howner =>
    obtain ⟨⟨rfl, -⟩, hknown⟩ := hm
    cases hmark : m.heap.marks x with
    | none => exact absurd hmark hknown
    | some b =>
      cases b with
      | true => exact hkept.invoke (fun hm => hm) hmark id callee args
      | false =>
        obtain ⟨h, hprepare⟩ := Heap.prepare?_of_unmarked hd hi hmark
        have hmarked := (Heap.marks_mark (Heap.prepare?_eq_some hprepare).2).2 x
        rw [if_pos rfl] at hmarked
        rw [← howner] at hprepare
        exact hkept.invoke_of_begins (fun hm => hm) (.initializer hq hkind hprepare)
          (hkept.enterRun hmarked _ _ _ _)
  | instruction hvisits hexecutes huse =>
    obtain ⟨⟨hp, -⟩, hknown⟩ :=
      (kept_knows p config x).executes ((kept_knows p config x).visits hm hvisits) hexecutes
    rw [← hp] at hd
    exact hkept.invoke_of_step (fun hm => hm) hvisits hexecutes (marks_of_isUse hd hi hknown huse)

theorem uses_iff_marked (hm : m.Knows p config x) (hx : p.HasInitializer x i) (id : RoutineId)
    (callee : Option ObjectId) (args : List Value) :
    (m.invoke id callee args).machine.heap.marks x = some true ↔
      m.heap.marks x = some true ∨ ∃ m', m.Uses id callee args x m' := by
  constructor
  · intro hmarked
    rcases m.marks_invoke id callee args x with hsame | huses
    · exact .inl (hsame ▸ hmarked)
    · exact .inr huses
  · rintro (hmarked | ⟨m', huses⟩)
    · exact (kept_marked x).invoke (fun hm => hm) hmarked id callee args
    · exact huses.marked hm hx

/-! ## Commands -/

/-- One of the commands is an invocation that uses the class. -/
inductive UsesDuring (x : ClassId) : Machine → List Command → Prop where
  | now {m id callee args m' rest} (huses : Uses m id callee args x m') :
    UsesDuring x m (.invoke id callee args :: rest)
  | later {m c rest} (hrest : UsesDuring x (m.obey c).2 rest) : UsesDuring x m (c :: rest)

theorem marks_obey (m : Machine) {c : Command} (hc : ∀ id callee args, c ≠ .invoke id callee args) :
    (m.obey c).2.heap.marks = m.heap.marks := by
  cases c with
  | invoke id callee args => exact absurd rfl (hc id callee args)
  | store field v =>
    simp only [obey]
    cases hstore : m.heap.store field v with
    | error e => rfl
    | ok h => exact Heap.marks_store hstore
  | setShared owner on => exact Heap.marks_modifyStorage _ _ _
  | setFrozen owner on => exact Heap.marks_modifyStorage _ _ _
  | setThreads => rfl
  | allocate y =>
    simp only [obey, allocate]
    cases m.program.class? y <;> rfl
  | beginRun => rfl
  | finishRun => rfl

theorem Knows.obey (hm : m.Knows p config x) (c : Command) : (m.obey c).2.Knows p config x := by
  refine ⟨(lasts_settings p config).obey hm.1 c, ?_⟩
  cases c with
  | invoke id callee args =>
    exact ((kept_knows p config x).invoke (fun hm => hm) hm id callee args).2
  | _ =>
    rw [m.marks_obey (by simp)]
    exact hm.2

/-- After some commands a class with an initializer is marked if it was, or if a command used it. -/
theorem marked_obeyAll_iff (hm : m.Knows p config x) (hx : p.HasInitializer x i)
    (commands : List Command) :
    (m.obeyAll commands).heap.marks x = some true ↔
      m.heap.marks x = some true ∨ UsesDuring x m commands := by
  induction commands generalizing m with
  | nil =>
    refine ⟨.inl, ?_⟩
    rintro (hmarked | huses)
    · exact hmarked
    · cases huses
  | cons c rest ih =>
    refine (ih (hm.obey c)).trans ⟨?_, ?_⟩
    · rintro (hmarked | huses)
      · cases c with
        | invoke id callee args =>
          rcases (uses_iff_marked hm hx id callee args).mp hmarked with hbefore | ⟨m', huses⟩
          · exact .inl hbefore
          · exact .inr (.now huses)
        | _ =>
          rw [m.marks_obey (by simp)] at hmarked
          exact .inl hmarked
      · exact .inr (.later huses)
    · rintro (hmarked | huses)
      · refine .inl ?_
        cases c with
        | invoke id callee args => exact (uses_iff_marked hm hx id callee args).mpr (.inl hmarked)
        | _ =>
          rw [m.marks_obey (by simp)]
          exact hmarked
      · cases huses with
        | now huses => exact .inl ((uses_iff_marked hm hx _ _ _).mpr (.inr ⟨_, huses⟩))
        | later hrest => exact .inr hrest

/-! ## The first use -/

/-- The frame of the initializer can be pushed. -/
def Admits (m : Machine) (i : RoutineId) : Prop :=
  ∃ q, m.program.routine? i = some q ∧ m.callDepth < m.config.maximumCallDepth ∧
    q.params = [] ∧ q.hasReceiver = false

/-- An initializer is accepted exactly if its frame can be pushed. -/
theorem admits_iff_entry :
    m.Admits i ↔ ∃ accepted, entry m.program m.config m.frames i none [] = .ok accepted := by
  unfold Admits entry callDepth
  cases m.program.routine? i with
  | none => simp
  | some q =>
    by_cases hdepth : m.config.maximumCallDepth ≤ m.frames.length
    · simp [if_pos hdepth, Nat.not_lt.mpr hdepth]
    · cases hparams : q.params with
      | nil =>
        cases hreceiver : q.hasReceiver <;>
          simp [hdepth, Nat.lt_of_not_le hdepth, hparams, hreceiver, Routine.accepts, receiver,
            narrowArgs]
      | cons ty types => simp [hdepth, hparams, Routine.accepts]

/-- The class is marked, in the heap `h`, and its initializer is entered: its frame is pushed, or
the machine cannot push it and the invocation fails with that. -/
structure Initializes (m : Machine) (id : RoutineId) (callee : Option ObjectId) (args : List Value)
    (x : ClassId) (i : RoutineId) (m' : Machine) (h : Heap) : Prop where
  due : m'.heap.prepare? m'.program x = some (h, i)
  marked : h.marks x = some true
  enters : m.Enters id callee args { m' with heap := h } i none []
  pushes : m'.Admits i → ∃ f, f.routine = i ∧
    (enter { m' with heap := h } i none []).machine.frames = f :: m'.frames
  refuses : ¬ m'.Admits i → ∃ e, entry m'.program m'.config m'.frames i none [] = .error e ∧
    enter { m' with heap := h } i none [] = ⟨{ m' with heap := h }, .error e⟩ ∧
    (m.invoke id callee args).result = .error e

theorem Uses.knows (hm : m.Knows p config x) (huses : m.Uses id callee args x m') :
    m'.Knows p config x := by
  cases huses with
  | outset => exact hm
  | instruction hvisits hexecutes =>
    exact (kept_knows p config x).executes ((kept_knows p config x).visits hm hvisits) hexecutes

/-- What the first use of a class does, at the outset of an invocation or on an instruction. -/
theorem Uses.initializes (hm : m.Knows p config x) (hx : p.HasInitializer x i)
    (huses : m.Uses id callee args x m') (hfirst : m'.heap.marks x ≠ some true) :
    ∃ h, m.Initializes id callee args x i m' h := by
  obtain ⟨⟨hp, -⟩, hknown⟩ := huses.knows hm
  have hunmarked : m'.heap.marks x = some false := by
    cases hmark : m'.heap.marks x with
    | none => exact absurd hmark hknown
    | some b =>
      cases b with
      | true => exact absurd hmark hfirst
      | false => rfl
  obtain ⟨d, hd, hi⟩ := hx
  rw [← hp] at hd
  obtain ⟨h, hprepare⟩ := Heap.prepare?_of_unmarked hd hi hunmarked
  have hmarked := (Heap.marks_mark (Heap.prepare?_eq_some hprepare).2).2 x
  rw [if_pos rfl] at hmarked
  have hframes := (entered_enter { m' with heap := h } i none []).frames
  have hpushes : m'.Admits i → ∃ f, f.routine = i ∧
      (enter { m' with heap := h } i none []).machine.frames = f :: m'.frames := by
    intro hadmits
    obtain ⟨accepted, haccepted⟩ := admits_iff_entry.mp hadmits
    rcases hframes with ⟨_, f, -, hf, hpushed⟩ | ⟨e, hrefused, -⟩
    · exact ⟨f, hf, hpushed⟩
    · cases haccepted.symm.trans hrefused
  have hrefuses : ¬ m'.Admits i → ∃ e, entry m'.program m'.config m'.frames i none [] = .error e ∧
      enter { m' with heap := h } i none [] = ⟨{ m' with heap := h }, .error e⟩ := by
    intro hno
    rcases hframes with ⟨accepted, _, haccepted, -⟩ | hrefused
    · exact absurd (admits_iff_entry.mpr ⟨accepted, haccepted⟩) hno
    · exact hrefused
  cases huses with
  | outset hq hkind howner =>
    rw [← howner] at hprepare
    have hbegins : m.Begins id callee args { m with heap := h } i none [] :=
      .initializer hq hkind hprepare
    refine ⟨h, howner ▸ hprepare, hmarked, .begins hbegins, hpushes, fun hno => ?_⟩
    obtain ⟨e, hentry, henter⟩ := hrefuses hno
    refine ⟨e, hentry, henter, hbegins.fails ?_⟩
    rw [enterRun, andThen, henter]
  | instruction hvisits hexecutes huse =>
    obtain ⟨hcalls, hstep⟩ := step_of_isUse huse hprepare
    refine ⟨h, hprepare, hmarked, .calls hvisits hexecutes hcalls, hpushes, fun hno => ?_⟩
    obtain ⟨e, hentry, henter⟩ := hrefuses hno
    rw [henter] at hstep
    exact ⟨e, hentry, henter, hvisits.fails hexecutes hstep⟩

/-! ## Top theorem -/

theorem Knows.of_new (p : Program) (config : MachineConfig) (w : Watchdog)
    (recorder : Option Recorder) (hx : p.HasInitializer x i) :
    Knows p config x { Machine.new p config w with recorder } ∧
      (Machine.new p config w).heap.marks x = some false := by
  obtain ⟨d, hd, -⟩ := hx
  have hmark : (Machine.new p config w).heap.marks x = some false := by
    have hlisted : p.classes[x.index]? = some d := hd
    simp [Heap.marks, Machine.new, Heap.ofClasses, hlisted]
  refine ⟨⟨⟨rfl, rfl⟩, ?_⟩, hmark⟩
  change (Machine.new p config w).heap.marks x ≠ none
  rw [hmark]
  exact Option.some_ne_none false

/-- A class with an initializer counts as initialized if and only if it has been used, whatever the
program, the limits, the watchdog and the recorder are, and whether the invocations succeeded or
failed.  The first use marks the class and then enters the initializer; if its frame cannot be
pushed, because the routine does not exist, takes arguments or a receiver, or the frames are at
their limit, the invocation fails with that, and the class is marked all the same.  At every later
use no initializer is due. -/
theorem initialized_iff_used (p : Program) (config : MachineConfig) (w : Watchdog)
    (recorder : Option Recorder) (commands : List Command) {x : ClassId} {i : RoutineId}
    (hx : p.HasInitializer x i) :
    let start : Machine := { Machine.new p config w with recorder }
    let m := start.obeyAll commands
    (m.heap.marks x = some true ↔ UsesDuring x start commands) ∧
      ∀ id callee args m', m.Uses id callee args x m' →
        (m.invoke id callee args).machine.heap.marks x = some true ∧
        (m'.heap.marks x = some true → m'.heap.prepare? p x = none) ∧
        (m'.heap.marks x ≠ some true → ∃ h, m.Initializes id callee args x i m' h) := by
  intro start m
  obtain ⟨hstart, hunmarked⟩ := Knows.of_new p config w recorder hx
  have hm : m.Knows p config x := obeyAll_keeps (fun c hm => hm.obey c) hstart commands
  refine ⟨?_, fun id callee args m' huses => ⟨huses.marked hm hx, ?_, huses.initializes hm hx⟩⟩
  · refine (marked_obeyAll_iff hstart hx commands).trans ⟨?_, .inr⟩
    rintro (hmarked | huses)
    · cases hunmarked.symm.trans hmarked
    · exact huses
  · exact fun hmarked => Heap.prepare?_of_marked hmarked p

/-- A class with an initializer, and a routine of another class that reads its field. -/
def lateClass : Program := .ofAdditions [
  .ofClass { name := "A" },
  .ofClass { name := "B", statics := [("x", .int)] },
  .ofRoutine ⟨0⟩ "f" { returns := some .int, code := #[.getStatic ⟨1⟩ "x", .leave] },
  .ofRoutine ⟨1⟩ "<clinit>" {
    kind := .classInitializer, code := #[.push (.int 7), .putStatic ⟨1⟩ "x", .leave] },
  .ofRoutine ⟨1⟩ "g" { returns := some .int, code := #[.getStatic ⟨1⟩ "x", .leave] }]

theorem built_lateClass : lateClass.Built :=
  Program.built_ofAdditions (by simp [Addition.IsPlain])

/-- A machine that has room for one frame. -/
def crampedMachine : Machine :=
  { Machine.new lateClass { maximumCallDepth := 1 } .never with recorder := none }

/-- The invocation that could not initialize the class has used it, and a later one finds nothing
to initialize. -/
theorem initialized_iff_used_cramped :
    let m := crampedMachine.obeyAll [.invoke ⟨0⟩ none []]
    UsesDuring ⟨1⟩ crampedMachine [.invoke ⟨0⟩ none []] ∧
      m.Uses ⟨2⟩ none [] ⟨1⟩ m ∧ m.heap.prepare? lateClass ⟨1⟩ = none := by
  intro m
  have hmarked : m.heap.marks ⟨1⟩ = some true := by decide +kernel
  obtain ⟨hiff, hused⟩ := initialized_iff_used lateClass { maximumCallDepth := 1 } .never none
    [.invoke ⟨0⟩ none []] (x := ⟨1⟩) (i := ⟨1⟩) ⟨_, rfl, rfl⟩
  have hprogram : m.program = lateClass := ((lasts_settings lateClass _).obeyAll ⟨rfl, rfl⟩ _).1
  have hroutine : m.program.routine? ⟨2⟩ = lateClass.routine? ⟨2⟩ := by rw [hprogram]
  have huses : m.Uses ⟨2⟩ none [] ⟨1⟩ m := .outset hroutine rfl rfl
  exact ⟨hiff.mp hmarked, huses, (hused _ _ _ _ huses).2.1 hmarked⟩

/-- No frame is pushed where there is no room. -/
theorem frames_of_full (hfull : m.config.maximumCallDepth ≤ m.frames.length) (i : RoutineId)
    (c : Option ObjectId) (a : List Value) : (m.enter i c a).machine.frames = m.frames := by
  rcases (m.entered_enter i c a).frames with ⟨_, _, haccepted, -⟩ | ⟨e, -, henter⟩
  · exact absurd (length_lt_of_entry haccepted) (Nat.not_lt.mpr hfull)
  · rw [henter]

/-- The limit of the frames stops the initializer of the class before its frame is pushed; the class
is marked nevertheless, and the next invocation reads its field unwritten. -/
theorem initialized_though_refused :
    let failed := crampedMachine.invoke ⟨0⟩ none []
    lateClass.Built ∧ failed.result = .error ⟨⟨⟨0⟩, 0⟩, .callDepthExceeded 1⟩ ∧
      (∀ m₁ c a, crampedMachine.Enters ⟨0⟩ none [] m₁ ⟨1⟩ c a →
        (m₁.enter ⟨1⟩ c a).machine.frames = m₁.frames) ∧
      failed.machine.heap.marks ⟨1⟩ = some true ∧
      (failed.machine.invoke ⟨2⟩ none []).result = .ok (some (.int 0)) := by
  refine ⟨built_lateClass, by decide +kernel, fun m₁ c a henters => ?_, by decide +kernel,
    by decide +kernel⟩
  have hsettings := (lasts_settings lateClass { maximumCallDepth := 1 }).enters
    (show crampedMachine.program = _ ∧ crampedMachine.config = _ from ⟨rfl, rfl⟩) henters
  refine frames_of_full ?_ _ _ _
  rw [hsettings.2]
  cases henters with
  | begins hbegins =>
    cases hbegins with
    | initializer hq _ hprepare =>
      cases hq
      cases hprepare
  | calls _ _ hcalls =>
    cases hcalls with
    | prepares hframes => simp [hframes]
    | calls => simp

end Machine

end Reprise
