import Mathlib.Logic.Relation
import Reprise.Proofs.Indistinguishable
import Reprise.Proofs.Watched

/-!
# The course of an invocation

A `Run` is a machine between two instructions, with what is left of the instruction limit and the
number of instructions since the run began; `Run.Next` is one instruction, and every run goes on by
that until it ends in one of four ways (`Run.ends`).  An invocation begins by entering a class
initializer, if that is due, and the routine (`Machine.Begins`); `Machine.Visits` are the runs that
it goes through from there, and `Machine.Enters` are all the routines that it enters.

A property that every operation of a machine keeps (`Machine.Kept`) holds throughout the invocation
and after it, however it ends.
-/

namespace Reprise

open Machine

/-! ## Runs -/

/-- A run between two instructions. -/
structure Run where
  /-- The number of frames that ends the run. -/
  base : Nat
  /-- The number of instructions that may still be executed. -/
  remaining : Nat
  /-- The number of instructions executed. -/
  counter : Nat
  machine : Machine

namespace Run

/-- The machine that executes the next instruction, after the watchdog was asked. -/
def Executes (s : Run) (m : Machine) : Prop :=
  s.remaining ≠ 0 ∧ ∃ m₁, s.machine.poll s.counter = (false, m₁) ∧
    m = { m₁ with executed := m₁.executed + 1 }

/-- The run with one more instruction executed. -/
def after (s : Run) (m : Machine) : Run := ⟨s.base, s.remaining - 1, s.counter + 1, m⟩

/-- A run goes on after an instruction. -/
inductive Next (s : Run) : Run → Prop where
  | goesOn {m m'} (hexecutes : s.Executes m) (hstep : m.step = ⟨m', .ok .goesOn⟩) :
    Next s (s.after m')
  | returned {m m' v} (hexecutes : s.Executes m) (hstep : m.step = ⟨m', .ok (.returned v)⟩)
    (hdeeper : s.base < m'.frames.length) : Next s (s.after (m'.deliver v))

/-- A run ends. -/
inductive Ends (s : Run) : Outcome (Option Value) → Prop where
  | stopped {m e} (hpoll : s.machine.poll s.counter = (true, m))
    (hfailure : e.failure = .stoppedByWatchdog) : Ends s ⟨m, .error e⟩
  | exhausted {m e} (hpoll : s.machine.poll s.counter = (false, m)) (hspent : s.remaining = 0)
    (hfailure : e.failure = .instructionLimitExceeded m.config.instructionLimit) :
    Ends s ⟨m, .error e⟩
  | fails {m m' e} (hexecutes : s.Executes m) (hstep : m.step = ⟨m', .error e⟩) :
    Ends s ⟨m', .error e⟩
  | returns {m m' v} (hexecutes : s.Executes m) (hstep : m.step = ⟨m', .ok (.returned v)⟩)
    (hbase : m'.frames.length ≤ s.base) : Ends s ⟨m', .ok v⟩

/-- What the run goes through. -/
abbrev Reaches : Run → Run → Prop := Relation.ReflTransGen Next

/-- Asking the watchdog changes nothing else. -/
theorem eq_of_poll {m m' : Machine} {counter : Nat} {stop : Bool}
    (hpoll : m.poll counter = (stop, m')) : ∃ w, m' = { m with watchdog := w } := by
  unfold poll at hpoll
  split at hpoll
  · exact ⟨_, (congrArg Prod.snd hpoll).symm⟩
  · exact ⟨_, (congrArg Prod.snd hpoll).symm⟩

/-- The machine that executes the next instruction differs from that of the run in its watchdog and
in the number of instructions. -/
theorem Executes.eq {s : Run} {m : Machine} (h : s.Executes m) :
    ∃ w, m = { s.machine with watchdog := w, executed := s.machine.executed + 1 } := by
  obtain ⟨-, m₁, hpoll, rfl⟩ := h
  obtain ⟨w, rfl⟩ := eq_of_poll hpoll
  exact ⟨w, rfl⟩

/-- Every run goes on until it ends. -/
theorem ends (s : Run) :
    ∃ t, s.Reaches t ∧ t.Ends (runFrom s.base s.remaining s.counter s.machine) := by
  obtain ⟨base, remaining, counter, m⟩ := s
  change ∃ t : Run, _ ∧ t.Ends (runFrom base remaining counter m)
  induction remaining generalizing counter m with
  | zero =>
    refine ⟨_, .refl, ?_⟩
    rw [runFrom]
    cases hpoll : m.poll counter with
    | mk stop m₁ =>
      cases stop with
      | true => exact .stopped hpoll rfl
      | false => exact .exhausted hpoll rfl rfl
  | succ remaining ih =>
    rw [runFrom]
    cases hpoll : m.poll counter with
    | mk stop m₁ =>
      cases stop with
      | true => exact ⟨_, .refl, .stopped hpoll rfl⟩
      | false =>
        have hexecutes : (Run.mk base (remaining + 1) counter m).Executes
            { m₁ with executed := m₁.executed + 1 } := ⟨by simp, m₁, hpoll, rfl⟩
        simp only
        cases hstep : Machine.step { m₁ with executed := m₁.executed + 1 } with
        | mk m' result =>
          cases result with
          | error e => exact ⟨_, .refl, .fails hexecutes hstep⟩
          | ok flow =>
            cases flow with
            | goesOn =>
              obtain ⟨t, hreaches, hends⟩ := ih (counter + 1) m'
              exact ⟨t, .head (.goesOn hexecutes hstep) hreaches, hends⟩
            | returned v =>
              by_cases hbase : m'.frames.length ≤ base
              · simp only [if_pos hbase]
                exact ⟨_, .refl, .returns hexecutes hstep hbase⟩
              · simp only [if_neg hbase]
                obtain ⟨t, hreaches, hends⟩ := ih (counter + 1) (m'.deliver v)
                exact ⟨t, .head (.returned hexecutes hstep (Nat.lt_of_not_le hbase)) hreaches,
                  hends⟩

/-- What becomes of a run. -/
def outcome (s : Run) : Outcome (Option Value) := runFrom s.base s.remaining s.counter s.machine

/-- A run that executes an instruction becomes what the instruction makes of it. -/
theorem Executes.outcome_eq {s : Run} {m : Machine} (hexecutes : s.Executes m) :
    s.outcome = match m.step.result with
      | .error e => ⟨m.step.machine, .error e⟩
      | .ok .goesOn => (s.after m.step.machine).outcome
      | .ok (.returned v) =>
        if m.step.machine.frames.length ≤ s.base then ⟨m.step.machine, .ok v⟩
        else (s.after (m.step.machine.deliver v)).outcome := by
  obtain ⟨base, remaining, counter, m₀⟩ := s
  obtain ⟨hleft, m₁, hpoll, rfl⟩ := hexecutes
  obtain ⟨remaining, rfl⟩ := Nat.exists_eq_succ_of_ne_zero hleft
  simp only at hpoll
  rw [outcome, runFrom, hpoll]
  rfl

theorem Executes.outcome_of_fails {s : Run} {m m' : Machine} {e : Located}
    (hexecutes : s.Executes m) (hstep : m.step = ⟨m', .error e⟩) : s.outcome = ⟨m', .error e⟩ := by
  rw [hexecutes.outcome_eq, hstep]

theorem Next.outcome_eq {s t : Run} (hnext : s.Next t) : s.outcome = t.outcome := by
  cases hnext with
  | goesOn hexecutes hstep => rw [hexecutes.outcome_eq, hstep]
  | returned hexecutes hstep hdeeper =>
    rw [hexecutes.outcome_eq, hstep]
    exact if_neg (Nat.not_le.mpr hdeeper)

/-- All that a run goes through becomes the same. -/
theorem Reaches.outcome_eq {s t : Run} (hreaches : s.Reaches t) : s.outcome = t.outcome := by
  induction hreaches with
  | refl => rfl
  | tail _ hnext ih => exact ih.trans hnext.outcome_eq

theorem Reaches.base_eq {s t : Run} (hreaches : s.Reaches t) : t.base = s.base := by
  induction hreaches with
  | refl => rfl
  | tail _ hnext ih =>
    cases hnext with
    | goesOn => exact ih
    | returned => exact ih

end Run

namespace Machine

/-- A run that succeeds leaves no more than its frames. -/
theorem length_frames_of_run {m m' : Machine} {base : Nat} {v : Option Value}
    (hrun : m.run base = ⟨m', .ok v⟩) : m'.frames.length ≤ base := by
  obtain ⟨t, hreaches, hends⟩ := Run.ends ⟨base, m.config.instructionLimit, 0, m⟩
  have hbase : t.base = base := hreaches.base_eq
  rw [show runFrom base m.config.instructionLimit 0 m = ⟨m', .ok v⟩ from hrun] at hends
  cases hends with
  | returns _ _ hle => exact hbase ▸ hle

theorem length_frames_of_enterRun {m m' : Machine} {base : Nat} {id : RoutineId}
    {callee : Option ObjectId} {args : List Value} {v : Option Value}
    (hrun : m.enterRun base id callee args = ⟨m', .ok v⟩) : m'.frames.length ≤ base := by
  unfold enterRun andThen at hrun
  split at hrun
  · cases hrun
  · exact length_frames_of_run hrun

/-! ## Invocations -/

/-- The run of a routine that was just entered. -/
def started (m : Machine) (base : Nat) : Run := ⟨base, m.config.instructionLimit, 0, m⟩

/-- The machine before the routine is entered: a static routine has its class initialized. -/
def prepared (m : Machine) (q : Routine) : Outcome Unit :=
  if q.kind = .static then m.runInitializer q.owner else ⟨m, .ok ()⟩

theorem invokeAbove_eq_prepared (m : Machine) (id : RoutineId) (callee : Option ObjectId)
    (args : List Value) :
    m.invokeAbove id callee args =
      match m.program.routine? id with
      | none => ⟨m, .error ⟨⟨id, 0⟩, .noSuchRoutine id⟩⟩
      | some q => andThen (m.prepared q) (·.enterRun m.frames.length id callee args) :=
  invokeAbove_eq m id callee args

/-- An invocation that succeeds leaves the frames that were there, and so does its preparation. -/
theorem length_frames_of_prepared {m m₁ : Machine} {q : Routine}
    (hprepared : m.prepared q = ⟨m₁, .ok ()⟩) : m₁.frames.length ≤ m.frames.length := by
  unfold prepared at hprepared
  split at hprepared
  · rw [runInitializer_eq] at hprepared
    split at hprepared
    · cases hprepared
      exact Nat.le_refl _
    · rename_i h i _
      generalize hrun : enterRun { m with heap := h } m.frames.length i none [] = o at hprepared
      obtain ⟨m', result⟩ := o
      cases result with
      | error e => cases hprepared
      | ok v =>
        cases hprepared
        exact length_frames_of_enterRun hrun
  · cases hprepared
    exact Nat.le_refl _

theorem length_frames_of_invokeAbove {m m' : Machine} {id : RoutineId} {callee : Option ObjectId}
    {args : List Value} {v : Option Value}
    (hinvoke : m.invokeAbove id callee args = ⟨m', .ok v⟩) :
    m'.frames.length ≤ m.frames.length := by
  rw [invokeAbove_eq_prepared] at hinvoke
  split at hinvoke
  · cases hinvoke
  · unfold andThen at hinvoke
    split at hinvoke
    · cases hinvoke
    · exact length_frames_of_enterRun hinvoke

/-- An invocation begins by making the machine `m₁` enter a routine: first the initializer of the
class, if that is due, and then the routine. -/
inductive Begins (m : Machine) (id : RoutineId) (callee : Option ObjectId) (args : List Value) :
    Machine → RoutineId → Option ObjectId → List Value → Prop where
  | initializer {q h i} (hq : m.program.routine? id = some q) (hkind : q.kind = .static)
    (hprepare : m.heap.prepare? m.program q.owner = some (h, i)) :
    Begins m id callee args { m with heap := h } i none []
  | routine {q m₁} (hq : m.program.routine? id = some q) (hprepared : m.prepared q = ⟨m₁, .ok ()⟩) :
    Begins m id callee args m₁ id callee args

/-- The invocation is the run of the routine that it begins by entering, or goes on with the routine
after that. -/
theorem Begins.invokeAbove_eq {m m₁ : Machine} {id i : RoutineId} {callee c : Option ObjectId}
    {args a : List Value} (hbegins : m.Begins id callee args m₁ i c a) :
    m.invokeAbove id callee args = m₁.enterRun m.frames.length i c a ∨
      m.invokeAbove id callee args =
        andThen (ignoring (m₁.enterRun m.frames.length i c a))
          (·.enterRun m.frames.length id callee args) := by
  rw [invokeAbove_eq_prepared]
  cases hbegins with
  | initializer hq hkind hprepare =>
    refine .inr ?_
    simp only [hq, prepared, if_pos hkind]
    rw [runInitializer_eq, hprepare]
  | routine hq hprepared => exact .inl (by simp only [hq, hprepared, andThen])

/-- The invocation goes through the run. -/
def Visits (m : Machine) (id : RoutineId) (callee : Option ObjectId) (args : List Value)
    (s : Run) : Prop :=
  ∃ m₁ i c a m₂, m.Begins id callee args m₁ i c a ∧ m₁.enter i c a = ⟨m₂, .ok ()⟩ ∧
    (m₂.started m.frames.length).Reaches s

/-- In the course of the invocation the machine `m₁` enters a routine: at the beginning, or on an
instruction. -/
inductive Enters (m : Machine) (id : RoutineId) (callee : Option ObjectId) (args : List Value) :
    Machine → RoutineId → Option ObjectId → List Value → Prop where
  | begins {m₁ i c a} (hbegins : m.Begins id callee args m₁ i c a) :
    Enters m id callee args m₁ i c a
  | calls {s m' m₁ i c a} (hvisits : m.Visits id callee args s) (hexecutes : s.Executes m')
    (hcalls : m'.Calls m₁ i c a) : Enters m id callee args m₁ i c a

/-! ## What is kept -/

/-- What every operation of a machine keeps. -/
structure Kept (P : Machine → Prop) : Prop where
  clocked : ∀ {m : Machine} {w : Watchdog} {k : Nat}, P m →
    P { m with watchdog := w, executed := k }
  prepared : ∀ {m : Machine} {x : ClassId} {h : Heap} {i : RoutineId},
    m.heap.prepare? m.program x = some (h, i) → P m → P { m with heap := h }
  calls : ∀ {m m₁ : Machine} {i : RoutineId} {c : Option ObjectId} {a : List Value},
    m.Calls m₁ i c a → P m → P m₁
  entered : ∀ {m : Machine} {i : RoutineId} {c : Option ObjectId} {a : List Value}
    {o : Outcome Unit}, m.Entered i c a o → P m → P o.machine
  executed : ∀ {m : Machine} {o : Outcome Flow}, m.Executed o → P m → P o.machine
  delivered : ∀ {m : Machine} {v : Option Value}, P m → P (m.deliver v)

namespace Kept

theorem and {P Q : Machine → Prop} (hP : Kept P) (hQ : Kept Q) : Kept fun m => P m ∧ Q m where
  clocked := fun ⟨hm, hm'⟩ => ⟨hP.clocked hm, hQ.clocked hm'⟩
  prepared := fun hprepare ⟨hm, hm'⟩ => ⟨hP.prepared hprepare hm, hQ.prepared hprepare hm'⟩
  calls := fun hcalls ⟨hm, hm'⟩ => ⟨hP.calls hcalls hm, hQ.calls hcalls hm'⟩
  entered := fun hentered ⟨hm, hm'⟩ => ⟨hP.entered hentered hm, hQ.entered hentered hm'⟩
  executed := fun hexecuted ⟨hm, hm'⟩ => ⟨hP.executed hexecuted hm, hQ.executed hexecuted hm'⟩
  delivered := fun ⟨hm, hm'⟩ => ⟨hP.delivered hm, hQ.delivered hm'⟩

variable {P : Machine → Prop} {m m₁ : Machine} {s t : Run} {id i : RoutineId}
  {callee c : Option ObjectId} {args a : List Value}

theorem polled (hP : Kept P) (hm : P m) {counter : Nat} {stop : Bool}
    (hpoll : m.poll counter = (stop, m₁)) : P m₁ := by
  obtain ⟨w, rfl⟩ := Run.eq_of_poll hpoll
  exact hP.clocked hm

theorem executes (hP : Kept P) (hs : P s.machine) (hexecutes : s.Executes m) : P m := by
  obtain ⟨w, rfl⟩ := hexecutes.eq
  exact hP.clocked hs

theorem step (hP : Kept P) {m' : Machine} {result : Except Located Flow} (hm : P m)
    (hstep : m.step = ⟨m', result⟩) : P m' := by
  have hexecuted := m.executed_step
  rw [hstep] at hexecuted
  exact hP.executed hexecuted hm

theorem enter (hP : Kept P) {m' : Machine} {result : Except Located Unit} (hm : P m)
    (henter : m.enter i c a = ⟨m', result⟩) : P m' := by
  have hentered := m.entered_enter i c a
  rw [henter] at hentered
  exact hP.entered hentered hm

theorem next (hP : Kept P) (hs : P s.machine) (hnext : s.Next t) : P t.machine := by
  cases hnext with
  | goesOn hexecutes hstep => exact hP.step (hP.executes hs hexecutes) hstep
  | returned hexecutes hstep => exact hP.delivered (hP.step (hP.executes hs hexecutes) hstep)

theorem reaches (hP : Kept P) (hs : P s.machine) (hreaches : s.Reaches t) : P t.machine := by
  induction hreaches with
  | refl => exact hs
  | tail _ hnext ih => exact hP.next ih hnext

theorem ends (hP : Kept P) (hs : P s.machine) {o : Outcome (Option Value)} (hends : s.Ends o) :
    P o.machine := by
  cases hends with
  | stopped hpoll => exact hP.polled hs hpoll
  | exhausted hpoll => exact hP.polled hs hpoll
  | fails hexecutes hstep => exact hP.step (hP.executes hs hexecutes) hstep
  | returns hexecutes hstep => exact hP.step (hP.executes hs hexecutes) hstep

theorem run (hP : Kept P) (hm : P m) (base : Nat) : P (m.run base).machine := by
  obtain ⟨t, hreaches, hends⟩ := Run.ends (m.started base)
  exact hP.ends (hP.reaches hm hreaches) hends

theorem enterRun (hP : Kept P) (hm : P m) (base : Nat) (i : RoutineId) (c : Option ObjectId)
    (a : List Value) : P (m.enterRun base i c a).machine := by
  unfold Machine.enterRun andThen
  cases henter : m.enter i c a with
  | mk m' result =>
    have hm' := hP.enter hm henter
    cases result with
    | error e => exact hm'
    | ok u => exact hP.run hm' base

theorem runInitializer (hP : Kept P) (hm : P m) (x : ClassId) :
    P (m.runInitializer x).machine := by
  rw [runInitializer_eq]
  cases hprepare : m.heap.prepare? m.program x with
  | none => exact hm
  | some prepared => exact hP.enterRun (hP.prepared hprepare hm) _ _ _ _

theorem preparation (hP : Kept P) (hm : P m) {q : Routine} {result : Except Located Unit}
    (hprepared : m.prepared q = ⟨m₁, result⟩) : P m₁ := by
  unfold Machine.prepared at hprepared
  split at hprepared
  · have hinitializer := hP.runInitializer hm q.owner
    rwa [hprepared] at hinitializer
  · cases hprepared
    exact hm

theorem begins (hP : Kept P) (hm : P m) (hbegins : m.Begins id callee args m₁ i c a) : P m₁ := by
  cases hbegins with
  | initializer _ _ hprepare => exact hP.prepared hprepare hm
  | routine _ hprepared => exact hP.preparation hm hprepared

theorem visits (hP : Kept P) (hm : P m) (hvisits : m.Visits id callee args s) : P s.machine := by
  obtain ⟨m₁, i, c, a, m₂, hbegins, henter, hreaches⟩ := hvisits
  exact hP.reaches (hP.enter (hP.begins hm hbegins) henter) hreaches

theorem enters (hP : Kept P) (hm : P m) (henters : m.Enters id callee args m₁ i c a) : P m₁ := by
  cases henters with
  | begins hbegins => exact hP.begins hm hbegins
  | calls hvisits hexecutes hcalls =>
    exact hP.calls hcalls (hP.executes (hP.visits hm hvisits) hexecutes)

theorem invokeAbove (hP : Kept P) (hm : P m) (id : RoutineId) (callee : Option ObjectId)
    (args : List Value) : P (m.invokeAbove id callee args).machine := by
  rw [invokeAbove_eq_prepared]
  cases hq : m.program.routine? id with
  | none => exact hm
  | some q =>
    simp only [andThen]
    cases hprepared : m.prepared q with
    | mk m₁ result =>
      have hm₁ := hP.preparation hm hprepared
      cases result with
      | error e => exact hm₁
      | ok u => exact hP.enterRun hm₁ _ _ _ _

/-- An invocation that fails is cut off. -/
theorem invoke_of_above (hcut : ∀ {m : Machine} {base : Nat}, P m → P (m.cutTo base))
    (habove : P (m.invokeAbove id callee args).machine) : P (m.invoke id callee args).machine := by
  unfold Machine.invoke
  generalize m.invokeAbove id callee args = o at habove
  obtain ⟨m', e | v⟩ := o
  · exact hcut habove
  · exact habove

theorem invoke (hP : Kept P) (hcut : ∀ {m : Machine} {base : Nat}, P m → P (m.cutTo base))
    (hm : P m) (id : RoutineId) (callee : Option ObjectId) (args : List Value) :
    P (m.invoke id callee args).machine :=
  invoke_of_above hcut (hP.invokeAbove hm id callee args)

/-- What holds after the routine that an invocation begins by entering holds after the
invocation. -/
theorem invoke_of_begins (hP : Kept P) (hcut : ∀ {m : Machine} {base : Nat}, P m → P (m.cutTo base))
    (hbegins : m.Begins id callee args m₁ i c a)
    (hm : P (m₁.enterRun m.frames.length i c a).machine) :
    P (m.invoke id callee args).machine := by
  refine invoke_of_above hcut ?_
  rcases hbegins.invokeAbove_eq with heq | heq
  · rwa [heq]
  · rw [heq]
    unfold andThen
    split
    · exact hm
    · exact hP.enterRun hm _ _ _ _

/-- What an instruction on the way brings about holds after the invocation. -/
theorem invoke_of_step (hP : Kept P) (hcut : ∀ {m : Machine} {base : Nat}, P m → P (m.cutTo base))
    (hvisits : m.Visits id callee args s) {m' : Machine} (hexecutes : s.Executes m')
    (hm' : P m'.step.machine) : P (m.invoke id callee args).machine := by
  have hrun : ∀ t : Run, P t.machine → P t.outcome.machine := fun t ht => by
    obtain ⟨u, hreaches, hends⟩ := t.ends
    exact hP.ends (hP.reaches ht hreaches) hends
  have hs : P s.outcome.machine := by
    rw [hexecutes.outcome_eq]
    split
    · exact hm'
    · exact hrun _ hm'
    · split
      · exact hm'
      · exact hrun _ (hP.delivered hm')
  obtain ⟨m₁, i, c, a, m₂, hbegins, henter, hreaches⟩ := hvisits
  refine hP.invoke_of_begins hcut hbegins ?_
  rw [Machine.enterRun, andThen, henter]
  rwa [← hreaches.outcome_eq] at hs

end Kept

/-- Cutting off what a failed invocation left does not change its result. -/
theorem result_invoke (m : Machine) (id : RoutineId) (callee : Option ObjectId)
    (args : List Value) :
    (m.invoke id callee args).result = (m.invokeAbove id callee args).result := by
  unfold invoke
  generalize m.invokeAbove id callee args = o
  obtain ⟨m', e | v⟩ := o <;> rfl

/-- A failure on the way is that of the invocation. -/
theorem Begins.fails {m m₁ : Machine} {id i : RoutineId} {callee c : Option ObjectId}
    {args a : List Value} {e : Located} (hbegins : m.Begins id callee args m₁ i c a)
    (hfails : (m₁.enterRun m.frames.length i c a).result = .error e) :
    (m.invoke id callee args).result = .error e := by
  rw [result_invoke]
  rcases hbegins.invokeAbove_eq with heq | heq
  · rw [heq, hfails]
  · simp only [heq, andThen, ignoring, hfails]
    rfl

theorem Visits.fails {m m' m'' : Machine} {id : RoutineId} {callee : Option ObjectId}
    {args : List Value} {s : Run} {e : Located} (hvisits : m.Visits id callee args s)
    (hexecutes : s.Executes m') (hstep : m'.step = ⟨m'', .error e⟩) :
    (m.invoke id callee args).result = .error e := by
  obtain ⟨m₁, i, c, a, m₂, hbegins, henter, hreaches⟩ := hvisits
  refine hbegins.fails ?_
  rw [enterRun, andThen, henter]
  change (m₂.started m.frames.length).outcome.result = .error e
  rw [hreaches.outcome_eq, hexecutes.outcome_of_fails hstep]

/-! ## Commands -/

/-- What a command can do to a machine. -/
inductive Obeyed (m : Machine) : Machine → Prop where
  | refused : Obeyed m m
  | invoked (id : RoutineId) (callee : Option ObjectId) (args : List Value) :
    Obeyed m (m.invoke id callee args).machine
  | changed {h : Heap} (hbecomes : m.heap.Becomes h) : Obeyed m { m with heap := h }
  | begun (id : RunId) : Obeyed m { m with recorder := m.recorder.map (·.beginRun id) }
  | finished : Obeyed m { m with recorder := m.recorder.map (·.finishRun) }

theorem obeyed_obey (m : Machine) (c : Command) : m.Obeyed (m.obey c).2 := by
  cases c with
  | invoke id callee args => exact .invoked id callee args
  | store field v =>
    simp only [obey]
    cases hstore : m.heap.store field v with
    | error e => exact .refused
    | ok h => exact .changed (Heap.becomes_store hstore)
  | setShared owner on => exact .changed (Heap.becomes_modifyStorage _ _ fun _ => rfl)
  | setFrozen owner on => exact .changed (Heap.becomes_modifyStorage _ _ fun _ => rfl)
  | setThreads threads => exact .changed (Heap.becomes_setThreads _ threads)
  | allocate x =>
    simp only [obey, allocate]
    cases m.program.class? x with
    | none => exact .refused
    | some c => exact .changed (Heap.becomes_allocate _ x c)
  | beginRun id => exact .begun id
  | finishRun => exact .finished

/-- The machine after some commands. -/
def obeyAll (m : Machine) (commands : List Command) : Machine :=
  commands.foldl (fun m c => (m.obey c).2) m

theorem obeyAll_keeps {P : Machine → Prop}
    (hP : ∀ {m : Machine} (c : Command), P m → P (m.obey c).2) {m : Machine} (hm : P m)
    (commands : List Command) : P (m.obeyAll commands) := by
  induction commands generalizing m with
  | nil => exact hm
  | cons c commands ih => exact ih (hP c hm)

/-- What every command keeps. -/
structure Lasts (P : Machine → Prop) : Prop extends Kept P where
  cut : ∀ {m : Machine} {base : Nat}, P m → P (m.cutTo base)
  changed : ∀ {m : Machine} {h : Heap}, m.heap.Becomes h → P m → P { m with heap := h }
  begun : ∀ {m : Machine} {id : RunId}, P m →
    P { m with recorder := m.recorder.map (·.beginRun id) }
  finished : ∀ {m : Machine}, P m → P { m with recorder := m.recorder.map (·.finishRun) }

namespace Lasts

variable {P : Machine → Prop} {m : Machine}

theorem invoke (hP : Lasts P) (hm : P m) (id : RoutineId) (callee : Option ObjectId)
    (args : List Value) : P (m.invoke id callee args).machine :=
  hP.toKept.invoke hP.cut hm id callee args

theorem obey (hP : Lasts P) (hm : P m) (c : Command) : P (m.obey c).2 := by
  have hobeyed := m.obeyed_obey c
  generalize (m.obey c).2 = m' at hobeyed
  cases hobeyed with
  | refused => exact hm
  | invoked id callee args => exact hP.invoke hm id callee args
  | changed hbecomes => exact hP.changed hbecomes hm
  | begun id => exact hP.begun hm
  | finished => exact hP.finished hm

theorem obeyAll (hP : Lasts P) (hm : P m) (commands : List Command) : P (m.obeyAll commands) :=
  obeyAll_keeps (P := P) (fun c hm => hP.obey hm c) hm commands

end Lasts

/-- Whatever a machine does, its program and its limits stay. -/
theorem lasts_settings (p : Program) (config : MachineConfig) :
    Lasts fun m => m.program = p ∧ m.config = config where
  clocked := id
  prepared := fun _ hm => hm
  calls := fun hcalls hm => by cases hcalls <;> exact hm
  entered := fun hentered hm => by cases hentered <;> exact hm
  executed := by
    intro m o hexecuted hm
    cases hexecuted with
    | @enters m₁ i c a hcalls =>
      have hm₁ : m₁.program = p ∧ m₁.config = config := by cases hcalls <;> exact hm
      have hentered := m₁.entered_enter i c a
      change (m₁.enter i c a).machine.program = p ∧ (m₁.enter i c a).machine.config = config
      generalize m₁.enter i c a = o at hentered
      cases hentered <;> exact hm₁
    | _ => exact hm
  delivered := fun {m v} hm => by
    unfold deliver
    split <;> exact hm
  cut := id
  changed := fun _ hm => hm
  begun := id
  finished := id

end Machine

end Reprise
