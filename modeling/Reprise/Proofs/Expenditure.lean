import Reprise.Proofs.Course

/-!
# What an invocation costs

Each instruction takes one from what is left of the limit, and nothing else does: what a run has
executed and what it may still execute have the same sum from its beginning to its end
(`Run.Reaches.budget`).  So a run executes at most as many instructions as the limit says, and
exactly that many if the limit stops it; that is `Outcome.Within`.

The initializers of classes that are first used on the way run within the run that uses them.  A
static routine invoked from outside is different: the initializer of its class runs before it, and
the routine then has the whole limit again.

    (m.run base).Within limit m.executed                                           (within_run)
    (m.preparation id).Within limit m.executed                             (within_preparation)
    (m.invoke id callee args).Within limit (m.preparation id).machine.executed  (within_invoke)
-/

namespace Reprise

/-- After `executed` instructions the operation executes at most `limit` more, and exactly that many
if the instruction limit stops it. -/
structure Outcome.Within {α : Type} (o : Outcome α) (limit executed : Nat) : Prop where
  grows : executed ≤ o.machine.executed
  atMost : o.machine.executed ≤ executed + limit
  exactly : ∀ here n, o.result = .error ⟨here, .instructionLimitExceeded n⟩ →
    n = limit ∧ o.machine.executed = executed + limit

namespace Machine

variable {m m₁ : Machine} {id i : RoutineId} {callee c : Option ObjectId} {args a : List Value}

/-! ## What costs nothing -/

theorem Calls.executed_eq (hcalls : m.Calls m₁ i c a) : m₁.executed = m.executed := by
  cases hcalls <;> rfl

theorem Entered.executed_eq {o : Outcome Unit} (hentered : m.Entered i c a o) :
    o.machine.executed = m.executed := by
  cases hentered <;> rfl

/-- The instruction was counted before. -/
theorem Executed.executed_eq {o : Outcome Flow} (hexecuted : m.Executed o) :
    o.machine.executed = m.executed := by
  cases hexecuted with
  | @enters m₁ i c a hcalls => exact (m₁.entered_enter i c a).executed_eq.trans hcalls.executed_eq
  | _ => rfl

theorem executed_deliver (m : Machine) (v : Option Value) :
    (m.deliver v).executed = m.executed := by
  unfold deliver
  split <;> rfl

/-! ## What the limit does not stop -/

theorem Entered.not_exceeded {o : Outcome Unit} (hentered : m.Entered i c a o) (here : Location)
    (n : Nat) : o.result ≠ .error ⟨here, .instructionLimitExceeded n⟩ := by
  intro hresult
  cases hentered with
  | refused hentry =>
    cases hresult
    rcases failure_of_entry hentry with hdepth | hplain
    · cases hdepth
    · cases hplain
  | lost _ _ _ hlimit =>
    cases hresult
    cases hlimit
  | stops _ _ _ _ hlimit =>
    cases hresult
    cases hlimit
  | _ => cases hresult

theorem Executed.not_exceeded {o : Outcome Flow} (hexecuted : m.Executed o) (here : Location)
    (n : Nat) : o.result ≠ .error ⟨here, .instructionLimitExceeded n⟩ := by
  intro hresult
  cases hexecuted with
  | stuck hplain =>
    cases hresult
    cases hplain
  | fails _ _ _ hplain =>
    cases hresult
    cases hplain
  | @enters m₁ i c a hcalls =>
    have hentered := (m₁.entered_enter i c a).not_exceeded here n
    generalize m₁.enter i c a = o at hentered hresult
    obtain ⟨m₂, e | u⟩ := o <;> cases hresult
    exact hentered rfl
  | _ => cases hresult

end Machine

/-! ## Runs -/

namespace Run

variable {s t : Run}

/-- An instruction of a run is counted once, whatever comes of it. -/
theorem Executes.executed_eq {m m' : Machine} {result : Except Located Flow}
    (hexecutes : s.Executes m) (hstep : m.step = ⟨m', result⟩) :
    m'.executed = s.machine.executed + 1 := by
  have hexecuted := m.executed_step.executed_eq
  rw [hstep] at hexecuted
  obtain ⟨w, rfl⟩ := hexecutes.eq
  exact hexecuted

/-- An instruction takes one from what is left. -/
theorem Next.budget (hnext : s.Next t) :
    s.machine.executed ≤ t.machine.executed ∧
      t.machine.executed + t.remaining = s.machine.executed + s.remaining := by
  cases hnext with
  | goesOn hexecutes hstep =>
    have hcounted := hexecutes.executed_eq hstep
    have hleft := hexecutes.1
    simp only [after]
    omega
  | @returned m m' v hexecutes hstep =>
    have hcounted := hexecutes.executed_eq hstep
    have hleft := hexecutes.1
    have hdelivered := m'.executed_deliver v
    simp only [after]
    omega

theorem Reaches.budget (hreaches : s.Reaches t) :
    s.machine.executed ≤ t.machine.executed ∧
      t.machine.executed + t.remaining = s.machine.executed + s.remaining := by
  induction hreaches with
  | refl => exact ⟨Nat.le_refl _, rfl⟩
  | tail _ hnext ih =>
    have hbudget := hnext.budget
    omega

/-- A run ends within what is left of it. -/
theorem Ends.within {o : Outcome (Option Value)} {limit : Nat} (hends : s.Ends o)
    (hlimit : s.machine.config.instructionLimit = limit) :
    s.machine.executed ≤ o.machine.executed ∧
      o.machine.executed ≤ s.machine.executed + s.remaining ∧
      ∀ here n, o.result = .error ⟨here, .instructionLimitExceeded n⟩ →
        n = limit ∧ o.machine.executed = s.machine.executed + s.remaining := by
  cases hends with
  | @stopped m e hpoll hfailure =>
    obtain ⟨w, rfl⟩ := eq_of_poll hpoll
    refine ⟨Nat.le_refl _, Nat.le_add_right _ _, fun here n hresult => ?_⟩
    cases hresult
    cases hfailure
  | @exhausted m e hpoll hspent hfailure =>
    obtain ⟨w, rfl⟩ := eq_of_poll hpoll
    refine ⟨Nat.le_refl _, Nat.le_add_right _ _, fun here n hresult => ?_⟩
    cases hresult
    cases hfailure
    exact ⟨hlimit, by rw [hspent]; rfl⟩
  | @fails m m' e hexecutes hstep =>
    have hcounted := hexecutes.executed_eq hstep
    have hleft := hexecutes.1
    refine ⟨by dsimp only; omega, by dsimp only; omega, fun here n hresult => ?_⟩
    have hexecuted := m.executed_step.not_exceeded here n
    rw [hstep] at hexecuted
    cases hresult
    exact absurd rfl hexecuted
  | returns hexecutes hstep =>
    have hcounted := hexecutes.executed_eq hstep
    have hleft := hexecutes.1
    refine ⟨by dsimp only; omega, by dsimp only; omega, fun here n hresult => ?_⟩
    cases hresult

end Run

namespace Machine

variable {m : Machine} {id : RoutineId}

theorem within_run (m : Machine) (base : Nat) :
    (m.run base).Within m.config.instructionLimit m.executed := by
  obtain ⟨t, hreaches, hends⟩ := Run.ends (m.started base)
  obtain ⟨hgrown, hsum⟩ := hreaches.budget
  obtain ⟨-, hconfig⟩ := (lasts_settings m.program m.config).reaches ⟨rfl, rfl⟩ hreaches
  have hbegun : (m.started base).machine.executed + (m.started base).remaining =
      m.executed + m.config.instructionLimit := rfl
  obtain ⟨hgrows, hmost, hexactly⟩ := hends.within (congrArg _ hconfig)
  refine ⟨?_, ?_, fun here n hresult => ?_⟩
  · exact Nat.le_trans hgrown hgrows
  · exact Nat.le_trans hmost (by omega)
  · obtain ⟨hn, hspent⟩ := hexactly here n hresult
    exact ⟨hn, hspent.trans (hsum.trans hbegun)⟩

/-- Entering costs nothing. -/
theorem within_enterRun (m : Machine) (base : Nat) (id : RoutineId) (callee : Option ObjectId)
    (args : List Value) :
    (m.enterRun base id callee args).Within m.config.instructionLimit m.executed := by
  have hentered := m.entered_enter id callee args
  have hsettings := (lasts_settings m.program m.config).entered hentered ⟨rfl, rfl⟩
  unfold enterRun andThen
  cases henter : m.enter id callee args with
  | mk m₁ result =>
    rw [henter] at hentered hsettings
    have hfree : m₁.executed = m.executed := hentered.executed_eq
    cases result with
    | error e =>
      refine ⟨Nat.le_of_eq hfree.symm, by dsimp only; omega, fun here n hresult => ?_⟩
      cases hresult
      exact absurd rfl (hentered.not_exceeded here n)
    | ok u =>
      have hrun := m₁.within_run base
      rw [hsettings.2, hfree] at hrun
      exact hrun

/-! ## Invocations -/

/-- What is done before a routine is entered from outside. -/
def preparation (m : Machine) (id : RoutineId) : Outcome Unit :=
  match m.program.routine? id with
  | none => ⟨m, .ok ()⟩
  | some q => m.prepared q

/-- The invocation of the routine begins with the initializer of its class. -/
def IsDue (m : Machine) (id : RoutineId) : Prop :=
  ∃ q, m.program.routine? id = some q ∧ q.kind = .static ∧
    m.heap.prepare? m.program q.owner ≠ none

theorem preparation_of_not_isDue (hdue : ¬ m.IsDue id) : m.preparation id = ⟨m, .ok ()⟩ := by
  unfold preparation
  cases hq : m.program.routine? id with
  | none => rfl
  | some q =>
    simp only [prepared]
    split
    · rename_i hkind
      have hnone : m.heap.prepare? m.program q.owner = none := by
        by_contra hprepare
        exact hdue ⟨q, hq, hkind, hprepare⟩
      rw [runInitializer_eq, hnone]
    · rfl

theorem within_same (m : Machine) (limit : Nat) :
    (⟨m, .ok ()⟩ : Outcome Unit).Within limit m.executed :=
  ⟨Nat.le_refl _, Nat.le_add_right _ _, fun _ _ hresult => by cases hresult⟩

theorem within_preparation (m : Machine) (id : RoutineId) :
    (m.preparation id).Within m.config.instructionLimit m.executed := by
  unfold preparation
  split
  · exact m.within_same _
  · unfold prepared
    split
    · rw [runInitializer_eq]
      split
      · exact m.within_same _
      · rename_i h i _
        have hrun := within_enterRun { m with heap := h } m.frames.length i none []
        refine ⟨hrun.grows, hrun.atMost, fun here n hresult => hrun.exactly here n ?_⟩
        simp only [ignoring] at hresult
        generalize Machine.enterRun _ _ _ _ _ = o at hresult
        obtain ⟨m₁, e | v⟩ := o <;> cases hresult
        rfl
    · exact m.within_same _

/-- A preparation that fails is all of its invocation. -/
theorem invokeAbove_of_unprepared {m₁ : Machine} {e : Located}
    (hfirst : m.preparation id = ⟨m₁, .error e⟩) (callee : Option ObjectId) (args : List Value) :
    m.invokeAbove id callee args = ⟨m₁, .error e⟩ := by
  rw [invokeAbove_eq_prepared]
  unfold preparation at hfirst
  cases hq : m.program.routine? id with
  | none =>
    rw [hq] at hfirst
    cases hfirst
  | some q =>
    simp only [hq] at hfirst
    simp only [andThen, hfirst]

/-- The routine is entered after its preparation, with the limits of before. -/
theorem within_invokeAbove {m₁ : Machine} (hfirst : m.preparation id = ⟨m₁, .ok ()⟩)
    (callee : Option ObjectId) (args : List Value) :
    (m.invokeAbove id callee args).Within m.config.instructionLimit m₁.executed := by
  rw [invokeAbove_eq_prepared]
  unfold preparation at hfirst
  cases hq : m.program.routine? id with
  | none =>
    rw [hq] at hfirst
    cases hfirst
    exact ⟨Nat.le_refl _, Nat.le_add_right _ _, fun _ _ hresult => by cases hresult⟩
  | some q =>
    simp only [hq] at hfirst
    have hsettings := (lasts_settings m.program m.config).preparation ⟨rfl, rfl⟩ hfirst
    have hrun := m₁.within_enterRun m.frames.length id callee args
    rw [hsettings.2] at hrun
    simpa only [andThen, hfirst] using hrun

/-- Cutting off what a failed invocation left costs nothing. -/
theorem executed_invoke (m : Machine) (id : RoutineId) (callee : Option ObjectId)
    (args : List Value) :
    (m.invoke id callee args).machine.executed =
      (m.invokeAbove id callee args).machine.executed := by
  unfold invoke
  generalize m.invokeAbove id callee args = o
  obtain ⟨m', e | v⟩ := o <;> rfl

theorem within_invoke {m₁ : Machine} (hfirst : m.preparation id = ⟨m₁, .ok ()⟩)
    (callee : Option ObjectId) (args : List Value) :
    (m.invoke id callee args).Within m.config.instructionLimit m₁.executed := by
  obtain ⟨hgrows, hmost, hexactly⟩ := within_invokeAbove hfirst callee args
  rw [← executed_invoke] at hgrows hmost hexactly
  rw [← result_invoke] at hexactly
  exact ⟨hgrows, hmost, hexactly⟩

/-- The instruction limit bounds each of the two runs of an invocation, whatever the machine, the
program, the watchdog and the recorder are: first that of the class initializer, if the routine is
static and its class has not been used, and then that of the routine, with all the initializers in
it.  Each executes at most as many instructions as the limit says, and exactly that many if the
limit stops it; if the first fails there is no second.  So an invocation that does not begin with an
initializer keeps to the limit, and any other to twice the limit. -/
theorem limit_bounds_each_run (m : Machine) (id : RoutineId) (callee : Option ObjectId)
    (args : List Value) :
    let limit := m.config.instructionLimit
    let first := m.preparation id
    let invoked := m.invoke id callee args
    first.Within limit m.executed ∧
      (∀ e, first.result = .error e → invoked.result = .error e ∧
        invoked.machine.executed = first.machine.executed) ∧
      (first.result = .ok () → invoked.Within limit first.machine.executed) ∧
      (¬ m.IsDue id → invoked.Within limit m.executed) ∧
      invoked.machine.executed ≤ m.executed + 2 * limit := by
  intro limit first invoked
  have hfirst : first.Within limit m.executed := m.within_preparation id
  have hresult := m.result_invoke id callee args
  have hexecuted := m.executed_invoke id callee args
  have hdue : ¬ m.IsDue id → first = ⟨m, .ok ()⟩ := preparation_of_not_isDue
  have hmost := hfirst.atMost
  cases hprepared : first with
  | mk m₁ result =>
    rw [hprepared] at hfirst hdue hmost
    cases result with
    | error e =>
      have habove := invokeAbove_of_unprepared hprepared callee args
      rw [habove] at hresult hexecuted
      refine ⟨hfirst, fun e' he' => ?_, fun hok => (by cases hok),
        fun hnot => (by cases hdue hnot), ?_⟩
      · cases he'
        exact ⟨hresult, hexecuted⟩
      · have hcost : invoked.machine.executed = m₁.executed := hexecuted
        simp only at hmost
        omega
    | ok u =>
      have hsecond : invoked.Within limit m₁.executed := within_invoke hprepared callee args
      refine ⟨hfirst, fun e he => (by cases he), fun _ => hsecond, fun hnot => ?_, ?_⟩
      · obtain ⟨rfl, -⟩ := Outcome.mk.inj (hdue hnot)
        exact hsecond
      · have hmost' := hsecond.atMost
        simp only at hmost
        omega

/-- A class with an initializer of three instructions, a routine that reads what it wrote, and one
that never ends. -/
def initializedClass : Program := .ofAdditions [
  .ofClass { name := "A", statics := [("x", .int)] },
  .ofRoutine ⟨0⟩ "<clinit>" {
    kind := .classInitializer, code := #[.push (.int 7), .putStatic ⟨0⟩ "x", .leave] },
  .ofRoutine ⟨0⟩ "get" { returns := some .int, code := #[.getStatic ⟨0⟩ "x", .leave] },
  .ofRoutine ⟨0⟩ "spin" { code := #[.jump 0] }]

theorem built_initializedClass : initializedClass.Built :=
  Program.built_ofAdditions (by simp [Addition.IsPlain])

/-- With a limit of three instructions an invocation executes five and succeeds, and one that the
limit stops has executed six. -/
theorem limit_not_of_invocation :
    let m := Machine.new initializedClass { instructionLimit := 3 } .never
    let got := m.invoke ⟨1⟩ none []
    let spun := m.invoke ⟨2⟩ none []
    initializedClass.Built ∧
      got.result = .ok (some (.int 7)) ∧ got.machine.executed = 5 ∧ ¬ got.Within 3 m.executed ∧
      spun.result = .error ⟨⟨⟨2⟩, 0⟩, .instructionLimitExceeded 3⟩ ∧
      spun.machine.executed = 6 ∧ ¬ spun.Within 3 m.executed := by
  intro m got spun
  have hgot : got.machine.executed = 5 := by decide +kernel
  have hspun : spun.machine.executed = 6 := by decide +kernel
  refine ⟨built_initializedClass, by decide +kernel, hgot, fun hwithin => ?_, by decide +kernel,
    hspun, fun hwithin => ?_⟩
  · have hmost := hwithin.atMost
    rw [hgot] at hmost
    exact absurd hmost (by decide)
  · have hmost := hwithin.atMost
    rw [hspun] at hmost
    exact absurd hmost (by decide)

end Machine

end Reprise
