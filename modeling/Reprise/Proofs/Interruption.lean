import Reprise.Proofs.CallStack
import Reprise.Proofs.ClassUse

/-!
# What an initializer leaves of the frame that it interrupts

An instruction that uses a class whose initializer is due is put off: the frame stays as it is, and
the frame of the initializer is pushed above it.  As long as that frame stands, nothing below it
changes (`Run.Next.stands`).  When it returns, the run goes on as after any other call, so a value
that the initializer returns is pushed onto the operand stack of the interrupted frame.

    the interrupted frame is as it was ↔ the initializer has no return type
                                                                  (interrupted_frame_resumes)

The class is marked by then, so the instruction is not put off a second time.
-/

namespace Reprise

/-- Other frames stand above `below`, and the lowest of them is of the routine. -/
def Machine.StandsAbove (m : Machine) (i : RoutineId) (below : List Frame) : Prop :=
  ∃ top g, g.routine = i ∧ m.frames = top ++ g :: below

namespace Machine

variable {m m' : Machine} {i : RoutineId} {below : List Frame} {v : Option Value}

/-- An instruction that leaves no frame replaces the innermost one by another of its routine, and
may push frames above it. -/
theorem frames_of_goesOn (hstep : m.step = ⟨m', .ok .goesOn⟩) :
    ∃ f fs pushed f', m.frames = f :: fs ∧ f'.routine = f.routine ∧
      m'.frames = pushed ++ f' :: fs := by
  have hexecuted := m.executed_step
  generalize m.step = o at hexecuted hstep
  cases hexecuted with
  | unheard hframes hnext =>
    cases hstep
    exact ⟨_, _, [], _, hframes, routine_of_proceed (deed_of_next hnext), rfl⟩
  | heard hframes hnext =>
    cases hstep
    exact ⟨_, _, [], _, hframes, routine_of_proceed (deed_of_next hnext), rfl⟩
  | @enters m₁ i c a hcalls =>
    obtain ⟨f, fs, f', hframes, hf', hframes₁⟩ : ∃ f fs f', m.frames = f :: fs ∧
        f'.routine = f.routine ∧ m₁.frames = f' :: fs := by
      cases hcalls with
      | prepares hframes => exact ⟨_, _, _, hframes, rfl, hframes⟩
      | calls hframes hnext =>
        cases deed_of_next hnext with
        | calls hf => exact ⟨_, _, _, hframes, hf, rfl⟩
    rcases (m₁.entered_enter i c a).frames with ⟨_, g, -, -, hpushed⟩ | ⟨e, -, henter⟩
    · obtain ⟨rfl, -⟩ := Outcome.mk.inj hstep
      exact ⟨f, fs, [g], f', hframes, hf', by rw [hpushed, hframes₁]; rfl⟩
    · rw [henter] at hstep
      cases hstep
  | _ => cases hstep

theorem frames_deliver (m : Machine) (v : Option Value) :
    (m.deliver v).frames = deliverTo v m.frames := by
  unfold deliver deliverTo
  cases v with
  | none => cases m.frames <;> rfl
  | some v =>
    cases hframes : m.frames with
    | nil => exact hframes
    | cons f fs => simp [setTop, hframes]

/-- A value goes onto the operand stack of the innermost frame, and changes nothing else. -/
theorem deliverTo_cons (v : Option Value) (f : Frame) (fs : List Frame) :
    ∃ f', f'.routine = f.routine ∧ deliverTo v (f :: fs) = f' :: fs := by
  cases v with
  | none => exact ⟨f, rfl, rfl⟩
  | some v => exact ⟨f.push v.widened, rfl, rfl⟩

theorem StandsAbove.goesOn (hm : m.StandsAbove i below) (hstep : m.step = ⟨m', .ok .goesOn⟩) :
    m'.StandsAbove i below := by
  obtain ⟨top, g, hg, hstands⟩ := hm
  obtain ⟨f, fs, pushed, f', hframes, hf', hframes'⟩ := frames_of_goesOn hstep
  rw [hstands] at hframes
  cases top with
  | nil =>
    obtain ⟨rfl, rfl⟩ := List.cons.inj hframes
    exact ⟨pushed, f', hf'.trans hg, hframes'⟩
  | cons f₀ top =>
    obtain ⟨rfl, rfl⟩ := List.cons.inj hframes
    exact ⟨pushed ++ f' :: top, g, hg, by rw [hframes', List.append_assoc]; rfl⟩

/-- A return from above leaves the frame standing, or it is the frame itself that returns. -/
theorem StandsAbove.returned (hm : m.StandsAbove i below)
    (hstep : m.step = ⟨m', .ok (.returned v)⟩) :
    (below.length < m'.frames.length ∧ (m'.deliver v).StandsAbove i below) ∨
      (m'.frames = below ∧ m.program.Returns i v) := by
  obtain ⟨top, g, hg, hstands⟩ := hm
  obtain ⟨f, fs, f', r, hframes, hnext, -, rfl⟩ := leaves_of_step hstep
  rw [hstands] at hframes
  cases top with
  | nil =>
    obtain ⟨rfl, rfl⟩ := List.cons.inj hframes
    refine .inr ⟨rfl, ?_⟩
    cases deed_of_next hnext with
    | finishes _ hreturns => exact hg ▸ hreturns
  | cons f₀ top =>
    obtain ⟨rfl, rfl⟩ := List.cons.inj hframes
    refine .inl ⟨by simp; omega, ?_⟩
    unfold StandsAbove
    rw [frames_deliver]
    cases top with
    | nil =>
      obtain ⟨g', hg', hdelivered⟩ := deliverTo_cons v g below
      exact ⟨[], g', hg'.trans hg, hdelivered⟩
    | cons f₁ top =>
      obtain ⟨f₁', -, hdelivered⟩ := deliverTo_cons v f₁ (top ++ g :: below)
      exact ⟨f₁' :: top, g, hg, hdelivered⟩

end Machine

namespace Run

/-- The next instruction, of the frame `f` above `fs`, is put off for the initializer of the class
that it uses, and the run goes on as `u` in that. -/
inductive Interrupts (s : Run) (f : Frame) (fs : List Frame) (x : ClassId) (i : RoutineId) :
    Run → Prop where
  | intro {m m' h} (hexecutes : s.Executes m) (hframes : m.frames = f :: fs)
    (huses : f.Uses m.program x) (hprepare : m.heap.prepare? m.program x = some (h, i))
    (hstep : m.step = ⟨m', .ok .goesOn⟩) : Interrupts s f fs x i (s.after m')

/-- The last frame above the outermost `depth` ones returns the value, and the run goes on as the
last one. -/
inductive Resumes (u : Run) (depth : Nat) (v : Option Value) : Run → Prop where
  | intro {t : Run} {m m' : Machine} (habove : (u.above depth).Reaches (t.above depth))
    (hbase : t.base = u.base) (hexecutes : t.Executes m) (hstep : m.step = ⟨m', .ok (.returned v)⟩)
    (hback : m'.frames.length ≤ depth) : Resumes u depth v (t.after (m'.deliver v))

variable {s t u r : Run} {f : Frame} {fs below : List Frame} {x : ClassId} {i : RoutineId}
  {v : Option Value}

theorem Executes.standsAbove {m : Machine} (hexecutes : s.Executes m)
    (hs : s.machine.StandsAbove i below) : m.StandsAbove i below := by
  obtain ⟨w, rfl⟩ := hexecutes.eq
  exact hs

/-- A run above `below` leaves the frame standing. -/
theorem Next.standsAbove (hnext : s.Next t) (hbase : s.base = below.length)
    (hs : s.machine.StandsAbove i below) : t.machine.StandsAbove i below := by
  cases hnext with
  | goesOn hexecutes hstep => exact (hexecutes.standsAbove hs).goesOn hstep
  | returned hexecutes hstep hdeeper =>
    rcases (hexecutes.standsAbove hs).returned hstep with ⟨-, hstands⟩ | ⟨hback, -⟩
    · exact hstands
    · rw [hback, hbase] at hdeeper
      exact absurd hdeeper (Nat.lt_irrefl _)

theorem Reaches.standsAbove (hreaches : s.Reaches t) (hbase : s.base = below.length)
    (hs : s.machine.StandsAbove i below) : t.machine.StandsAbove i below := by
  induction hreaches with
  | refl => exact hs
  | tail hreaches hnext ih => exact hnext.standsAbove ((Reaches.base_eq hreaches).trans hbase) ih

/-- What a run does above some frames it also does above fewer. -/
theorem Reaches.lower (hreaches : s.Reaches t) (hbase : s.base = below.length)
    (hs : s.machine.StandsAbove i below) {base : Nat} (hle : base ≤ below.length) :
    (s.above base).Reaches (t.above base) := by
  induction hreaches with
  | refl => exact .refl
  | @tail t t' hreaches hnext ih =>
    obtain ⟨top, g, -, hframes⟩ := Reaches.standsAbove (hreaches.tail hnext) hbase hs
    refine ih.tail (hnext.above ?_)
    rw [hframes, List.length_append, List.length_cons]
    omega

/-- A run in which the frame stands goes on above the frames below it, or the frame has returned on
the way. -/
theorem Reaches.stands_or_resumes (hreaches : u.Reaches t) (hu : u.machine.StandsAbove i below) :
    (t.machine.StandsAbove i below ∧ (u.above below.length).Reaches (t.above below.length)) ∨
      ∃ v r, u.Resumes below.length v r ∧ r.Reaches t := by
  induction hreaches with
  | refl => exact .inl ⟨hu, .refl⟩
  | @tail t t' hreaches hnext ih =>
    rcases ih with ⟨hstands, habove⟩ | ⟨v, r, hresumes, hreached⟩
    · cases hnext with
      | goesOn hexecutes hstep =>
        have hstands' := (hexecutes.standsAbove hstands).goesOn hstep
        exact .inl ⟨hstands', habove.tail (.goesOn hexecutes hstep)⟩
      | @returned m m' v hexecutes hstep hdeeper =>
        rcases (hexecutes.standsAbove hstands).returned hstep with ⟨hlonger, hstands'⟩ | ⟨hback, -⟩
        · exact .inl ⟨hstands', habove.tail (.returned hexecutes hstep hlonger)⟩
        · have hlength := Nat.le_of_eq (congrArg List.length hback)
          exact .inr ⟨v, _, .intro habove (Reaches.base_eq hreaches) hexecutes hstep hlength, .refl⟩
    · exact .inr ⟨v, r, hresumes, hreached.tail hnext⟩

/-- After an interruption the frame of the initializer stands above the interrupted one, and the
class is marked. -/
theorem Interrupts.stands (hinterrupts : s.Interrupts f fs x i u) :
    u.machine.StandsAbove i (f :: fs) ∧ u.machine.heap.marks x = some true ∧
      f.Uses u.machine.program x ∧ ∃ q, u.machine.program.routine? i = some q := by
  cases hinterrupts with
  | @intro m m' h hexecutes hframes huses hprepare hstep =>
    have hentered := Machine.entered_enter { m with heap := h } i none []
    obtain ⟨hprogram, -⟩ := (Machine.lasts_settings m.program m.config).step ⟨rfl, rfl⟩ hstep
    rw [(Machine.step_of_isUse ⟨f, fs, hframes, huses⟩ hprepare).2] at hstep
    obtain ⟨hm', hresult⟩ := Outcome.mk.inj hstep
    have hmarked := (Heap.marks_mark (Heap.prepare?_eq_some hprepare).2).2 x
    rw [if_pos rfl, ← hentered.marks_eq, hm'] at hmarked
    rcases hentered.frames with ⟨⟨q, _⟩, g, hentry, hg, hpushed⟩ | ⟨e, -, henter⟩
    · rw [hm', hframes] at hpushed
      have hq : m.program.routine? i = some q := (Machine.accepts_of_entry hentry).1
      rw [← hprogram] at huses hq
      exact ⟨⟨[], g, hg, hpushed⟩, hmarked, huses, q, hq⟩
    · rw [henter] at hresult
      cases hresult

/-- What a machine keeps holds when the frame has returned. -/
theorem Resumes.keeps {P : Machine → Prop} (hP : Machine.Kept P) {depth : Nat}
    (hresumes : u.Resumes depth v r) (hu : P u.machine) : P r.machine := by
  cases hresumes with
  | intro habove _ hexecutes hstep =>
    have ht := hP.reaches (s := u.above depth) hu habove
    exact hP.delivered (hP.step (hP.executes (s := _) ht hexecutes) hstep)

/-- When the initializer has returned, the frame that it interrupted is innermost again, with the
value that was returned on its operand stack. -/
theorem Resumes.returned (hresumes : u.Resumes below.length v r)
    (hu : u.machine.StandsAbove i below) :
    r.machine.frames = deliverTo v below ∧ u.machine.program.Returns i v ∧
      (u.base < below.length → u.Reaches r) := by
  cases hresumes with
  | @intro t m m' habove hbase hexecutes hstep hback =>
    have hstands := Reaches.standsAbove habove rfl hu
    rcases (hexecutes.standsAbove hstands).returned hstep with ⟨hlonger, -⟩ | ⟨hframes, hreturns⟩
    · omega
    · have hkept := (Machine.lasts_settings u.machine.program u.machine.config).toKept
      have ht := hkept.reaches (s := u.above below.length) ⟨rfl, rfl⟩ habove
      obtain ⟨hprogram, -⟩ := hkept.executes (s := t) ht hexecutes
      refine ⟨?_, hprogram ▸ hreturns, fun hlower => ?_⟩
      · rw [after, Machine.frames_deliver, hframes]
      · have hreaches := Reaches.lower habove rfl hu (Nat.le_of_lt hlower)
        rw [show (u.above below.length).above u.base = u from rfl,
          show (t.above below.length).above u.base = t by rw [← hbase]; rfl] at hreaches
        refine hreaches.tail (.returned hexecutes hstep ?_)
        rw [hbase, hframes]
        exact hlower

/-! ## Top theorem -/

/-- What is left of the frame that an initializer interrupted, in every run of every machine, at
each of the instructions that use a class.  While the frame of the initializer stands, the frames
below it are those of before.  When it returns, routine, program counter, local slots and operand
stack of the interrupted frame are those of before, but the value that the initializer returned, if
its routine has a return type, lies on top of the stack; so the frame is as it was exactly if the
initializer has no return type.  The instruction is then carried out, and not put off again. -/
theorem interrupted_frame_resumes (hinterrupts : s.Interrupts f fs x i u) :
    (∀ t, u.Reaches t → t.machine.StandsAbove i (f :: fs) ∨
      ∃ v r, u.Resumes (fs.length + 1) v r ∧ r.Reaches t) ∧
    ∃ q, u.machine.program.routine? i = some q ∧
      ∀ v r, u.Resumes (fs.length + 1) v r →
        (u.base ≤ fs.length → u.Reaches r) ∧
        v.isSome = q.returns.isSome ∧
        r.machine.frames =
          { f with stack := (v.map Value.widened).toList ++ f.stack } :: fs ∧
        (r.machine.frames = f :: fs ↔ q.returns = none) ∧
        ∀ m, r.Executes m → ∃ g, m.frames = g :: fs ∧
          ∀ h j, g.next m.program m.executed m.heap ≠ .ok (.prepare h j) := by
  obtain ⟨hstands, hmarked, huses, q, hq⟩ := hinterrupts.stands
  refine ⟨fun t hreaches => ?_, q, hq, fun v r hresumes => ?_⟩
  · exact (Reaches.stands_or_resumes hreaches hstands).imp_left And.left
  · obtain ⟨hframes, ⟨q', hq', -, hyields⟩, hgoes⟩ := hresumes.returned hstands
    obtain rfl : q' = q := Option.some.inj (hq'.symm.trans hq)
    have hsome := hyields.isSome
    have hexact : r.machine.frames =
        { f with stack := (v.map Value.widened).toList ++ f.stack } :: fs := by
      rw [hframes]
      cases v <;> rfl
    have hsame : r.machine.frames = f :: fs ↔ q'.returns = none := by
      rw [hexact, ← Option.not_isSome_iff_eq_none, ← hsome]
      cases v with
      | none => simp
      | some w =>
        have hlonger : w.widened :: f.stack ≠ f.stack := List.cons_ne_self _ _
        simpa using fun hframe => hlonger (congrArg Frame.stack hframe)
    refine ⟨fun hle => hgoes (Nat.lt_succ_of_le hle), hsome, hexact, hsame, fun m hexecutes => ?_⟩
    obtain ⟨hprogram, -⟩ := hresumes.keeps
      (Machine.lasts_settings u.machine.program u.machine.config).toKept ⟨rfl, rfl⟩
    have hready := hresumes.keeps (Machine.kept_marked x) hmarked
    obtain ⟨w, rfl⟩ := hexecutes.eq
    refine ⟨_, hexact, fun h j hnext => ?_⟩
    obtain ⟨y, husesy, hprepare⟩ := Frame.next_eq_prepare_iff.mp hnext
    -- the frame stands where it stood, so it uses the class that it used
    have huses' : f.Uses r.machine.program y := husesy
    rw [hprogram] at huses'
    obtain rfl := huses.unique huses'
    rw [Heap.prepare?_of_marked hready] at hprepare
    cases hprepare

end Run

namespace Machine

/-- A class whose initializer returns a value, and a routine that writes and reads its field. -/
def valuedInitializer : Program := .ofAdditions [
  .ofClass { name := "A", statics := [("x", .int)] },
  .ofClass { name := "B" },
  .ofRoutine ⟨0⟩ "<clinit>" {
    kind := .classInitializer, returns := some .int, code := #[.push (.int 5), .leave] },
  .ofRoutine ⟨1⟩ "f" {
    returns := some .int
    code := #[.push (.int 1), .putStatic ⟨0⟩ "x", .getStatic ⟨0⟩ "x", .leave] }]

theorem built_valuedInitializer : valuedInitializer.Built :=
  Program.built_ofAdditions (by simp [Addition.IsPlain])

/-- The frame of the routine before it writes the field. -/
def writingFrame : Frame := { routine := ⟨1⟩, pc := 1, stack := [.int 1] }

/-- The class is not used. -/
def unusedHeap : Heap := .ofClasses valuedInitializer.classes

/-- The class is marked. -/
def usedHeap : Heap :=
  { unusedHeap with
    classes := unusedHeap.classes.modify 0 fun state => { state with initialized := true } }

/-- A machine that runs the program, after the first question to its watchdog. -/
def valuedMachine (heap : Heap) (frames : List Frame) (executed : Nat) : Machine :=
  { program := valuedInitializer, config := {}, heap, frames, watchdog := Watchdog.never.ask.2
    executed }

/-- The invocation before the write. -/
def beforeWrite : Run := ⟨0, 9999999, 1, valuedMachine unusedHeap [writingFrame] 1⟩

/-- The initializer that the write has to wait for. -/
def initializing : Run :=
  ⟨0, 9999998, 2, valuedMachine usedHeap [{ routine := ⟨0⟩ }, writingFrame] 2⟩

/-- The invocation before the write again. -/
def resumed : Run := ⟨0, 9999996, 4, valuedMachine usedHeap [writingFrame.push (.int 5)] 4⟩

theorem visits_beforeWrite :
    (Machine.new valuedInitializer {} .never).Visits ⟨1⟩ none [] beforeWrite := by
  let entered : Machine :=
    { Machine.new valuedInitializer {} .never with frames := [{ routine := ⟨1⟩ }] }
  let executing : Machine := { entered with watchdog := Watchdog.never.ask.2, executed := 1 }
  have hexecutes : (entered.started 0).Executes executing := ⟨by decide, _, rfl, rfl⟩
  have hstep : executing.step = ⟨beforeWrite.machine, .ok .goesOn⟩ := rfl
  exact ⟨_, _, _, _, entered, .routine rfl rfl, rfl, .tail .refl (.goesOn hexecutes hstep)⟩

theorem interrupts_beforeWrite :
    beforeWrite.Interrupts writingFrame [] ⟨0⟩ ⟨0⟩ initializing := by
  have hexecutes : beforeWrite.Executes (valuedMachine unusedHeap [writingFrame] 2) :=
    ⟨by decide, _, rfl, rfl⟩
  have huses : writingFrame.Uses valuedInitializer ⟨0⟩ := ⟨_, _, rfl, rfl, rfl⟩
  have hprepare : unusedHeap.prepare? valuedInitializer ⟨0⟩ = some (usedHeap, ⟨0⟩) := by
    decide +kernel
  have huse : (valuedMachine unusedHeap [writingFrame] 2).IsUse ⟨0⟩ := ⟨_, _, rfl, huses⟩
  have hstep : (valuedMachine unusedHeap [writingFrame] 2).step =
      ⟨initializing.machine, .ok .goesOn⟩ := (step_of_isUse huse hprepare).2
  exact .intro hexecutes rfl huses hprepare hstep

theorem resumes_initializing : initializing.Resumes 1 (some (.int 5)) resumed := by
  let returning : Frame := { routine := ⟨0⟩, pc := 1, stack := [.int 5] }
  let t : Run := ⟨0, 9999997, 3, valuedMachine usedHeap [returning, writingFrame] 3⟩
  let back : Machine := valuedMachine usedHeap [writingFrame] 4
  have hexecutes : (initializing.above 1).Executes
      (valuedMachine usedHeap [{ routine := ⟨0⟩ }, writingFrame] 3) := ⟨by decide, _, rfl, rfl⟩
  have hpushes : (valuedMachine usedHeap [{ routine := ⟨0⟩ }, writingFrame] 3).step =
      ⟨t.machine, .ok .goesOn⟩ := rfl
  have habove : (initializing.above 1).Reaches (t.above 1) :=
    .tail .refl (.goesOn hexecutes hpushes)
  have hlast : t.Executes (valuedMachine usedHeap [returning, writingFrame] 4) :=
    ⟨by decide, _, rfl, rfl⟩
  have hreturns : (valuedMachine usedHeap [returning, writingFrame] 4).step =
      ⟨back, .ok (.returned (some (.int 5)))⟩ := rfl
  have hback : back.frames.length ≤ 1 := by decide
  exact .intro habove rfl hlast hreturns hback

end Machine

namespace Run

open Machine

/-- The initializer of the class returns a value, so the frame is not as it was. -/
theorem interrupted_frame_resumes_initializing :
    beforeWrite.Interrupts writingFrame [] ⟨0⟩ ⟨0⟩ initializing ∧
      initializing.Resumes 1 (some (.int 5)) resumed ∧ initializing.Reaches resumed ∧
      resumed.machine.frames ≠ [writingFrame] := by
  obtain ⟨-, q, hq, hresumed⟩ := interrupted_frame_resumes interrupts_beforeWrite
  obtain ⟨hreaches, hsome, -, hsame, -⟩ := hresumed _ _ resumes_initializing
  refine ⟨interrupts_beforeWrite, resumes_initializing, hreaches (by decide), fun hframes => ?_⟩
  rw [hsame.mp hframes] at hsome
  cases hsome

/-- An invocation is interrupted before it writes one into the field, finds the value of the
initializer on its stack when it resumes, and writes that. -/
theorem interrupted_frame_changed :
    valuedInitializer.Built ∧
      (Machine.new valuedInitializer {} .never).Visits ⟨1⟩ none [] beforeWrite ∧
      beforeWrite.Interrupts writingFrame [] ⟨0⟩ ⟨0⟩ initializing ∧
      initializing.Resumes 1 (some (.int 5)) resumed ∧
      writingFrame.stack = [.int 1] ∧
      resumed.machine.frames.map (·.stack) = [[.int 5, .int 1]] ∧
      ((Machine.new valuedInitializer {} .never).invoke ⟨1⟩ none []).result =
        .ok (some (.int 5)) :=
  ⟨built_valuedInitializer, visits_beforeWrite, interrupts_beforeWrite, resumes_initializing, rfl,
    rfl, by decide +kernel⟩

end Run

end Reprise
