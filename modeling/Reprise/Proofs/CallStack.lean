import Reprise.Proofs.Course
import Reprise.Proofs.Mirror

/-!
# The call stack of a machine that is watched

Every operation of a machine keeps its recorder mirroring its frames (`Machine.kept_isMirrored`),
and every open recording was opened by the call of the frame at its depth, which has stood since
(`Machine.startedBy_of_visits`).  So what a return commits is the recording of the call that
returns.  Invocations begin and end without frames and without recordings, whether they succeed or
fail (`Machine.resting_invoke`).
-/

namespace Reprise

open Recorder

namespace Machine

/-- The routines of the frames, innermost first. -/
def routines (m : Machine) : List RoutineId := m.frames.map (·.routine)

/-- The recorder, if there is one, mirrors the frames. -/
def IsMirrored (m : Machine) : Prop := ∀ r ∈ m.recorder, Mirrors m.routines r

theorem IsMirrored.hears {m : Machine} (hm : m.IsMirrored) {host : FrameView} {e : Event}
    {r : Option Recorder} (hhears : Hears host e m.recorder r) (he : e.IsObservable) :
    ∀ r' ∈ r, Mirrors m.routines r' := by
  unfold IsMirrored at hm
  generalize m.recorder = old at hm hhears
  cases old with
  | none =>
    cases hhears
    simp
  | some r₀ =>
    cases r with
    | none => simp
    | some r' =>
      intro r'' hr''
      obtain rfl := Option.mem_some.mp hr''
      exact (hm r₀ rfl).observes (hhears.observes he) he

theorem routine_of_proceed {p : Program} {routine : RoutineId} {leaves : Option Value → Prop}
    {look : Heap → Except ExecutionFailure Action} {h h' : Heap} {f : Frame} {e : Option Event}
    {printed : Option String} (hd : Deed p routine leaves look h (.proceed h' f e printed)) :
    f.routine = routine := by
  cases hd <;> assumption

theorem routines_of_calls {m m₁ : Machine} {i : RoutineId} {c : Option ObjectId} {a : List Value}
    (hcalls : m.Calls m₁ i c a) : m₁.routines = m.routines ∧ m₁.recorder = m.recorder := by
  cases hcalls with
  | prepares => exact ⟨rfl, rfl⟩
  | calls hframes hnext =>
    refine ⟨?_, rfl⟩
    cases deed_of_next hnext with
    | calls hf => simp [routines, hframes, hf]

theorem IsMirrored.entered {m : Machine} (hm : m.IsMirrored) {i : RoutineId} {c : Option ObjectId}
    {a : List Value} {o : Outcome Unit} (hentered : m.Entered i c a o) : o.machine.IsMirrored := by
  have hdepth : m.frames.length + 1 = m.routines.length + 1 := by simp [routines]
  cases hentered with
  | refused => exact hm
  | unwatched _ hrecorder => exact fun r hr => by cases hrecorder.symm.trans hr
  | lost _ hrecorder => exact fun r hr => (hm r hr).push i
  | stops _ hrecorder hevent =>
    intro r hr
    obtain rfl := Option.mem_some.mp hr
    exact (hm _ hrecorder).called hdepth hevent
  | executes _ hrecorder hevent =>
    intro r hr
    obtain rfl := Option.mem_some.mp hr
    exact (hm _ hrecorder).called hdepth hevent
  | skips _ hrecorder hevent =>
    intro r hr
    obtain rfl := Option.mem_some.mp hr
    exact (hm _ hrecorder).called hdepth hevent

theorem IsMirrored.of_same {m m' : Machine} (hm : m.IsMirrored)
    (hroutines : m'.routines = m.routines) (hrecorder : m'.recorder = m.recorder) :
    m'.IsMirrored := by
  unfold IsMirrored
  rw [hroutines, hrecorder]
  exact hm

theorem IsMirrored.executed {m : Machine} (hm : m.IsMirrored) {o : Outcome Flow}
    (hexecuted : m.Executed o) : o.machine.IsMirrored := by
  cases hexecuted with
  | stuck => exact hm
  | unheard hframes hnext =>
    refine hm.of_same ?_ rfl
    simp [routines, hframes, routine_of_proceed (deed_of_next hnext)]
  | @heard f fs h f' e printed r hframes hnext hhears =>
    intro r' hr'
    have hroutines : routines { m with
        heap := h, frames := f' :: fs, recorder := r
        output := m.output ++ printed.toList } = m.routines := by
      simp [routines, hframes, routine_of_proceed (deed_of_next hnext)]
    rw [hroutines]
    exact hm.hears hhears (deed_of_next hnext).observable r' hr'
  | fails hframes hnext hhears => exact hm.hears hhears (deed_of_next hnext).observable_failing
  | @enters m₁ i c a hcalls =>
    obtain ⟨hroutines, hrecorder⟩ := routines_of_calls hcalls
    exact (hm.of_same hroutines hrecorder).entered (m₁.entered_enter i c a)
  | @leaves f fs f' v r hframes hnext hhears =>
    intro r' hr'
    have hlength : fs.length = (fs.map (·.routine)).length := (List.length_map _).symm
    unfold IsMirrored at hm
    rw [routines, hframes, List.map_cons] at hm
    generalize m.recorder = old at hm hhears
    cases hhears with
    | absent => cases hr'
    | present hevent =>
      obtain rfl := Option.mem_some.mp hr'
      rw [hlength] at hevent
      exact (hm _ rfl).returned hevent

theorem recorder_deliver (m : Machine) (v : Option Value) :
    (m.deliver v).recorder = m.recorder := by
  unfold deliver
  split <;> rfl

theorem routines_deliver (m : Machine) (v : Option Value) :
    (m.deliver v).routines = m.routines := by
  unfold deliver
  split
  · rename_i hframes
    simp [routines, setTop, hframes, Frame.push]
  · rfl

theorem kept_isMirrored : Kept IsMirrored where
  clocked := fun hm => hm
  prepared := fun _ hm => hm
  calls := fun hcalls hm => hm.of_same (routines_of_calls hcalls).1 (routines_of_calls hcalls).2
  entered := fun hentered hm => hm.entered hentered
  executed := fun hexecuted hm => hm.executed hexecuted
  delivered := fun {m v} hm => hm.of_same (m.routines_deliver v) (m.recorder_deliver v)

/-! ## Where the recordings come from -/

/-- The open recordings of a recorder, if there is one. -/
def recordings (m : Machine) : List Recording := (m.recorder.map (·.recordings)).getD []

/-- The innermost frame is that of a call that has opened the recording. -/
def Opens (m : Machine) (R : Recording) : Prop :=
  ∃ r q c a fs outer singleThreaded, m.recorder = some r ∧
    m.program.routine? R.routine = some q ∧
    m.frames = calleeFrame R.routine q c a :: fs ∧ R.depth = fs.length + 1 ∧
    r.recordings =
      outer ++ [.ofInvocation (q.invocation R.routine c a R.depth) singleThreaded] ∧
    (Recording.ofInvocation (q.invocation R.routine c a R.depth) singleThreaded).SameInvocation R

theorem Opens.of_same {m : Machine} {R R' : Recording} (h : m.Opens R)
    (hsame : R.SameInvocation R') : m.Opens R' := by
  obtain ⟨r, q, c, a, fs, outer, singleThreaded, hr, hq, hframes, hdepth, hlast, hR⟩ := h
  rw [← hsame.routine] at hq hframes hlast hR
  rw [← hsame.depth] at hdepth hlast hR
  exact ⟨r, q, c, a, fs, outer, singleThreaded, hr, hq, hframes, hdepth, hlast, hR.trans hsame⟩

theorem Hears.descends {host : FrameView} {e : Event} {r r' : Option Recorder}
    (hhears : Hears host e r r') (he : e.IsObservable) :
    Descends ((r.map (·.recordings)).getD []) ((r'.map (·.recordings)).getD []) := by
  cases hhears with
  | absent => exact .of_sublist (.refl _)
  | present hevent => exact (Hears.observes he (.present hevent)).descends he

/-- A call that is told to a recorder keeps recordings, or is executed and opens one. -/
theorem recordings_of_call {r r' : Recorder} {host host' : FrameView} {i : Invocation}
    {answer : Except HostFailure Directive}
    (hevent : r.onEvent host (.call i) = .ok ⟨r', host', answer⟩) :
    Descends r.recordings r'.recordings ∨ answer = .ok .proceed ∧ ∃ singleThreaded,
      r'.recordings = r.recordings ++ [.ofInvocation i singleThreaded] := by
  unfold onEvent at hevent
  split at hevent
  · rcases (reaction_of_handle hevent).recordings with h | ⟨hanswer, j, threads, hj, hopened⟩
    · exact .inl h
    · obtain rfl := Event.call.inj hj
      exact .inr ⟨hanswer, threads, hopened⟩
  · cases hevent
    exact .inl (.of_sublist (.refl _))

/-- A recording that is open after a routine was entered was open before, or the call opened it. -/
theorem Entered.origin {m : Machine} {i : RoutineId} {c : Option ObjectId} {a : List Value}
    {o : Outcome Unit} (hentered : m.Entered i c a o) {R' : Recording}
    (hR' : R' ∈ o.machine.recordings) :
    (∃ R ∈ m.recordings, R.SameInvocation R') ∨ o.machine.Opens R' := by
  cases hentered with
  | refused => exact .inl ⟨R', hR', .refl R'⟩
  | unwatched => exact .inl ⟨R', hR', .refl R'⟩
  | lost => exact .inl ⟨R', hR', .refl R'⟩
  | stops _ hrecorder hevent hwhy =>
    rcases recordings_of_call hevent with hdescends | ⟨hanswer, -⟩
    · exact .inl (by rw [recordings, hrecorder]; exact hdescends.exists_mem hR')
    · rcases hwhy with ⟨failure, hfailure⟩ | ⟨hskips, -⟩
      · cases hfailure.symm.trans hanswer
      · cases hskips.symm.trans hanswer
  | skips _ hrecorder hevent =>
    rcases recordings_of_call hevent with hdescends | ⟨hanswer, -⟩
    · exact .inl (by rw [recordings, hrecorder]; exact hdescends.exists_mem hR')
    · cases hanswer
  | executes hentry hrecorder hevent =>
    rcases recordings_of_call hevent with hdescends | ⟨-, threads, hopened⟩
    · exact .inl (by rw [recordings, hrecorder]; exact hdescends.exists_mem hR')
    · have hmem := hR'
      rw [recordings, Option.map_some, Option.getD_some, hopened] at hmem
      rcases List.mem_append.mp hmem with hold | hnew
      · exact .inl ⟨R', by rw [recordings, hrecorder]; exact hold, .refl R'⟩
      · obtain rfl := List.mem_singleton.mp hnew
        exact .inr ⟨_, _, _, _, _, _, threads, rfl, (accepts_of_entry hentry).1, rfl, rfl, hopened,
          .refl _⟩

/-- A recording that is open after an instruction was open before, or the instruction is a call that
opened it. -/
theorem Executed.origin {m : Machine} {o : Outcome Flow} (hexecuted : m.Executed o)
    {R' : Recording} (hR' : R' ∈ o.machine.recordings) :
    (∃ R ∈ m.recordings, R.SameInvocation R') ∨ o.machine.Opens R' := by
  cases hexecuted with
  | stuck => exact .inl ⟨R', hR', .refl R'⟩
  | unheard => exact .inl ⟨R', hR', .refl R'⟩
  | heard _ hnext hhears =>
    exact .inl ((hhears.descends (deed_of_next hnext).observable).exists_mem hR')
  | fails _ hnext hhears =>
    exact .inl ((hhears.descends (deed_of_next hnext).observable_failing).exists_mem hR')
  | @enters m₁ i c a hcalls =>
    have hrecordings : m₁.recordings = m.recordings := by
      rw [recordings, (routines_of_calls hcalls).2, recordings]
    rw [← hrecordings]
    exact (m₁.entered_enter i c a).origin hR'
  | leaves _ _ hhears => exact .inl ((hhears.descends trivial).exists_mem hR')

end Machine

/-- A recording that is open between two instructions was open before the first, or that was a call
that opened it. -/
theorem Run.Next.origin {s t : Run} (hnext : s.Next t) {R' : Recording}
    (hR' : R' ∈ t.machine.recordings) :
    (∃ R ∈ s.machine.recordings, R.SameInvocation R') ∨ t.machine.Opens R' := by
  cases hnext with
  | @goesOn m m' hexecutes hstep =>
    obtain ⟨w, rfl⟩ := hexecutes.eq
    have hexecuted := Machine.executed_step
      { s.machine with watchdog := w, executed := s.machine.executed + 1 }
    rw [hstep] at hexecuted
    exact hexecuted.origin hR'
  | @returned m m' v hexecutes hstep =>
    obtain ⟨w, rfl⟩ := hexecutes.eq
    obtain ⟨f, fs, f', r, -, -, hhears, rfl⟩ := Machine.leaves_of_step hstep
    refine .inl ((hhears.descends trivial).exists_mem ?_)
    rwa [Run.after, Machine.recordings, Machine.recorder_deliver] at hR'

/-- The run with another number of frames that ends it. -/
def Run.above (s : Run) (base : Nat) : Run := { s with base }

theorem Run.Next.above {s t : Run} (hnext : s.Next t) {base : Nat}
    (hbase : base < t.machine.frames.length) : (s.above base).Next (t.above base) := by
  cases hnext with
  | goesOn hexecutes hstep => exact .goesOn hexecutes hstep
  | @returned m m' v hexecutes hstep =>
    refine .returned hexecutes hstep ?_
    have hlength : (m'.deliver v).frames.length = m'.frames.length := by
      have := congrArg List.length (m'.routines_deliver v)
      simpa [Machine.routines] using this
    rwa [Run.after, hlength] at hbase

namespace Machine

variable {m m₁ : Machine} {id i : RoutineId} {callee c : Option ObjectId} {args a : List Value}
  {s : Run}

/-- In the course of the invocation the call of a frame opened the recording, and since then no
instruction has left fewer frames than stood there: it is still the same frame. -/
def StartedBy (m : Machine) (id : RoutineId) (callee : Option ObjectId) (args : List Value)
    (s : Run) (R : Recording) : Prop :=
  ∃ u, m.Visits id callee args u ∧ u.machine.Opens R ∧
    (u.above (R.depth - 1)).Reaches (s.above (R.depth - 1))

/-- Nothing is under way. -/
structure Resting (m : Machine) : Prop where
  frames : m.frames = []
  recordings : m.recordings = []

theorem recordings_of_mem {r : Recorder} (hr : r ∈ m.recorder) : m.recordings = r.recordings := by
  rw [recordings, Option.mem_def.mp hr]
  rfl

theorem Resting.isMirrored (hm : m.Resting) : m.IsMirrored := fun r hr =>
  .of_nil (by rw [← recordings_of_mem hr, hm.recordings])

theorem IsMirrored.bounds (hm : m.IsMirrored) {R : Recording} (hR : R ∈ m.recordings) :
    1 ≤ R.depth ∧ R.depth ≤ m.frames.length := by
  cases hr : m.recorder with
  | none => simp [recordings, hr] at hR
  | some r =>
    rw [recordings_of_mem hr] at hR
    have hbounds := ((hm r hr).stands R hR).bounds
    rwa [routines, List.length_map] at hbounds

/-- Where no frame stands, no recording is open. -/
theorem IsMirrored.resting (hm : m.IsMirrored) (hframes : m.frames.length ≤ 0) : m.Resting := by
  have hnil : m.frames = [] := List.length_eq_zero_iff.mp (Nat.le_zero.mp hframes)
  refine ⟨hnil, ?_⟩
  cases hr : m.recorder with
  | none => rw [recordings, hr]; rfl
  | some r =>
    have hmirrors := hm r hr
    rw [routines, hnil] at hmirrors
    rw [recordings_of_mem hr]
    exact hmirrors.eq_nil

theorem Resting.begins (hm : m.Resting) (hbegins : m.Begins id callee args m₁ i c a) :
    m₁.Resting := by
  refine (kept_isMirrored.begins hm.isMirrored hbegins).resting ?_
  cases hbegins with
  | initializer => simp [hm.frames]
  | routine _ hprepared =>
    have hle := length_frames_of_prepared hprepared
    rwa [hm.frames] at hle

/-- Every open recording was started by the call of the frame at its depth. -/
theorem startedBy_of_visits (hm : m.Resting) (hvisits : m.Visits id callee args s) {R : Recording}
    (hR : R ∈ s.machine.recordings) : m.StartedBy id callee args s R := by
  obtain ⟨m₁, i, c, a, m₂, hbegins, henter, hreaches⟩ := hvisits
  have hvisits : ∀ {u}, (m₂.started m.frames.length).Reaches u → m.Visits id callee args u :=
    fun hreaches => ⟨m₁, i, c, a, m₂, hbegins, henter, hreaches⟩
  induction hreaches generalizing R with
  | refl =>
    have hentered := m₁.entered_enter i c a
    rw [henter] at hentered
    rcases hentered.origin hR with ⟨S, hS, -⟩ | hopens
    · rw [(hm.begins hbegins).recordings] at hS
      cases hS
    · exact ⟨_, hvisits .refl, hopens, .refl⟩
  | @tail t t' hreaches hnext ih =>
    have hreached := hvisits (hreaches.tail hnext)
    rcases hnext.origin hR with ⟨S, hS, hsame⟩ | hopens
    · obtain ⟨u, hu, hopens, hchain⟩ := ih hS
      have hbounds := (kept_isMirrored.visits hm.isMirrored hreached).bounds hR
      have hdepth : R.depth - 1 < t'.machine.frames.length := by omega
      rw [← hsame.depth] at hchain
      exact ⟨u, hu, hopens.of_same hsame, hchain.tail (hnext.above hdepth)⟩
    · exact ⟨_, hreached, hopens, .refl⟩

/-! ## After an invocation -/

/-- Every invocation takes away its frames and its recordings. -/
theorem resting_invoke (hm : m.Resting) (id : RoutineId) (callee : Option ObjectId)
    (args : List Value) : (m.invoke id callee args).machine.Resting := by
  have hmirrored := kept_isMirrored.invokeAbove hm.isMirrored id callee args
  unfold invoke
  cases hinvoke : m.invokeAbove id callee args with
  | mk m' result =>
    rw [hinvoke] at hmirrored
    cases result with
    | ok v =>
      have hle := length_frames_of_invokeAbove hinvoke
      rw [hm.frames] at hle
      exact hmirrored.resting hle
    | error e =>
      refine ⟨by simp [cutTo, hm.frames], ?_⟩
      change ((m'.recorder.map (·.unwind m.frames.length)).map (·.recordings)).getD [] = []
      rw [hm.frames]
      cases hr : m'.recorder with
      | none => rfl
      | some r =>
        have hdepth : ∀ R ∈ r.recordings, 1 ≤ R.depth := fun R hR =>
          ((hmirrored r hr).stands R hR).bounds.1
        exact (turns_unwind r 0).recordings.trans (shallow_zero hdepth)

theorem Resting.obey (hm : m.Resting) (command : Command) : (m.obey command).2.Resting := by
  have hobeyed := m.obeyed_obey command
  generalize (m.obey command).2 = m' at hobeyed
  cases hobeyed with
  | refused => exact hm
  | invoked id callee args => exact resting_invoke hm id callee args
  | changed => exact ⟨hm.frames, hm.recordings⟩
  | begun => exact ⟨hm.frames, by rw [Machine.recordings]; cases m.recorder <;> rfl⟩
  | finished => exact ⟨hm.frames, by rw [Machine.recordings]; cases m.recorder <;> rfl⟩

/-! ## Returns -/

/-- A return finishes the recording of the frame that returns, if it has one, and changes no other
recording. -/
theorem IsMirrored.commits (hm : m.IsMirrored) {r : Recorder} (hr : m.recorder = some r)
    {m' : Machine} {v : Option Value} (hstep : m.step = ⟨m', .ok (.returned v)⟩) :
    ((∀ R ∈ r.recordings, R.depth ≠ m.callDepth) → m'.recorder = some r) ∧
      ∀ outer R, r.recordings = outer ++ [R] → R.depth = m.callDepth →
        m'.recorder = some ({ r with recordings := outer }.commit (returning R v)) := by
  obtain ⟨f, fs, f', r', hframes, -, hhears, rfl⟩ := leaves_of_step hstep
  have hmirrors := hm r hr
  have hdepth : m.callDepth = (fs.map (·.routine)).length + 1 := by simp [callDepth, hframes]
  rw [routines, hframes, List.map_cons] at hmirrors
  rw [hr] at hhears
  cases hhears with
  | present hevent =>
    rw [← List.length_map (f := (·.routine))] at hevent
    obtain ⟨hkeeps, hcommits⟩ := hmirrors.onReturn_eq v
    rw [hdepth]
    refine ⟨fun hother => ?_, fun outer R hsplit hR => ?_⟩
    · have hbelow : ∀ R ∈ r.recordings, R.depth ≤ (fs.map (·.routine)).length := by
        intro R hR
        have hle := hmirrors.depth_le hR
        have hne := hother R hR
        rw [List.length_cons] at hle
        omega
      rw [hmirrors.onEvent_returned hevent, hkeeps hbelow]
    · rw [hmirrors.onEvent_returned hevent, hcommits outer R hsplit hR]

/-! ## Top theorem -/

theorem Hears.watched {host : FrameView} {e : Event} {r r' : Option Recorder}
    (hhears : Hears host e r r') (hr : r.isSome = true) : r'.isSome = true := by
  cases hhears with
  | absent => exact hr
  | present => rfl

theorem Entered.watched {o : Outcome Unit} (hentered : m.Entered i c a o)
    (hm : m.recorder.isSome = true) : o.machine.recorder.isSome = true := by
  cases hentered with
  | refused => exact hm
  | unwatched => exact hm
  | lost => exact hm
  | stops => rfl
  | executes => rfl
  | skips => rfl

/-- A machine that has a recorder does not lose it. -/
theorem lasts_watched : Lasts fun m => m.recorder.isSome = true where
  clocked := id
  prepared := fun _ hm => hm
  calls := fun hcalls hm => by rwa [(routines_of_calls hcalls).2]
  entered := fun hentered hm => hentered.watched hm
  executed := by
    intro m o hexecuted hm
    cases hexecuted with
    | stuck => exact hm
    | unheard => exact hm
    | heard _ _ hhears => exact hhears.watched hm
    | fails _ _ hhears => exact hhears.watched hm
    | @enters m₁ i c a hcalls =>
      refine (m₁.entered_enter i c a).watched ?_
      rwa [(routines_of_calls hcalls).2]
    | leaves _ _ hhears => exact hhears.watched hm
  delivered := fun {m v} hm => by rwa [m.recorder_deliver v]
  cut := fun hm => by rwa [cutTo, Option.isSome_map]
  changed := fun _ hm => hm
  begun := fun hm => by rwa [Option.isSome_map]
  finished := fun hm => by rwa [Option.isSome_map]

/-- The open recordings mirror the call stack, whatever the program, the configurations and the
watchdog are.  Between two instructions each recording is of the routine of the frame at its depth,
and the call of that frame started it; a return commits the recording of its own frame and changes
no other.  After an invocation there are as many frames as before, and no recordings. -/
theorem recordings_mirror_calls (p : Program) (config : MachineConfig) (w : Watchdog)
    (settings : RecorderConfig) (blocked : String → Bool) (runId : RunId)
    (earlier commands : List Command) (id : RoutineId) (callee : Option ObjectId)
    (args : List Value) :
    let m := (((Machine.new p config w).obeyAll earlier).withRecorder
      (.start settings blocked runId)).obeyAll commands
    (∀ s, m.Visits id callee args s → ∃ r, s.machine.recorder = some r ∧
      r.recordings.Pairwise (fun R S => R.depth < S.depth) ∧
      (∀ R ∈ r.recordings, 1 ≤ R.depth ∧ R.depth ≤ s.machine.callDepth ∧
        StandsAt s.machine.routines R.depth R.routine ∧ m.StartedBy id callee args s R) ∧
      ∀ m₁ m₂ v, s.Executes m₁ → m₁.step = ⟨m₂, .ok (.returned v)⟩ →
        ((∀ R ∈ r.recordings, R.depth ≠ s.machine.callDepth) → m₂.recorder = some r) ∧
        ∀ outer R, r.recordings = outer ++ [R] → R.depth = s.machine.callDepth →
          m₂.recorder = some ({ r with recordings := outer }.commit (returning R v))) ∧
    (m.invoke id callee args).machine.callDepth = m.callDepth ∧
    ∃ r, (m.invoke id callee args).machine.recorder = some r ∧ r.recordings = [] := by
  intro m
  have hearlier : ((Machine.new p config w).obeyAll earlier).Resting :=
    obeyAll_keeps (fun c hm => hm.obey c) ⟨rfl, rfl⟩ earlier
  have hm : m.Resting :=
    obeyAll_keeps (fun c hm => hm.obey c) ⟨hearlier.frames, rfl⟩ commands
  have hwatched : m.recorder.isSome = true :=
    lasts_watched.obeyAll rfl commands
  refine ⟨fun s hvisits => ?_, ?_, ?_⟩
  · have hmirrored := kept_isMirrored.visits hm.isMirrored hvisits
    obtain ⟨r, hr⟩ := Option.isSome_iff_exists.mp (lasts_watched.visits hwatched hvisits)
    refine ⟨r, hr, (hmirrored r hr).ascending, fun R hR => ?_, fun m₁ m₂ v hexecutes hstep => ?_⟩
    · have hmem : R ∈ s.machine.recordings := by rwa [recordings_of_mem hr]
      obtain ⟨hpos, hle⟩ := hmirrored.bounds hmem
      exact ⟨hpos, hle, (hmirrored r hr).stands R hR, startedBy_of_visits hm hvisits hmem⟩
    · have hmirrored₁ := kept_isMirrored.executes hmirrored hexecutes
      obtain ⟨w', rfl⟩ := hexecutes.eq
      exact hmirrored₁.commits hr hstep
  · rw [callDepth, (resting_invoke hm id callee args).frames, callDepth, hm.frames]
  · obtain ⟨r, hr⟩ := Option.isSome_iff_exists.mp (lasts_watched.invoke hwatched id callee args)
    refine ⟨r, hr, ?_⟩
    rw [← recordings_of_mem hr]
    exact (resting_invoke hm id callee args).recordings

/-- A machine with an object to count with and a new recorder. -/
def watchedCounter : Machine :=
  (((new counter {} .never).obeyAll [.allocate ⟨0⟩]).withRecorder
    (.start {} (fun _ => false) ⟨0⟩)).obeyAll []

/-- The first call of a routine is recorded from its first instruction on; when it has returned, its
summary is stored and nothing is being recorded. -/
theorem recordings_mirror_calls_counter :
    (∃ s R, watchedCounter.Visits ⟨0⟩ (some ⟨0⟩) [] s ∧ s.machine.recordings = [R] ∧
      R.depth = 1 ∧ watchedCounter.StartedBy ⟨0⟩ (some ⟨0⟩) [] s R) ∧
    ∃ r, (watchedCounter.invoke ⟨0⟩ (some ⟨0⟩) []).machine.recorder = some r ∧
      r.recordings = [] ∧ r.store.size = 1 := by
  have hmirrors := recordings_mirror_calls counter {} .never {} (fun _ => false) ⟨0⟩
    [.allocate ⟨0⟩] [] ⟨0⟩ (some ⟨0⟩) []
  rw [← watchedCounter] at hmirrors
  obtain ⟨hbetween, -, r, hr, hnil⟩ := hmirrors
  constructor
  · have hdepths : (watchedCounter.enter ⟨0⟩ (some ⟨0⟩) []).machine.recordings.map
        (·.depth) = [1] := by
      decide +kernel
    obtain ⟨m', hm'⟩ : ∃ m', watchedCounter.enter ⟨0⟩ (some ⟨0⟩) [] = ⟨m', .ok ()⟩ := ⟨_, rfl⟩
    rw [hm'] at hdepths
    obtain ⟨R, hR, hdepth⟩ := List.map_eq_singleton_iff.mp hdepths
    have hvisits : watchedCounter.Visits ⟨0⟩ (some ⟨0⟩) []
        (m'.started watchedCounter.frames.length) :=
      ⟨watchedCounter, ⟨0⟩, some ⟨0⟩, [], m', .routine rfl rfl, hm', .refl⟩
    obtain ⟨r', hr', -, hstands, -⟩ := hbetween _ hvisits
    refine ⟨_, R, hvisits, hR, hdepth, (hstands R ?_).2.2.2⟩
    rw [← recordings_of_mem hr', Machine.started, hR]
    exact List.mem_singleton_self R
  · have hsize : (watchedCounter.invoke ⟨0⟩ (some ⟨0⟩) []).machine.recorder.map
        (·.store.size) = some 1 := by
      decide +kernel
    rw [hr] at hsize
    exact ⟨r, hr, hnil, Option.some.inj hsize⟩

end Machine

end Reprise
