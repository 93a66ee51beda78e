import Reprise.Proofs.Confinement
import Reprise.Proofs.Course
import Reprise.Proofs.StackForm

/-!
# What is true of every state of a machine

Values on operand stacks and in local slots are in stack form, fields hold values of their declared
types and are those that the program declares, and there are never more frames than the limit
(`Machine.IsSound`).  A recorder changes a machine only by storing into fields and by pushing values
in stack form (`host_sound`), so all of it holds with any recorder and without one:

    m.IsSound p config → m.Entered id callee args o →
      o.machine.IsSound p config ∧ m.heap.SameLayout o.machine.heap                  (IsSound.entered)
    m.IsSound p config → m.Executed o →
      o.machine.IsSound p config ∧ p.Lays m.heap o.machine.heap                     (IsSound.executed)

So the layout changes only where an instruction or a command allocates an object.
-/

namespace Reprise

open Recorder

namespace Machine

/-- Values are in stack form where they are computed with and conform to their types where they are
stored, the heap has the fields that the program declares, and the frames are within the limit. -/
structure IsSound (p : Program) (config : MachineConfig) (m : Machine) : Prop where
  program : m.program = p
  config : m.config = config
  wide : ∀ f ∈ m.frames, f.IsWide
  typed : m.heap.Typed
  laidOut : p.HasLaidOut m.heap
  depth : m.callDepth ≤ m.config.maximumCallDepth

/-! ## The recorder -/

/-- What a recorder does to the heap and to the operand stack of the innermost frame. -/
theorem host_sound {r : Recorder} {h : Heap} {stack : List Value} {e : Event}
    {reply : Reply FrameView} (hevent : r.onEvent (FrameView.mk h stack) e = .ok reply)
    (htyped : h.Typed) (hstack : ∀ v ∈ stack, v.IsWide) :
    reply.host.heap.Typed ∧ h.SameLayout reply.host.heap ∧ ∀ v ∈ reply.host.stack, v.IsWide := by
  refine host_keeps (P := fun g : FrameView =>
    g.heap.Typed ∧ h.SameLayout g.heap ∧ ∀ v ∈ g.stack, v.IsWide) ?_ ?_ hevent
    ⟨htyped, .refl h, hstack⟩
  · rintro g g' ty f v ⟨htyped, hlayout, hstack⟩ - - hassign
    change (g.heap.store f v).map _ = _ at hassign
    cases hstore : g.heap.store f v with
    | error failure =>
      rw [hstore] at hassign
      cases hassign
    | ok h' =>
      rw [hstore] at hassign
      obtain rfl := Except.ok.inj hassign
      exact ⟨(Heap.becomes_store hstore).typed htyped,
        hlayout.trans (Heap.sameLayout_store hstore), hstack⟩
  · rintro g g' v ⟨htyped, hlayout, hstack⟩ hpush
    obtain rfl := Except.ok.inj hpush
    exact ⟨htyped, hlayout, List.forall_mem_cons.mpr ⟨v.isWide_widened, hstack⟩⟩

/-! ## Entering a routine -/

/-- The arguments of a call are widened on their way into the local slots. -/
theorem isWide_calleeFrame (id : RoutineId) (q : Routine) (callee : Option ObjectId)
    (args : List Value) : (calleeFrame id q callee args).IsWide := by
  refine ⟨fun v hv => ?_, fun v hv => absurd hv List.not_mem_nil⟩
  rcases List.mem_append.mp hv with hv | hv
  · rcases List.mem_append.mp hv with hv | hv
    · obtain ⟨object, -, rfl⟩ := List.mem_map.mp (Option.toList_map ▸ hv)
      exact ⟨rfl, rfl⟩
    · obtain ⟨w, -, rfl⟩ := List.mem_map.mp hv
      exact w.isWide_widened
  · rw [List.eq_of_mem_replicate hv]
    exact ⟨rfl, rfl⟩

namespace IsSound

variable {p : Program} {config : MachineConfig} {m m₁ : Machine} {i : RoutineId}
  {c : Option ObjectId} {a : List Value}

/-- The recorder, the watchdog, the clock and the output are no part of it. -/
theorem aside (hm : m.IsSound p config) (r : Option Recorder) (w : Watchdog) (executed : Nat)
    (output : Array String) :
    IsSound p config { m with recorder := r, watchdog := w, executed, output } :=
  ⟨hm.program, hm.config, hm.wide, hm.typed, hm.laidOut, hm.depth⟩

/-- Another heap with a layout that the program may give it. -/
theorem changed (hm : m.IsSound p config) {h : Heap} (hbecomes : m.heap.Becomes h)
    (hlays : p.Lays m.heap h) : IsSound p config { m with heap := h } ∧ p.Lays m.heap h :=
  ⟨⟨hm.program, hm.config, hm.wide, hbecomes.typed hm.typed, hm.laidOut.lays hlays, hm.depth⟩,
    hlays⟩

/-- Another frame on top, where the call was accepted. -/
theorem pushed (hm : m.IsSound p config) {accepted : Routine × Option ObjectId × List Value}
    (hentry : entry m.program m.config m.frames i c a = .ok accepted) {f : Frame} (hf : f.IsWide)
    {h : Heap} (htyped : h.Typed) (hlayout : m.heap.SameLayout h) (r : Option Recorder) :
    IsSound p config { m with recorder := r, heap := h, frames := f :: m.frames } where
  program := hm.program
  config := hm.config
  wide := List.forall_mem_cons.mpr ⟨hf, hm.wide⟩
  typed := htyped
  laidOut := hm.laidOut.lays (.keeps hlayout)
  depth := length_lt_of_entry hentry

theorem entered (hm : m.IsSound p config) {o : Outcome Unit} (hentered : m.Entered i c a o) :
    o.machine.IsSound p config ∧ m.heap.SameLayout o.machine.heap := by
  have hcallee := isWide_calleeFrame i
  have hsame := Heap.SameLayout.refl m.heap
  cases hentered with
  | refused => exact ⟨hm, hsame⟩
  | unwatched hentry => exact ⟨hm.pushed hentry (hcallee _ _ _) hm.typed hsame _, hsame⟩
  | lost hentry => exact ⟨hm.pushed hentry (hcallee _ _ _) hm.typed hsame _, hsame⟩
  | @stops q c' a' r r' h stack answer e hentry _ hevent =>
    obtain ⟨htyped, hlayout, hstack⟩ := host_sound hevent hm.typed (by simp)
    have hf : Frame.IsWide { calleeFrame i q c' a' with stack } := ⟨(hcallee q c' a').locals, hstack⟩
    exact ⟨hm.pushed hentry hf htyped hlayout _, hlayout⟩
  | executes hentry => exact ⟨hm.pushed hentry (hcallee _ _ _) hm.typed hsame _, hsame⟩
  | @skips q c' a' r r' h stack target hentry _ hevent =>
    obtain ⟨htyped, hlayout, hstack⟩ := host_sound hevent hm.typed (by simp)
    have hf : Frame.IsWide { calleeFrame i q c' a' with stack, pc := target } :=
      ⟨(hcallee q c' a').locals, hstack⟩
    exact ⟨hm.pushed hentry hf htyped hlayout _, hlayout⟩

/-! ## Executing an instruction -/

/-- What the innermost frame does next. -/
theorem next (hm : m.IsSound p config) {f : Frame} {fs : List Frame} (hframes : m.frames = f :: fs)
    {action : Action} (hnext : f.next m.program m.executed m.heap = .ok action) :
    action.IsSound p m.heap := by
  rw [hm.program] at hnext
  exact sound_next (hm.wide f (by rw [hframes]; exact List.mem_cons_self)) m.heap _ hnext

/-- Another frame in place of the innermost one. -/
theorem withTop (hm : m.IsSound p config) {f f' : Frame} {fs : List Frame}
    (hframes : m.frames = f :: fs) (hf' : f'.IsWide) {h : Heap} (htyped : h.Typed)
    (hlays : p.Lays m.heap h) (r : Option Recorder) (output : Array String) :
    IsSound p config { m with heap := h, frames := f' :: fs, recorder := r, output } := by
  obtain ⟨hprogram, hconfig, hwide, -, hlaidOut, hdepth⟩ := hm
  rw [hframes] at hwide
  rw [callDepth, hframes] at hdepth
  have hbelow := (List.forall_mem_cons.mp hwide).2
  exact ⟨hprogram, hconfig, List.forall_mem_cons.mpr ⟨hf', hbelow⟩, htyped, hlaidOut.lays hlays,
    hdepth⟩

/-- The innermost frame goes on. -/
theorem proceeds (hm : m.IsSound p config) {f f' : Frame} {fs : List Frame}
    (hframes : m.frames = f :: fs) {h : Heap} {e : Option Event} {printed : Option String}
    (hnext : f.next m.program m.executed m.heap = .ok (.proceed h f' e printed))
    (r : Option Recorder) (output : Array String) :
    IsSound p config { m with heap := h, frames := f' :: fs, recorder := r, output } ∧
      p.Lays m.heap h := by
  obtain ⟨hf', hlays⟩ := hm.next hframes hnext
  have htyped := (deed_of_next hnext).becomes.typed hm.typed
  exact ⟨hm.withTop hframes hf' htyped hlays r output, hlays⟩

theorem prepared (hm : m.IsSound p config) {x : ClassId} {h : Heap} {i : RoutineId}
    (hprepare : m.heap.prepare? m.program x = some (h, i)) :
    IsSound p config { m with heap := h } ∧ m.heap.SameLayout h := by
  have hlayout := Heap.sameLayout_prepare hprepare
  exact ⟨(hm.changed (mark_of_prepare hprepare).1 (.keeps hlayout)).1, hlayout⟩

theorem calls (hm : m.IsSound p config) (hcalls : m.Calls m₁ i c a) :
    m₁.IsSound p config ∧ m.heap.SameLayout m₁.heap := by
  cases hcalls with
  | prepares hframes hnext =>
    cases deed_of_next hnext with
    | prepares hprepare => exact hm.prepared hprepare
  | calls hframes hnext =>
    have hsame := Heap.SameLayout.refl m.heap
    exact ⟨hm.withTop hframes (hm.next hframes hnext) hm.typed (.keeps hsame) _ _, hsame⟩

theorem executed (hm : m.IsSound p config) {o : Outcome Flow} (hexecuted : m.Executed o) :
    o.machine.IsSound p config ∧ p.Lays m.heap o.machine.heap := by
  have hsame : p.Lays m.heap m.heap := .keeps (.refl m.heap)
  cases hexecuted with
  | stuck => exact ⟨hm, hsame⟩
  | unheard hframes hnext => exact hm.proceeds hframes hnext _ _
  | heard hframes hnext => exact hm.proceeds hframes hnext _ _
  | fails => exact ⟨hm.aside _ _ _ _, hsame⟩
  | enters hcalls =>
    obtain ⟨hm₁, hlayout⟩ := hm.calls hcalls
    obtain ⟨hentered, hlayout'⟩ := hm₁.entered (entered_enter _ _ _ _)
    exact ⟨hentered, .keeps (hlayout.trans hlayout')⟩
  | leaves hframes =>
    obtain ⟨hprogram, hconfig, hwide, htyped, hlaidOut, hdepth⟩ := hm
    rw [hframes] at hwide
    rw [callDepth, hframes] at hdepth
    exact ⟨⟨hprogram, hconfig, (List.forall_mem_cons.mp hwide).2, htyped, hlaidOut,
      Nat.le_of_succ_le hdepth⟩, hsame⟩

theorem delivered (hm : m.IsSound p config) (v : Option Value) :
    (m.deliver v).IsSound p config ∧ (m.deliver v).heap = m.heap := by
  unfold deliver
  split
  · rename_i v f fs hframes
    have hf := hm.wide f (by rw [hframes]; exact List.mem_cons_self)
    rw [setTop, hframes]
    exact ⟨hm.withTop hframes (hf.push v.isWide_widened) hm.typed (.keeps (.refl m.heap)) _ _, rfl⟩
  · exact ⟨hm, rfl⟩

theorem cutTo (hm : m.IsSound p config) (base : Nat) : (m.cutTo base).IsSound p config where
  program := hm.program
  config := hm.config
  wide := fun f hf => hm.wide f (List.mem_of_mem_drop hf)
  typed := hm.typed
  laidOut := hm.laidOut
  depth := by
    have hdepth := hm.depth
    unfold callDepth at *
    simp only [Machine.cutTo, List.length_drop]
    omega

end IsSound

/-! ## Invocations and commands -/

/-- The machine is sound, and its layout has come from that of a heap by allocations. -/
def GrownFrom (p : Program) (config : MachineConfig) (h : Heap) (m : Machine) : Prop :=
  m.IsSound p config ∧ Relation.ReflTransGen p.Lays h m.heap

theorem kept_grownFrom (p : Program) (config : MachineConfig) (h : Heap) :
    Kept (GrownFrom p config h) where
  clocked := fun ⟨hm, hgrown⟩ => ⟨hm.aside _ _ _ _, hgrown⟩
  prepared := fun hprepare ⟨hm, hgrown⟩ =>
    let ⟨hm', hlayout⟩ := hm.prepared hprepare
    ⟨hm', hgrown.tail (.keeps hlayout)⟩
  calls := fun hcalls ⟨hm, hgrown⟩ =>
    let ⟨hm', hlayout⟩ := hm.calls hcalls
    ⟨hm', hgrown.tail (.keeps hlayout)⟩
  entered := fun hentered ⟨hm, hgrown⟩ =>
    let ⟨hm', hlayout⟩ := hm.entered hentered
    ⟨hm', hgrown.tail (.keeps hlayout)⟩
  executed := fun hexecuted ⟨hm, hgrown⟩ =>
    let ⟨hm', hlays⟩ := hm.executed hexecuted
    ⟨hm', hgrown.tail hlays⟩
  delivered := fun ⟨hm, hgrown⟩ =>
    let ⟨hm', hheap⟩ := hm.delivered _
    ⟨hm', hheap ▸ hgrown⟩

namespace IsSound

variable {p : Program} {config : MachineConfig} {m : Machine}

theorem grownFrom (hm : m.IsSound p config) : GrownFrom p config m.heap m := ⟨hm, .refl⟩

theorem invoke (hm : m.IsSound p config) (id : RoutineId) (callee : Option ObjectId)
    (args : List Value) : GrownFrom p config m.heap (m.invoke id callee args).machine :=
  (kept_grownFrom p config m.heap).invoke (fun ⟨hm, hgrown⟩ => ⟨hm.cutTo _, hgrown⟩)
    hm.grownFrom id callee args

/-- Flags of owners are no part of the layout. -/
theorem flagged (hm : m.IsSound p config) (owner : FieldOwner) {f : Storage → Storage}
    (hf : ∀ s, (f s).fields = s.fields) :
    IsSound p config { m with heap := m.heap.modifyStorage owner f } ∧
      p.Lays m.heap (m.heap.modifyStorage owner f) :=
  hm.changed (Heap.becomes_modifyStorage _ owner hf)
    (.keeps (Heap.sameLayout_modifyStorage _ owner hf))

/-- A command that is no invocation changes the layout by one object at most. -/
theorem obey (hm : m.IsSound p config) (c : Command)
    (hc : ∀ id callee args, c ≠ .invoke id callee args) :
    (m.obey c).2.IsSound p config ∧ p.Lays m.heap (m.obey c).2.heap := by
  have hsame : p.Lays m.heap m.heap := .keeps (.refl m.heap)
  have hwatched : ∀ r : Option Recorder, IsSound p config { m with recorder := r } :=
    fun r => hm.aside r _ _ _
  cases c with
  | invoke id callee args => exact absurd rfl (hc id callee args)
  | store field v =>
    simp only [Machine.obey]
    cases hstore : m.heap.store field v with
    | error e => exact ⟨hm, hsame⟩
    | ok h =>
      exact hm.changed (Heap.becomes_store hstore) (.keeps (Heap.sameLayout_store hstore))
  | setShared owner on => exact hm.flagged owner fun s => rfl
  | setFrozen owner on => exact hm.flagged owner fun s => rfl
  | setThreads threads =>
    exact hm.changed (Heap.becomes_setThreads _ threads)
      (.keeps (Heap.sameLayout_setThreads _ threads))
  | allocate x =>
    simp only [Machine.obey, allocate]
    cases hx : m.program.class? x with
    | none => exact ⟨hm, hsame⟩
    | some c =>
      rw [hm.program] at hx
      exact hm.changed (Heap.becomes_allocate m.heap x c) (p.lays_allocate m.heap hx)
  | beginRun id => exact ⟨hwatched _, hsame⟩
  | finishRun => exact ⟨hwatched _, hsame⟩

theorem obeyAll (hm : m.IsSound p config) (commands : List Command) :
    (m.obeyAll commands).IsSound p config := by
  refine obeyAll_keeps (P := IsSound p config) (fun {m} c hm => ?_) hm commands
  cases c with
  | invoke id callee args => exact (hm.invoke id callee args).1
  | _ => exact (hm.obey _ (by simp)).1

theorem of_new (p : Program) (config : MachineConfig) (w : Watchdog) :
    (Machine.new p config w).IsSound p config where
  program := rfl
  config := rfl
  wide := fun _ hf => absurd hf List.not_mem_nil
  typed := Heap.typed_ofClasses p.classes
  laidOut := p.hasLaidOut_ofClasses
  depth := Nat.zero_le _

end IsSound

/-- Whatever is done with a machine, with a recorder or without one, it is sound before, during and
after every invocation.  Entering a routine keeps the layout of the heap; an instruction and a
command keep it or add one object, and an invocation does any number of times what an instruction
does. -/
theorem states_sound (p : Program) (config : MachineConfig) (w : Watchdog)
    (recorder : Option Recorder) (earlier commands : List Command) (id : RoutineId)
    (callee : Option ObjectId) (args : List Value) :
    let m := ({ (Machine.new p config w).obeyAll earlier with recorder } : Machine).obeyAll commands
    m.IsSound p config ∧
      (∀ c, (∀ id callee args, c ≠ .invoke id callee args) → p.Lays m.heap (m.obey c).2.heap) ∧
      (∀ s, m.Visits id callee args s → s.machine.IsSound p config ∧
        ∀ m', s.Executes m' → m'.step.machine.IsSound p config ∧
          p.Lays s.machine.heap m'.step.machine.heap) ∧
      (∀ m₁ i c a, m.Enters id callee args m₁ i c a → m₁.IsSound p config ∧
        (m₁.enter i c a).machine.IsSound p config ∧
          m₁.heap.SameLayout (m₁.enter i c a).machine.heap) ∧
      (m.invoke id callee args).machine.IsSound p config ∧
        Relation.ReflTransGen p.Lays m.heap (m.invoke id callee args).machine.heap := by
  intro m
  have hearlier := (IsSound.of_new p config w).obeyAll earlier
  have hm : m.IsSound p config := (hearlier.aside recorder _ _ _).obeyAll commands
  have hkept := kept_grownFrom p config m.heap
  refine ⟨hm, fun c hc => (hm.obey c hc).2, fun s hvisits => ?_, fun m₁ i c a henters => ?_,
    hm.invoke id callee args⟩
  · have hs := (hkept.visits hm.grownFrom hvisits).1
    refine ⟨hs, fun m' hexecutes => ?_⟩
    obtain ⟨w', rfl⟩ := hexecutes.eq
    exact (hs.aside _ w' _ _).executed (executed_step _)
  · have hm₁ := (hkept.enters hm.grownFrom henters).1
    exact ⟨hm₁, hm₁.entered (entered_enter _ _ _ _)⟩

/-- A machine with a recorder and an object to count with. -/
def recordedCounter : Machine :=
  Machine.obeyAll { (new counter {} .never).obeyAll [] with
    recorder := some (.start {} (fun _ => false) ⟨0⟩) } [.allocate ⟨0⟩]

/-- The first instruction of a call finds the values in their forms, and the call leaves the heap
with the layout that it had. -/
theorem states_sound_counter :
    (∃ s, recordedCounter.Visits ⟨0⟩ (some ⟨0⟩) [] s ∧ s.machine.callDepth = 1 ∧
      s.machine.IsSound counter {}) ∧
    let after := (recordedCounter.invoke ⟨0⟩ (some ⟨0⟩) []).machine
    after.IsSound counter {} ∧ after.heap.kinds = #[some ⟨0⟩] ∧
      after.heap.type? ⟨.object ⟨0⟩, "n"⟩ = some .int := by
  have hsound := states_sound counter {} .never (some (.start {} (fun _ => false) ⟨0⟩)) []
    [.allocate ⟨0⟩] ⟨0⟩ (some ⟨0⟩) []
  rw [← recordedCounter] at hsound
  obtain ⟨-, -, hvisited, -, hafter, -⟩ := hsound
  have hkinds : (recordedCounter.invoke ⟨0⟩ (some ⟨0⟩) []).machine.heap.kinds = #[some ⟨0⟩] := by
    decide +kernel
  refine ⟨?_, hafter, hkinds, ?_⟩
  · have hdepth : (recordedCounter.enter ⟨0⟩ (some ⟨0⟩) []).machine.callDepth = 1 := by
      decide +kernel
    obtain ⟨m', hm'⟩ : ∃ m', recordedCounter.enter ⟨0⟩ (some ⟨0⟩) [] = ⟨m', .ok ()⟩ := ⟨_, rfl⟩
    rw [hm'] at hdepth
    have hvisits : recordedCounter.Visits ⟨0⟩ (some ⟨0⟩) []
        (m'.started recordedCounter.frames.length) :=
      ⟨recordedCounter, ⟨0⟩, some ⟨0⟩, [], m', .routine rfl rfl, hm', .refl⟩
    exact ⟨_, hvisits, hdepth, (hvisited _ hvisits).1⟩
  · rw [hafter.laidOut, hkinds]
    rfl

end Machine

end Reprise
