import Mathlib.Data.List.Forall2
import Reprise.Proofs.NameTables
import Reprise.Proofs.Simulation

/-!
# Replay is indistinguishable from execution

What a user does with a machine is a list of `Command`s: invoking routines, storing into the heap
and changing its flags between invocations, allocating, and starting and finishing the runs of its
recorder.  Each command gives an `Exchange`: the response, the heap afterwards, and the number of
instructions that were executed for it.

A machine with a recorder gives the same responses and the same heaps as one without, and never
executes more instructions, as long as no invocation runs into a limit (`replay_indistinguishable`).
The program is one that was built by adding classes and routines and does not look at the clock;
nothing is assumed of the configuration of the recorder.
-/

namespace Reprise

/-! ## Programs that were built -/

/-- The program was built by adding classes and routines. -/
inductive Program.Built : Program → Prop where
  | empty : Built {}
  | addClass {p : Program} (hp : Built p) {c : ClassDef} (hc : c.initializer = none) :
    Built (p.addClass c).2
  | addRoutine {p p' : Program} (hp : Built p) {owner : ClassId} {name : String}
    {body : RoutineBody} {id : RoutineId} (hadd : p.addRoutine owner name body = .ok (id, p')) :
    Built p'

/-- A class is added without an initializer; that comes as a routine. -/
def Addition.IsPlain : Addition → Prop
  | .ofClass c => c.initializer = none
  | .ofRoutine _ _ _ => True

theorem Program.Built.addAll {p p' : Program} (hp : p.Built) {l : List Addition}
    (hplain : ∀ a ∈ l, a.IsPlain) (hl : p.addAll l = .ok p') : p'.Built := by
  induction l generalizing p with
  | nil => exact Except.ok.inj hl ▸ hp
  | cons a l ih =>
    rw [Program.addAll] at hl
    split at hl
    · cases hl
    · next p₁ ha =>
      have hrest : ∀ b ∈ l, b.IsPlain := fun b hb => hplain b (List.mem_cons_of_mem a hb)
      cases a with
      | ofClass c =>
        obtain rfl := Except.ok.inj ha
        exact ih (hp.addClass (hplain _ List.mem_cons_self)) hrest hl
      | ofRoutine owner simpleName body =>
        obtain ⟨id, hadd⟩ := Program.addRoutine_of_add ha
        exact ih (hp.addRoutine hadd) hrest hl

/-- The program of the additions, or the empty one if they cannot all be made. -/
def Program.ofAdditions (l : List Addition) : Program :=
  match ({} : Program).addAll l with
  | .ok p => p
  | .error _ => {}

theorem Program.built_ofAdditions {l : List Addition} (hplain : ∀ a ∈ l, a.IsPlain) :
    (Program.ofAdditions l).Built := by
  unfold Program.ofAdditions
  split
  · next hl => exact Built.empty.addAll hplain hl
  · exact .empty

/-- Adding a routine keeps those that are there. -/
theorem Program.routine?_of_addRoutine {p p' : Program} {owner : ClassId} {name : String}
    {body : RoutineBody} {id : RoutineId} (hadd : p.addRoutine owner name body = .ok (id, p')) :
    (∃ q, p'.routine? id = some q ∧ q.kind = body.kind) ∧
      ∀ i q, p.routine? i = some q → p'.routine? i = some q := by
  obtain ⟨c, hc, rfl, rfl⟩ := withRoutine_of_addRoutine hadd
  exact ⟨⟨_, Array.getElem?_push_size, rfl⟩,
    fun i q => routine?_of_grows (.byRoutine hc name body)⟩

/-- The initializer of a class is one it had before, or the class initializer just added. -/
theorem Program.initializer_of_addRoutine {p p' : Program} {owner : ClassId} {name : String}
    {body : RoutineBody} {id : RoutineId} (hadd : p.addRoutine owner name body = .ok (id, p'))
    {x : ClassId} {c : ClassDef} {i : RoutineId} (hc : p'.class? x = some c)
    (hi : c.initializer = some i) :
    (∃ c', p.class? x = some c' ∧ c'.initializer = some i) ∨
      i = id ∧ body.kind = .classInitializer := by
  obtain ⟨c₀, hc₀, rfl, rfl⟩ := withRoutine_of_addRoutine hadd
  rw [class?_withRoutine] at hc
  obtain ⟨c', hc', rfl⟩ := Option.map_eq_some_iff.mp hc
  split at hi
  · next hinitializer => exact .inr ⟨(Option.some.inj hi).symm, hinitializer.2⟩
  · exact .inl ⟨c', hc', hi⟩

/-- The initializer of every class is a class initializer of the program. -/
theorem Program.Built.initializer {p : Program} (hp : p.Built) :
    ∀ x c i, p.class? x = some c → c.initializer = some i →
      ∃ q, p.routine? i = some q ∧ q.kind = .classInitializer := by
  induction hp with
  | empty =>
    intro x c i hc
    simp [class?] at hc
  | @addClass p hp c' hnone ih =>
    intro x c i hc hi
    change (p.classes.push c')[x.index]? = some c at hc
    rw [Array.getElem?_push] at hc
    split at hc
    · cases hc
      rw [hnone] at hi
      cases hi
    · exact ih x c i hc hi
  | addRoutine hp hadd ih =>
    intro x c i hc hi
    obtain ⟨⟨q, hq, hkind⟩, hkeeps⟩ := routine?_of_addRoutine hadd
    rcases initializer_of_addRoutine hadd hc hi with ⟨c', hc', hi'⟩ | ⟨rfl, hinitializer⟩
    · obtain ⟨q', hq', hkind'⟩ := ih x c' i hc' hi'
      exact ⟨q', hkeeps i q' hq', hkind'⟩
    · exact ⟨q, hq, hkind.trans hinitializer⟩

theorem Program.Built.isInitialized {p : Program} (hp : p.Built) : p.IsInitialized := by
  intro x c i q hc hi hq
  obtain ⟨q', hq', hkind⟩ := hp.initializer x c i hc hi
  rw [hq] at hq'
  cases hq'
  exact hkind

/-! ## Commands -/

/-- What is done with a machine from outside. -/
inductive Command where
  | invoke (id : RoutineId) (callee : Option ObjectId) (args : List Value)
  | store (field : FieldRef) (v : Value)
  | setShared (owner : FieldOwner) (on : Bool)
  | setFrozen (owner : FieldOwner) (on : Bool)
  | setThreads (threads : Nat)
  | allocate (id : ClassId)
  | beginRun (id : RunId)
  | finishRun

/-- What a command gives back. -/
inductive Response where
  | returned (result : Except Located (Option Value))
  | stored (result : Except HostFailure Unit)
  | allocated (result : Except HostFailure ObjectId)
  | done

/-- The command was an invocation that a limit stopped. -/
def Response.HitsLimit : Response → Prop
  | .returned result => Reprise.HitsLimit result
  | _ => False

instance : DecidablePred Response.HitsLimit
  | .returned result => inferInstanceAs (Decidable (Reprise.HitsLimit result))
  | .stored _ => .isFalse id
  | .allocated _ => .isFalse id
  | .done => .isFalse id

/-- The response to a command, the heap after it, and the instructions executed for it. -/
structure Exchange where
  response : Response
  heap : Heap
  cost : Nat

/-- The second exchange is that of a machine that may have executed less. -/
structure Exchange.Matches (x y : Exchange) : Prop where
  response : y.response = x.response
  heap : y.heap = x.heap
  cost : y.cost ≤ x.cost

namespace Machine

/-- Carries out a command. -/
def obey (m : Machine) : Command → Response × Machine
  | .invoke id callee args =>
    let o := m.invoke id callee args
    (.returned o.result, o.machine)
  | .store field v =>
    match m.heap.store field v with
    | .error e => (.stored (.error e), m)
    | .ok heap => (.stored (.ok ()), { m with heap })
  | .setShared owner on => (.done, { m with heap := m.heap.setShared owner on })
  | .setFrozen owner on => (.done, { m with heap := m.heap.setFrozen owner on })
  | .setThreads threads => (.done, { m with heap := m.heap.setThreads threads })
  | .allocate id =>
    match m.allocate id with
    | .error e => (.allocated (.error e), m)
    | .ok (object, m) => (.allocated (.ok object), m)
  | .beginRun id => (.done, { m with recorder := m.recorder.map (·.beginRun id) })
  | .finishRun => (.done, { m with recorder := m.recorder.map (·.finishRun) })

/-- Carries out commands one after the other. -/
def exchanges (m : Machine) : List Command → List Exchange
  | [] => []
  | c :: rest =>
    let (response, after) := m.obey c
    ⟨response, after.heap, after.executed - m.executed⟩ :: after.exchanges rest

/-! ## One operation after another -/

/-- Goes on with the machine after an operation that succeeded. -/
def andThen {α : Type} (o : Outcome Unit) (f : Machine → Outcome α) : Outcome α :=
  match o.result with
  | .error e => ⟨o.machine, .error e⟩
  | .ok () => f o.machine

variable {p : Program} {config : MachineConfig} {k₀ l₀ : Nat} {P M : Machine}

theorem hitsLimit_andThen {α : Type} {o : Outcome Unit} (hlimit : HitsLimit o.result)
    (f : Machine → Outcome α) : HitsLimit (andThen o f).result := by
  obtain ⟨e, he, hlimited⟩ := hlimit
  exact ⟨e, by rw [andThen, he], hlimited⟩

theorem Agree.andThen {α : Type} {near : Machine → Machine → Prop}
    {goes : α → Machine → Machine → Prop} {o o' : Outcome Unit} {f : Machine → Outcome α}
    (hagree : Agree p config k₀ l₀ (fun _ => near) o o')
    (hnext : ∀ {P M}, near P M → ¬ HitsLimit (f P).result →
      Agree p config k₀ l₀ goes (f P) (f M))
    (hlimit : ¬ HitsLimit (andThen o f).result) :
    Agree p config k₀ l₀ goes (andThen o f) (andThen o' f) := by
  cases hagree with
  | fails hP hM htyped hr hcost => exact .fails hP hM htyped hr hcost
  | goes hnear => exact hnext hnear hlimit

/-! ## Invocations -/

/-- Enters a routine and runs until no more than `base` frames are left. -/
def enterRun (m : Machine) (base : Nat) (id : RoutineId) (callee : Option ObjectId)
    (args : List Value) : Outcome (Option Value) :=
  andThen (m.enter id callee args) (·.run base)

/-- Does not look at what an operation gave. -/
def ignoring (o : Outcome (Option Value)) : Outcome Unit := ⟨o.machine, o.result.map fun _ => ()⟩

theorem runInitializer_eq (m : Machine) (id : ClassId) :
    m.runInitializer id =
      match m.heap.prepare? m.program id with
      | none => ⟨m, .ok ()⟩
      | some (heap, initializer) =>
        ignoring ({ m with heap }.enterRun m.frames.length initializer none []) := by
  unfold runInitializer enterRun
  cases m.heap.prepare? m.program id with
  | none => rfl
  | some prepared =>
    obtain ⟨heap, initializer⟩ := prepared
    generalize m.frames.length = base
    dsimp only
    generalize Machine.enter _ initializer none [] = entered
    obtain ⟨entered, result⟩ := entered
    cases result <;> rfl

theorem invokeAbove_eq (m : Machine) (id : RoutineId) (callee : Option ObjectId)
    (args : List Value) :
    m.invokeAbove id callee args =
      match m.program.routine? id with
      | none => ⟨m, .error ⟨⟨id, 0⟩, .noSuchRoutine id⟩⟩
      | some q =>
        andThen (if q.kind = .static then m.runInitializer q.owner else ⟨m, .ok ()⟩)
          (·.enterRun m.frames.length id callee args) := by
  unfold invokeAbove enterRun
  cases m.program.routine? id <;> rfl

theorem enterRun_agree (hp : p.IsTimeless) (hinit : p.IsInitialized) {id : RoutineId}
    {callee : Option ObjectId} {args : List Value}
    (hagree : Agree p config k₀ l₀ (fun _ => Near p config k₀ l₀) (P.enter id callee args)
      (M.enter id callee args))
    (hlimit : ¬ HitsLimit (P.enterRun 0 id callee args).result) :
    Agree p config k₀ l₀ (fun _ => Ended p config k₀ l₀) (P.enterRun 0 id callee args)
      (M.enterRun 0 id callee args) := by
  refine hagree.andThen (fun {P M} hnear hlimit => ?_) hlimit
  have hconfig : P.config = M.config := by
    obtain ⟨top, hP, hM, -⟩ := hnear
    exact hP.config.trans hM.config.symm
  simp only [run, hconfig] at hlimit ⊢
  exact runFrom_agree hp hinit _ hnear (Nat.le_refl _) hlimit

/-- Machines without frames run the initializer of a class to the same end. -/
theorem runInitializer_agree (hp : p.IsTimeless) (hinit : p.IsInitialized)
    (hended : Ended p config k₀ l₀ P M) (id : ClassId)
    (hlimit : ¬ HitsLimit (P.runInitializer id).result) :
    Agree p config k₀ l₀ (fun _ => Ended p config k₀ l₀) (P.runInitializer id)
      (M.runInitializer id) := by
  have hboth := hended
  obtain ⟨hP, hM, htyped, hr, hnil, hcost⟩ := hended
  rename_i r h k l
  have hprepareP : P.heap.prepare? P.program id = h.prepare? p id := by rw [hP.heap, hP.program]
  have hprepareM : M.heap.prepare? M.program id = h.prepare? p id := by rw [hM.heap, hM.program]
  have hbaseP : P.frames.length = 0 := by rw [hP.frames]; rfl
  have hbaseM : M.frames.length = 0 := by rw [hM.frames]; rfl
  rw [runInitializer_eq, hprepareP, hbaseP] at hlimit ⊢
  rw [runInitializer_eq, hprepareM, hbaseM]
  cases hprepare : h.prepare? p id with
  | none => exact .goes hboth
  | some prepared =>
    obtain ⟨heap, initializer⟩ := prepared
    have hP' : At p config none heap [] k { P with heap } := { hP with heap := rfl }
    have hM' : At p config (some r) heap [] l { M with heap } := { hM with heap := rfl }
    have henter := prepare_agree hinit hprepare hP' hM' htyped hr (fun _ => hnil) hcost
    simp only [hprepare] at hlimit ⊢
    have hrun := enterRun_agree hp hinit henter fun ⟨e, he, hlimited⟩ =>
      hlimit ⟨e, by rw [ignoring, he]; rfl, hlimited⟩
    generalize enterRun { P with heap } 0 initializer none [] = o at hrun ⊢
    generalize enterRun { M with heap } 0 initializer none [] = o' at hrun ⊢
    cases hrun with
    | fails hP hM htyped hr hcost => exact .fails hP hM htyped hr hcost
    | goes hended => exact .goes hended

/-- Machines without frames run a routine to the same end. -/
theorem invokeAbove_agree (hp : p.IsTimeless) (hinit : p.IsInitialized)
    (hended : Ended p config k₀ l₀ P M) (id : RoutineId) (callee : Option ObjectId)
    (args : List Value) (hlimit : ¬ HitsLimit (P.invokeAbove id callee args).result) :
    Agree p config k₀ l₀ (fun _ => Ended p config k₀ l₀) (P.invokeAbove id callee args)
      (M.invokeAbove id callee args) := by
  have hboth := hended
  obtain ⟨hP, hM, htyped, hr, hnil, hcost⟩ := hended
  rw [invokeAbove_eq] at hlimit ⊢
  rw [invokeAbove_eq]
  simp only [hP.program, hM.program, hP.frames, hM.frames, List.length_nil] at hlimit ⊢
  cases hq : p.routine? id with
  | none => exact .fails hP hM htyped hr hcost
  | some q =>
    simp only [hq] at hlimit ⊢
    have hprepared : Agree p config k₀ l₀ (fun _ => Ended p config k₀ l₀)
        (if q.kind = .static then P.runInitializer q.owner else ⟨P, .ok ()⟩)
        (if q.kind = .static then M.runInitializer q.owner else ⟨M, .ok ()⟩) := by
      by_cases hkind : q.kind = .static
      · simp only [if_pos hkind] at hlimit ⊢
        exact runInitializer_agree hp hinit hboth q.owner fun hlimited =>
          hlimit (hitsLimit_andThen hlimited _)
      · simp only [if_neg hkind]
        exact .goes hboth
    refine hprepared.andThen (fun {P M} hended hlimit => ?_) hlimit
    obtain ⟨hP, hM, htyped, hr, hnil, hcost⟩ := hended
    refine enterRun_agree hp hinit (enter_agree hP hM htyped hr (fun _ => hnil) ?_ hcost) hlimit
    intro q callee' args' _ _
    rw [hnil]
    exact ⟨.nil hr.stored, by simp⟩

/-- A failed invocation leaves no frame and no recording behind. -/
theorem ended_cutTo {r : Recorder} {h : Heap} {fs fs' : List Frame} {k l : Nat}
    (hP : At p config none h fs k P) (hM : At p config (some r) h fs' l M) (htyped : h.Typed)
    (hr : r.Keeps p h) (hcost : l + k₀ ≤ k + l₀) :
    Ended p config k₀ l₀ (P.cutTo 0) (M.cutTo 0) := by
  have hunwind := Recorder.turns_unwind r 0
  rw [Recorder.shallow_zero hr.depth] at hunwind
  refine .intro (r := r.unwind 0) ?_ ?_ htyped ⟨by rw [hunwind.store]; exact hr.stored, ?_⟩
    hunwind.recordings hcost
  · exact { hP with
      frames := by simp [cutTo]
      recorder := by simp [cutTo, hP.recorder] }
  · exact { hM with
      frames := by simp [cutTo]
      recorder := by simp [cutTo, hM.recorder] }
  · rw [hunwind.recordings]
    simp

theorem invoke_agree (hp : p.IsTimeless) (hinit : p.IsInitialized)
    (hended : Ended p config k₀ l₀ P M) (id : RoutineId) (callee : Option ObjectId)
    (args : List Value) (hlimit : ¬ HitsLimit (P.invoke id callee args).result) :
    (M.invoke id callee args).result = (P.invoke id callee args).result ∧
      Ended p config k₀ l₀ (P.invoke id callee args).machine
        (M.invoke id callee args).machine := by
  have hframes : P.frames = [] ∧ M.frames = [] := by
    obtain ⟨hP, hM, -⟩ := hended
    exact ⟨hP.frames, hM.frames⟩
  have habove : ¬ HitsLimit (P.invokeAbove id callee args).result := by
    rintro ⟨e, he, hlimited⟩
    exact hlimit ⟨e, by simp only [invoke, he], hlimited⟩
  have hagree := invokeAbove_agree hp hinit hended id callee args habove
  simp only [invoke, hframes.1, hframes.2, List.length_nil]
  generalize P.invokeAbove id callee args = o at hagree ⊢
  generalize M.invokeAbove id callee args = o' at hagree ⊢
  cases hagree with
  | fails hP hM htyped hr hcost => exact ⟨rfl, ended_cutTo hP hM htyped hr hcost⟩
  | goes hended => exact ⟨rfl, hended⟩

/-! ## Carrying out commands -/

/-- A change of the heap that keeps its slots does not tell the machines apart. -/
theorem Ended.withHeap (hended : Ended p config k₀ l₀ P M) {h' : Heap} (hh : P.heap.Becomes h') :
    Ended p config k₀ l₀ { P with heap := h' } { M with heap := h' } := by
  obtain ⟨hP, hM, htyped, hr, hnil, hcost⟩ := hended
  rw [hP.heap] at hh
  exact .intro { hP with heap := rfl } { hM with heap := rfl } (hh.typed htyped) (hr.mono hh.grows)
    hnil hcost

/-- A recorder without recordings and with no more summaries does not tell the machines apart. -/
theorem Ended.withRecorder (hended : Ended p config k₀ l₀ P M) {f : Recorder → Recorder}
    (hnil : ∀ r, (f r).recordings = [])
    (hstored : ∀ r h, r.store.IsSound p h → (f r).store.IsSound p h) :
    Ended p config k₀ l₀ { P with recorder := P.recorder.map f }
      { M with recorder := M.recorder.map f } := by
  obtain ⟨hP, hM, htyped, hr, -, hcost⟩ := hended
  rename_i r h k l
  refine .intro (r := f r) { hP with recorder := by simp [hP.recorder] }
    { hM with recorder := by simp [hM.recorder] } htyped ⟨hstored r h hr.stored, ?_⟩ (hnil r) hcost
  rw [hnil r]
  simp

theorem Ended.heap (hended : Ended p config k₀ l₀ P M) : M.heap = P.heap := by
  obtain ⟨hP, hM, -⟩ := hended
  exact hM.heap.trans hP.heap.symm

/-- The counters are compared with where they stand. -/
theorem Ended.rebase (hended : Ended p config k₀ l₀ P M) :
    Ended p config P.executed M.executed P M := by
  obtain ⟨hP, hM, htyped, hr, hnil, -⟩ := hended
  exact .intro hP hM htyped hr hnil (by rw [hP.executed, hM.executed, Nat.add_comm])

theorem Ended.cost (hended : Ended p config k₀ l₀ P M) :
    M.executed - l₀ ≤ P.executed - k₀ := by
  obtain ⟨hP, hM, -, -, -, hcost⟩ := hended
  rw [hP.executed, hM.executed]
  omega

/-- Both machines carry out a command alike. -/
theorem obey_agree (hp : p.IsTimeless) (hinit : p.IsInitialized)
    (hended : Ended p config k₀ l₀ P M) (c : Command)
    (hlimit : ¬ (P.obey c).1.HitsLimit) :
    (M.obey c).1 = (P.obey c).1 ∧ Ended p config k₀ l₀ (P.obey c).2 (M.obey c).2 := by
  have hheap := hended.heap
  cases c with
  | invoke id callee args =>
    obtain ⟨hresult, hended'⟩ := invoke_agree hp hinit hended id callee args hlimit
    exact ⟨by simp only [obey, hresult], hended'⟩
  | store field v =>
    simp only [obey, hheap]
    cases hstore : P.heap.store field v with
    | error e => exact ⟨rfl, hended⟩
    | ok h' => exact ⟨rfl, hended.withHeap (Heap.becomes_store hstore)⟩
  | setShared owner on =>
    simp only [obey, hheap]
    exact ⟨trivial, hended.withHeap (Heap.becomes_modifyStorage _ _ fun _ => rfl)⟩
  | setFrozen owner on =>
    simp only [obey, hheap]
    exact ⟨trivial, hended.withHeap (Heap.becomes_modifyStorage _ _ fun _ => rfl)⟩
  | setThreads threads =>
    simp only [obey, hheap]
    exact ⟨trivial, hended.withHeap (Heap.becomes_setThreads _ threads)⟩
  | allocate id =>
    have hclass : M.program.class? id = P.program.class? id := by
      obtain ⟨hP, hM, -⟩ := hended
      rw [hP.program, hM.program]
    simp only [obey, Machine.allocate, hheap, hclass]
    cases P.program.class? id with
    | none => exact ⟨rfl, hended⟩
    | some c => exact ⟨rfl, hended.withHeap (Heap.becomes_allocate _ id c)⟩
  | beginRun id =>
    refine ⟨rfl, hended.withRecorder (fun _ => rfl) fun r h _ => ?_⟩
    exact Store.isSound_of_empty rfl
  | finishRun => exact ⟨rfl, hended.withRecorder (fun _ => rfl) fun _ _ hs => hs⟩

/-- Both machines carry out any commands alike. -/
theorem exchanges_agree (hp : p.IsTimeless) (hinit : p.IsInitialized) (commands : List Command) :
    ∀ {k₀ l₀ P M}, Ended p config k₀ l₀ P M →
      (∀ x ∈ P.exchanges commands, ¬ x.response.HitsLimit) →
      List.Forall₂ Exchange.Matches (P.exchanges commands) (M.exchanges commands) := by
  induction commands with
  | nil => exact fun _ _ => .nil
  | cons c rest ih =>
    intro k₀ l₀ P M hended hwithin
    obtain ⟨hresponse, hended'⟩ :=
      obey_agree hp hinit hended.rebase c (hwithin _ List.mem_cons_self)
    exact .cons ⟨hresponse, hended'.heap, hended'.cost⟩
      (ih hended' fun x hx => hwithin x (List.mem_cons_of_mem _ hx))

/-! ## Top theorem -/

/-- With a recorder a machine does what it does without one, and executes no more instructions. -/
theorem replay_indistinguishable {p : Program} (hp : p.Built) (htimeless : p.IsTimeless)
    (config : MachineConfig) {w : Watchdog} (hw : ∀ n, w.answers n = false) (c : RecorderConfig)
    (blocked : String → Bool) (runId : RunId) (commands : List Command)
    (hwithin : ∀ x ∈ (Machine.new p config w).exchanges commands, ¬ x.response.HitsLimit) :
    List.Forall₂ Exchange.Matches ((Machine.new p config w).exchanges commands)
      (((Machine.new p config w).withRecorder (.start c blocked runId)).exchanges commands) := by
  have hended : Ended p config 0 0 (.new p config w)
      ((Machine.new p config w).withRecorder (.start c blocked runId)) := by
    refine .intro (r := .start c blocked runId) ⟨rfl, rfl, rfl, rfl, rfl, rfl, hw⟩
      ⟨rfl, rfl, rfl, rfl, rfl, rfl, hw⟩ (Heap.typed_ofClasses p.classes)
      ⟨Store.isSound_of_empty rfl, ?_⟩ rfl (Nat.le_refl _)
    intro R hR
    cases hR
  exact exchanges_agree htimeless hp.isInitialized commands hended hwithin

/-! ## A counter -/

/-- Adds one to the field of an object. -/
def increment : RoutineBody where
  kind := .method
  locals := 1
  code := #[.load 0, .load 0, .getField "n", .push (.int 1), .arithmetic .add, .putField "n",
    .leave]

/-- A program with one class and one routine. -/
def counter : Program where
  classes := #[{ name := "C", fields := [("n", .int)] }]
  routines := #[{ increment with owner := ⟨0⟩, name := "C.next" }]
  classNames := ⟨[("C", ⟨0⟩)]⟩
  routineNames := ⟨[("C.next", ⟨0⟩)]⟩

theorem built_counter : counter.Built := by
  have hclass : (Program.addClass {} { name := "C", fields := [("n", .int)] }).2.Built :=
    .addClass .empty rfl
  exact hclass.addRoutine
    (show Program.addRoutine _ ⟨0⟩ "next" increment = .ok (⟨0⟩, counter) from rfl)

/-- Counts up, resets the counter, and counts up again. -/
def countUp : List Command :=
  [.allocate ⟨0⟩, .invoke ⟨0⟩ (some ⟨0⟩) [], .store ⟨.object ⟨0⟩, "n"⟩ (.int 0),
    .invoke ⟨0⟩ (some ⟨0⟩) []]

/-- The second time, the routine is replayed. -/
theorem replay_indistinguishable_counter :
    let m := Machine.new counter {} .never
    let recording := m.withRecorder (.start {} (fun _ => false) ⟨0⟩)
    (∀ x ∈ m.exchanges countUp, ¬ x.response.HitsLimit) ∧
      List.Forall₂ Exchange.Matches (m.exchanges countUp) (recording.exchanges countUp) ∧
      (m.exchanges countUp).map (·.cost) = [0, 7, 0, 7] ∧
      (recording.exchanges countUp).map (·.cost) = [0, 7, 0, 1] := by
  have hwithin : ∀ x ∈ (Machine.new counter {} .never).exchanges countUp,
      ¬ x.response.HitsLimit := by decide +kernel
  exact ⟨hwithin, replay_indistinguishable built_counter (by decide) {} (fun _ => rfl) {} _ ⟨0⟩
    countUp hwithin, by decide +kernel, by decide +kernel⟩

end Machine

end Reprise
