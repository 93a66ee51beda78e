import Reprise.Machine.Action
import Reprise.Recorder.Deliver
import Reprise.Watchdog

/-!
# The machine

A small stack machine whose execution a recorder can follow and cut short.  `step` executes one
instruction: it performs the `Action` of the instruction and delivers the event that goes with it.
When the recorder answers a call with `skipToReturn`, the callee's frame goes straight to its last
return instruction; the return value is already on its stack.

`run` executes instructions until the frame it started with has returned, at most as many as the
configuration allows, asking the watchdog in between.  An invocation that fails leaves no frame
behind and has its recordings discarded.
-/

namespace Reprise

/-- The limits of a machine. -/
structure MachineConfig where
  maximumCallDepth : Nat := 1024
  /-- The most instructions of one run. -/
  instructionLimit : Nat := 10000000
  deriving DecidableEq

/-- The state of a machine. -/
structure Machine where
  program : Program
  config : MachineConfig
  heap : Heap
  /-- The frames, innermost first. -/
  frames : List Frame := []
  recorder : Option Recorder := none
  watchdog : Watchdog
  /-- The instructions executed so far. -/
  executed : Nat := 0
  /-- The lines printed so far. -/
  output : Array String := #[]

/-- A machine after an operation, and how that ended. -/
structure Outcome (α : Type) where
  machine : Machine
  result : Except Located α

/-- What an instruction did to the call stack. -/
inductive Flow where
  | goesOn
  /-- A frame was left. -/
  | returned (value : Option Value)

namespace Machine

/-- A machine that has executed nothing. -/
def new (program : Program) (config : MachineConfig) (watchdog : Watchdog) : Machine :=
  { program, config, watchdog, heap := .ofClasses program.classes }

/-- The machine with a recorder that follows it. -/
def withRecorder (m : Machine) (r : Recorder) : Machine := { m with recorder := some r }

/-- The number of frames. -/
def callDepth (m : Machine) : Nat := m.frames.length

/-- The instruction about to execute; offsets have 32 bits. -/
def location (m : Machine) : Location :=
  match m.frames with
  | [] => ⟨⟨0⟩, 0⟩
  | f :: _ => ⟨f.routine, min f.pc (UInt32.size - 1)⟩

/-- The operation failed here. -/
def fail {α : Type} (m : Machine) (location : Location) (failure : ExecutionFailure) : Outcome α :=
  ⟨m, .error ⟨location, failure⟩⟩

/-- Replaces the innermost frame. -/
def setTop (m : Machine) (f : Frame) : Machine := { m with frames := f :: m.frames.tail }

/-- Delivers an event to the recorder, if there is one, with the innermost frame in view.  Both a
refused replay and a broken promise stop the machine where it stands. -/
def notify (m : Machine) (e : Event) : Outcome Directive :=
  match m.recorder, m.frames with
  | some r, f :: _ =>
    match r.onEvent (FrameView.mk m.heap f.stack) e with
    | .error defect => m.fail m.location (.recorder defect.message)
    | .ok reply =>
      let told := { m with recorder := some reply.recorder, heap := reply.host.heap }.setTop
        { f with stack := reply.host.stack }
      match reply.answer with
      | .ok directive => ⟨told, .ok directive⟩
      | .error failure => told.fail m.location (.host failure)
  | _, _ => ⟨m, .ok .proceed⟩

/-- The arguments in the storage form of the parameters. -/
def narrowArgs : List Value → List FieldType → Except ExecutionFailure (List Value)
  | v :: vs, ty :: tys =>
    match v.narrowedTo ty, narrowArgs vs tys with
    | none, _ => .error (.operandType ty v.text)
    | some _, .error e => .error e
    | some w, .ok ws => .ok (w :: ws)
  | _, _ => .ok []

/-- The receiver of a call: the callee if the routine has a receiver, and none otherwise. -/
def receiver (id : RoutineId) (r : Routine) (callee : Option ObjectId) :
    Except ExecutionFailure (Option ObjectId) :=
  if r.hasReceiver then
    match callee with
    | some object => .ok (some object)
    | none => .error (.missingReceiver id)
  else .ok none

/-- The frame of a call: receiver and arguments fill the first slots, null the others. -/
def calleeFrame (id : RoutineId) (r : Routine) (callee : Option ObjectId) (args : List Value) :
    Frame :=
  let given := (callee.map Value.object).toList ++ args.map Value.widened
  { routine := id, locals := given ++ List.replicate (r.locals - given.length) .null }

/-- Pushes the frame of a call and announces the call. -/
def enter (m : Machine) (id : RoutineId) (callee : Option ObjectId) (args : List Value) :
    Outcome Unit :=
  let start : Location := ⟨id, 0⟩
  match m.program.routine? id with
  | none => m.fail start (.noSuchRoutine id)
  | some r =>
    if m.config.maximumCallDepth ≤ m.frames.length then
      m.fail m.location (.callDepthExceeded m.config.maximumCallDepth)
    else if r.params.length ≠ args.length then
      m.fail start (.arityMismatch id r.params.length args.length)
    else
      match receiver id r callee with
      | .error e => m.fail start e
      | .ok callee =>
        match narrowArgs args r.params with
        | .error e => m.fail start e
        | .ok args =>
          let m := { m with frames := calleeFrame id r callee args :: m.frames }
          let told := m.notify (.call
            { routine := id
              name := r.name
              kind := r.kind
              callee
              args
              params := r.params
              returns := r.returns
              depth := m.frames.length
              instructionCount := r.code.size })
          match told.result with
          | .error e => ⟨told.machine, .error e⟩
          | .ok .proceed => ⟨told.machine, .ok ()⟩
          | .ok .skipToReturn =>
            match r.finalReturn?, told.machine.frames with
            | some target, f :: _ => ⟨told.machine.setTop (f.goto target), .ok ()⟩
            | _, _ => told.machine.fail start (.noReturnInstruction id)

/-- Tells the recorder about an event that it cannot answer by skipping. -/
def tell (m : Machine) (e : Option Event) : Outcome Unit :=
  match e with
  | none => ⟨m, .ok ()⟩
  | some e =>
    let told := m.notify e
    ⟨told.machine, told.result.map fun _ => ()⟩

/-- An operation went on without leaving a frame. -/
def Outcome.goesOn (o : Outcome Unit) : Outcome Flow := ⟨o.machine, o.result.map fun _ => .goesOn⟩

/-- Performs the action of the instruction at `here`. -/
def perform (m : Machine) (here : Location) : Action → Outcome Flow
  | .proceed heap frame event printed =>
    let m := { m with heap, output := m.output ++ printed.toList }.setTop frame
    Outcome.goesOn (m.tell event)
  | .failAfter event failure =>
    let told := m.tell (some event)
    match told.result with
    | .error e => ⟨told.machine, .error e⟩
    | .ok () => told.machine.fail here failure
  | .prepare heap initializer => Outcome.goesOn ({ m with heap }.enter initializer none [])
  | .call frame id callee args => Outcome.goesOn ((m.setTop frame).enter id callee args)
  | .finish frame value =>
    let told := (m.setTop frame).tell (some (.returned here.routine m.frames.length value))
    match told.result with
    | .error e => ⟨told.machine, .error e⟩
    | .ok () => ⟨{ told.machine with frames := told.machine.frames.tail }, .ok (.returned value)⟩

/-- Executes one instruction. -/
def step (m : Machine) : Outcome Flow :=
  let here := m.location
  match m.frames with
  | [] => m.fail here (.host .noActiveFrame)
  | f :: _ =>
    match m.program.routine? f.routine with
    | none => m.fail here (.noSuchRoutine f.routine)
    | some r =>
      match r.code[f.pc]? with
      | none => m.fail here (.instructionPointerOutOfBounds f.pc r.code.size)
      | some instruction =>
        match f.act m.program m.executed m.heap r.returns instruction with
        | .error e => m.fail here e
        | .ok action => m.perform here action

/-- Gives the value that a frame returned to the frame below it. -/
def deliver (m : Machine) (value : Option Value) : Machine :=
  match value, m.frames with
  | some v, f :: _ => m.setTop (f.push v.widened)
  | _, _ => m

/-- Asks the watchdog whether to stop, when it is its turn. -/
def poll (m : Machine) (counter : Nat) : Bool × Machine :=
  if counter % max m.watchdog.pollEvery 1 = 0 then
    let (stop, watchdog) := m.watchdog.ask
    (stop, { m with watchdog })
  else (false, m)

/-- Executes instructions until no more than `base` frames are left, at most `remaining` of them
after `counter` earlier ones. -/
def runFrom (base : Nat) : (remaining counter : Nat) → Machine → Outcome (Option Value)
  | remaining, counter, m =>
    match m.poll counter with
    | (true, m) => m.fail m.location .stoppedByWatchdog
    | (false, m) =>
      match remaining with
      | 0 => m.fail m.location (.instructionLimitExceeded m.config.instructionLimit)
      | remaining + 1 =>
        let o := { m with executed := m.executed + 1 }.step
        match o.result with
        | .error e => ⟨o.machine, .error e⟩
        | .ok .goesOn => runFrom base remaining (counter + 1) o.machine
        | .ok (.returned value) =>
          if o.machine.frames.length ≤ base then ⟨o.machine, .ok value⟩
          else runFrom base remaining (counter + 1) (o.machine.deliver value)

/-- Executes instructions until no more than `base` frames are left. -/
def run (m : Machine) (base : Nat) : Outcome (Option Value) :=
  runFrom base m.config.instructionLimit 0 m

/-- Runs the initializer of a class above the present frames, if it is due. -/
def runInitializer (m : Machine) (id : ClassId) : Outcome Unit :=
  match m.heap.prepare? m.program id with
  | none => ⟨m, .ok ()⟩
  | some (heap, initializer) =>
    let entered := { m with heap }.enter initializer none []
    match entered.result with
    | .error e => ⟨entered.machine, .error e⟩
    | .ok () =>
      let o := entered.machine.run m.frames.length
      ⟨o.machine, o.result.map fun _ => ()⟩

/-- Runs a routine above the present frames; a static routine has its class initialized first. -/
def invokeAbove (m : Machine) (id : RoutineId) (callee : Option ObjectId) (args : List Value) :
    Outcome (Option Value) :=
  match m.program.routine? id with
  | none => m.fail ⟨id, 0⟩ (.noSuchRoutine id)
  | some r =>
    let prepared := if r.kind = .static then m.runInitializer r.owner else ⟨m, .ok ()⟩
    match prepared.result with
    | .error e => ⟨prepared.machine, .error e⟩
    | .ok () =>
      let entered := prepared.machine.enter id callee args
      match entered.result with
      | .error e => ⟨entered.machine, .error e⟩
      | .ok () => entered.machine.run m.frames.length

/-- Discards all but the outermost `base` frames, and the recordings of their invocations. -/
def cutTo (m : Machine) (base : Nat) : Machine :=
  { m with
    frames := m.frames.drop (m.frames.length - base)
    recorder := m.recorder.map (·.unwind base) }

/-- Invokes a routine and runs it to completion. -/
def invoke (m : Machine) (id : RoutineId) (callee : Option ObjectId) (args : List Value) :
    Outcome (Option Value) :=
  let o := m.invokeAbove id callee args
  match o.result with
  | .ok _ => o
  | .error _ => { o with machine := o.machine.cutTo m.frames.length }

/-- Invokes the routine with the qualified name. -/
def invokeByName (m : Machine) (name : String) (callee : Option ObjectId) (args : List Value) :
    Outcome (Option Value) :=
  match m.program.routineId? name with
  | none => m.fail m.location (.unknownRoutineName name)
  | some id => m.invoke id callee args

/-- Allocates an instance of a class outside of any routine. -/
def allocate (m : Machine) (id : ClassId) : Except HostFailure (ObjectId × Machine) :=
  match m.program.class? id with
  | none => .error (.noSuchOwner (.statics id))
  | some c =>
    let (object, heap) := m.heap.allocate id c
    .ok (object, { m with heap })

end Machine

end Reprise
