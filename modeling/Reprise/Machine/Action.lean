import Reprise.Machine.Arithmetic
import Reprise.Machine.Heap

/-!
# What an instruction does

`Frame.act` says what an instruction does to the heap and to its own frame, without any recorder:
the frame goes on, calls a routine, returns, fails, or first needs a class to be initialized.  The
machine performs the `Action` and tells the recorder about it.

An instruction that fails changes nothing, and one that needs a class initialized neither: it is
executed again afterwards.
-/

namespace Reprise

/-- The activation record of an invocation. -/
structure Frame where
  routine : RoutineId
  /-- The offset of the instruction about to execute. -/
  pc : Nat := 0
  locals : List Value := []
  /-- The operand stack, its top first. -/
  stack : List Value := []
  deriving DecidableEq

/-- What comes of an instruction. -/
inductive Action where
  /-- The frame goes on; the recorder is told about the event, and a line may be printed. -/
  | proceed (heap : Heap) (frame : Frame) (event : Option Event) (printed : Option String)
  /-- The instruction fails after the recorder was told about the event. -/
  | failAfter (event : Event) (failure : ExecutionFailure)
  /-- The initializer has to run before the instruction; the heap has its class marked. -/
  | prepare (heap : Heap) (initializer : RoutineId)
  /-- The frame waits for the routine. -/
  | call (frame : Frame) (routine : RoutineId) (callee : Option ObjectId) (args : List Value)
  /-- The frame is left. -/
  | finish (frame : Frame) (value : Option Value)

/-- The initializer that has to run before the class is used, and the heap with the class marked;
`none` if there is none or it has run. -/
def Heap.prepare? (h : Heap) (p : Program) (id : ClassId) : Option (Heap × RoutineId) :=
  match (p.class? id).bind (·.initializer) with
  | none => none
  | some initializer => (h.markInitialized? id).map (·, initializer)

namespace Frame

/-- Pushes a value. -/
def push (f : Frame) (v : Value) : Frame := { f with stack := v :: f.stack }

/-- Goes to the next instruction. -/
def advance (f : Frame) : Frame := { f with pc := f.pc + 1 }

/-- Goes to an instruction. -/
def goto (f : Frame) (target : Nat) : Frame := { f with pc := target }

/-- Pops the top of the stack. -/
def pop (f : Frame) : Except ExecutionFailure (Value × Frame) :=
  match f.stack with
  | [] => .error .stackUnderflow
  | v :: rest => .ok (v, { f with stack := rest })

/-- Pops an `int`. -/
def popInt (f : Frame) : Except ExecutionFailure (Int32 × Frame) :=
  match f.pop with
  | .error e => .error e
  | .ok (.int n, f) => .ok (n, f)
  | .ok (v, _) => .error (.operandType .int v.text)

/-- Pops an object. -/
def popObject (f : Frame) : Except ExecutionFailure (ObjectId × Frame) :=
  match f.pop with
  | .error e => .error e
  | .ok (v, f) =>
    match v.asObject? with
    | some id => .ok (id, f)
    | none => .error (.operandType .reference v.text)

/-- Pops a number of values, the last pushed last. -/
def popMany (f : Frame) (count : Nat) : Except ExecutionFailure (List Value × Frame) :=
  if count ≤ f.stack.length then
    .ok ((f.stack.take count).reverse, { f with stack := f.stack.drop count })
  else .error .stackUnderflow

/-- Goes on without telling anyone. -/
def quietly (h : Heap) (f : Frame) : Action := .proceed h f none none

/-- Goes on and tells the recorder. -/
def telling (h : Heap) (f : Frame) (event : Event) : Action := .proceed h f (some event) none

/-- Pushes the value of a field. -/
def readField (h : Heap) (f : Frame) (field : FieldRef) : Except ExecutionFailure Action :=
  match h.slot? field with
  | none => .error (.host (.noSuchField field))
  | some slot =>
    .ok (telling h (f.push slot.value.widened).advance (.fieldRead ⟨field, slot.type, slot.value⟩))

/-- Stores a value into a field. -/
def writeField (h : Heap) (f : Frame) (field : FieldRef) (v : Value) :
    Except ExecutionFailure Action :=
  match h.slot? field with
  | none => .error (.host (.noSuchField field))
  | some slot =>
    match v.narrowedTo slot.type with
    | none => .error (.operandType slot.type v.text)
    | some w =>
      match h.store field w with
      | .error e => .error (.host e)
      | .ok h => .ok (telling h f.advance (.fieldWrite ⟨field, slot.type, w⟩))

/-- What a native routine gives: a line to print, or a value.  `clock` is the number of instructions
executed so far. -/
inductive NativeResult where
  | printed (line : String)
  | value (v : Value)

/-- The native routines, by their simple names. -/
def native? (clock : Nat) (name : String) (args : List Value) : Option NativeResult :=
  match simpleName name with
  | "println" => some (.printed (" ".intercalate (args.map Value.text)))
  | "hashCode" =>
    match args with
    | [.object id] => some (.value (.int (Int32.ofNat (min id.index (Nat.pow 2 31 - 1)))))
    | _ => none
  | "min" =>
    match args with
    | [.int a, .int b] => some (.value (.int (if a ≤ b then a else b)))
    | _ => none
  | "max" =>
    match args with
    | [.int a, .int b] => some (.value (.int (if a ≤ b then b else a)))
    | _ => none
  | "currentTimeMillis" | "nanoTime" =>
    match args with
    | [] => some (.value (.long (Int64.ofNat (min clock (Nat.pow 2 63 - 1)))))
    | _ => none
  | _ => none

/-- Calls a native routine; what it declares to return is pushed, the default value where it gives
none. -/
def callNative (clock : Nat) (h : Heap) (f : Frame) (name : String) (arity : Nat)
    (returns : Option FieldType) : Except ExecutionFailure Action :=
  match f.popMany arity with
  | .error e => .error e
  | .ok (args, f) =>
    let event := Event.nativeCall name
    match native? clock name args with
    | none => .ok (.failAfter event (.unknownNative name))
    | some result =>
      let (given, printed) := match result with
        | .printed line => (none, some line)
        | .value v => (some v, none)
      let f := match returns with
        | some ty => f.push (given.getD ty.defaultValue).widened
        | none => f
      .ok (.proceed h f.advance (some event) printed)

/-- Pops the arguments and the receiver of a routine and calls it. -/
def callRoutine (f : Frame) (id : RoutineId) (r : Routine) : Except ExecutionFailure Action :=
  match f.popMany r.params.length with
  | .error e => .error e
  | .ok (args, f) =>
    if r.hasReceiver then
      match f.popObject with
      | .error e => .error e
      | .ok (callee, f) => .ok (.call f.advance id (some callee) args)
    else .ok (.call f.advance id none args)

/-- Whether a jump on zero is taken. -/
def isZero : Value → Bool
  | .int n => n == 0
  | .long n => n == 0
  | .bool b => !b
  | .null => true
  | _ => false

/-- Does `k` unless a class has to be initialized first. -/
def afterPreparing (p : Program) (h : Heap) (id : ClassId) (k : Except ExecutionFailure Action) :
    Except ExecutionFailure Action :=
  match h.prepare? p id with
  | some (h, initializer) => .ok (.prepare h initializer)
  | none => k

/-- What the instruction does in a frame of a routine that returns `returns`. -/
def act (p : Program) (clock : Nat) (h : Heap) (f : Frame) (returns : Option FieldType) :
    Instruction → Except ExecutionFailure Action
  | .push v => .ok (quietly h (f.push v.widened).advance)
  | .load index =>
    match f.locals[index]? with
    | none => .error (.noSuchLocal index)
    | some v => .ok (quietly h (f.push v).advance)
  | .store index => do
    let (v, f) ← f.pop
    if index < f.locals.length then
      .ok (quietly h { f with locals := f.locals.set index v }.advance)
    else .error (.noSuchLocal index)
  | .pop => do
    let (_, f) ← f.pop
    .ok (quietly h f.advance)
  | .dup => do
    let (v, f) ← f.pop
    .ok (quietly h ((f.push v).push v).advance)
  | .arithmetic op => do
    let (right, f) ← f.pop
    let (left, f) ← f.pop
    match op.onValues? left right with
    | some v => .ok (quietly h (f.push v).advance)
    | none => .error (.incompatibleOperands left.text right.text)
  | .compareEq => do
    let (right, f) ← f.pop
    let (left, f) ← f.pop
    .ok (quietly h (f.push (.ofBool (left == right))).advance)
  | .compareLt => do
    let (right, f) ← f.pop
    let (left, f) ← f.pop
    match left.isLess? right with
    | some less => .ok (quietly h (f.push (.ofBool less)).advance)
    | none => .error (.incompatibleOperands left.text right.text)
  | .jump target => .ok (quietly h (f.goto target))
  | .jumpIfZero target => do
    let (v, f) ← f.pop
    .ok (quietly h (if isZero v then f.goto target else f.advance))
  | .getField name => do
    let (object, f) ← f.popObject
    readField h f ⟨.object object, name⟩
  | .putField name => do
    let (v, f) ← f.pop
    let (object, f) ← f.popObject
    writeField h f ⟨.object object, name⟩ v
  | .getStatic id name => afterPreparing p h id (readField h f ⟨.statics id, name⟩)
  | .putStatic id name => afterPreparing p h id do
    let (v, f) ← f.pop
    writeField h f ⟨.statics id, name⟩ v
  | .newObject id => afterPreparing p h id <|
    match p.class? id with
    | none => .error (.noSuchClass id)
    | some c =>
      let (object, h) := h.allocate id c
      .ok (telling h (f.push (.object object)).advance .allocation)
  | .newArray => do
    let (length, f) ← f.popInt
    if length < 0 then .error (.operandType .int (Value.int length).text)
    else
      let (array, h) := h.allocateArray length.toInt.toNat
      .ok (telling h (f.push (.object array)).advance .allocation)
  | .arrayLoad => do
    let (index, f) ← f.popInt
    let (array, f) ← f.popObject
    let (_, v) ← h.element array index
    .ok (telling h (f.push v.widened).advance .arrayAccess)
  | .arrayStore => do
    let (v, f) ← f.pop
    let (index, f) ← f.popInt
    let (array, f) ← f.popObject
    let (position, _) ← h.element array index
    .ok (telling (h.setElement array position v) f.advance .arrayAccess)
  | .invoke id =>
    match p.routine? id with
    | none => .error (.noSuchRoutine id)
    | some r =>
      if r.kind = .static then afterPreparing p h r.owner (f.callRoutine id r)
      else f.callRoutine id r
  | .invokeNative name arity returns => f.callNative clock h name arity returns
  | .monitorEnter => do
    let (_, f) ← f.popObject
    .ok (telling h f.advance (.interruption .objectLocked))
  | .monitorExit => do
    let (_, f) ← f.popObject
    .ok (telling h f.advance (.interruption .objectUnlocked))
  | .throwTop => do
    let _ ← f.pop
    .ok (.failAfter (.interruption .exceptionThrown) .uncaughtException)
  | .leave =>
    match returns with
    | none => .ok (.finish f none)
    | some ty => do
      let (v, f) ← f.pop
      match v.narrowedTo ty with
      | some w => .ok (.finish f (some w))
      | none => .error (.operandType ty v.text)

end Frame

end Reprise
