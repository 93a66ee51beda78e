import Reprise.Value

/-!
# What can go wrong

`HostFailure` is what a host answers when it cannot read or write its state, `StoreFull` what the
summary store answers, and `ExecutionFailure` what stops the machine; a machine failure is reported
with the instruction it happened at (`Located`).  `Failure` joins them for the users of the library.

A `Defect` is different: it says that a caller broke a promise, and no state is defined after it.
-/

namespace Reprise

open Text

/-- A host's refusal to touch its state. -/
inductive HostFailure where
  | noSuchOwner (owner : FieldOwner)
  | noSuchField (field : FieldRef)
  | typeMismatch (expected : FieldType) (value : String)
  | noActiveFrame
  deriving DecidableEq

/-- The name of the failure. -/
def HostFailure.name : HostFailure → String
  | .noSuchOwner _ => "NoSuchOwner"
  | .noSuchField _ => "NoSuchField"
  | .typeMismatch _ _ => "TypeMismatch"
  | .noActiveFrame => "NoActiveFrame"

def HostFailure.message : HostFailure → String
  | .noSuchOwner owner => owner.text ++ " does not exist"
  | .noSuchField field => field.owner.text ++ " has no field named " ++ quoted field.name
  | .typeMismatch expected value =>
    "Cannot store " ++ value ++ " into a location of type " ++ expected.name
  | .noActiveFrame => "No frame is available to receive a return value"

/-- The routine already has as many summaries as the store keeps. -/
structure StoreFull where
  routine : RoutineId
  capacity : Nat
  deriving DecidableEq

def StoreFull.message (e : StoreFull) : String :=
  "Routine " ++ e.routine.text ++ " already has the maximum of " ++ toString e.capacity ++
    " summaries"

/-- What stops the machine. -/
inductive ExecutionFailure where
  | instructionPointerOutOfBounds (requested available : Nat)
  | callDepthExceeded (limit : Nat)
  | instructionLimitExceeded (limit : Nat)
  | stackUnderflow
  | noSuchLocal (index : Nat)
  | noSuchRoutine (routine : RoutineId)
  | noSuchClass (id : ClassId)
  | unknownNative (name : String)
  | unknownRoutineName (name : String)
  | arityMismatch (routine : RoutineId) (expected received : Nat)
  | missingReceiver (routine : RoutineId)
  | operandType (expected : FieldType) (found : String)
  | incompatibleOperands (left right : String)
  | arrayIndexOutOfBounds (index : Int) (length : Nat)
  | noReturnInstruction (routine : RoutineId)
  | uncaughtException
  | stoppedByWatchdog
  | host (cause : HostFailure)
  | recorder (text : String)
  deriving DecidableEq

/-- The name of the failure; one that passes on a host failure names that too. -/
def ExecutionFailure.name : ExecutionFailure → String
  | .instructionPointerOutOfBounds _ _ => "InstructionPointerOutOfBounds"
  | .callDepthExceeded _ => "CallDepthExceeded"
  | .instructionLimitExceeded _ => "InstructionLimitExceeded"
  | .stackUnderflow => "StackUnderflow"
  | .noSuchLocal _ => "NoSuchLocal"
  | .noSuchRoutine _ => "NoSuchRoutine"
  | .noSuchClass _ => "NoSuchClass"
  | .unknownNative _ => "UnknownNative"
  | .unknownRoutineName _ => "UnknownRoutineName"
  | .arityMismatch _ _ _ => "ArityMismatch"
  | .missingReceiver _ => "MissingReceiver"
  | .operandType _ _ => "OperandType"
  | .incompatibleOperands _ _ => "IncompatibleOperands"
  | .arrayIndexOutOfBounds _ _ => "ArrayIndexOutOfBounds"
  | .noReturnInstruction _ => "NoReturnInstruction"
  | .uncaughtException => "UncaughtException"
  | .stoppedByWatchdog => "StoppedByWatchdog"
  | .host cause => "Host." ++ cause.name
  | .recorder _ => "Recorder"

def ExecutionFailure.message : ExecutionFailure → String
  | .instructionPointerOutOfBounds requested available =>
    "Instruction pointer " ++ toString requested ++ " is out of bounds in code of length " ++
      toString available
  | .callDepthExceeded limit => "Maximum call depth of " ++ toString limit ++ " frames exceeded"
  | .instructionLimitExceeded limit => "Instruction limit of " ++ toString limit ++ " exceeded"
  | .stackUnderflow => "The operand stack was empty"
  | .noSuchLocal index => "No local variable exists at index " ++ toString index
  | .noSuchRoutine routine => "No routine exists for " ++ routine.text
  | .noSuchClass id => "No class exists for " ++ id.text
  | .unknownNative name => "No native routine is named " ++ quoted name
  | .unknownRoutineName name => "No routine is named " ++ quoted name
  | .arityMismatch routine expected received =>
    "Routine " ++ routine.text ++ " expects " ++ toString expected ++ " arguments but received " ++
      toString received
  | .missingReceiver routine =>
    "Instance routine " ++ routine.text ++ " was invoked without a receiver"
  | .operandType expected found =>
    "Expected an operand of type " ++ expected.name ++ " but found " ++ found
  | .incompatibleOperands left right =>
    "Arithmetic operands " ++ left ++ " and " ++ right ++ " are not compatible"
  | .arrayIndexOutOfBounds index length =>
    "Index " ++ toString index ++ " is out of bounds for an array of length " ++ toString length
  | .noReturnInstruction routine => "Routine " ++ routine.text ++ " has no return instruction"
  | .uncaughtException => "An exception was thrown and not caught"
  | .stoppedByWatchdog => "Execution was stopped by the watchdog"
  | .host cause => cause.message
  | .recorder text => "The recorder failed: " ++ text

/-- An instruction of the observed program. -/
structure Location where
  routine : RoutineId
  offset : Nat
  deriving DecidableEq

/-- The routine and the offset as eight hexadecimal digits. -/
def Location.text (l : Location) : String :=
  l.routine.text ++ "[0x" ++ hexPadded 8 l.offset ++ "]"

/-- A machine failure and the instruction it happened at. -/
structure Located where
  location : Location
  failure : ExecutionFailure
  deriving DecidableEq

def Located.message (e : Located) : String :=
  "[" ++ e.location.text ++ "]: " ++ e.failure.message

/-- Every failure that the library reports. -/
inductive Failure where
  | execution (cause : Located)
  | host (cause : HostFailure)
  | store (cause : StoreFull)
  | invalidPattern (reason : String)
  | other (reason : String)
  deriving DecidableEq

/-- The name of the failure. -/
def Failure.name : Failure → String
  | .execution cause => cause.failure.name
  | .host cause => cause.name
  | .store _ => "CapacityExceeded"
  | .invalidPattern _ => "InvalidBlacklistPattern"
  | .other _ => "Other"

def Failure.message : Failure → String
  | .execution cause => cause.message
  | .host cause => cause.message
  | .store cause => cause.message
  | .invalidPattern reason => "Invalid blacklist pattern: " ++ reason
  | .other reason => "Unknown Error: " ++ quoted reason

/-- A broken promise of the caller. -/
inductive Defect where
  /-- A write of an array was to be captured. -/
  | arrayWrite
  /-- A captured write does not conform to the type of its field. -/
  | nonconformingWrite (type : FieldType) (value : Value)
  /-- Of two calls of one routine exactly one had a callee. -/
  | calleeMismatch (expected actual : Option ObjectId)
  /-- A routine was added to a class that does not exist. -/
  | foreignClass
  deriving DecidableEq

/-- How a callee is named when it is compared with another. -/
def Defect.calleeText : Option ObjectId → String
  | some id => "Some(ObjectId(" ++ toString id.index ++ "))"
  | none => "None"

def Defect.message : Defect → String
  | .arrayWrite => "Array typed fields cannot be part of a modification set"
  | .nonconformingWrite type value =>
    "Value " ++ value.text ++ " cannot be stored in a field of type " ++ type.name
  | .calleeMismatch expected actual =>
    "Context callee " ++ calleeText expected ++ " cannot be matched against candidate callee " ++
      calleeText actual
  | .foreignClass => "Routines can only be added to existing classes"

end Reprise
