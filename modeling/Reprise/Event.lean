import Reprise.Value

/-!
# Events of the observed program

An interpreter tells a recorder what it does, one `Event` at a time, and obeys the `Directive` that
answers it: only a call is ever answered `skipToReturn`.
-/

namespace Reprise

/-- How a routine is dispatched. -/
inductive RoutineKind where
  /-- Without a callee. -/
  | static
  /-- On a callee object. -/
  | method
  | constructor
  | classInitializer
  deriving DecidableEq

namespace RoutineKind

def all : List RoutineKind := [.static, .method, .constructor, .classInitializer]

/-- Whether routines of the kind are recorded at all; constructors and class initializers set up
what has no earlier state to depend on. -/
def isSummarizable : RoutineKind → Bool
  | .static => true
  | .method => true
  | .constructor => false
  | .classInitializer => false

/-- Whether routines of the kind are invoked on an object. -/
def hasReceiver : RoutineKind → Bool
  | .static => false
  | .method => true
  | .constructor => true
  | .classInitializer => false

/-- The name of the kind in reports. -/
def key : RoutineKind → String
  | .static => "static"
  | .method => "instance"
  | .constructor => "constructor"
  | .classInitializer => "classInitializer"

end RoutineKind

/-- A call, seen when the callee's frame stands and none of its instructions has run. -/
structure Invocation where
  routine : RoutineId
  name : String
  kind : RoutineKind
  callee : Option ObjectId
  /-- The arguments, without the callee. -/
  args : List Value
  params : List FieldType
  /-- The return type, `none` for a routine that returns nothing. -/
  returns : Option FieldType
  /-- The depth of the callee's frame on the call stack. -/
  depth : Nat
  /-- The length of the routine's code. -/
  instructionCount : Nat

/-- Whether a parameter or the return value is an array. -/
def Invocation.hasArraySignature (i : Invocation) : Bool :=
  (i.params ++ i.returns.toList).any (!·.isSnapshottable)

/-- A read of a field with the value found, or a write with the value stored. -/
structure FieldAccess where
  field : FieldRef
  type : FieldType
  value : Value

/-- Host behaviour whose effects cannot be observed. -/
inductive Interruption where
  | threadInterrupted
  | objectLocked
  | objectUnlocked
  | objectWait
  | objectNotify
  | objectNotifyAll
  | objectShared
  | objectExposed
  | choiceRegistered
  | choiceSet
  | choiceAdvanced
  | exceptionThrown
  | stateAdvanced
  | stateBacktracked
  deriving DecidableEq

namespace Interruption

def all : List Interruption :=
  [.threadInterrupted, .objectLocked, .objectUnlocked, .objectWait, .objectNotify,
    .objectNotifyAll, .objectShared, .objectExposed, .choiceRegistered, .choiceSet,
    .choiceAdvanced, .exceptionThrown, .stateAdvanced, .stateBacktracked]

/-- The name of the interruption in structured reports. -/
def key : Interruption → String
  | .threadInterrupted => "threadInterrupted"
  | .objectLocked => "objectLocked"
  | .objectUnlocked => "objectUnlocked"
  | .objectWait => "objectWait"
  | .objectNotify => "objectNotify"
  | .objectNotifyAll => "objectNotifyAll"
  | .objectShared => "objectShared"
  | .objectExposed => "objectExposed"
  | .choiceRegistered => "choiceRegistered"
  | .choiceSet => "choiceSet"
  | .choiceAdvanced => "choiceAdvanced"
  | .exceptionThrown => "exceptionThrown"
  | .stateAdvanced => "stateAdvanced"
  | .stateBacktracked => "stateBacktracked"

/-- The interruption in words. -/
def text : Interruption → String
  | .threadInterrupted => "thread interrupted"
  | .objectLocked => "object locked"
  | .objectUnlocked => "object unlocked"
  | .objectWait => "wait"
  | .objectNotify => "notify"
  | .objectNotifyAll => "notify all"
  | .objectShared => "object shared"
  | .objectExposed => "object exposed"
  | .choiceRegistered => "choice registered"
  | .choiceSet => "choice set"
  | .choiceAdvanced => "choice advanced"
  | .exceptionThrown => "exception thrown"
  | .stateAdvanced => "state advanced"
  | .stateBacktracked => "state backtracked"

end Interruption

/-- One thing that the observed program did. -/
inductive Event where
  | call (invocation : Invocation)
  /-- The routine whose frame stands at `depth` returned. -/
  | returned (routine : RoutineId) (depth : Nat) (value : Option Value)
  | fieldRead (access : FieldAccess)
  | fieldWrite (access : FieldAccess)
  | nativeCall (name : String)
  | allocation
  | arrayAccess
  | interruption (what : Interruption)

/-- The part of a dotted name after its last dot; natives are known by it. -/
def simpleName (name : String) : String :=
  String.ofList (name.toList.reverse.takeWhile (· != '.')).reverse

/-- How execution goes on after an event. -/
inductive Directive where
  | proceed
  /-- The effects of the call are in place and its return value is on the callee's stack. -/
  | skipToReturn
  deriving DecidableEq

end Reprise
