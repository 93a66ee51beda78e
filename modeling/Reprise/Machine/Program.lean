import Reprise.Event
import Reprise.Failure

/-!
# Programs

A program is a list of classes and a list of routines; both are identified by their index and can
also be found by name.  A routine's code works on the local slots and the operand stack of its
frame.  Values on the stack are always in stack form, and are brought into storage form again when
they are stored into a field or returned.

Names and identities are kept in two-way tables: of two entries with one name, or with one identity,
only the later one is found.
-/

namespace Reprise

/-- The arithmetic operations. -/
inductive Arithmetic where
  | add | sub | mul
  deriving DecidableEq

/-- A single instruction. -/
inductive Instruction where
  | push (v : Value)
  | load (index : Nat)
  | store (index : Nat)
  | pop
  | dup
  /-- Combines two values; adding texts concatenates them. -/
  | arithmetic (op : Arithmetic)
  | compareEq
  | compareLt
  | jump (target : Nat)
  /-- Jumps if the popped value is zero, false or null. -/
  | jumpIfZero (target : Nat)
  | getField (name : String)
  | putField (name : String)
  | getStatic (id : ClassId) (name : String)
  | putStatic (id : ClassId) (name : String)
  /-- Allocates an object with default fields; no constructor runs. -/
  | newObject (id : ClassId)
  | newArray
  | arrayLoad
  | arrayStore
  | invoke (routine : RoutineId)
  | invokeNative (name : String) (arity : Nat) (returns : Option FieldType)
  | monitorEnter
  | monitorExit
  | throwTop
  | leave
  deriving DecidableEq

/-- Whether the instruction leaves the routine. -/
def Instruction.isReturn : Instruction → Bool
  | .leave => true
  | _ => false

/-- The definition of a class. -/
structure ClassDef where
  name : String
  /-- The instance fields, in declaration order. -/
  fields : List (String × FieldType) := []
  /-- The static fields, in declaration order. -/
  statics : List (String × FieldType) := []
  /-- The routine that runs when the class is first used. -/
  initializer : Option RoutineId := none
  deriving DecidableEq

/-- What a routine is, apart from its place in a program. -/
structure RoutineBody where
  kind : RoutineKind := .static
  /-- The parameter types, without the receiver. -/
  params : List FieldType := []
  /-- The return type, `none` for a routine that returns nothing. -/
  returns : Option FieldType := none
  /-- The local slots, those of the receiver and the arguments included. -/
  locals : Nat := 0
  code : Array Instruction := #[]
  deriving DecidableEq

/-- A routine of a program. -/
structure Routine extends RoutineBody where
  owner : ClassId
  /-- The name, qualified by the name of the class. -/
  name : String
  deriving DecidableEq

namespace RoutineBody

/-- Whether the routine is invoked on an object. -/
def hasReceiver (r : RoutineBody) : Bool := r.kind.hasReceiver

/-- The offsets of the return instructions. -/
def returnOffsets (r : RoutineBody) : List Nat :=
  (List.range r.code.size).filter fun offset => (r.code[offset]?).any Instruction.isReturn

/-- The offset of the last return instruction. -/
def finalReturn? (r : RoutineBody) : Option Nat := r.returnOffsets.getLast?

end RoutineBody

/-- Names and what they name, newest first; neither occurs twice. -/
structure NameTable (ι : Type) where
  entries : List (String × ι) := []

namespace NameTable

variable {ι : Type} [DecidableEq ι]

/-- Adds a pair in place of those that share its name or its identity. -/
def insert (t : NameTable ι) (name : String) (id : ι) : NameTable ι :=
  ⟨(name, id) :: t.entries.filter fun (n, i) => n != name && i != id⟩

def id? (t : NameTable ι) (name : String) : Option ι :=
  (t.entries.find? fun (n, _) => n == name).map Prod.snd

def name? (t : NameTable ι) (id : ι) : Option String :=
  (t.entries.find? fun (_, i) => i == id).map Prod.fst

end NameTable

/-- Classes and routines. -/
structure Program where
  classes : Array ClassDef := #[]
  routines : Array Routine := #[]
  classNames : NameTable ClassId := {}
  routineNames : NameTable RoutineId := {}

namespace Program

def class? (p : Program) (id : ClassId) : Option ClassDef := p.classes[id.index]?

def routine? (p : Program) (id : RoutineId) : Option Routine := p.routines[id.index]?

def classId? (p : Program) (name : String) : Option ClassId := p.classNames.id? name

/-- The routine with the qualified name. -/
def routineId? (p : Program) (name : String) : Option RoutineId := p.routineNames.id? name

def routineName? (p : Program) (id : RoutineId) : Option String := p.routineNames.name? id

/-- The identity that the next class gets. -/
def nextClassId (p : Program) : ClassId := ⟨p.classes.size⟩

/-- The identity that the next routine gets, so that routines can call themselves. -/
def nextRoutineId (p : Program) : RoutineId := ⟨p.routines.size⟩

/-- Adds a class. -/
def addClass (p : Program) (c : ClassDef) : ClassId × Program :=
  (p.nextClassId,
    { p with
      classes := p.classes.push c
      classNames := p.classNames.insert c.name p.nextClassId })

/-- Adds a routine to a class of the program; a class initializer becomes that of the class. -/
def addRoutine (p : Program) (owner : ClassId) (simpleName : String) (body : RoutineBody) :
    Except Defect (RoutineId × Program) :=
  match p.class? owner with
  | none => .error .foreignClass
  | some c =>
    let id := p.nextRoutineId
    let name := c.name ++ "." ++ simpleName
    let withInitializer (c : ClassDef) : ClassDef :=
      if body.kind = .classInitializer then { c with initializer := some id } else c
    .ok (id, { p with
      classes := p.classes.modify owner.index withInitializer
      routines := p.routines.push { body with owner, name }
      routineNames := p.routineNames.insert name id })

end Program

end Reprise
