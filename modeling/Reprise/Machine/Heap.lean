import Reprise.Machine.Program
import Reprise.Host

/-!
# The heap

The heap holds the objects and arrays, the static fields of every class, and the number of runnable
threads.  Objects are never removed, so an identity stays valid.  A field is a `Slot`, and every
store checks the type of its slot.

`FrameView` shows the heap and the operand stack of one frame to a recorder.
-/

namespace Reprise

open Std

/-- A typed storage location. -/
structure Slot where
  type : FieldType
  value : Value
  deriving DecidableEq

/-- A slot that has not been written. -/
def Slot.ofType (ty : FieldType) : Slot := ⟨ty, ty.defaultValue⟩

/-- The fields of an owner and what may be done with them. -/
structure Storage where
  fields : ExtTreeMap String Slot := ∅
  shared : Bool := false
  frozen : Bool := false
  deriving DecidableEq

/-- Unwritten fields; a name declared twice has the later type. -/
def Storage.ofDeclarations (fields : List (String × FieldType)) : Storage :=
  { fields := .ofList (fields.map fun (name, ty) => (name, Slot.ofType ty)) }

/-- An object, or an array, which has no class. -/
structure HeapObject extends Storage where
  classId : Option ClassId := none
  /-- The elements of an array. -/
  elements : Array Value := #[]
  deriving DecidableEq

/-- The static fields of a class. -/
structure ClassState extends Storage where
  initialized : Bool := false
  deriving DecidableEq

/-- All state of the observed program outside of frames. -/
structure Heap where
  objects : Array HeapObject := #[]
  classes : Array ClassState := #[]
  /-- The runnable threads. -/
  threads : Nat := 1
  deriving DecidableEq

namespace Heap

/-- No objects, and the unwritten static fields of the classes. -/
def ofClasses (classes : Array ClassDef) : Heap :=
  { classes := classes.map fun c => { toStorage := .ofDeclarations c.statics } }

def object? (h : Heap) (id : ObjectId) : Option HeapObject := h.objects[id.index]?

/-- The identity that the next object gets. -/
def nextObjectId (h : Heap) : ObjectId := ⟨h.objects.size⟩

/-- Adds an object. -/
def add (h : Heap) (o : HeapObject) : ObjectId × Heap :=
  (h.nextObjectId, { h with objects := h.objects.push o })

/-- Allocates an instance of the class with unwritten fields. -/
def allocate (h : Heap) (id : ClassId) (c : ClassDef) : ObjectId × Heap :=
  h.add { toStorage := .ofDeclarations c.fields, classId := some id }

/-- Allocates an array of zeros. -/
def allocateArray (h : Heap) (length : Nat) : ObjectId × Heap :=
  h.add { elements := Array.replicate length (.int 0) }

/-- The fields of an owner, if it exists. -/
def storage? (h : Heap) : FieldOwner → Option Storage
  | .object id => (h.objects[id.index]?).map (·.toStorage)
  | .statics id => (h.classes[id.index]?).map (·.toStorage)

/-- Changes the fields of an owner, if it exists. -/
def modifyStorage (h : Heap) (owner : FieldOwner) (f : Storage → Storage) : Heap :=
  match owner with
  | .object id =>
    { h with objects := h.objects.modify id.index fun o => { o with toStorage := f o.toStorage } }
  | .statics id =>
    { h with classes := h.classes.modify id.index fun c => { c with toStorage := f c.toStorage } }

def slot? (h : Heap) (field : FieldRef) : Option Slot :=
  (h.storage? field.owner).bind (·.fields[field.name]?)

/-- Puts a slot under a field, whether or not there is one. -/
def putSlot (h : Heap) (field : FieldRef) (slot : Slot) : Heap :=
  h.modifyStorage field.owner fun s => { s with fields := s.fields.insert field.name slot }

/-- Removes a field. -/
def dropField (h : Heap) (field : FieldRef) : Heap :=
  h.modifyStorage field.owner fun s => { s with fields := s.fields.erase field.name }

/-- Stores a value that conforms to the type of the field. -/
def store (h : Heap) (field : FieldRef) (v : Value) : Except HostFailure Heap :=
  match h.storage? field.owner with
  | none => .error (.noSuchOwner field.owner)
  | some s =>
    match s.fields[field.name]? with
    | none => .error (.noSuchField field)
    | some slot =>
      if v.conformsTo slot.type then .ok (h.putSlot field { slot with value := v })
      else .error (.typeMismatch slot.type v.text)

/-- Marks or unmarks an owner as shared. -/
def setShared (h : Heap) (owner : FieldOwner) (on : Bool) : Heap :=
  h.modifyStorage owner ({ · with shared := on })

/-- Marks or unmarks an owner as frozen. -/
def setFrozen (h : Heap) (owner : FieldOwner) (on : Bool) : Heap :=
  h.modifyStorage owner ({ · with frozen := on })

/-- Whether the owner exists and is shared. -/
def isShared (h : Heap) (owner : FieldOwner) : Bool := (h.storage? owner).any (·.shared)

/-- Whether the owner exists and is frozen. -/
def isFrozen (h : Heap) (owner : FieldOwner) : Bool := (h.storage? owner).any (·.frozen)

/-- Sets the number of runnable threads. -/
def setThreads (h : Heap) (threads : Nat) : Heap := { h with threads }

def isSingleThreaded (h : Heap) : Bool := h.threads == 1

/-- Marks a class as initialized, if it exists and is not marked. -/
def markInitialized? (h : Heap) (id : ClassId) : Option Heap :=
  match h.classes[id.index]? with
  | none => none
  | some c =>
    if c.initialized then none
    else some { h with classes := h.classes.modify id.index ({ · with initialized := true }) }

/-- An element of an array, or why there is none. -/
def element (h : Heap) (array : ObjectId) (index : Int32) : Except ExecutionFailure (Nat × Value) :=
  match h.object? array with
  | none => .error (.host (.noSuchOwner (.object array)))
  | some o =>
    let outside := ExecutionFailure.arrayIndexOutOfBounds index.toInt o.elements.size
    if index.toInt < 0 then .error outside
    else
      match o.elements[index.toInt.toNat]? with
      | none => .error outside
      | some v => .ok (index.toInt.toNat, v)

/-- Replaces an element of an array, if it exists. -/
def setElement (h : Heap) (array : ObjectId) (index : Nat) (v : Value) : Heap :=
  { h with objects := h.objects.modify array.index fun o =>
      { o with elements := o.elements.modify index fun _ => v } }

end Heap

/-- The heap and the operand stack of a frame, its top first. -/
structure FrameView where
  heap : Heap
  stack : List Value
  deriving DecidableEq

instance : Host FrameView where
  field? v field := (v.heap.slot? field).map (·.value)
  isShared v owner := v.heap.isShared owner
  isFrozen v owner := v.heap.isFrozen owner
  isSingleThreaded v := v.heap.isSingleThreaded
  assign v _ field value := (v.heap.store field value).map ({ v with heap := · })
  push v value := .ok { v with stack := value :: v.stack }

end Reprise
