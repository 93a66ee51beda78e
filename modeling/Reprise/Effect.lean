import Reprise.Precondition

/-!
# What a recorded invocation changed

An `Effect` holds the last value written to every field that an invocation wrote, and the value it
returned.  A `FieldWrite` can only be built for a value that conforms to a type other than an array
(`FieldWrite.check`), so applying an effect never asks a host to store a value of the wrong type.

`apply` writes the fields in order, instance fields first, and stops at the first one that the host
refuses; the fields before it stay written.
-/

namespace Reprise

open Std

/-- A value written to a field of the given type. -/
structure FieldWrite where
  type : FieldType
  value : Value
  storable : Host.storable type value = true
  deriving DecidableEq

/-- A write of a conforming value; arrays are refused before the value is looked at. -/
def FieldWrite.check (type : FieldType) (value : Value) : Except Defect FieldWrite :=
  if h : Host.storable type value = true then .ok ⟨type, value, h⟩
  else if type.isSnapshottable then .error (.nonconformingWrite type value)
  else .error .arrayWrite

/-- The writes and the return value of an invocation with the given arguments. -/
structure Effect where
  args : List Value
  writes : FieldMap FieldWrite := ∅
  returnValue : Option Value := none
  deriving DecidableEq

namespace Effect

/-- A later write to a field replaces an earlier one. -/
def record (e : Effect) (field : FieldRef) (w : FieldWrite) : Effect :=
  { e with writes := e.writes.insert field w }

/-- Adds the writes of `inner`, which were made later. -/
def merge (e inner : Effect) : Effect := { e with writes := e.writes ∪ inner.writes }

/-- The writes in the order in which they are applied. -/
def writeList (e : Effect) : List (FieldRef × FieldWrite) := e.writes.toList

/-- The owners of the written fields. -/
def targets (e : Effect) : List FieldOwner := e.writes.keys.map (·.owner)

variable {η : Type} [Host η]

/-- Whether some written field belongs to an owner that is now shared or frozen. -/
def isBlockedIn (e : Effect) (h : η) : Bool := e.targets.any (Host.isUntrackable h)

/-- A host after some writes, and why they stopped, if they did. -/
structure Applied (η : Type) where
  host : η
  failure : Option HostFailure

/-- Performs writes until the host refuses one. -/
def applyAll : List (FieldRef × FieldWrite) → η → Applied η
  | [], h => ⟨h, none⟩
  | (field, w) :: rest, h =>
    match Host.write h w.type field w.value with
    | .ok h' => applyAll rest h'
    | .error failure => ⟨h, some failure⟩

/-- Performs every write; the return value is not pushed. -/
def apply (e : Effect) (h : η) : Applied η := applyAll e.writeList h

/-! ## Text -/

/-- One line for diagnostics; names and values are written as they are. -/
def text (e : Effect) : String :=
  let size := 1 + e.args.length + e.writes.size
  let returned := match e.returnValue with
    | some v => v.text
    | none => "void"
  let fields := e.writeList.filter (!·.1.isStatic)
  let statics := e.writeList.filter (·.1.isStatic)
  let entry (ownerKey : String) : FieldRef × FieldWrite → String := fun (f, w) =>
    "\x7b\"fieldName\":\"" ++ f.name ++ "\", \"" ++ ownerKey ++ "\":\"" ++ f.owner.text ++
      "\", \"value\":\"" ++ w.value.text ++ "\"\x7d"
  "\x7b\"modsSize\":" ++ toString size ++ ", \"returnValue\":\"" ++ returned ++ "\", \"args\":[" ++
    Precondition.argsText e.args ++ "], \"fields\":[" ++
    Precondition.listText (fields.map (entry "targetObject")) ++ "], \"staticFields\":[" ++
    Precondition.listText (statics.map (entry "classInfo")) ++ "]\x7d"

end Effect

end Reprise
