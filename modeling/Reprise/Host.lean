import Reprise.Failure

/-!
# The host of a recorder

A recorder owns no state of the observed program: it reads the fields it checks and writes the
fields it replays through a `Host`.  Writes and pushes are typed.  `Host.write` and
`Host.pushReturn` check that the value conforms to the declared type before the host sees it, so a
host that fails has been handed a value of the right type.

A host that refuses an operation is unchanged by it.
-/

namespace Reprise

/-- What an interpreter offers to a recorder. -/
class Host (η : Type) where
  /-- The current value of a field, `none` if there is no such owner or field. -/
  field? : η → FieldRef → Option Value
  /-- Whether the owner is reachable from more than one thread. -/
  isShared : η → FieldOwner → Bool
  /-- Whether the fields of the owner cannot be changed at present. -/
  isFrozen : η → FieldOwner → Bool
  /-- Whether exactly one thread can run. -/
  isSingleThreaded : η → Bool
  /-- Stores a value with the primitive for its type. -/
  assign : η → FieldType → FieldRef → Value → Except HostFailure η
  /-- Pushes a value in stack form onto the current frame. -/
  push : η → Value → Except HostFailure η

namespace Host

variable {η : Type} [Host η]

/-- Whether a value may be captured for, and written back to, a location of the type. -/
def storable (ty : FieldType) (v : Value) : Bool := ty.isSnapshottable && v.conformsTo ty

/-- Writes a conforming value; arrays are never written. -/
def write (h : η) (ty : FieldType) (field : FieldRef) (v : Value) : Except HostFailure η :=
  if storable ty v then assign h ty field v else .error (.typeMismatch ty v.text)

/-- Pushes a conforming return value in its stack form; arrays are never pushed. -/
def pushReturn (h : η) (ty : FieldType) (v : Value) : Except HostFailure η :=
  if storable ty v then push h v.widened else .error (.typeMismatch ty v.text)

/-- A value that may be stored is not refused before the host sees it. -/
theorem write_of_storable {ty : FieldType} {v : Value} (hv : storable ty v = true) (h : η)
    (field : FieldRef) : write h ty field v = assign h ty field v := if_pos hv

theorem pushReturn_of_storable {ty : FieldType} {v : Value} (hv : storable ty v = true) (h : η) :
    pushReturn h ty v = push h v.widened := if_pos hv

/-- Whether the owner's fields may not be recorded or replayed. -/
def isUntrackable (h : η) (owner : FieldOwner) : Bool := isShared h owner || isFrozen h owner

end Host

end Reprise
