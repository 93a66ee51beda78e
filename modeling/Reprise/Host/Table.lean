import Reprise.Host

/-!
# A host that is a plain table

`TableHost` keeps one value per field, without types and without owners apart from their fields:
an assignment replaces whatever stands under the field and fails only where nothing does.  It keeps
the order of the writes and pushes that it accepted.
-/

namespace Reprise

open Std

/-- Fields with their values, sets of shared and frozen owners, and logs of accepted operations. -/
structure TableHost where
  fields : FieldMap Value := ∅
  shared : ExtTreeSet FieldOwner := ∅
  frozen : ExtTreeSet FieldOwner := ∅
  singleThreaded : Bool := true
  hasFrame : Bool := true
  writes : List (FieldRef × Value) := []
  pushed : List Value := []

namespace TableHost

/-- Replaces a value that is there, whatever its type. -/
def assign (h : TableHost) (field : FieldRef) (v : Value) : Except HostFailure TableHost :=
  if field ∈ h.fields then
    .ok { h with fields := h.fields.insert field v, writes := h.writes ++ [(field, v)] }
  else .error (.noSuchField field)

def push (h : TableHost) (v : Value) : Except HostFailure TableHost :=
  if h.hasFrame then .ok { h with pushed := h.pushed ++ [v] } else .error .noActiveFrame

/-- Marks or unmarks an owner as shared. -/
def setShared (h : TableHost) (owner : FieldOwner) (on : Bool) : TableHost :=
  { h with shared := if on then h.shared.insert owner else h.shared.erase owner }

/-- Marks or unmarks an owner as frozen. -/
def setFrozen (h : TableHost) (owner : FieldOwner) (on : Bool) : TableHost :=
  { h with frozen := if on then h.frozen.insert owner else h.frozen.erase owner }

/-- Forgets which writes and pushes were made. -/
def clearLogs (h : TableHost) : TableHost := { h with writes := [], pushed := [] }

instance : Host TableHost where
  field? h field := h.fields[field]?
  isShared h owner := h.shared.contains owner
  isFrozen h owner := h.frozen.contains owner
  isSingleThreaded h := h.singleThreaded
  assign h _ field v := h.assign field v
  push h v := h.push v

end TableHost

end Reprise
