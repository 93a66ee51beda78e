import Reprise.Host.Table
import Reprise.Effect

/-!
# Hosts that are maps

A `MapHost` is a host that behaves as a map from fields to values with some flags beside it: what
can be observed of it is a `HostState`, an assignment replaces the value of a field that is there
and is refused for one that is not, and a push appends to the pushed values.  A `TableHost` is one;
the logs it keeps are no part of its state.
-/

namespace Reprise

/-- What can be observed of a host. -/
structure HostState where
  fields : FieldMap Value
  pushed : List Value
  shared : FieldOwner → Bool
  frozen : FieldOwner → Bool
  singleThreaded : Bool

/-- A host that behaves as a map from fields to values. -/
class MapHost (η : Type) extends Host η where
  state : η → HostState
  field?_eq (h : η) (field : FieldRef) : field? h field = (state h).fields[field]?
  isShared_eq (h : η) (owner : FieldOwner) : isShared h owner = (state h).shared owner
  isFrozen_eq (h : η) (owner : FieldOwner) : isFrozen h owner = (state h).frozen owner
  isSingleThreaded_eq (h : η) : isSingleThreaded h = (state h).singleThreaded
  assign_eq (h : η) (ty : FieldType) (field : FieldRef) (v : Value) :
    (assign h ty field v).map state =
      if field ∈ (state h).fields then
        .ok { state h with fields := (state h).fields.insert field v }
      else .error (.noSuchField field)
  push_eq (h h' : η) (v : Value) (hpush : push h v = .ok h') :
    state h' = { state h with pushed := (state h).pushed ++ [v] }

instance : MapHost TableHost where
  state h := ⟨h.fields, h.pushed, h.shared.contains, h.frozen.contains, h.singleThreaded⟩
  field?_eq _ _ := rfl
  isShared_eq _ _ := rfl
  isFrozen_eq _ _ := rfl
  isSingleThreaded_eq _ := rfl
  assign_eq h ty field v := by
    simp only [Host.assign, TableHost.assign]
    split <;> rfl
  push_eq h h' v hpush := by
    simp only [Host.push, TableHost.push] at hpush
    split at hpush
    · cases hpush; rfl
    · cases hpush

namespace MapHost

variable {η : Type} [MapHost η]

theorem write_eq_ok {h : η} {field : FieldRef} (w : FieldWrite)
    (hfield : field ∈ (state h).fields) :
    ∃ h', Host.write h w.type field w.value = .ok h' ∧
      state h' = { state h with fields := (state h).fields.insert field w.value } := by
  have hassign := assign_eq h w.type field w.value
  rw [if_pos hfield] at hassign
  rw [Host.write_of_storable w.storable]
  cases hr : Host.assign h w.type field w.value with
  | error e => rw [hr] at hassign; cases hassign
  | ok h' =>
    rw [hr] at hassign
    exact ⟨h', rfl, Except.ok.inj hassign⟩

theorem mem_fields_of_write {h h' : η} {field : FieldRef} {w : FieldWrite}
    (hwrite : Host.write h w.type field w.value = .ok h') : field ∈ (state h).fields := by
  have hassign := assign_eq h w.type field w.value
  rw [Host.write_of_storable w.storable] at hwrite
  rw [hwrite] at hassign
  by_cases hfield : field ∈ (state h).fields
  · exact hfield
  · rw [if_neg hfield] at hassign; cases hassign

theorem state_of_write {h h' : η} {field : FieldRef} {w : FieldWrite}
    (hwrite : Host.write h w.type field w.value = .ok h') :
    state h' = { state h with fields := (state h).fields.insert field w.value } := by
  obtain ⟨h'', hok, hstate⟩ := write_eq_ok w (mem_fields_of_write hwrite)
  obtain rfl : h' = h'' := Except.ok.inj (hwrite.symm.trans hok)
  exact hstate

end MapHost

end Reprise
