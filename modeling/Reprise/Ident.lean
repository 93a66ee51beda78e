import Std.Data.ExtTreeMap
import Std.Data.ExtTreeSet

/-!
# Identities of objects, classes, routines and fields

Handles are opaque numbers: two handles denote the same thing iff they are equal.  A field is
named by its owner and its name (`FieldRef`), and fields are ordered with the instance fields
first (by object, then name) and the static fields after them (by class, then name).  Every map
over fields in the library is sorted by that one order, so "instance fields first" needs no
second map.
-/

namespace Reprise

open Std

/-- An object of the observed program. -/
structure ObjectId where
  index : Nat
  deriving DecidableEq, Repr, Inhabited

/-- A class of the observed program. -/
structure ClassId where
  index : Nat
  deriving DecidableEq, Repr, Inhabited

/-- A routine, independently of any invocation of it. -/
structure RoutineId where
  index : Nat
  deriving DecidableEq, Repr, Inhabited

/-- The owner of a field: an object for an instance field, a class for a static field. -/
inductive FieldOwner where
  | object (id : ObjectId)
  | statics (id : ClassId)
  deriving DecidableEq, Repr, Inhabited

/-- A field of a particular owner. -/
structure FieldRef where
  owner : FieldOwner
  name : String
  deriving DecidableEq, Repr, Inhabited

def ObjectId.text (id : ObjectId) : String := "@" ++ toString id.index

def ClassId.text (id : ClassId) : String := "class#" ++ toString id.index

def RoutineId.text (id : RoutineId) : String := "routine#" ++ toString id.index

def FieldOwner.text : FieldOwner → String
  | .object id => id.text
  | .statics id => id.text

/-- Whether the owner is a class. -/
def FieldOwner.isStatics : FieldOwner → Bool
  | .object _ => false
  | .statics _ => true

/-- Whether the field is static. -/
def FieldRef.isStatic (f : FieldRef) : Bool := f.owner.isStatics

/-! ## Order -/

/-- Objects before classes. -/
def FieldOwner.rank : FieldOwner → Nat
  | .object _ => 0
  | .statics _ => 1

/-- The number of the object or class. -/
def FieldOwner.index : FieldOwner → Nat
  | .object id => id.index
  | .statics id => id.index

theorem FieldOwner.eq_of_rank_of_index {a b : FieldOwner} (hr : a.rank = b.rank)
    (hi : a.index = b.index) : a = b := by
  rcases a with ⟨⟨i⟩⟩ | ⟨⟨i⟩⟩ <;> rcases b with ⟨⟨j⟩⟩ | ⟨⟨j⟩⟩ <;>
    simp_all [FieldOwner.rank, FieldOwner.index]

instance : Ord RoutineId := ⟨compareOn RoutineId.index⟩

instance : TransOrd RoutineId := inferInstanceAs (TransCmp (compareOn RoutineId.index))

instance : LawfulEqOrd RoutineId where
  eq_of_compare {a b} h := by
    have h' : a.index = b.index := Std.compare_eq_iff_eq.1 h
    cases a; cases b; simp_all

instance : Ord FieldOwner := ⟨compareLex (compareOn FieldOwner.rank) (compareOn FieldOwner.index)⟩

instance : TransOrd FieldOwner :=
  inferInstanceAs (TransCmp (compareLex (compareOn FieldOwner.rank) (compareOn FieldOwner.index)))

instance : LawfulEqOrd FieldOwner where
  eq_of_compare {a b} h := by
    have h' := Ordering.then_eq_eq.1 (show (compareOn FieldOwner.rank a b).then _ = .eq from h)
    exact FieldOwner.eq_of_rank_of_index
      (Std.compare_eq_iff_eq.1 h'.1)
      (Std.compare_eq_iff_eq.1 h'.2)

/-- By owner, then by the code points of the name. -/
instance : Ord FieldRef := ⟨compareLex (compareOn FieldRef.owner) (compareOn FieldRef.name)⟩

instance : TransOrd FieldRef :=
  inferInstanceAs (TransCmp (compareLex (compareOn FieldRef.owner) (compareOn FieldRef.name)))

instance : LawfulEqOrd FieldRef where
  eq_of_compare {a b} h := by
    have h' := Ordering.then_eq_eq.1 (show (compareOn FieldRef.owner a b).then _ = .eq from h)
    have ho : a.owner = b.owner :=
      Std.compare_eq_iff_eq.1 h'.1
    have hn : a.name = b.name :=
      Std.compare_eq_iff_eq.1 h'.2
    cases a; cases b; simp_all

/-- A map over fields, listed with the instance fields first. -/
abbrev FieldMap (β : Type) := ExtTreeMap FieldRef β

/-- A map over routines, listed by number. -/
abbrev RoutineMap (β : Type) := ExtTreeMap RoutineId β

/-- A set of routines. -/
abbrev RoutineSet := ExtTreeSet RoutineId

end Reprise
