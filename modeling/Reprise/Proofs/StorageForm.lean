import Reprise.Machine.Action
import Reprise.Recorder.Observe
import Reprise.Recorder.Replay

/-!
# Storage form and stack form

A value goes to the stack in its stack form and comes back in the storage form of the location it is
meant for.  What comes back is the value itself, or the part of an `int` that a narrower location
holds (`Value.Becomes`):

    v.narrowedTo ty = some w ↔ v.Becomes ty w                               (narrowedTo_eq_some_iff)

A host is built of primitives, one for each representation of a value (`Host.Primitives`).  Writing
and pushing ask for the one that the types call for, with exactly the value or its stack form:

    primitives.write ty field v = inPlace (Host.write · ty field v)               (primitives_write)
    primitives.pushReturn ty v = inPlace (Host.pushReturn · ty v)            (primitives_pushReturn)

Whatever the primitives do, it is one setter and one push that are asked, by the type and by the
stack form (`sets_write`, `pushes_pushReturn`), and a value that the location cannot hold is refused
before any is asked (`write_of_not_storable`, `pushReturn_of_not_storable`).

So a value that a routine returned is recorded, pushed by a replay and returned once more as it was
(`forms_round_trip`).
-/

namespace Reprise

/-! ## Storage form -/

/-- Whether locations of the type hold less than an `int`. -/
def FieldType.isNarrow : FieldType → Bool
  | .short => true
  | .byte => true
  | .char => true
  | .bool => true
  | _ => false

namespace Value

/-- What a narrower location holds of an `int`: the residue in its range, with a sign or without
one; a truth value says whether the `int` differs from zero. -/
inductive IsPartOf (n : Int32) : FieldType → Value → Prop
  | short {s : Int16} (residue : s.toInt = n.toInt.bmod Int16.size) : IsPartOf n .short (.short s)
  | byte {b : Int8} (residue : b.toInt = n.toInt.bmod Int8.size) : IsPartOf n .byte (.byte b)
  | char {u : UInt16} (residue : (u.toNat : Int) = n.toInt % UInt16.size) :
      IsPartOf n .char (.char u)
  | bool {b : Bool} (nonzero : b = true ↔ n.toInt ≠ 0) : IsPartOf n .bool (.bool b)

/-- `w` stands in a location of the type once `v` is stored there. -/
inductive Becomes (ty : FieldType) : Value → Value → Prop
  | same {v : Value} (conforms : v.conformsTo ty = true) : Becomes ty v v
  | cut {n : Int32} {w : Value} (part : IsPartOf n ty w) : Becomes ty (.int n) w

variable {v w : Value} {ty : FieldType} {n : Int32}

theorem toNat_char (n : Int32) :
    (n.toUInt32.toUInt16.toNat : Int) = n.toInt % UInt16.size := by
  have hdvd : (UInt16.size : Int) ∣ (UInt32.size : Int) := by decide
  -- sixteen bits do not tell the signed reading of the `int` from the unsigned one
  have hsigned : n.toInt = (n.toUInt32.toNat : Int).bmod UInt32.size :=
    BitVec.toInt_eq_toNat_bmod n.toBitVec
  have hlow : n.toInt % UInt16.size = (n.toUInt32.toNat : Int) % UInt16.size := by
    rw [hsigned, ← Int.emod_emod_of_dvd _ hdvd, Int.bmod_emod, Int.emod_emod_of_dvd _ hdvd]
  rw [hlow, UInt32.toNat_toUInt16]
  exact Int.natCast_emod _ _

theorem IsPartOf.isNarrow (hw : IsPartOf n ty w) : ty.isNarrow = true := by
  cases hw <;> rfl

/-- An `int` has exactly one part in a narrower location. -/
theorem narrowedTo_int_iff (hty : ty.isNarrow = true) :
    (int n).narrowedTo ty = some w ↔ IsPartOf n ty w := by
  have hzero : (n != 0) = true ↔ n.toInt ≠ 0 := by simp [← Int32.toInt_inj]
  constructor
  · intro hw
    cases ty with
    | short =>
      cases hw
      exact .short (Int32.toInt_toInt16 n)
    | byte =>
      cases hw
      exact .byte (Int32.toInt_toInt8 n)
    | char =>
      cases hw
      exact .char (toNat_char n)
    | bool =>
      cases hw
      exact .bool hzero
    | _ => cases hty
  · intro hw
    cases hw with
    | short hs =>
      obtain rfl := Int16.toInt_inj.mp (hs.trans (Int32.toInt_toInt16 n).symm)
      rfl
    | byte hb =>
      obtain rfl := Int8.toInt_inj.mp (hb.trans (Int32.toInt_toInt8 n).symm)
      rfl
    | char hu =>
      obtain rfl := UInt16.toNat_inj.mp (Int.natCast_inj.mp (hu.trans (toNat_char n).symm))
      rfl
    | bool hb =>
      obtain rfl := Bool.eq_iff_iff.mpr (hb.trans hzero.symm)
      rfl

theorem isSome_narrowedTo_int (n : Int32) (hty : ty.isNarrow = true) :
    ((int n).narrowedTo ty).isSome = true := by
  cases ty <;> cases hty <;> rfl

/-- Unless an `int` is cut, only a value that may stand in the location has a form there. -/
theorem narrowedTo_of_not_cut (hcut : ∀ n, v = int n → ty.isNarrow = false) :
    v.narrowedTo ty = if v.conformsTo ty = true then some v else none := by
  unfold narrowedTo
  split
  · exact nomatch hcut _ rfl
  · exact nomatch hcut _ rfl
  · exact nomatch hcut _ rfl
  · exact nomatch hcut _ rfl
  · rfl

/-- The storage form of a value is what the value becomes, and there is no other. -/
theorem narrowedTo_eq_some_iff : v.narrowedTo ty = some w ↔ v.Becomes ty w := by
  constructor
  · intro hw
    by_cases hcut : ∃ n, v = int n ∧ ty.isNarrow = true
    · obtain ⟨n, rfl, hty⟩ := hcut
      exact .cut ((narrowedTo_int_iff hty).mp hw)
    · -- no `int` is cut, so the value conforms and stays
      rw [narrowedTo_of_not_cut (by simpa using hcut), Option.ite_none_right_eq_some] at hw
      obtain ⟨hv, hvw⟩ := hw
      cases hvw
      exact .same hv
  · rintro (hv | hw)
    · exact narrowedTo_self hv
    · exact (narrowedTo_int_iff hw.isNarrow).mpr hw

example : (int 40000).narrowedTo .short = some (short (-25536)) ∧
    (int (-1)).narrowedTo .char = some (char 65535) := ⟨rfl, rfl⟩

theorem narrowedTo_eq_none_iff :
    v.narrowedTo ty = none ↔ v.conformsTo ty = false ∧ ∀ n, v = int n → ty.isNarrow = false := by
  constructor
  · intro hnone
    refine ⟨Bool.eq_false_iff.mpr fun hv => ?_, fun n hn => Bool.eq_false_iff.mpr fun hty => ?_⟩
    · rw [narrowedTo_self hv] at hnone
      cases hnone
    · have hsome := isSome_narrowedTo_int n hty
      rw [← hn, hnone] at hsome
      cases hsome
  · rintro ⟨hv, hcut⟩
    rw [narrowedTo_of_not_cut hcut, if_neg (Bool.eq_false_iff.mp hv)]

end Value

/-! ## Primitives -/

namespace Host

theorem storable_iff {ty : FieldType} {v : Value} :
    storable ty v = true ↔ ty ≠ .array ∧ v.conformsTo ty = true := by
  rw [storable, Bool.and_eq_true]
  cases ty <;> simp [FieldType.isSnapshottable]

theorem storable_eq_false_iff {ty : FieldType} {v : Value} :
    storable ty v = false ↔ ty = .array ∨ v.conformsTo ty = false := by
  rw [← Bool.not_eq_true, storable_iff, Classical.not_and_iff_not_or_not, ne_eq,
    Classical.not_not, Bool.not_eq_true]

/-- What a host is built of: a setter for each type of field, and a push for each representation of
a value on the stack.  A primitive that fails may have changed the host. -/
structure Primitives (η : Type) where
  setInt : FieldRef → Int32 → EStateM HostFailure η Unit
  setLong : FieldRef → Int64 → EStateM HostFailure η Unit
  setFloat : FieldRef → UInt32 → EStateM HostFailure η Unit
  setDouble : FieldRef → UInt64 → EStateM HostFailure η Unit
  setShort : FieldRef → Int16 → EStateM HostFailure η Unit
  setByte : FieldRef → Int8 → EStateM HostFailure η Unit
  setChar : FieldRef → UInt16 → EStateM HostFailure η Unit
  setBool : FieldRef → Bool → EStateM HostFailure η Unit
  setReference : FieldRef → Value → EStateM HostFailure η Unit
  pushInt : Int32 → EStateM HostFailure η Unit
  pushLong : Int64 → EStateM HostFailure η Unit
  pushFloat : UInt32 → EStateM HostFailure η Unit
  pushDouble : UInt64 → EStateM HostFailure η Unit
  pushReference : Value → EStateM HostFailure η Unit

namespace Primitives

variable {η : Type} (prim : Primitives η)

/-- The setter that takes the value, if its kind is the one that the type calls for. -/
def write (ty : FieldType) (field : FieldRef) (v : Value) : EStateM HostFailure η Unit :=
  match ty, v with
  | .int, .int n => prim.setInt field n
  | .long, .long n => prim.setLong field n
  | .float, .float bits => prim.setFloat field bits
  | .double, .double bits => prim.setDouble field bits
  | .short, .short n => prim.setShort field n
  | .byte, .byte n => prim.setByte field n
  | .char, .char u => prim.setChar field u
  | .bool, .bool b => prim.setBool field b
  | .reference, .object id => prim.setReference field (.object id)
  | .reference, .str s => prim.setReference field (.str s)
  | .reference, .null => prim.setReference field .null
  | ty, v => throw (.typeMismatch ty v.text)

/-- The push that takes the returned value, if its kind is the one that the type calls for. -/
def pushReturn (ty : FieldType) (v : Value) : EStateM HostFailure η Unit :=
  match ty, v with
  | .int, .int n => prim.pushInt n
  | .short, .short n => prim.pushInt n.toInt32
  | .byte, .byte n => prim.pushInt n.toInt32
  | .char, .char u => prim.pushInt u.toUInt32.toInt32
  | .bool, .bool b => prim.pushInt (if b then 1 else 0)
  | .long, .long n => prim.pushLong n
  | .float, .float bits => prim.pushFloat bits
  | .double, .double bits => prim.pushDouble bits
  | .reference, .object id => prim.pushReference (.object id)
  | .reference, .str s => prim.pushReference (.str s)
  | .reference, .null => prim.pushReference .null
  | ty, v => throw (.typeMismatch ty v.text)

/-- What the setter for fields of the type does with the field and the value. -/
inductive Sets (field : FieldRef) : FieldType → Value → EStateM HostFailure η Unit → Prop
  | int (n : Int32) : Sets field .int (.int n) (prim.setInt field n)
  | long (n : Int64) : Sets field .long (.long n) (prim.setLong field n)
  | float (bits : UInt32) : Sets field .float (.float bits) (prim.setFloat field bits)
  | double (bits : UInt64) : Sets field .double (.double bits) (prim.setDouble field bits)
  | short (n : Int16) : Sets field .short (.short n) (prim.setShort field n)
  | byte (n : Int8) : Sets field .byte (.byte n) (prim.setByte field n)
  | char (u : UInt16) : Sets field .char (.char u) (prim.setChar field u)
  | bool (b : Bool) : Sets field .bool (.bool b) (prim.setBool field b)
  | reference {v : Value} (hv : v.conformsTo .reference = true) :
    Sets field .reference v (prim.setReference field v)

/-- What the push for values of that representation does with the value. -/
inductive Pushes : Value → EStateM HostFailure η Unit → Prop
  | int (n : Int32) : Pushes (.int n) (prim.pushInt n)
  | long (n : Int64) : Pushes (.long n) (prim.pushLong n)
  | float (bits : UInt32) : Pushes (.float bits) (prim.pushFloat bits)
  | double (bits : UInt64) : Pushes (.double bits) (prim.pushDouble bits)
  | reference {v : Value} (hv : v.conformsTo .reference = true) : Pushes v (prim.pushReference v)

variable {ty : FieldType} {v : Value}

/-- A write asks the setter for the type for just the value. -/
theorem sets_write (hv : storable ty v = true) (field : FieldRef) :
    prim.Sets field ty v (prim.write ty field v) := by
  cases v with
  | int n => cases ty <;> first | exact .int n | cases hv
  | long n => cases ty <;> first | exact .long n | cases hv
  | float bits => cases ty <;> first | exact .float bits | cases hv
  | double bits => cases ty <;> first | exact .double bits | cases hv
  | short n => cases ty <;> first | exact .short n | cases hv
  | byte n => cases ty <;> first | exact .byte n | cases hv
  | char u => cases ty <;> first | exact .char u | cases hv
  | bool b => cases ty <;> first | exact .bool b | cases hv
  | _ => cases ty <;> first | exact .reference rfl | cases hv

/-- A return value asks the push for its stack form for just that. -/
theorem pushes_pushReturn (hv : storable ty v = true) :
    prim.Pushes v.widened (prim.pushReturn ty v) := by
  cases v with
  | long n => cases ty <;> first | exact .long n | cases hv
  | float bits => cases ty <;> first | exact .float bits | cases hv
  | double bits => cases ty <;> first | exact .double bits | cases hv
  | str s => cases ty <;> first | exact .reference rfl | cases hv
  | object id => cases ty <;> first | exact .reference rfl | cases hv
  | null => cases ty <;> first | exact .reference rfl | cases hv
  | _ => cases ty <;> first | exact .int _ | cases hv

/-- Whatever the primitives do, none is asked for a value that the location cannot hold. -/
theorem write_of_not_storable (hv : storable ty v = false) (field : FieldRef) (h : η) :
    prim.write ty field v h = .error (.typeMismatch ty v.text) h := by
  cases ty <;> cases v <;> first | rfl | cases hv

theorem pushReturn_of_not_storable (hv : storable ty v = false) (h : η) :
    prim.pushReturn ty v h = .error (.typeMismatch ty v.text) h := by
  cases ty <;> cases v <;> first | rfl | cases hv

end Primitives

variable {η : Type}

/-- The operation carried out on the host in place; if the host refuses it, the host stays as it
was. -/
def inPlace (op : η → Except HostFailure η) : EStateM HostFailure η Unit := fun h =>
  match op h with
  | .ok h' => .ok () h'
  | .error failure => .error failure h

/-- The primitives of a host. -/
def primitives [Host η] : Primitives η where
  setInt field n := inPlace (assign · .int field (.int n))
  setLong field n := inPlace (assign · .long field (.long n))
  setFloat field bits := inPlace (assign · .float field (.float bits))
  setDouble field bits := inPlace (assign · .double field (.double bits))
  setShort field n := inPlace (assign · .short field (.short n))
  setByte field n := inPlace (assign · .byte field (.byte n))
  setChar field u := inPlace (assign · .char field (.char u))
  setBool field b := inPlace (assign · .bool field (.bool b))
  setReference field v := inPlace (assign · .reference field v)
  pushInt n := inPlace (push · (.int n))
  pushLong n := inPlace (push · (.long n))
  pushFloat bits := inPlace (push · (.float bits))
  pushDouble bits := inPlace (push · (.double bits))
  pushReference v := inPlace (push · v)

variable [Host η]

theorem primitives_write (ty : FieldType) (field : FieldRef) (v : Value) :
    primitives.write ty field v = inPlace fun h : η => write h ty field v := by
  cases ty <;> cases v <;> rfl

theorem primitives_pushReturn (ty : FieldType) (v : Value) :
    primitives.pushReturn ty v = inPlace fun h : η => pushReturn h ty v := by
  cases ty <;> cases v <;> rfl

end Host

/-! ## Returned values -/

theorem Frame.act_leave {v w : Value} {ty : FieldType} (hw : v.narrowedTo ty = some w) (p : Program)
    (clock : Nat) (h : Heap) (f : Frame) :
    (f.push v).act p clock h (some ty) .leave = .ok (.finish f (some w)) := by
  simp only [Frame.act, Frame.push, Frame.pop, bind, Except.bind, hw]

theorem Recorder.returnValue_returning {R : Recording} {v w : Value} {ty : FieldType}
    (hR : R.returns = some ty) (hw : v.narrowedTo ty = some w) :
    (returning R (some v)).effect.returnValue = some w := by
  simp only [returning, hR, Value.narrowedOrSelf, hw, Option.getD_some]

theorem Recorder.pushResult_of_storable {s : Summary} {w : Value} {ty : FieldType}
    (hs : s.effect.returnValue = some w) (hw : Host.storable ty w = true) (h : Heap)
    (stack : List Value) :
    pushResult (FrameView.mk h stack) (some ty) s = .ok ⟨h, w.widened :: stack⟩ := by
  simp only [pushResult, hs, Host.pushReturn_of_storable hw]
  rfl

namespace Value

/-- A routine that returns `ty` and has `v` on top of its stack returns `w`, and does so again when
its summary is replayed. -/
structure ReturnsAs (v : Value) (ty : FieldType) (w : Value) : Prop where
  returned : ∀ (p : Program) (clock : Nat) (h : Heap) (f : Frame),
    (f.push v).act p clock h (some ty) .leave = .ok (.finish f (some w))
  /-- The recording keeps `w`, whether it is told of `v` or of `w`. -/
  recorded : ∀ (R : Recording) (told : Value), R.returns = some ty → told = v ∨ told = w →
    (Recorder.returning R (some told)).effect.returnValue = some w
  /-- A replay pushes the stack form and changes nothing else. -/
  pushed : ∀ (s : Summary) (h : Heap) (stack : List Value), s.effect.returnValue = some w →
    Recorder.pushResult (FrameView.mk h stack) (some ty) s = .ok ⟨h, w.widened :: stack⟩
  returnedAgain : ∀ (p : Program) (clock : Nat) (h : Heap) (f : Frame),
    (f.push w.widened).act p clock h (some ty) .leave = .ok (.finish f (some w))

theorem returnsAs_of_narrowedTo {v w : Value} {ty : FieldType} (hty : ty ≠ .array)
    (hw : v.narrowedTo ty = some w) : v.ReturnsAs ty w := by
  have hconforms : w.conformsTo ty = true := conformsTo_of_narrowedTo hw
  refine ⟨Frame.act_leave hw, fun R told hR htold => ?_, fun s h stack hs => ?_,
    Frame.act_leave (narrowedTo_widened hconforms)⟩
  · rcases htold with rfl | rfl
    · exact Recorder.returnValue_returning hR hw
    · exact Recorder.returnValue_returning hR (narrowedTo_self hconforms)
  · exact Recorder.pushResult_of_storable hs (Host.storable_iff.mpr ⟨hty, hconforms⟩) h stack

/-- Storage form and stack form convert without loss.  What a value becomes in a location conforms
to its type, is its own storage form, and comes back from the stack as it was; only a value that
neither conforms nor is an `int` to be cut becomes nothing.  A host is handed the values that
conform and their stack forms, each by the one primitive for it; for any other value none of its
primitives is asked, and it stays as it was.  What a routine returned it returns again after a
replay. -/
theorem forms_round_trip (v : Value) (ty : FieldType) :
    (∀ w, v.narrowedTo ty = some w ↔ v.Becomes ty w) ∧
    (v.narrowedTo ty = none ↔ v.conformsTo ty = false ∧ ∀ n, v = int n → ty.isNarrow = false) ∧
    (∀ w, v.narrowedTo ty = some w → w.conformsTo ty = true ∧ w.narrowedTo ty = some w ∧
      w.widened.narrowedTo ty = some w) ∧
    (∀ {η : Type} [Host η] (h : η) (field : FieldRef),
      Host.primitives.write ty field v h = Host.inPlace (fun h => Host.write h ty field v) h ∧
      Host.primitives.pushReturn ty v h = Host.inPlace (fun h => Host.pushReturn h ty v) h ∧
      (ty ≠ .array → v.conformsTo ty = true →
        Host.write h ty field v = Host.assign h ty field v ∧
        Host.pushReturn h ty v = Host.push h v.widened) ∧
      (ty = .array ∨ v.conformsTo ty = false →
        Host.write h ty field v = .error (.typeMismatch ty v.text) ∧
        Host.pushReturn h ty v = .error (.typeMismatch ty v.text))) ∧
    (∀ {η : Type} (prim : Host.Primitives η) (h : η) (field : FieldRef),
      (ty ≠ .array → v.conformsTo ty = true →
        prim.Sets field ty v (prim.write ty field v) ∧
        prim.Pushes v.widened (prim.pushReturn ty v)) ∧
      (ty = .array ∨ v.conformsTo ty = false →
        prim.write ty field v h = .error (.typeMismatch ty v.text) h ∧
        prim.pushReturn ty v h = .error (.typeMismatch ty v.text) h)) ∧
    (∀ w, ty ≠ .array → v.narrowedTo ty = some w → v.ReturnsAs ty w) := by
  refine ⟨fun w => narrowedTo_eq_some_iff, narrowedTo_eq_none_iff, fun w hw => ?_,
    fun h field => ⟨?_, ?_, fun hty hv => ?_, fun hrefused => ?_⟩,
    fun prim h field => ⟨fun hty hv => ?_, fun hrefused => ?_⟩,
    fun w hty hw => returnsAs_of_narrowedTo hty hw⟩
  · have hconforms := conformsTo_of_narrowedTo hw
    exact ⟨hconforms, narrowedTo_self hconforms, narrowedTo_widened hconforms⟩
  · rw [Host.primitives_write]
  · rw [Host.primitives_pushReturn]
  · have hstorable := Host.storable_iff.mpr ⟨hty, hv⟩
    exact ⟨Host.write_of_storable hstorable h field, Host.pushReturn_of_storable hstorable h⟩
  · have hstorable := Bool.eq_false_iff.mp (Host.storable_eq_false_iff.mpr hrefused)
    exact ⟨if_neg hstorable, if_neg hstorable⟩
  · have hstorable := Host.storable_iff.mpr ⟨hty, hv⟩
    exact ⟨prim.sets_write hstorable field, prim.pushes_pushReturn hstorable⟩
  · have hstorable := Host.storable_eq_false_iff.mpr hrefused
    exact ⟨prim.write_of_not_storable hstorable field h,
      prim.pushReturn_of_not_storable hstorable h⟩

/-- Of 300 a byte holds 44, which a replay pushes and a return takes off again; 300 itself is not
pushed for a byte, and the stack stays empty. -/
theorem forms_round_trip_byte :
    Becomes .byte (int 300) (byte 44) ∧ (byte 44).widened.narrowedTo .byte = some (byte 44) ∧
      (int 300).ReturnsAs .byte (byte 44) ∧
      Host.pushReturn (FrameView.mk {} []) .byte (byte 44) = .ok ⟨{}, [int 44]⟩ ∧
      Host.pushReturn (FrameView.mk {} []) .byte (int 300) =
        .error (.typeMismatch .byte (int 300).text) ∧
      Host.primitives.pushReturn .byte (int 300) (FrameView.mk {} []) =
        .error (.typeMismatch .byte (int 300).text) ⟨{}, []⟩ := by
  obtain ⟨hbecomes, -, hkeeps, hhost, hprimitives, hreturns⟩ := forms_round_trip (int 300) .byte
  obtain ⟨-, -, -, hpushed, -⟩ := forms_round_trip (byte 44) .byte
  have hcut : (int 300).narrowedTo .byte = some (byte 44) := rfl
  refine ⟨(hbecomes _).mp hcut, (hkeeps _ hcut).2.2, hreturns _ (by decide) hcut, ?_, ?_, ?_⟩
  · exact ((hpushed (FrameView.mk {} []) ⟨.object ⟨0⟩, "size"⟩).2.2.1 (by decide) rfl).2
  · exact ((hhost (FrameView.mk {} []) ⟨.object ⟨0⟩, "size"⟩).2.2.2 (.inr rfl)).2
  · exact ((hprimitives Host.primitives (FrameView.mk {} []) ⟨.object ⟨0⟩, "size"⟩).2 (.inr rfl)).2

end Value

end Reprise
