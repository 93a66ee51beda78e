import Reprise.Ident
import Reprise.Text.Shortest
import Reprise.Text.Quoted

/-!
# Values and their types

A `Value` is a snapshot of one value of the observed program.  Equality is structural: floating
point values are their bit patterns, so a NaN equals itself and the two zeros differ, strings are
their contents, and objects are their identities.

Values have a *storage form*, typed as their location is declared, and a *stack form*, in which the
narrow integral types are `int`s.  `widened` goes from the first to the second and `narrowedTo`
back:

    v.narrowedTo ty = some w → w.conformsTo ty                (Value.conformsTo_of_narrowedTo)
    w.conformsTo ty → w.widened.narrowedTo ty = some w        (Value.narrowedTo_widened)
-/

namespace Reprise

open Text

/-- The declared type of a field, a parameter or a return value. -/
inductive FieldType where
  | int | long | float | double | short | byte | char | bool | reference | array
  deriving DecidableEq, Repr, Inhabited

/-- A single value; floating point values are kept as their bits. -/
inductive Value where
  | int (v : Int32)
  | long (v : Int64)
  | float (bits : UInt32)
  | double (bits : UInt64)
  | short (v : Int16)
  | byte (v : Int8)
  | char (unit : UInt16)
  | bool (v : Bool)
  | str (content : String)
  | object (id : ObjectId)
  | null
  deriving DecidableEq, Inhabited

namespace FieldType

/-- All types, in the order of their declaration. -/
def all : List FieldType :=
  [.int, .long, .float, .double, .short, .byte, .char, .bool, .reference, .array]

/-- Whether values of the type can be captured.  The contents of arrays are not tracked, so arrays
cannot. -/
def isSnapshottable : FieldType → Bool
  | .array => false
  | _ => true

/-- What a location of the type holds before it is first written. -/
def defaultValue : FieldType → Value
  | .int => .int 0
  | .long => .long 0
  | .float => .float 0
  | .double => .double 0
  | .short => .short 0
  | .byte => .byte 0
  | .char => .char 0
  | .bool => .bool false
  | .reference => .null
  | .array => .null

/-- The name of the type in messages. -/
def name : FieldType → String
  | .int => "Int"
  | .long => "Long"
  | .float => "Float"
  | .double => "Double"
  | .short => "Short"
  | .byte => "Byte"
  | .char => "Char"
  | .bool => "Bool"
  | .reference => "Reference"
  | .array => "Array"

end FieldType

namespace Value

/-- A truth value as a stack `int`. -/
def ofBool (b : Bool) : Value := .int (if b then 1 else 0)

/-- Whether the value may stand in a location of the type. -/
def conformsTo (v : Value) (ty : FieldType) : Bool :=
  match v with
  | .int _ => ty == .int
  | .long _ => ty == .long
  | .float _ => ty == .float
  | .double _ => ty == .double
  | .short _ => ty == .short
  | .byte _ => ty == .byte
  | .char _ => ty == .char
  | .bool _ => ty == .bool
  | .str _ => ty == .reference
  | .object _ => ty == .reference || ty == .array
  | .null => ty == .reference || ty == .array

/-- The object that the value refers to. -/
def asObject? : Value → Option ObjectId
  | .object id => some id
  | _ => none

/-- The stack form: narrow integral values and truth values become `int`s. -/
def widened : Value → Value
  | .short v => .int v.toInt32
  | .byte v => .int v.toInt32
  | .char u => .int u.toUInt32.toInt32
  | .bool b => ofBool b
  | v => v

/-- The storage form for a location of the type: an `int` is cut down to the narrow types, and any
other value must conform already. -/
def narrowedTo (v : Value) (ty : FieldType) : Option Value :=
  match ty, v with
  | .short, .int n => some (.short n.toInt16)
  | .byte, .int n => some (.byte n.toInt8)
  | .char, .int n => some (.char n.toUInt32.toUInt16)
  | .bool, .int n => some (.bool (n != 0))
  | ty, v => if v.conformsTo ty then some v else none

/-- The storage form where there is one, and the value itself otherwise. -/
def narrowedOrSelf (v : Value) (ty : FieldType) : Value := (v.narrowedTo ty).getD v

/-- The integer that the value stands for in comparisons. -/
def asIntegral? : Value → Option Int
  | .int v => some v.toInt
  | .long v => some v.toInt
  | .short v => some v.toInt
  | .byte v => some v.toInt
  | .char u => some u.toNat
  | .bool b => some (if b then 1 else 0)
  | _ => none

/-- The written form of the value; a letter tells the types apart that share their digits. -/
def text : Value → String
  | .int v => toString v.toInt
  | .long v => toString v.toInt ++ "L"
  | .float bits => BinaryFormat.single.text bits.toNat ++ "f"
  | .double bits => BinaryFormat.double.text bits.toNat ++ "d"
  | .short v => toString v.toInt ++ "s"
  | .byte v => toString v.toInt ++ "b"
  | .char u => "'\\u" ++ hexPadded 4 u.toNat ++ "'"
  | .bool b => if b then "true" else "false"
  | .str s => quoted s
  | .object id => id.text
  | .null => "null"

/-! ## Conversions -/

theorem conformsTo_of_narrowedTo {v w : Value} {ty : FieldType} (h : v.narrowedTo ty = some w) :
    w.conformsTo ty = true := by
  unfold narrowedTo at h
  split at h
  · simp only [Option.some.injEq] at h; subst h; rfl
  · simp only [Option.some.injEq] at h; subst h; rfl
  · simp only [Option.some.injEq] at h; subst h; rfl
  · simp only [Option.some.injEq] at h; subst h; rfl
  · split at h
    · simp only [Option.some.injEq] at h; subst h; assumption
    · cases h

theorem narrowedTo_self {v : Value} {ty : FieldType} (h : v.conformsTo ty = true) :
    v.narrowedTo ty = some v := by
  cases v <;> cases ty <;> cases h <;> rfl

/-- Going to the stack and back keeps every conforming value. -/
theorem narrowedTo_widened {w : Value} {ty : FieldType} (h : w.conformsTo ty = true) :
    w.widened.narrowedTo ty = some w := by
  cases w <;> cases ty <;> cases h
  case short.short v => exact congrArg (some ∘ short) (Int16.toInt16_toInt32 v)
  case byte.byte v => exact congrArg (some ∘ byte) (Int8.toInt8_toInt32 v)
  case char.char u =>
    exact congrArg (some ∘ char) (by rw [UInt32.toUInt32_toInt32, UInt16.toUInt16_toUInt32])
  case bool.bool b => cases b <;> rfl
  all_goals rfl

theorem widened_widened (v : Value) : v.widened.widened = v.widened := by
  cases v <;> rfl

end Value

end Reprise
