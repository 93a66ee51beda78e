import Reprise.Machine.Program

/-!
# Arithmetic on stack values

Both operands must be of one type.  Integers wrap around, texts can only be added, and floating
point follows the binary formats: an operand that is no number is passed on as a quiet one, the left
before the right, and an operation without a result gives the negative quiet one.
-/

namespace Reprise

namespace Arithmetic

def onInt : Arithmetic → Int32 → Int32 → Int32
  | .add, a, b => a + b
  | .sub, a, b => a - b
  | .mul, a, b => a * b

def onLong : Arithmetic → Int64 → Int64 → Int64
  | .add, a, b => a + b
  | .sub, a, b => a - b
  | .mul, a, b => a * b

def onFloat32 : Arithmetic → Float32 → Float32 → Float32
  | .add, a, b => a + b
  | .sub, a, b => a - b
  | .mul, a, b => a * b

def onFloat : Arithmetic → Float → Float → Float
  | .add, a, b => a + b
  | .sub, a, b => a - b
  | .mul, a, b => a * b

/-- Whether single precision bits are no number. -/
def isNaNSingle (bits : UInt32) : Bool := 0x7f800000 < bits &&& 0x7fffffff

/-- Whether double precision bits are no number. -/
def isNaNDouble (bits : UInt64) : Bool := 0x7ff0000000000000 < bits &&& 0x7fffffffffffffff

/-- The operation on single precision bits. -/
def onSingleBits (op : Arithmetic) (a b : UInt32) : UInt32 :=
  if isNaNSingle a then a ||| 0x00400000
  else if isNaNSingle b then b ||| 0x00400000
  else
    let result := onFloat32 op (Float32.ofBits a) (Float32.ofBits b)
    if result.isNaN then 0xffc00000 else result.toBits

/-- The operation on double precision bits. -/
def onDoubleBits (op : Arithmetic) (a b : UInt64) : UInt64 :=
  if isNaNDouble a then a ||| 0x0008000000000000
  else if isNaNDouble b then b ||| 0x0008000000000000
  else
    let result := onFloat op (Float.ofBits a) (Float.ofBits b)
    if result.isNaN then 0xfff8000000000000 else result.toBits

/-- The operation on values of one type, `none` for all others. -/
def onValues? (op : Arithmetic) : Value → Value → Option Value
  | .int a, .int b => some (.int (op.onInt a b))
  | .long a, .long b => some (.long (op.onLong a b))
  | .float a, .float b => some (.float (op.onSingleBits a b))
  | .double a, .double b => some (.double (op.onDoubleBits a b))
  | .str a, .str b => if op = .add then some (.str (a ++ b)) else none
  | _, _ => none

end Arithmetic

/-- Whether the left value is less: floating point values of one width, or two integers. -/
def Value.isLess? : Value → Value → Option Bool
  | .float a, .float b => some (decide (Float32.ofBits a < Float32.ofBits b))
  | .double a, .double b => some (decide (Float.ofBits a < Float.ofBits b))
  | a, b =>
    match a.asIntegral?, b.asIntegral? with
    | some m, some n => some (decide (m < n))
    | _, _ => none

end Reprise
