import Reprise.Host

/-!
# What a recorded invocation depended on

A `Precondition` holds the arguments, the callee and the threading of an invocation, and the value
of every field that it read.  The first value seen of a field is the one kept: it is what the
behaviour depended on when the invocation began.

`holdsIn` compares with the present state of a host, reading each tracked field.  A routine is
called either always with a callee or never; a comparison that finds exactly one is a `Defect`.
-/

namespace Reprise

open Std

/-- The state that an invocation started from, as far as it looked at it. -/
structure Precondition where
  args : List Value
  callee : Option ObjectId
  singleThreaded : Bool
  tracked : FieldMap Value := ∅
  deriving DecidableEq

namespace Precondition

/-- Tracks a field, unless it is tracked already. -/
def track (p : Precondition) (field : FieldRef) (v : Value) : Precondition :=
  { p with tracked := p.tracked.insertIfNew field v }

/-- Tracks the fields of `inner` too; what `p` tracks was seen earlier and is kept. -/
def merge (p inner : Precondition) : Precondition :=
  { p with tracked := inner.tracked ∪ p.tracked }

/-- The tracked fields with their values, instance fields first. -/
def trackedFields (p : Precondition) : List (FieldRef × Value) := p.tracked.toList

/-- Whether some static field is tracked. -/
def hasStaticFields (p : Precondition) : Bool := p.trackedFields.any (·.1.isStatic)

variable {η : Type} [Host η]

/-- Whether every tracked field still has its tracked value. -/
def fieldsHoldIn (p : Precondition) (h : η) : Bool :=
  p.trackedFields.all fun (field, v) => Host.field? h field == some v

/-- Whether an invocation in the present state would start as the recorded one did.  The arguments
are compared before the callee, and the callee before the fields. -/
def holdsIn (p : Precondition) (h : η) (callee : Option ObjectId) (args : List Value)
    (singleThreaded : Bool) : Except Defect Bool :=
  if p.singleThreaded != singleThreaded then .ok false
  else if p.args != args then .ok false
  else
    match p.callee, callee with
    | some expected, some actual =>
      if expected = actual then .ok (p.fieldsHoldIn h) else .ok false
    | none, none => .ok (p.fieldsHoldIn h)
    | expected, actual => .error (.calleeMismatch expected actual)

/-! ## Text -/

/-- Comma-separated texts. -/
def listText (items : List String) : String := ",".intercalate items

/-- Arguments as quoted texts. -/
def argsText (args : List Value) : String :=
  listText (args.map fun v => "\"" ++ v.text ++ "\"")

/-- One line for diagnostics; names and values are written as they are. -/
def text (p : Precondition) : String :=
  let size := 1 + p.args.length + p.tracked.size
  let this := match p.callee with
    | some id => id.text
    | none => "null"
  let fields := p.trackedFields.filter (!·.1.isStatic)
  let statics := p.trackedFields.filter (·.1.isStatic)
  "\x7b\"contextSize\":" ++ toString size ++ ", \"this\":\"" ++ this ++ "\", \"args\":[" ++
    argsText p.args ++ "], \"fields\":[" ++
    listText (fields.map fun (f, v) =>
      "\x7b\"fieldName\":\"" ++ f.name ++ "\", \"sourceObject\":\"" ++ f.owner.text ++
        "\", \"value\":\"" ++ v.text ++ "\"\x7d") ++
    "], \"staticFields\":[" ++
    listText (statics.map fun (f, v) =>
      "\x7b\"" ++ f.name ++ "\":\"" ++ f.owner.text ++ "=" ++ v.text ++ "\"\x7d") ++ "]\x7d"

end Precondition

end Reprise
