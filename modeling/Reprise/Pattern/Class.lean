import Reprise.Pattern.Escape

/-!
# Classes of characters in brackets

A class lists characters, ranges, sets and further classes between brackets, perhaps behind a caret
that negates it.  The operators `&&`, `--` and `~~` intersect, subtract and take what is in one
operand only; they bind less than listing and group from the left.  Where letters match in any case,
every operand and every class is completed by the other cases before it is used.

`Class.read` gives the set and how deeply its parts are nested, which is limited for a pattern as a
whole.
-/

namespace Reprise.Pattern.Class

open Text

/-- An operator between operands of a class. -/
inductive Operator where
  | inter | diff | symmDiff

/-- The result of an operator. -/
def Operator.apply (a b : CodeSet) : Operator → CodeSet
  | inter => a.inter b
  | diff => a.diff b
  | symmDiff => a.symmDiff b

/-- A set and the depth to which its written form is nested. -/
structure Nested where
  chars : CodeSet := .empty
  depth : Nat := 0

/-- The operand that is being read: the items so far and their number. -/
structure Operand extends Nested where
  items : Nat := 0

/-- The operand with one more item. -/
def Operand.add (o : Operand) (item : Nested) : Operand :=
  ⟨⟨o.chars.union item.chars, max o.depth item.depth⟩, o.items + 1⟩

/-- The operand as a whole; several items are one level deeper. -/
def Operand.whole (o : Operand) : Nested :=
  if o.items < 2 then o.toNested else { o.toNested with depth := o.depth + 1 }

/-- An open class: whether it is negated, what stands before the last operator, and the operand
behind it. -/
structure Bracket where
  negated : Bool
  left : Option (Nested × Operator) := none
  operand : Operand := {}

namespace Bracket

/-- The bracket with one more item. -/
def add (b : Bracket) (item : Nested) : Bracket := { b with operand := b.operand.add item }

/-- The operands so far. -/
def value (s : Settings) (b : Bracket) : Nested :=
  let right := b.operand.whole
  match b.left with
  | none => right
  | some (left, op) =>
    ⟨op.apply (s.withCases left.chars) (s.withCases right.chars), max left.depth right.depth + 1⟩

/-- The bracket behind one more operator. -/
def operator (s : Settings) (b : Bracket) (op : Operator) : Bracket :=
  { b with left := some (b.value s, op), operand := {} }

/-- The class that the bracket is when it closes. -/
def close (s : Settings) (b : Bracket) : Except String Nested := do
  let value := b.value s
  let chars := s.withCases value.chars
  return ⟨← if b.negated then s.outside chars else .ok chars, value.depth + 1⟩

/-- The bracket with hyphens that stand first in it, which mean themselves. -/
def addHyphens (s : Settings) : (bound : Nat) → Bracket → List Char → Bracket × List Char
  | bound + 1, b, '-' :: cs => addHyphens s bound (b.add ⟨.single '-', 0⟩) (s.skip cs)
  | _, b, cs => (b, cs)

/-- A bracket from the text behind its opening, which has at most `bound` characters: the negation, the
hyphens that stand first, or a closing bracket that stands first and so means itself. -/
def opening (s : Settings) (bound : Nat) (cs : List Char) : Bracket × List Char :=
  let (negated, cs) := match s.skip cs with
    | '^' :: cs => (true, s.skip cs)
    | cs => (false, cs)
  match addHyphens s bound ⟨negated, none, {}⟩ cs with
  | (b, ']' :: rest) =>
    if b.operand.items = 0 then (b.add ⟨.single ']', 0⟩, s.skip rest) else (b, ']' :: rest)
  | opened => opened

end Bracket

/-- A named class behind its opening bracket, as in `:alpha:]` or `:^alpha:]`, and whether it is
negated. -/
def named? : List Char → Option (Bool × CodeSet × List Char)
  | ':' :: cs =>
    let (negated, cs) := match cs with
      | '^' :: cs => (true, cs)
      | cs => (false, cs)
    match cs.dropWhile (· != ':') with
    | ':' :: ']' :: rest =>
      (asciiClass? (String.ofList (cs.takeWhile (· != ':')))).map fun chars =>
        (negated, chars, rest)
    | _ => none
  | _ => none

/-- A character or what a backslash begins. -/
def readItem (s : Settings) : List Char → Except String (Escape × List Char)
  | [] => .error "unclosed character class"
  | '\\' :: cs => Escape.read s cs
  | c :: cs => .ok (.char c, cs)

/-- A single character in a class; without `unicode` it is a byte, which must be ASCII. -/
def endpoint (s : Settings) : Escape → Except String Char
  | .char c =>
    if s.unicode || c.toNat < 128 then .ok c else .error "Unicode not allowed here"
  | _ => .error "invalid range boundary"

/-- An item that is no range. -/
def itemSet (s : Settings) : Escape → Except String CodeSet
  | .set chars => .ok chars
  | .look _ => .error "invalid escape sequence in character class"
  | c => return .single (← endpoint s c)

/-- Whether a hyphen stands at the start of the text and makes a range with what follows.  Before a
closing bracket it means itself, before another hyphen it is part of an operator; here a number sign
does not begin a comment but is passed over. -/
def startsRange (s : Settings) : List Char → Bool
  | '-' :: cs =>
    let next :=
      if !s.spaced then cs
      else match cs.dropWhile Settings.isBlank with
        | '#' :: cs => cs.dropWhile Settings.isBlank
        | cs => cs
    match next with
    | c :: _ => c != ']' && c != '-'
    | [] => true
  | _ => false

/-- An item or a range. -/
def readRange (s : Settings) (cs : List Char) : Except String (CodeSet × List Char) := do
  let (first, rest) ← readItem s cs
  let rest := s.skip rest
  if startsRange s rest then
    let (last, rest) ← readItem s (s.skip rest.tail)
    let first ← endpoint s first
    let last ← endpoint s last
    if first ≤ last then return (.ofRange first.toNat last.toNat, rest)
    else .error "invalid character class range"
  else return (← itemSet s first, rest)

/-- The operator at the start of the text. -/
def operator? : List Char → Option (Operator × List Char)
  | '&' :: '&' :: cs => some (.inter, cs)
  | '-' :: '-' :: cs => some (.diff, cs)
  | '~' :: '~' :: cs => some (.symmDiff, cs)
  | _ => none

/-- The rest of a class up to its closing bracket.  Every step consumes a character, so a bound above
the length of the text is never reached. -/
def readRest (s : Settings) :
    (bound : Nat) → Bracket → List Char → Except String (Nested × List Char)
  | 0, _, _ => .error "unclosed character class"
  | bound + 1, b, cs =>
    match s.skip cs with
    | [] => .error "unclosed character class"
    | ']' :: rest => do return (← b.close s, rest)
    | '[' :: rest =>
      match named? rest with
      | some (negated, chars, rest) => do
        let chars := s.withCases chars
        let chars ← if negated then s.outside chars else .ok chars
        readRest s bound (b.add ⟨chars, 0⟩) rest
      | none => do
        let (inner, rest) := Bracket.opening s bound rest
        let (inner, rest) ← readRest s bound inner rest
        readRest s bound (b.add inner) rest
    | cs =>
      match operator? cs with
      | some (op, rest) => readRest s bound (b.operator s op) rest
      | none => do
        let (chars, rest) ← readRange s cs
        readRest s bound (b.add ⟨chars, 0⟩) rest

/-- A class behind its opening bracket; the text has fewer than `bound` characters. -/
def read (s : Settings) (bound : Nat) (cs : List Char) : Except String (Nested × List Char) :=
  let (b, rest) := Bracket.opening s bound cs
  readRest s bound b rest

end Reprise.Pattern.Class
