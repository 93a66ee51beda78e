import Reprise.Pattern.Class
import Reprise.Pattern.Size

/-!
# Reading patterns

The written form of patterns: literals, the dot, classes in brackets, what a backslash begins
(`Escape`), the anchors `^` and `$`, groups, alternatives, and the repetitions `* + ?` and `{n}`
`{n,}` `{n,m}`.  A parenthesis may name its group or change settings for it, and a parenthesis that
only changes settings changes them to the end of the group around it.

Reading keeps a `Level` for every open group; `Reading.step` reads one piece and always consumes a
character.  Ill-formed patterns, patterns whose parts are nested too deeply (`nestLimit`) and
patterns that are too large together (`fit`) are refused.
-/

namespace Reprise.Pattern

open Text

/-- How deeply the parts of a pattern may be nested. -/
def nestLimit : Nat := 250

/-! ## Groups -/

/-- A pattern and the depth to which its written form is nested. -/
structure Piece where
  pattern : Pattern := .empty
  depth : Nat := 0

/-- The pieces as one, from their number on one level deeper if there are several. -/
def Piece.gather (combine : List Pattern → Pattern) : List Piece → Piece
  | [] => {}
  | [p] => p
  | ps => ⟨combine (ps.map Piece.pattern), ps.foldl (fun d p => max d p.depth) 0 + 1⟩

/-- An item of an alternative.  A change of settings stands among the items, but it cannot be
repeated. -/
inductive Item where
  | piece (p : Piece)
  | change

/-- The item as a piece. -/
def Item.toPiece : Item → Piece
  | piece p => p
  | change => {}

/-- An open group: its settings, its number if it has one, its finished alternatives, and the items
of the present one, both with the newest first. -/
structure Level where
  settings : Settings
  number : Option Nat := none
  alternatives : List Piece := []
  items : List Item := []

namespace Level

/-- The present alternative. -/
def alternative (l : Level) : Piece :=
  Piece.gather row (l.items.reverse.map Item.toPiece)

/-- The level behind a bar. -/
def bar (l : Level) : Level :=
  { l with alternatives := l.alternative :: l.alternatives, items := [] }

/-- The alternatives of the group. -/
def whole (l : Level) : Piece := Piece.gather anyOf l.bar.alternatives.reverse

/-- The group when it closes, which is one level deeper than its alternatives. -/
def close (l : Level) : Piece :=
  let inner := l.whole
  let pattern := match l.number with
    | some number => .group number inner.pattern
    | none => inner.pattern
  ⟨pattern, inner.depth + 1⟩

/-- The level with one more item. -/
def push (l : Level) (p : Piece) : Level := { l with items := .piece p :: l.items }

/-- The level behind a change of settings. -/
def change (l : Level) (changes : List SettingChange) : Level :=
  { l with settings := l.settings.apply changes, items := .change :: l.items }

/-- The level with its last item repeated; `marked` says that a question mark follows. -/
def repeatLast (l : Level) (least : Nat) (most : Option Nat) (marked : Bool) :
    Except String Level :=
  match l.items with
  | .piece p :: items =>
    let p := ⟨p.pattern.times least most (marked != l.settings.reluctant), p.depth + 1⟩
    .ok { l with items := .piece p :: items }
  | _ => .error "repetition operator missing expression"

end Level

/-! ## The start of a group -/

/-- What stands behind a parenthesis. -/
inductive GroupStart where
  | plain
  | named (name : String)
  /-- A group with changed settings. -/
  | changed (changes : List SettingChange)
  /-- Changed settings for the rest of the group around. -/
  | change (changes : List SettingChange)

/-- Alphabetic characters that are newer than the classes of patterns (Unicode 17). -/
def newLetters : CodeSet := .ofText [
    "yAf1+c1zv1xCTh22111s1UGeqxHb3xi2zz48O8xcQC4p2pEu5Cw18xE9mz1zjSCdv1m82xQxq6BX2cRE2ACa"]

/-- Numbers that are newer than the classes of patterns (Unicode 17). -/
def newNumbers : CodeSet := .ofText ["yDL0aQMa3"]

/-- The characters that group names may begin with: letters and the low line. -/
def nameStart : CodeSet := .unions [Unicode.alphabetic, newLetters, .single '_']

/-- The characters that group names may go on with: also numbers, full stops and brackets. -/
def nameRest : CodeSet :=
  .unions [nameStart, Unicode.charsOf [.decimalNumber, .letterNumber, .otherNumber], newNumbers,
    .single '.', .single '[', .single ']']

/-- Whether a group may have the name. -/
def isGroupName : List Char → Bool
  | [] => false
  | c :: cs => nameStart.contains c && cs.all nameRest.contains

/-- A group name up to its closing angle. -/
def readGroupName (cs : List Char) : Except String (GroupStart × List Char) :=
  let name := cs.takeWhile (· != '>')
  match cs.dropWhile (· != '>') with
  | '>' :: rest =>
    if isGroupName name then .ok (.named (String.ofList name), rest)
    else .error "invalid capture group name"
  | _ => .error "unclosed capture group name"

/-- The changes that letters stand for; behind a hyphen, settings are switched off. -/
def readChanges : (on : Bool) → List Char → Except String (List SettingChange)
  | _, [] => .ok []
  | on, '-' :: cs =>
    if on && !cs.isEmpty then readChanges false cs else .error "misplaced flag negation"
  | on, c :: cs =>
    match Setting.ofLetter? c with
    | none => .error "unrecognized flag"
    | some setting => do
      let changes ← readChanges on cs
      if changes.any (·.1 == setting) then .error "duplicate flag"
      else return (setting, on) :: changes

/-- Changes of settings up to the colon or the parenthesis that closes them. -/
def readSettings (cs : List Char) : Except String (GroupStart × List Char) := do
  let closes (c : Char) : Bool := c == ':' || c == ')'
  let letters := cs.takeWhile (!closes ·)
  let changes ← readChanges true letters
  match cs.dropWhile (!closes ·) with
  | ':' :: rest => return (.changed changes, rest)
  | ')' :: rest =>
    if letters.isEmpty then .error "repetition operator missing expression"
    else return (.change changes, rest)
  | _ => .error "unclosed group"

/-- The start of a group behind its parenthesis. -/
def readGroupStart : List Char → Except String (GroupStart × List Char)
  | '?' :: '=' :: _ => .error "look-around is not supported"
  | '?' :: '!' :: _ => .error "look-around is not supported"
  | '?' :: '<' :: '=' :: _ => .error "look-around is not supported"
  | '?' :: '<' :: '!' :: _ => .error "look-around is not supported"
  | '?' :: 'P' :: '<' :: cs => readGroupName cs
  | '?' :: '<' :: cs => readGroupName cs
  | '?' :: cs => readSettings cs
  | cs => .ok (.plain, cs)

/-! ## Repetitions -/

/-- Whether a question mark follows a repetition, and the text behind it. -/
def readMark : List Char → Bool × List Char
  | '?' :: cs => (true, cs)
  | cs => (false, cs)

/-- The digits at the start of the text, which has at most `bound` characters.  Among them there may
be what the settings pass over. -/
def takeDigits (s : Settings) : (bound : Nat) → List Char → List Char × List Char
  | 0, cs => ([], cs)
  | _, [] => ([], [])
  | bound + 1, c :: cs =>
    if c.isDigit then
      let (digits, rest) := takeDigits s bound (s.skip cs)
      (c :: digits, rest)
    else ([], c :: cs)

/-- The text behind spaces, and behind what the settings pass over after a space. -/
def skipAfterCount (s : Settings) (cs : List Char) : List Char :=
  match cs with
  | c :: rest =>
    if Settings.isBlank c then (s.skip rest).dropWhile Settings.isBlank else c :: rest
  | [] => []

/-- A count of rounds with spaces around it. -/
def readCount (s : Settings) (bound : Nat) (cs : List Char) : Except String (Nat × List Char) :=
  let (digits, rest) := takeDigits s bound (cs.dropWhile Settings.isBlank)
  match (String.ofList digits).toNat? with
  | none => .error "repetition quantifier expects a valid decimal"
  | some n =>
    if n < UInt32.size then .ok (n, skipAfterCount s rest) else .error "decimal literal invalid"

/-- The least and the most number of rounds, behind the opening brace, and whether a question mark
follows. -/
def readCounts (s : Settings) (bound : Nat) (cs : List Char) :
    Except String (Nat × Option Nat × Bool × List Char) := do
  let closing (rest : List Char) : Bool × List Char := readMark (s.skip rest)
  let (least, rest) ← readCount s bound (s.skip cs)
  match rest with
  | '\x7d' :: rest => return (least, some least, closing rest)
  | ',' :: rest =>
    match s.skip rest with
    | '\x7d' :: rest => return (least, none, closing rest)
    | rest =>
      match ← readCount s bound rest with
      | (most, '\x7d' :: rest) =>
        if least ≤ most then return (least, some most, closing rest)
        else .error "invalid repetition count range, the start must be at most the end"
      | _ => .error "unclosed counted repetition"
  | _ => .error "unclosed counted repetition"

/-! ## The whole pattern -/

/-- The open groups, the innermost apart, the group names used so far, and the number of groups that
have numbers. -/
structure Reading where
  level : Level
  outer : List Level := []
  names : List String := []
  groups : Nat := 0

namespace Reading

/-- The reading with another innermost level. -/
def within (r : Reading) (rest : List Char) (level : Level) :
    Except String (Reading × List Char) :=
  .ok ({ r with level := level }, rest)

/-- Opens a group with the settings that has no number. -/
def opened (r : Reading) (settings : Settings) : Reading :=
  { r with level := { settings }, outer := r.level :: r.outer }

/-- Opens a group with a number of its own. -/
def openedNumbered (r : Reading) : Reading :=
  let settings := r.level.settings
  { r with
    level := { settings, number := some r.groups }, outer := r.level :: r.outer,
    groups := r.groups + 1 }

/-- Reads one piece of a text that is not empty and has at most `bound` characters. -/
def step (r : Reading) (bound : Nat) (c : Char) (cs : List Char) :
    Except String (Reading × List Char) := do
  let level := r.level
  let s := level.settings
  match c with
  | '(' =>
    let (start, rest) ← readGroupStart (s.skip cs)
    match start with
    | .plain => return (r.openedNumbered, rest)
    | .named name =>
      if r.names.contains name then .error "duplicate capture group name"
      else return ({ r.openedNumbered with names := name :: r.names }, rest)
    | .changed changes => return (r.opened (s.apply changes), rest)
    | .change changes => r.within rest (level.change changes)
  | ')' =>
    match r.outer with
    | [] => .error "unopened group"
    | next :: outer => return ({ r with level := next.push level.close, outer }, cs)
  | '|' => r.within cs level.bar
  | '[' =>
    let (found, rest) ← Class.read s bound cs
    r.within rest (level.push ⟨s.oneOf found.chars, found.depth⟩)
  | '*' =>
    let (marked, rest) := readMark cs
    r.within rest (← level.repeatLast 0 none marked)
  | '+' =>
    let (marked, rest) := readMark cs
    r.within rest (← level.repeatLast 1 none marked)
  | '?' =>
    let (marked, rest) := readMark cs
    r.within rest (← level.repeatLast 0 (some 1) marked)
  | '\x7b' =>
    let (least, most, marked, rest) ← readCounts s bound cs
    r.within rest (← level.repeatLast least most marked)
  | '.' => r.within cs (level.push ⟨s.oneOf (← s.dot), 0⟩)
  | '^' => r.within cs (level.push ⟨.look s.caret, 0⟩)
  | '$' => r.within cs (level.push ⟨.look s.dollar, 0⟩)
  | '\\' =>
    let (found, rest) ← Escape.read s cs
    match found with
    | .char c => r.within rest (level.push ⟨s.literal c, 0⟩)
    | .set chars => r.within rest (level.push ⟨s.oneOf chars, 0⟩)
    | .look l => r.within rest (level.push ⟨.look l, 0⟩)
  | c => r.within cs (level.push ⟨s.literal c, 0⟩)

/-- The pattern when the text is over. -/
def finish (r : Reading) : Except String Pattern :=
  if !r.outer.isEmpty then .error "unclosed group"
  else
    let whole := r.level.whole
    if nestLimit < whole.depth then .error "exceeded the maximum nesting depth"
    else .ok whole.pattern

/-- Reads the rest of a text; every piece consumes a character, so the length of the text bounds
their number. -/
def readAll : (bound : Nat) → Reading → List Char → Except String Pattern
  | 0, _, _ => .error "pattern too long"
  | bound + 1, r, cs =>
    match r.level.settings.skip cs with
    | [] => r.finish
    | c :: cs => do
      let (r, rest) ← r.step bound c cs
      readAll bound r rest

end Reading

/-- Reads a pattern, or says what is wrong with its written form. -/
def parse (written : String) : Except String Pattern :=
  let cs := written.toList
  Reading.readAll (cs.length + 1) { level := { settings := {} } } cs

/-- Reads patterns that are searched for together, or says what is wrong with the first bad one. -/
def parseAll (written : List String) : Except String (List Pattern) := do
  let patterns ← written.mapM parse
  if fit patterns then return patterns else .error "compiled pattern exceeds the size limit"

@[simp] theorem parseAll_nil : parseAll [] = .ok [] := rfl

end Reprise.Pattern
