import Reprise.Pattern.Settings
import Reprise.Text.Quoted
import Reprise.Unicode.Lookup

/-!
# What a backslash begins

Behind a backslash a character is meant literally or as a control character, by its number in
hexadecimal digits, as one of a set (`\d` `\w` `\s`, `\p` with a name, and their complements), or as
a condition on the position.  `Escape.read` reads one of these.
-/

namespace Reprise.Pattern

open Text

/-- What stands behind a backslash. -/
inductive Escape where
  | char (c : Char)
  | set (chars : CodeSet)
  | look (l : Look)

/-! ## ASCII classes -/

/-- The named classes of ASCII characters. -/
def asciiClass? (name : String) : Option CodeSet :=
  match name with
  | "alnum" => some (.ofRanges [('0', '9'), ('A', 'Z'), ('a', 'z')])
  | "alpha" => some (.ofRanges [('A', 'Z'), ('a', 'z')])
  | "ascii" => some (.ofRanges [('\x00', '\x7f')])
  | "blank" => some (.ofRanges [('\t', '\t'), (' ', ' ')])
  | "cntrl" => some (.ofRanges [('\x00', '\x1f'), ('\x7f', '\x7f')])
  | "digit" => some (.ofRanges [('0', '9')])
  | "graph" => some (.ofRanges [('!', '~')])
  | "lower" => some (.ofRanges [('a', 'z')])
  | "print" => some (.ofRanges [(' ', '~')])
  | "punct" => some (.ofRanges [('!', '/'), (':', '@'), ('[', '\x60'), ('\x7b', '~')])
  | "space" => some (.ofRanges [('\t', '\r'), (' ', ' ')])
  | "upper" => some (.ofRanges [('A', 'Z')])
  | "word" => some (.ofRanges [('0', '9'), ('A', 'Z'), ('_', '_'), ('a', 'z')])
  | "xdigit" => some (.ofRanges [('0', '9'), ('A', 'F'), ('a', 'f')])
  | _ => none

namespace Escape

/-! ## Single characters -/

/-- Whether a backslash takes away the meaning that the character has or might have. -/
def isLiteral (c : Char) : Bool :=
  c.toNat < 128 && !c.isAlphanum && c != '<' && c != '>'

/-- The control character of a letter. -/
def control? : Char → Option Char
  | 'a' => some '\x07'
  | 'f' => some '\x0c'
  | 't' => some '\t'
  | 'n' => some '\n'
  | 'r' => some '\r'
  | 'v' => some '\x0b'
  | _ => none

/-- How many digits a number has that stands without braces. -/
def digitCount? : Char → Option Nat
  | 'x' => some 2
  | 'u' => some 4
  | 'U' => some 8
  | _ => none

/-- The character of a number. -/
def scalar (n : Nat) : Except String Char :=
  if h : n.isValidChar then .ok (Char.ofNatAux n h)
  else .error "hexadecimal literal is not a Unicode scalar value"

/-- A number of `count` hexadecimal digits, added behind the digits of `value`. -/
def readDigits (s : Settings) :
    (count value : Nat) → List Char → Except String (Nat × List Char)
  | 0, value, cs => .ok (value, cs)
  | _ + 1, _, [] => .error "incomplete escape sequence"
  | count + 1, value, c :: cs =>
    match hexDigit? c with
    | some d => readDigits s count (16 * value + d) (s.skip cs)
    | none => .error "invalid hexadecimal digit"

/-- A character by its number, either in braces or with `count` digits.  Without `unicode` the two
digits of a number are a byte, and from 128 on no character. -/
def readNumber (s : Settings) (count : Nat) (cs : List Char) :
    Except String (Char × List Char) := do
  match s.skip cs with
  | '\x7b' :: cs =>
    match s.upTo? '\x7d' false cs with
    | none => .error "incomplete escape sequence"
    | some ([], _) => .error "hexadecimal literal empty"
    | some (digits, rest) =>
      if digits.all fun d => (hexDigit? d).isSome then
        return (← scalar (hexValue (String.ofList digits)), rest)
      else .error "invalid hexadecimal digit"
  | cs =>
    let (n, rest) ← readDigits s count 0 cs
    if !s.unicode && count = 2 && 128 ≤ n then .error "pattern can match invalid UTF-8"
    else return (← scalar n, rest)

/-! ## Sets -/

/-- The set of a letter for digits, spaces or words. -/
def class? (s : Settings) : Char → Option CodeSet
  | 'd' => if s.unicode then some Unicode.digits else asciiClass? "digit"
  | 's' => if s.unicode then some Unicode.blanks else asciiClass? "space"
  | 'w' => if s.unicode then some Unicode.wordChars else asciiClass? "word"
  | _ => none

/-- What stands before a piece of a text and what behind it, if it occurs. -/
def splitAt? (piece : List Char) : List Char → Option (List Char × List Char)
  | [] => none
  | c :: cs =>
    if piece.isPrefixOf (c :: cs) then some ([], (c :: cs).drop piece.length)
    else (splitAt? piece cs).map fun (before, rest) => (c :: before, rest)

/-- The set of a name, which may be a property and its value, and whether the name stands for the
other characters: a sign of inequality parts the property from values that are not meant. -/
def namedSet? (name : List Char) : Option (Bool × CodeSet) :=
  let valued? (found : List Char × List Char) : Option CodeSet :=
    Unicode.valued? (String.ofList found.1) (String.ofList found.2)
  match splitAt? ['!', '='] name with
  | some found => return (true, ← valued? found)
  | none =>
    match splitAt? [':'] name <|> splitAt? ['='] name with
    | some found => return (false, ← valued? found)
    | none => return (false, ← Unicode.named? (String.ofList name))

/-- A set by its name, behind the letter that announces it.  Two negations cancel each other. -/
def readNamed (s : Settings) (negated : Bool) (cs : List Char) :
    Except String (CodeSet × List Char) := do
  let (name, rest) ← match s.skip cs with
    | [] => .error "incomplete escape sequence"
    | '\x7b' :: cs =>
      match s.upTo? '\x7d' false cs with
      | none => .error "incomplete escape sequence"
      | some found => .ok found
    | c :: cs => .ok ([c], cs)
  if !s.unicode then .error "Unicode not allowed here"
  else
    match namedSet? name with
    | none => .error "Unicode property not found"
    | some (others, chars) =>
      let chars := s.withCases chars
      return (← if negated != others then s.outside chars else .ok chars, rest)

/-! ## Conditions -/

/-- The condition of a character. -/
def look? (s : Settings) : Char → Option Look
  | 'A' => some .textStart
  | 'z' => some .textEnd
  | 'B' => some (.word .noEdge !s.unicode)
  | '<' => some (.word .start !s.unicode)
  | '>' => some (.word .finish !s.unicode)
  | _ => none

/-- The edge of a word by its name. -/
def edge? (name : List Char) : Option WordEdge :=
  match String.ofList name with
  | "start" => some .start
  | "end" => some .finish
  | "start-half" => some .startHalf
  | "end-half" => some .finishHalf
  | _ => none

/-- What an edge of a word is, from the text behind its letter: one of those with a name in braces,
or any.  Braces that begin with something else belong to a repetition. -/
def readEdge (s : Settings) : List Char → Except String (WordEdge × List Char)
  | '\x7b' :: cs =>
    match s.skip cs with
    | [] => .error "special word boundary assertion or repetition is unclosed"
    | c :: _ =>
      if c.isAlpha || c = '-' then
        match s.upTo? '\x7d' false cs with
        | none => .error "special word boundary assertion is unclosed"
        | some (name, rest) =>
          match edge? name with
          | some side => .ok (side, rest)
          | none => .error "unrecognized special word boundary assertion"
      else .ok (.edge, '\x7b' :: cs)
  | cs => .ok (.edge, cs)

/-! ## All together -/

/-- Reads what stands behind a backslash. -/
def read (s : Settings) : List Char → Except String (Escape × List Char)
  | [] => .error "incomplete escape sequence"
  | 'b' :: cs => do
    let (side, rest) ← readEdge s cs
    return (.look (.word side !s.unicode), rest)
  | 'p' :: cs => do
    let (chars, rest) ← readNamed s false cs
    return (.set chars, rest)
  | 'P' :: cs => do
    let (chars, rest) ← readNamed s true cs
    return (.set chars, rest)
  | c :: cs =>
    match digitCount? c, class? s c, class? s c.toLower, control? c, look? s c with
    | some count, _, _, _, _ => do
      let (c, rest) ← readNumber s count cs
      return (.char c, rest)
    | none, some chars, _, _, _ => .ok (.set chars, cs)
    | none, none, some chars, _, _ => do return (.set (← s.outside chars), cs)
    | none, none, none, some c, _ => .ok (.char c, cs)
    | none, none, none, none, some l => .ok (.look l, cs)
    | none, none, none, none, none =>
      if isLiteral c then .ok (.char c, cs)
      else if c.isDigit then .error "backreferences are not supported"
      else .error "unrecognized escape sequence"

end Escape

end Reprise.Pattern
