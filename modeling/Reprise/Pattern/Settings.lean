import Reprise.Pattern.Normal
import Reprise.Unicode.LetterCase

/-!
# Settings of patterns

A setting is switched on or off by its letter, for a group or from a place on to the end of the
group.  `Settings` holds those in force.  They decide which set of characters is meant by a written
one (`Settings.withCases`, `Settings.outside`), what the dot and the anchors mean, and whether
spaces and comments are passed over (`Settings.skip`).
-/

namespace Reprise.Pattern

open Text

/-- What a letter switches. -/
inductive Setting where
  /-- `i`: letters match in any case. -/
  | anyCase
  /-- `m`: the anchors are those of lines. -/
  | multiLine
  /-- `s`: the dot matches the ends of lines, too. -/
  | dotAll
  /-- `R`: a carriage return ends a line, too. -/
  | crlf
  /-- `U`: repetitions prefer fewer rounds unless they say that they do, and then more. -/
  | reluctant
  /-- `u`: classes hold all characters that they name, not only those of ASCII. -/
  | unicode
  /-- `x`: spaces and comments mean nothing. -/
  | spaced
  deriving DecidableEq

/-- The setting of a letter. -/
def Setting.ofLetter? : Char → Option Setting
  | 'i' => some anyCase
  | 'm' => some multiLine
  | 's' => some dotAll
  | 'R' => some crlf
  | 'U' => some reluctant
  | 'u' => some unicode
  | 'x' => some spaced
  | _ => none

/-- A setting, and whether it is switched on. -/
abbrev SettingChange := Setting × Bool

/-- The settings in force. -/
structure Settings where
  anyCase : Bool := false
  multiLine : Bool := false
  dotAll : Bool := false
  crlf : Bool := false
  reluctant : Bool := false
  unicode : Bool := true
  spaced : Bool := false

namespace Settings

/-- The settings after a change. -/
def set (s : Settings) : SettingChange → Settings
  | (.anyCase, on) => { s with anyCase := on }
  | (.multiLine, on) => { s with multiLine := on }
  | (.dotAll, on) => { s with dotAll := on }
  | (.crlf, on) => { s with crlf := on }
  | (.reluctant, on) => { s with reluctant := on }
  | (.unicode, on) => { s with unicode := on }
  | (.spaced, on) => { s with spaced := on }

/-- The settings after changes. -/
def apply (s : Settings) (changes : List SettingChange) : Settings := changes.foldl set s

/-! ## Sets of characters -/

/-- The set that matches where letters match in any case, if they do. -/
def withCases (s : Settings) (chars : CodeSet) : CodeSet :=
  if !s.anyCase then chars
  else if s.unicode then Unicode.anyCase chars
  else Unicode.anyCaseAscii chars

/-- The characters outside a set.  Without `unicode` these would be single bytes, which may be no
characters. -/
def outside (s : Settings) (chars : CodeSet) : Except String CodeSet :=
  if s.unicode then .ok chars.complement else .error "pattern can match invalid UTF-8"

/-- The pattern of a written character. -/
def literal (s : Settings) (c : Char) : Pattern :=
  if !s.anyCase then .literal [c]
  else if s.unicode then ofSet (.ofCodes (Unicode.sameLetter c.toNat)) false
  else ofSet (Unicode.anyCaseAscii (.single c)) true

/-- The pattern of one character of a written set. -/
def oneOf (s : Settings) (chars : CodeSet) : Pattern := ofSet chars !s.unicode

/-- The characters that the dot matches. -/
def dot (s : Settings) : Except String CodeSet :=
  if !s.unicode then .error "pattern can match invalid UTF-8"
  else if s.dotAll then .ok .all
  else if s.crlf then .ok (CodeSet.ofRanges [('\n', '\n'), ('\r', '\r')]).complement
  else .ok (CodeSet.single '\n').complement

/-- What the first anchor means. -/
def caret (s : Settings) : Look := if s.multiLine then .lineStart s.crlf else .textStart

/-- What the last anchor means. -/
def dollar (s : Settings) : Look := if s.multiLine then .lineEnd s.crlf else .textEnd

/-! ## Spaces and comments -/

/-- Whether the character is a space of any kind. -/
def isBlank (c : Char) : Bool := Unicode.blanks.contains c

/-- The text behind spaces and comments; a comment reaches from a number sign to the end of its
line. -/
def skipSpace : (inComment : Bool) → List Char → List Char
  | _, [] => []
  | true, c :: cs => skipSpace (c != '\n') cs
  | false, c :: cs =>
    if isBlank c then skipSpace false cs
    else if c = '#' then skipSpace true cs
    else c :: cs

/-- The text behind what means nothing. -/
def skip (s : Settings) (cs : List Char) : List Char :=
  if s.spaced then skipSpace false cs else cs

/-- What stands before a closing character, without what means nothing, and what stands behind. -/
def upTo? (s : Settings) (close : Char) :
    (inComment : Bool) → List Char → Option (List Char × List Char)
  | _, [] => none
  | true, c :: cs => upTo? s close (c != '\n') cs
  | false, c :: cs =>
    if s.spaced && isBlank c then upTo? s close false cs
    else if s.spaced && c = '#' then upTo? s close true cs
    else if c = close then some ([], cs)
    else (upTo? s close false cs).map fun (found, rest) => (c :: found, rest)

end Settings

end Reprise.Pattern
