import Reprise.Text.Quoted

/-!
# Structured documents

A `Document` is a JSON value whose objects keep the order of their entries.  `pretty` writes it over
several lines, two spaces to a level; empty lists and objects stay on one line.
-/

namespace Reprise

open Text

/-- A JSON value with ordered objects. -/
inductive Document where
  | null
  | bool (b : Bool)
  | number (n : Nat)
  | text (s : String)
  | list (items : List Document)
  | object (entries : List (String × Document))

namespace Document

/-- A character as it stands inside a JSON string: only the quote, the backslash and the control
characters are escaped. -/
def escapedChar (c : Char) : String :=
  if c = '"' then "\\\""
  else if c = '\\' then "\\\\"
  else if c = '\x08' then "\\b"
  else if c = '\t' then "\\t"
  else if c = '\n' then "\\n"
  else if c = '\x0c' then "\\f"
  else if c = '\r' then "\\r"
  else if c.toNat < 32 then "\\u" ++ hexPadded 4 c.toNat
  else String.singleton c

/-- A JSON string. -/
def stringText (s : String) : String :=
  "\"" ++ String.join (s.toList.map escapedChar) ++ "\""

/-- The start of a line at the level. -/
def lineStart (level : Nat) : String := "\n" ++ "".pushn ' ' (2 * level)

/-- Brackets around items that stand on lines of their own. -/
def bracketed (opening closing : String) (level : Nat) (items : List String) : String :=
  if items.isEmpty then opening ++ closing
  else opening ++ lineStart (level + 1) ++ (("," ++ lineStart (level + 1)).intercalate items) ++
    lineStart level ++ closing

mutual

/-- The document as it is written at the level. -/
def prettyAt (level : Nat) : Document → String
  | .null => "null"
  | .bool b => if b then "true" else "false"
  | .number n => toString n
  | .text s => stringText s
  | .list items => bracketed "[" "]" level (prettyItems (level + 1) items)
  | .object entries => bracketed "\x7b" "\x7d" level (prettyEntries (level + 1) entries)

/-- The items of a list. -/
def prettyItems (level : Nat) : List Document → List String
  | [] => []
  | d :: rest => prettyAt level d :: prettyItems level rest

/-- The entries of an object. -/
def prettyEntries (level : Nat) : List (String × Document) → List String
  | [] => []
  | (key, d) :: rest => (stringText key ++ ": " ++ prettyAt level d) :: prettyEntries level rest

end

/-- The document over several lines. -/
def pretty (d : Document) : String := prettyAt 0 d

end Document

end Reprise
