import Reprise.Text.Unprintable

/-!
# Quoted text and hexadecimal numbers

A quoted text stands between double quotes.  The quote and the backslash are written behind a
backslash, as are the letters `n`, `r`, `t` and `0` for line feed, carriage return, tabulator and
NUL; a character without a printed form is written as its number in braces.  The single quote is
not escaped.
-/

namespace Reprise.Text

/-- Lower case hexadecimal digits, without leading zeros. -/
def hex (n : Nat) : String := String.ofList (Nat.toDigits 16 n)

/-- Lower case hexadecimal digits, filled up with zeros to `width` places. -/
def hexPadded (width n : Nat) : String :=
  let digits := Nat.toDigits 16 n
  String.ofList (List.replicate (width - digits.length) '0' ++ digits)

/-- The value of a hexadecimal digit of either case. -/
def hexDigit? (c : Char) : Option Nat :=
  if '0' ≤ c && c ≤ '9' then some (c.toNat - '0'.toNat)
  else if 'a' ≤ c && c ≤ 'f' then some (c.toNat - 'a'.toNat + 10)
  else if 'A' ≤ c && c ≤ 'F' then some (c.toNat - 'A'.toNat + 10)
  else none

/-- The number that the hexadecimal digits of a text write; other characters are passed over. -/
def hexValue (s : String) : Nat := (s.toList.filterMap hexDigit?).foldl (16 * · + ·) 0

/-- A character as it stands inside a quoted text. -/
def quotedChar (c : Char) : String :=
  if c = '\x00' then "\\0"
  else if c = '\t' then "\\t"
  else if c = '\n' then "\\n"
  else if c = '\r' then "\\r"
  else if c = '"' then "\\\""
  else if c = '\\' then "\\\\"
  else if unprintable.contains c then "\\u\x7b" ++ hex c.toNat ++ "\x7d"
  else String.singleton c

/-- The text between double quotes. -/
def quoted (s : String) : String :=
  "\"" ++ String.join (s.toList.map quotedChar) ++ "\""

end Reprise.Text
