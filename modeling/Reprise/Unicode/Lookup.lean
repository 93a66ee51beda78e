import Reprise.Unicode.Age
import Reprise.Unicode.Break
import Reprise.Unicode.Script

/-!
# Sets of characters by name

`named?` finds the set that one name stands for: a property, a general category or a script, in this
order.  `valued?` finds the set for a property with a value, such as a script by its extensions.
Names are compared loosely: only their letters and digits count, in either case, and a leading "is"
does not.
-/

namespace Reprise.Unicode

open Text

/-- What counts in a name.  The name "isc" is that of a comment on a character and keeps its "is";
otherwise it would stand for the family C. -/
def looseName (name : String) : String :=
  let (isForm, cs) : Bool × List Char :=
    match name.toList with
    | i :: s :: rest =>
      if i.toLower = 'i' && s.toLower = 's' then (true, rest) else (false, i :: s :: rest)
    | cs => (false, cs)
  let kept := cs.filter fun c => c.toNat < 128 && c != ' ' && c != '_' && c != '-'
  let kept := kept.map Char.toLower
  if isForm && kept == ['c'] then "isc" else String.ofList kept

/-- Whether a name that is reduced to what counts is one of the names. -/
def isAmong (name : String) (names : List String) : Bool := names.any (looseName · == name)

/-- The property of the name. -/
def property? (name : String) : Option CodeSet :=
  (properties.find? fun p => isAmong name (p.name :: p.codes)).map Property.chars

/-- The general category of the name, or the family of categories; also all characters, those that
are assigned, and ASCII. -/
def category? (name : String) : Option CodeSet :=
  if name = "any" then some .all
  else if name = "assigned" then some Category.unassigned.chars.complement
  else if name = "ascii" then some (.ofRange 0 0x7f)
  else
    match (Category.unassigned :: Category.assigned).find? (isAmong name ·.names) with
    | some c => some c.chars
    | none => (families.find? (isAmong name ·.1)).map (charsOf ·.2)

/-- The script of the name. -/
def script? (name : String) : Option Script :=
  scripts.find? fun s => isAmong name (s.name :: s.codes)

/-- The version of the name. -/
def age? (name : String) : Option Age := ages.find? (isAmong name ·.names)

/-- Short names of categories that are also short names of properties that have values. -/
def categoryFirst : List String := ["cf", "sc", "lc"]

/-- The set that a name stands for. -/
def named? (name : String) : Option CodeSet :=
  let name := looseName name
  let property := if categoryFirst.contains name then none else property? name
  property <|> category? name <|> (script? name).map Script.chars

/-- The set of the characters for which the property has the value. -/
def valued? (property value : String) : Option CodeSet :=
  let property := looseName property
  let value := looseName value
  if isAmong property ["General_Category", "gc"] then category? value
  else if isAmong property ["Script", "sc"] then (script? value).map Script.chars
  else if isAmong property ["Script_Extensions", "scx"] then (script? value).map Script.users
  else if isAmong property ["Age"] then (age? value).map Age.assigned
  else
    match Break.valuedProperties.find? (isAmong property ·.names) with
    | some p => (p.values.find? fun v => isAmong value (v.name :: v.codes)).map Property.chars
    | none => none

end Reprise.Unicode
