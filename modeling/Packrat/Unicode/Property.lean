import Packrat.Unicode.Property.Age
import Packrat.Unicode.Property.Break
/-!
# Properties of characters

Properties are looked up by name, in lower case and without blanks, dashes and
underscores. Categories and scripts can be looked up in the same way, or as the
value of a property.

## Main definitions

* `property?` — the characters with the property of a name.
* `propertyValue?` — the characters for which a property has a value.
-/

namespace Packrat.Unicode

/-- The name of a property, category or script as it is looked up. Only ASCII
characters count; case, blanks, dashes and underscores do not matter, and
neither does `is` in front. -/
def looseName (name : String) : String :=
  let chars := name.toList.map Char.toLower
  let (marked, chars) := match chars with
    | 'i' :: 's' :: rest => (true, rest)
    | chars => (false, chars)
  let kept := chars.filter fun c => c.toNat < 0x80 && c != ' ' && c != '-' && c != '_'
  -- `isc` names a property, not the category `c`.
  if marked && kept == ['c'] then "isc" else .ofList kept

/-- The characters with the property of a name, or in the category or the
script of that name. -/
def property? (name : String) : Option Ranges :=
  let name := looseName name
  derived? name <|> flagged? name <|> category? name <|> script? name

/-- The characters for which a property has a value. -/
def propertyValue? (name value : String) : Option Ranges :=
  let value := looseName value
  match looseName name with
  | "age" => age? value
  | "generalcategory" | "gc" => category? value
  | "graphemeclusterbreak" | "gcb" => graphemeBreak? value
  | "script" | "sc" => script? value
  | "scriptextensions" | "scx" => scriptExtensions? value
  | "sentencebreak" | "sb" => sentenceBreak? value
  | "wordbreak" | "wb" => wordBreak? value
  | _ => none

end Packrat.Unicode
