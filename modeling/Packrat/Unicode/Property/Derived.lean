import Packrat.Unicode.Category
import Packrat.Unicode.Property.Flag
import Packrat.Unicode.Space
/-!
# Properties that follow from others

Many properties are unions of general categories, with a few characters more
or less. The additional characters have a property of their own, whose name
begins with `other`.

## Main definitions

* `alphabetic`, `lowercase`, `uppercase`, `cased` — letters and their case.
* `nameStart`, `nameContinue` — the characters of names.
* `graphemeBase`, `graphemeExtend` — how characters combine.
* `derived?` — the characters with the property of a name.
-/

namespace Packrat.Unicode

/-- The characters of some categories and those with a further property. -/
def inCategoriesOr (names : List String) (other : String) : Ranges :=
  (inCategories names).union (flagged other)

/-! ## Letters -/

/-- The categories of letters. -/
def letters : List String := categoriesUnder 'L'

/-- The lower case characters. -/
def lowercase : Ranges := inCategoriesOr ["Ll"] "otherlowercase"

/-- The upper case characters. -/
def uppercase : Ranges := inCategoriesOr ["Lu"] "otheruppercase"

/-- The letters and the characters that are used like letters. -/
def alphabetic : Ranges :=
  .unionAll [lowercase, uppercase, inCategoriesOr ["Lt", "Lm", "Lo", "Nl"] "otheralphabetic"]

/-- The characters that have a case. -/
def cased : Ranges := .unionAll [lowercase, uppercase, inCategories ["Lt"]]

/-- The characters inside words that may also end a phrase, such as a colon. -/
def midLetter : Ranges := .ofLines ["3a b7 387 55f 5f4 2027 fe13 fe55 ff1a"]

/-- The characters inside words and numbers, such as a full stop. -/
def midNumLet : Ranges := .ofLines ["2e 2018-2019 2024 fe52 ff07 ff0e"]

/-- The characters that are passed over when the case around them matters. -/
def caseIgnorable : Ranges :=
  .unionAll [inCategories ["Mn", "Me", "Cf", "Lm", "Sk"], midLetter, midNumLet,
    .ofLines ["27"]]

/-- The characters whose case changes in some way. -/
def caseMapped : Ranges := .unionAll [flagged "cwl", flagged "cwu", flagged "cwt"]

/-! ## Punctuation and symbols -/

/-- The dashes. -/
def dashes : Ranges := (inCategories ["Pd"]).union (.ofLines ["2053 207b 208b 2212"])

/-- The mathematical characters. -/
def mathematical : Ranges := inCategoriesOr ["Sm"] "othermath"

/-! ## Names -/

/-- The characters that are kept for the marks of a formal language. -/
def patternMarks : Ranges := (flagged "patsyn").union (flagged "patws")

/-- The characters that names may begin with. -/
def nameStart : Ranges := (inCategoriesOr (letters ++ ["Nl"]) "otheridstart").diff patternMarks

/-- The characters of which names may consist. -/
def nameContinue : Ranges :=
  (nameStart.union (inCategoriesOr ["Mn", "Mc", "Nd", "Pc"] "otheridcontinue")).diff patternMarks

/-- Characters of which normalization makes something that is no name. -/
def unstableInNames : Ranges := .ofLines ["37a 309b-309c fc5e-fc63 fdfa-fdfb fe70-fe7e/2"]

/-- Characters of which normalization makes something that does not begin a
name. -/
def unstableAtStart : Ranges := unstableInNames.union (.ofLines ["e33 eb3 ff9e-ff9f"])

/-! ## Characters that combine or do not show -/

/-- The characters that extend the one before them. -/
def graphemeExtend : Ranges := inCategoriesOr ["Mn", "Me"] "othergraphemeextend"

/-- The characters that show by themselves or as white space. -/
def graphemeBase : Ranges :=
  (assigned.diff (inCategories ["Cc", "Cf", "Co", "Zl", "Zp"])).diff graphemeExtend

/-- The characters that a display without support for them leaves out. White
space and the signs that act on what is visible are not among them. -/
def ignorable : Ranges :=
  ((inCategoriesOr ["Cf"] "odi").union (flagged "vs")).diff
    (.unionAll [spaceRanges, .ofLines ["fff9-fffb 13430-13440"], flagged "pcm"])

/-! ## Names of the properties -/

/-- The characters with the property of a name. -/
def derived? : String → Option Ranges
  | "alphabetic" | "alpha" => some alphabetic
  | "caseignorable" | "ci" => some caseIgnorable
  | "cased" => some cased
  | "changeswhencasemapped" | "cwcm" => some caseMapped
  | "dash" => some dashes
  | "defaultignorablecodepoint" | "di" => some ignorable
  | "graphemebase" | "grbase" => some graphemeBase
  | "graphemeextend" | "grext" => some graphemeExtend
  | "idcontinue" | "idc" => some nameContinue
  | "idstart" | "ids" => some nameStart
  | "lowercase" | "lower" => some lowercase
  | "math" => some mathematical
  | "uppercase" | "upper" => some uppercase
  | "whitespace" | "wspace" | "space" => some spaceRanges
  | "xidcontinue" | "xidc" => some (nameContinue.diff unstableInNames)
  | "xidstart" | "xids" => some (nameStart.diff unstableAtStart)
  | _ => none

end Packrat.Unicode
