import Packrat.Unicode.Digit
import Packrat.Unicode.Fold
import Packrat.Unicode.Letter
import Packrat.Unicode.Space
import Packrat.Unicode.Word
/-!
# Classes of characters

A class is a set of characters, kept as the ranges of their code points, and
the operations on classes are those on ranges. Closing a class under difference
of case is such an operation too (`Ranges.foldCase`); `CharClass.foldAscii` does
the same where only the letters of ASCII have a case.

## Main definitions

* `CharClass` — sets of characters.
* `CharClass.outside`, `CharClass.without` — complement and difference.
* `CharClass.named?`, `CharClass.escaped?` — the classes that have a name.
-/

namespace Packrat.Regex

/-- A set of characters. -/
abbrev CharClass := Unicode.Ranges

namespace CharClass

/-! ## Ranges without surrogates

The code points from `d800` to `dfff` are no characters. A range may span them,
but it neither begins nor ends there. -/

/-- The first character from a code point on. -/
def firstFrom (n : Nat) : Nat := if 0xd800 ≤ n && n ≤ 0xdfff then 0xe000 else n

/-- The last character up to a code point. -/
def lastUpTo (n : Nat) : Nat := if 0xd800 ≤ n && n ≤ 0xdfff then 0xd7ff else n

/-- The class of the characters in some ranges. -/
def ofRanges (ranges : Unicode.Ranges) : CharClass :=
  ranges.filterMap fun (first, last) =>
    if firstFrom first ≤ lastUpTo last then some (firstFrom first, lastUpTo last) else none

/-- The characters outside a class. Each gap between two ranges goes from the
character after the first to the one before the second. A gap of nothing but
surrogates has these two the other way around, and then they are put in order:
the two characters at the gap are outside too. -/
def outside (a : CharClass) : CharClass :=
  a.compl.map fun (first, last) =>
    (min (firstFrom first) (lastUpTo last), max (firstFrom first) (lastUpTo last))

/-- The characters of the first class that are not in the second. -/
def without (a b : CharClass) : CharClass := ofRanges (a.diff b)

/-- The characters of exactly one of two classes. -/
def eitherOnly (a b : CharClass) : CharClass := without (a.union b) (a.inter b)

/-- Whether a class in normal form has a single character. -/
def isSingle : CharClass → Bool
  | [(first, last)] => first = last
  | _ => false

/-! ## Classes -/

/-- The class of all characters. -/
def all : CharClass := [(0, 0x10ffff)]

/-- The class of the characters from `first` to `last`. -/
def range (first last : Char) : CharClass := [(first.toNat, last.toNat)]

/-- The class of one character. -/
def single (c : Char) : CharClass := range c c

/-- The characters that differ at most by the case of an ASCII letter from one
of the class. -/
def foldAscii (a : CharClass) : CharClass :=
  let upper := a.inter (range 'A' 'Z')
  let lower := a.inter (range 'a' 'z')
  .unionAll [a, upper.map fun (first, last) => (first + 32, last + 32),
    lower.map fun (first, last) => (first - 32, last - 32)]

/-- The ASCII digits. -/
def asciiDigit : CharClass := range '0' '9'

/-- The ASCII letters. -/
def asciiAlpha : CharClass := (range 'A' 'Z').union (range 'a' 'z')

/-- The ASCII letters and digits. -/
def asciiAlnum : CharClass := asciiAlpha.union asciiDigit

/-- The ASCII letters, the digits and the underscore. -/
def asciiWord : CharClass := asciiAlnum.union (single '_')

/-- The hexadecimal digits. -/
def asciiHex : CharClass := .unionAll [asciiDigit, range 'A' 'F', range 'a' 'f']

/-- The white space characters of ASCII. -/
def asciiSpace : CharClass := (range '\t' '\r').union (single ' ')

/-- The classes that are written `[:name:]` inside brackets. -/
def named? : String → Option CharClass
  | "alnum" => some asciiAlnum
  | "alpha" => some asciiAlpha
  | "ascii" => some (range '\x00' '\x7f')
  | "blank" => some ((single '\t').union (single ' '))
  | "cntrl" => some ((range '\x00' '\x1f').union (single '\x7f'))
  | "digit" => some asciiDigit
  | "graph" => some (range '!' '~')
  | "lower" => some (range 'a' 'z')
  | "print" => some (range ' ' '~')
  | "punct" =>
    some (.unionAll [range '!' '/', range ':' '@', range '[' '\x60', range '\x7b' '~'])
  | "space" => some asciiSpace
  | "upper" => some (range 'A' 'Z')
  | "word" => some asciiWord
  | "xdigit" => some asciiHex
  | _ => none

/-- The class that the letter of an escape such as `\d` stands for. -/
def escaped? (unicode : Bool) : Char → Option CharClass
  | 'd' => some (if unicode then Unicode.digitRanges else asciiDigit)
  | 's' => some (if unicode then Unicode.spaceRanges else asciiSpace)
  | 'w' => some (if unicode then Unicode.wordRanges else asciiWord)
  | _ => none

end CharClass

end Packrat.Regex
