import Packrat.Decimal.Digits
/-!
# Integers of fixed width

Reads integers that must fit into a range. Two readers differ in what they
promise: `word?` is given text that is known to be a sign and digits, and
`readWord` reads any text and says what is wrong with it.

`readWord` looks at one character at a time and stops at the first that is no
digit or that takes the number out of its range, so the earlier of two faults
is the one that is reported.
-/

namespace Packrat.Decimal

/-- Why a text is not an integer of a given range. -/
inductive WordError where
  | empty
  | invalidDigit
  | tooLarge
  | tooSmall
deriving Repr, DecidableEq

/-- How a reading error is worded. -/
def WordError.message : WordError → String
  | .empty => "cannot parse integer from empty string"
  | .invalidDigit => "invalid digit found in string"
  | .tooLarge => "number too large to fit in target type"
  | .tooSmall => "number too small to fit in target type"

/-- A range of integers that contains zero. -/
structure WordRange where
  least : Int
  greatest : Int
deriving Repr, DecidableEq

/-- The signed integers of 64 bits. -/
def WordRange.signed64 : WordRange := ⟨-0x8000000000000000, 0x7fffffffffffffff⟩

/-- The unsigned integers of 64 bits. -/
def WordRange.unsigned64 : WordRange := ⟨0, 0xffffffffffffffff⟩

/-- The unsigned integers of 8 bits. -/
def WordRange.unsigned8 : WordRange := ⟨0, 0xff⟩

/-- Whether an integer lies in a range. -/
def WordRange.contains (range : WordRange) (n : Int) : Bool :=
  range.least ≤ n && n ≤ range.greatest

/-- The integer written by a sign and digits, when it lies in the range. -/
def word? (range : WordRange) (sign digits : List Char) : Option Int :=
  let n := applySign sign (ofDigits digits)
  if range.contains n then some n else none

/-- Reads digits onto a number, downwards below zero when `negative`. -/
def readDigits (range : WordRange) (negative : Bool) : Int → List Char → Except WordError Int
  | n, [] => .ok n
  | n, c :: rest =>
    if isDigit c then
      let next := if negative then 10 * n - digitValue c else 10 * n + digitValue c
      if range.contains next then readDigits range negative next rest
      else .error (if negative then .tooSmall else .tooLarge)
    else .error .invalidDigit

/-- Reads an integer of a range from the whole of a text. A `+` may stand in
front of the digits, and a `-` when the range has negative numbers. -/
def readWord (range : WordRange) : List Char → Except WordError Int
  | [] => .error .empty
  | c :: rest =>
    if c = '+' ∨ (c = '-' ∧ range.least < 0) then
      if rest.isEmpty then .error .invalidDigit else readDigits range (c = '-') 0 rest
    else readDigits range false 0 (c :: rest)

end Packrat.Decimal
