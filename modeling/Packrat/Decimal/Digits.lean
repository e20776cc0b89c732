/-!
# Decimal digits

Numbers are written with the ASCII digits, most significant digit first.
-/

namespace Packrat.Decimal

/-- Whether a character is one of `0` to `9`. -/
def isDigit (c : Char) : Bool := '0' ≤ c && c ≤ '9'

/-- The value of a digit. -/
def digitValue (c : Char) : Nat := c.toNat - '0'.toNat

/-- The number that a run of digits writes. -/
def ofDigits (digits : List Char) : Nat :=
  digits.foldl (fun n c => 10 * n + digitValue c) 0

/-- Splits a text into the digits that it starts with and the rest. -/
def spanDigits (text : List Char) : List Char × List Char :=
  (text.takeWhile isDigit, text.dropWhile isDigit)

/-- Splits a text into the sign that it starts with, if any, and the rest. -/
def spanSign : List Char → List Char × List Char
  | c :: rest => if c = '-' ∨ c = '+' then ([c], rest) else ([], c :: rest)
  | [] => ([], [])

/-- A sign and a number, as an integer. -/
def applySign (sign : List Char) (magnitude : Nat) : Int :=
  if sign = ['-'] then -(magnitude : Int) else magnitude

end Packrat.Decimal
