import Packrat.Decimal.Digits
/-!
# Decimal fractions as binary floating point numbers

Converts a decimal fraction to the nearest double precision number, with ties
going to the even neighbour. All arithmetic is exact arithmetic on naturals:
a fraction is a quotient `num / den`, its exponent is found by comparing
bit lengths, and one rounded division yields the significand.

A finite number is its significand times a power of two, and its bits read as
a natural number are `(e + 1074) * 2 ^ 52 + q` for the significand `q` and the
exponent `e ≥ -1074`. This one formula covers subnormal numbers, normal
numbers, and significands that round up to `2 ^ 53`.
-/

namespace Packrat.Decimal

/-- A double precision number, by the bits of its interchange format. -/
structure Binary64 where
  bits : UInt64
deriving Repr, DecidableEq, Inhabited

namespace Binary64

/-- The bits of positive infinity, as a natural number: eleven ones above a
significand of 52 zeros. -/
def infinity : Nat := 0x7ff0000000000000

/-- The bit of the sign, as a natural number. -/
def signBit : Nat := 0x8000000000000000

/-- The place of the exponent: the bits of a significand stand below it. -/
def exponentUnit : Nat := 0x10000000000000

/-- Whether a number is neither infinite nor a NaN. -/
def isFinite (x : Binary64) : Bool := x.bits.toNat % signBit < infinity

/-- The quotient rounded to the nearest natural, a tie to the even one. -/
def roundDiv (num den : Nat) : Nat :=
  let q := num / den
  let twice := 2 * (num % den)
  if twice < den then q
  else if den < twice then q + 1
  else q + q % 2

/-- The greatest `e` with `2 ^ e * den ≤ num`, for positive arguments. -/
def floorLog (num den : Nat) : Int :=
  let guess := (Nat.log2 num : Int) - Nat.log2 den
  let fits := if guess < 0 then den ≤ num <<< (-guess).toNat else den <<< guess.toNat ≤ num
  if fits then guess else guess - 1

/-- The bits of the number nearest to a positive quotient, as a natural
number; `infinity` when it is too large for a finite number. -/
def magnitude (num den : Nat) : Nat :=
  let e := max (floorLog num den - 52) (-1074)
  let q := if e < 0 then roundDiv (num <<< (-e).toNat) den else roundDiv num (den <<< e.toNat)
  min ((e + 1074).toNat * exponentUnit + q) infinity

/-- The number nearest to `± num / den`, for a positive `den`. -/
def ofQuotient (negative : Bool) (num den : Nat) : Binary64 :=
  let size := if num = 0 then 0 else magnitude num den
  ⟨UInt64.ofNat (if negative then size + signBit else size)⟩

/-- The number written by a sign, digits, a point and digits. -/
def ofDecimal (sign whole fraction : List Char) : Binary64 :=
  ofQuotient (sign = ['-']) (ofDigits (whole ++ fraction)) (Nat.pow 10 fraction.length)

/-- The sixteen hexadecimal digits of the bits. -/
def hex (x : Binary64) : String :=
  let digits := Nat.toDigits 16 x.bits.toNat
  String.ofList (List.replicate (16 - digits.length) '0' ++ digits)

end Binary64

end Packrat.Decimal
