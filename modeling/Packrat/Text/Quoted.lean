/-!
# Text between double quotes

A text is shown between double quotes with its quotes, backslashes and control
characters written as escapes. `escape` writes the escapes and `unescape`
reads them back.

The escapes are a backslash followed by `"`, `\`, `n`, `r` or `t`, and, for
every other control character, by `u` and four hexadecimal digits. All control
characters lie below U+00A0, so four digits always suffice.
-/

namespace Packrat.Text

/-- The control characters: U+0000 to U+001F and U+007F to U+009F. -/
def isControl (c : Char) : Bool :=
  c.toNat < 0x20 || (0x7f ≤ c.toNat && c.toNat < 0xa0)

/-- A hexadecimal digit in lower case. -/
def hexDigit (n : Nat) : Char :=
  if n < 10 then Char.ofNat ('0'.toNat + n) else Char.ofNat ('a'.toNat + (n - 10))

/-- The value of a hexadecimal digit of either case. -/
def hexValue? (c : Char) : Option Nat :=
  if '0' ≤ c ∧ c ≤ '9' then some (c.toNat - '0'.toNat)
  else if 'a' ≤ c ∧ c ≤ 'f' then some (c.toNat - 'a'.toNat + 10)
  else if 'A' ≤ c ∧ c ≤ 'F' then some (c.toNat - 'A'.toNat + 10)
  else none

/-- The four hexadecimal digits of a number below 2¹⁶. -/
def hexQuad (n : Nat) : List Char :=
  [hexDigit (n / 4096 % 16), hexDigit (n / 256 % 16), hexDigit (n / 16 % 16), hexDigit (n % 16)]

/-- How one character is written between double quotes. -/
def escapeChar (c : Char) : List Char :=
  if c = '"' then ['\\', '"']
  else if c = '\\' then ['\\', '\\']
  else if c = '\n' then ['\\', 'n']
  else if c = '\r' then ['\\', 'r']
  else if c = '\t' then ['\\', 't']
  else if isControl c then '\\' :: 'u' :: hexQuad c.toNat
  else [c]

/-- A text as it is written between double quotes. -/
def escapeChars (text : List Char) : List Char := text.flatMap escapeChar

/-- Reads four hexadecimal digits. -/
def readQuad? (a b c d : Char) : Option Char := do
  let a ← hexValue? a
  let b ← hexValue? b
  let c ← hexValue? c
  let d ← hexValue? d
  return Char.ofNat (a * 4096 + b * 256 + c * 16 + d)

/-- Reads a text that was written between double quotes; a text that no text
is written as may have no reading. -/
def unescapeChars : List Char → Option (List Char)
  | [] => some []
  | '\\' :: 'u' :: a :: b :: c :: d :: rest =>
    match readQuad? a b c d with
    | none => none
    | some x => (unescapeChars rest).map (x :: ·)
  | '\\' :: 'n' :: rest => (unescapeChars rest).map ('\n' :: ·)
  | '\\' :: 'r' :: rest => (unescapeChars rest).map ('\r' :: ·)
  | '\\' :: 't' :: rest => (unescapeChars rest).map ('\t' :: ·)
  | '\\' :: c :: rest => (unescapeChars rest).map (c :: ·)
  | c :: rest => (unescapeChars rest).map (c :: ·)

/-- `escapeChars` on strings. -/
def escape (s : String) : String := String.ofList (escapeChars s.toList)

/-- `unescapeChars` on strings. -/
def unescape (s : String) : Option String := (unescapeChars s.toList).map String.ofList

end Packrat.Text
