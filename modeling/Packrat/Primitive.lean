import Packrat.Decimal.Word
import Packrat.Regex
import Packrat.Text.Quoted
import Packrat.Value
/-!
# Primitive parsers

The parsers that look at the source themselves: characters, strings, regular
expressions, the ends of the source, and numbers in ASCII digits.

A primitive matches, does not match, or finds a number that is too large. The
last is no ordinary failure: what was written is a number, so trying something
else in its place would only hide the mistake.

## Main definitions

* `Primitive` — the primitive parsers.
* `Primitive.scan` — what a primitive finds at an offset.
-/

namespace Packrat

/-- A number that no value can hold, with its text. -/
inductive NumberError where
  | tooLarge (text : String)
  | floatOverflow (text : String)
deriving Repr, DecidableEq

/-- How a number error is worded. -/
def NumberError.message : NumberError → String
  | .tooLarge text => "number too large: " ++ text
  | .floatOverflow text => "floating point overflow: " ++ text

/-- What a primitive parser finds at an offset. -/
inductive Scan where
  | noMatch
  | found (value : Value) (stop : Nat)
  | overflow (error : NumberError)

/-- A parser that looks at the source itself. -/
inductive Primitive where
  /-- One given character. -/
  | char (expected : Char)
  /-- A given text. -/
  | string (expected : String)
  /-- Any character. -/
  | any
  /-- A character that a predicate accepts. -/
  | charWhere (description : String) (accepts : Char → Bool)
  /-- A regular expression. -/
  | regex (expr : Regex) (mode : Regex.Mode)
  | startOfInput
  | endOfInput
  /-- An unsigned integer of 64 bits. -/
  | unsigned
  /-- A signed integer of 64 bits, with an optional sign. -/
  | signed
  /-- A fraction: an optional sign, digits, a point and digits. -/
  | fraction

namespace Primitive

/-- One ASCII digit. -/
def digit : Primitive := .charWhere "digit" Decimal.isDigit

/-- One blank: a space, a tab, a line feed or a carriage return. -/
def whitespace : Primitive :=
  .charWhere "whitespace" fun c => c == ' ' || c == '\t' || c == '\n' || c == '\r'

/-- Takes the first character of a text when it is accepted. -/
def scanChar (accepts : Char → Bool) (start : Nat) : List Char → Scan
  | [] => .noMatch
  | c :: _ => if accepts c then .found (.char c) (start + c.utf8Size) else .noMatch

/-- Takes the digits that a text starts with. -/
def scanUnsigned (start : Nat) (text : List Char) : Scan :=
  let (digits, _) := Decimal.spanDigits text
  if digits.isEmpty then .noMatch
  else
    match Decimal.word? .unsigned64 [] digits with
    | some n => .found (.word (UInt64.ofNat n.toNat)) (start + digits.length)
    | none => .overflow (.tooLarge (String.ofList digits))

/-- Takes the sign and the digits that a text starts with. -/
def scanSigned (start : Nat) (text : List Char) : Scan :=
  let (sign, rest) := Decimal.spanSign text
  let (digits, _) := Decimal.spanDigits rest
  if digits.isEmpty then .noMatch
  else
    match Decimal.word? .signed64 sign digits with
    | some n => .found (.int (Int64.ofInt n)) (start + sign.length + digits.length)
    | none => .overflow (.tooLarge (String.ofList (sign ++ digits)))

/-- Takes the sign, digits, point and digits that a text starts with. -/
def scanFraction (start : Nat) (text : List Char) : Scan :=
  let (sign, rest) := Decimal.spanSign text
  let (whole, rest) := Decimal.spanDigits rest
  match rest with
  | '.' :: rest =>
    let (digits, _) := Decimal.spanDigits rest
    if whole.isEmpty || digits.isEmpty then .noMatch
    else
      let x := Decimal.Binary64.ofDecimal sign whole digits
      let written := sign ++ whole ++ '.' :: digits
      if x.isFinite then .found (.float x) (start + written.length)
      else .overflow (.floatOverflow (String.ofList written))
  | _ => .noMatch

/-- The group that takes a span of a source. -/
def groupOf (src : Source) (span : Regex.Span) : Group :=
  { text := String.ofList (src.slice span.start span.stop), start := span.start, stop := span.stop }

/-- The groups of a match with their texts and names. -/
def capturesOf (src : Source) (names : List (Option String)) (groups : Regex.Groups) : Captures :=
  { groups := groups.map (·.map (groupOf src)), names }

/-- What a regular expression captures at an offset, and where its match ends.
An offset that is no boundary has no match. -/
def captured? (expr : Regex) (mode : Regex.Mode) (src : Source) (start : Nat) :
    Option (Captures × Nat) :=
  if src.isBoundary start then do
    let groups ← expr.captures mode src start
    let whole ← groups.whole?
    return (capturesOf src expr.groupNames groups, whole.stop)
  else none

/-- Matches a regular expression at an offset. -/
def scanRegex (expr : Regex) (mode : Regex.Mode) (src : Source) (start : Nat) : Scan :=
  match captured? expr mode src start with
  | none => .noMatch
  | some (captures, stop) => .found (.captures captures) stop

/-- Takes a given text. -/
def scanString (expected : String) (start : Nat) (text : List Char) : Scan :=
  if expected.toList.isPrefixOf text then
    .found (.str expected) (start + Text.byteLength expected.toList)
  else .noMatch

/-- Looks at the text from an offset on; an offset that is no boundary has no
text, and nothing matches there. -/
def scanText (src : Source) (start : Nat) (look : Nat → List Char → Scan) : Scan :=
  match src.cursor? start with
  | none => .noMatch
  | some place => look start place.rest

/-- What a primitive parser finds at an offset of a source. -/
def scan (src : Source) (start : Nat) : Primitive → Scan
  | .char expected => scanText src start (scanChar (· == expected))
  | .string expected => scanText src start (scanString expected)
  | .any => scanText src start (scanChar fun _ => true)
  | .charWhere _ accepts => scanText src start (scanChar accepts)
  | .regex expr mode => scanRegex expr mode src start
  | .startOfInput => if start = 0 then .found .unit start else .noMatch
  | .endOfInput => if start = src.size then .found .unit start else .noMatch
  | .unsigned => scanText src start scanUnsigned
  | .signed => scanText src start scanSigned
  | .fraction => scanText src start scanFraction

/-- How a character is written between single quotes: with escapes for the
quotes, the backslash, tabs and line ends, and by its number outside the
visible part of ASCII. -/
def quoteChar (c : Char) : String :=
  match c with
  | '\t' => "\\t"
  | '\r' => "\\r"
  | '\n' => "\\n"
  | '\'' => "\\'"
  | '"' => "\\\""
  | '\\' => "\\\\"
  | c =>
    if ' ' ≤ c && c ≤ '~' then String.singleton c
    else "\\u\x7b" ++ String.ofList (Nat.toDigits 16 c.toNat) ++ "\x7d"

/-- How a primitive parser is described. -/
def describe : Primitive → String
  | .char expected => "'" ++ quoteChar expected ++ "'"
  | .string expected => "\"" ++ Text.escape expected ++ "\""
  | .any => "."
  | .charWhere description _ => "<" ++ description ++ ">"
  | .regex expr _ => expr.describe
  | .startOfInput => "<start of input>"
  | .endOfInput => "<end of input>"
  | .unsigned => "/[0-9]+/"
  | .signed => "/[+-]?[0-9]+/"
  | .fraction => "/[+-]?[0-9]+\\.[0-9]+/"

end Primitive

end Packrat
