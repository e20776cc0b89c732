import Packrat.Decimal.Word
import Packrat.Grammar
import Packrat.Source.Location
/-!
# Actions

Ready-made functions for the parsers that change, check or combine values: the
functions given to `Body.map`, `Body.mapInRun`, `Body.tryMap`, `Body.filter`,
`Body.leftAssociative` and `Body.foldLeft`.
-/

namespace Packrat.Action

/-! ## Values from values -/

/-- The text of a value as a string. -/
def flat (v : Value) : Value := .str v.text

/-- The integer that a value holds. -/
def int (v : Value) : Value := .int v.toInt64

/-- The integer after the one that a value holds; it wraps around. -/
def inc (v : Value) : Value := .int (v.toInt64 + 1)

/-- The number of elements of a collection, and one for any other value. -/
def count (v : Value) : Value :=
  .word (UInt64.ofNat ((v.items?.map (·.length)).getD 1))

/-- The sum of the integers of a collection, which wraps around. -/
def sum (v : Value) : Value :=
  match v.items? with
  | some items => .int (items.foldl (fun n item => n + item.toInt64) 0)
  | none => .int v.toInt64

/-- A collection in reverse order. -/
def reverse : Value → Value
  | .tuple items => .tuple items.reverse
  | .list items => .list items.reverse
  | v => v

/-- A value that may be missing. -/
def ofOption : Option Value → Value
  | some v => .some v
  | none => .none

/-- The element of a collection at an index. -/
def get (index : Nat) (v : Value) : Value := ofOption (v.items?.bind (·[index]?))

/-- The text of the group of a match that a lookup finds. -/
def groupBy (find : Captures → Option Group) : Value → Value
  | .captures captures => ofOption ((find captures).map fun group => .str group.text)
  | _ => .none

/-- The text of the group with an index. -/
def group (index : Nat) : Value → Value := groupBy (·.get? index)

/-- The text of the group with a name. -/
def groupNamed (name : String) : Value → Value := groupBy (·.named? name)

/-! ## Values from matches -/

/-- A natural number as a value. -/
def nat (n : Nat) : Value := .word (UInt64.ofNat n)

/-- A truth value as a number. -/
def flag (b : Bool) : Value := nat (if b then 1 else 0)

/-- A function of values applied to the value of a match. -/
def onValue (f : Value → Value) : Source → Match → Value := fun _ m => f m.value

/-- The part of the source that a match took. -/
def raw (src : Source) (m : Match) : Value := .str (String.ofList (m.rawText src))

/-- The part of the source that a match took, with every line break as `\n`. -/
def text (src : Source) (m : Match) : Value :=
  .str (String.ofList (Text.normalizeChars (m.rawText src)))

/-- The span and the value of a match. -/
def span (_ : Source) (m : Match) : Value := .tuple [nat m.start, nat m.stop, m.value]

/-- Line and column of both ends of a match. -/
def corners (src : Source) (m : Match) : Value :=
  let first := Location.locate src m.start
  let last := Location.locate src m.stop
  .tuple [nat first.line, nat first.column, nat last.line, nat last.column]

/-- The value of a match with its span and its location. -/
def locate (src : Source) (m : Match) : Value :=
  let loc := Location.locate src m.start
  .located m.value m.start m.stop loc.line loc.column

/-- The size of a match, of its source and of the limits of the run. -/
def info (snapshot : Snapshot) (src : Source) (m : Match) : Value :=
  .tuple [nat m.length, flag m.isEmpty, flag snapshot.options.memoize, nat src.size,
    nat (snapshot.options.maxDepth.getD 0)]

/-- The failures and the counters of the run so far. -/
def progress (snapshot : Snapshot) (_ : Source) (_ : Match) : Value :=
  .tuple [nat snapshot.deepest, .list (snapshot.expected.map .str), nat snapshot.hits,
    nat snapshot.misses, nat snapshot.entries]

/-! ## Values or refusals -/

/-- The text of a value read as a signed integer. -/
def readSigned (v : Value) : Except TransformError Value :=
  match Decimal.readWord .signed64 v.text.toList with
  | .ok n => .ok (.int (Int64.ofInt n))
  | .error error => .error (.integer error)

/-- The text of a value read as a number below 256. -/
def readByte (v : Value) : Except TransformError Value :=
  match Decimal.readWord .unsigned8 v.text.toList with
  | .ok n => .ok (nat n.toNat)
  | .error error => .error (.integer error)

/-- Refuses a value whose integer is greater than a bound. -/
def atMost (bound : Int) (v : Value) : Except TransformError Value :=
  if bound < v.toInt64.toInt then
    .error (.refusal (toString v.toInt64.toInt ++ " is too large"))
  else .ok v

/-- Refuses every value. -/
def fail (message : String) (_ : Value) : Except TransformError Value := .error (.refusal message)

/-- Refuses a value whose text is one of a list. -/
def reject (texts : List String) (v : Value) : Except TransformError Value :=
  if texts.contains v.text then .error (.refusal ("rejected " ++ v.text)) else .ok v

/-! ## Tests -/

/-- Whether the text of a value is one of a list. -/
def textIn (texts : List String) (v : Value) : Bool := texts.contains v.text

/-- Whether the text of a value has a number of characters at least. -/
def minChars (n : Nat) (v : Value) : Bool := n ≤ v.text.length

/-- Whether the integer of a value is even. -/
def even (v : Value) : Bool := v.toInt64.toInt % 2 == 0

/-! ## Combinations of operands -/

/-- Applies an arithmetic operator to two integers. Results wrap around, and
the quotient is cut off at the point; a quotient by zero is zero, and so is the
result of an unknown operator. -/
def applyOperator (operator : Option Char) (a b : Int64) : Int64 :=
  match operator with
  | some '+' => a + b
  | some '-' => a - b
  | some '*' => a * b
  | some '/' => a / b
  | _ => 0

/-- Whether a character is an arithmetic operator. -/
def isOperator (c : Char) : Bool := c == '+' || c == '-' || c == '*' || c == '/'

/-- The result of the first arithmetic operator in the text of `operator`. -/
def arithmetic (left operator right : Value) : Value :=
  .int (applyOperator (operator.text.toList.find? isOperator) left.toInt64 right.toInt64)

/-- The operands around the operator, as a list. -/
def tree (left operator right : Value) : Value := .list [left, operator, right]

/-- The operands around the operator, as a text in parentheses. -/
def infixText (left operator right : Value) : Value :=
  .str ("(" ++ left.text ++ operator.text ++ right.text ++ ")")

/-- Applies a combination to an operation: a tuple of an operator and an
operand, or an operand alone. -/
def applyOperation (combine : Value → Value → Value → Value) (left operation : Value) : Value :=
  match operation with
  | .tuple [operator, right] => combine left operator right
  | right => combine left .unit right

end Packrat.Action
