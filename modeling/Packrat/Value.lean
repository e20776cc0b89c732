import Packrat.Decimal.Binary64
/-!
# Values

What parsers yield. A grammar mixes parsers of many result types and lets them
call each other freely, so results share one type.

A tuple collects the results that a sequence captures, and a list those of a
repetition.
-/

namespace Packrat

/-- A number that is an integer or a fraction. -/
inductive Number where
  | int (n : Int64)
  | float (x : Decimal.Binary64)
deriving Repr, DecidableEq, Inhabited

/-- The part of the source that a group of a regular expression took. -/
structure Group where
  text : String
  start : Nat
  stop : Nat
deriving Repr, DecidableEq, Inhabited

/-- A match of a regular expression: its groups by index, of which group 0 is
the whole match and those that took no part are missing. -/
structure Captures where
  groups : List (Option Group)
  names : List (Option String)
deriving Repr, DecidableEq, Inhabited

namespace Captures

/-- The group with an index. -/
def get? (captures : Captures) (index : Nat) : Option Group := (captures.groups[index]?).join

/-- The first group with a name. -/
def named? (captures : Captures) (name : String) : Option Group :=
  (captures.names.findIdx? (· == some name)).bind captures.get?

/-- The text of the whole match. -/
def text (captures : Captures) : String := ((captures.get? 0).map (·.text)).getD ""

end Captures

/-- The result of a parser. -/
inductive Value where
  | char (c : Char)
  | str (s : String)
  | int (n : Int64)
  | word (n : UInt64)
  | float (x : Decimal.Binary64)
  | number (n : Number)
  | tuple (items : List Value)
  | list (items : List Value)
  | none
  | some (value : Value)
  | tag (label : String) (value : Value)
  | captures (captures : Captures)
  /-- A value with the span it was read from and where that begins. -/
  | located (value : Value) (start stop line column : Nat)
deriving Repr, Inhabited

namespace Value

/-- The tuple of no results. -/
def unit : Value := .tuple []

/-- The elements of a tuple or a list. -/
def items? : Value → Option (List Value)
  | .tuple items => Option.some items
  | .list items => Option.some items
  | _ => Option.none

/-- The results of a tuple; any other value counts as one result. -/
def results : Value → List Value
  | .tuple items => items
  | value => [value]

/-- The tuple of the results of two values. -/
def concat (first second : Value) : Value := .tuple (first.results ++ second.results)

mutual
/-- The text of a value: characters, strings and whole matches as they are,
integers in decimal, collections item by item. Fractions and missing values
have no text. -/
def text : Value → String
  | .char c => String.singleton c
  | .str s => s
  | .int n => toString n.toInt
  | .word n => toString n.toNat
  | .float _ => ""
  | .number (.int n) => toString n.toInt
  | .number (.float _) => ""
  | .tuple items => textAll items
  | .list items => textAll items
  | .none => ""
  | .some value => value.text
  | .tag _ value => value.text
  | .captures c => c.text
  | .located value _ _ _ _ => value.text

/-- The text of a list of values. -/
def textAll : List Value → String
  | [] => ""
  | value :: rest => value.text ++ textAll rest
end

/-- The integer that a value holds, looking into tuples of one element and
into wrappers; zero when it holds none. -/
def toInt64 : Value → Int64
  | .int n => n
  | .word n => n.toInt64
  | .number (.int n) => n
  | .tuple [value] => value.toInt64
  | .some value => value.toInt64
  | .tag _ value => value.toInt64
  | .located value _ _ _ _ => value.toInt64
  | _ => 0

end Value

/-- A successful parse: its value and the span of the source that it took. -/
structure Match where
  value : Value
  start : Nat
  stop : Nat
deriving Repr, Inhabited

namespace Match

/-- The number of bytes that were taken. -/
def length (m : Match) : Nat := m.stop - m.start

/-- Whether nothing was taken. -/
def isEmpty (m : Match) : Bool := m.start == m.stop

end Match

end Packrat
