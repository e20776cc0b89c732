import Packrat.Regex.Escape
/-!
# Classes in brackets

A bracket holds items: characters, ranges, escapes, named classes of ASCII
characters and further brackets. Items side by side are united, and operators
combine what stands on their sides, from left to right.

Where letters match either case, each item is closed under case before it is
complemented. Unions and the operators keep that property, so nothing has to be
closed again.

## Main definitions

* `SetOp` — the operators.
* `Read.bracketed` — reads a class in brackets.
-/

namespace Packrat.Regex

/-- The operators that combine the parts of a class. -/
inductive SetOp where
  | inter
  | diff
  | symmDiff

/-- Applies an operator to the classes on its sides. -/
def SetOp.apply : SetOp → CharClass → CharClass → CharClass
  | .inter => Unicode.Ranges.inter
  | .diff => CharClass.without
  | .symmDiff => CharClass.eitherOnly

/-- The operator that comes next, written with a character twice. -/
def setOp? : List Char → Option SetOp
  | '&' :: '&' :: _ => some .inter
  | '-' :: '-' :: _ => some .diff
  | '~' :: '~' :: _ => some .symmDiff
  | _ => none

/-- The class that comes next as `[:name:]` or `[:^name:]`, with the text after
it; nothing when the bracket is not of this form. -/
def posix? (text : List Char) : Option (Bool × CharClass × List Char) :=
  match text with
  | '[' :: ':' :: rest =>
    let (negated, rest) := match rest with
      | '^' :: rest => (true, rest)
      | rest => (false, rest)
    match rest.dropWhile (· ≠ ':') with
    | ':' :: ']' :: after =>
      (CharClass.named? (String.ofList (rest.takeWhile (· ≠ ':')))).map (negated, ·, after)
    | _ => none
  | _ => none

/-- The items of a bracket that stand side by side. -/
def united (items : List (Nested CharClass)) : Nested CharClass :=
  { value := .unionAll (items.map (·.value)), depth := rowDepth (items.map (·.depth)) }

/-- What an operator makes of its sides. Without one, the items are all there
is. -/
def combined (before : Option (Nested CharClass × SetOp)) (items : List (Nested CharClass)) :
    Nested CharClass :=
  let right := united items
  match before with
  | none => right
  | some (left, op) =>
    { value := op.apply left.value right.value, depth := max left.depth right.depth + 1 }

namespace Read

/-- Reads one character of a class or an escape in it. -/
def classItem : Read Escape := do
  match ← peek? with
  | some '\\' =>
    skip 1
    escape
  | some c =>
    skip 1
    return .literal c
  | none => throw .unclosedClass

/-- A literal in a class, which must be ASCII where the flags say so. -/
def classLiteral : Escape → Read Char
  | .literal c => do
    if !(← flags).unicode && 0x80 ≤ c.toNat then throw .needsUnicode
    return c
  | _ => throw .badRange

/-- Reads an item or a range of a class. -/
def classRange : Read CharClass := do
  let first ← classItem
  blanks
  if (← rest).isEmpty then throw .unclosedClass
  let second ← peekSecond?
  if (← peek?) ≠ some '-' ∨ second = some ']' ∨ second = some '-' then
    match first with
    | .literal _ => return CharClass.single (← classLiteral first)
    | .set set => return set
    | .look _ => throw .badClassItem
  else
    advance
    let last ← classItem
    let first ← classLiteral first
    let last ← classLiteral last
    if last < first then throw .badRange
    return CharClass.range first last

/-- Reads what stands between an opening bracket and the first item: whether
the class is negated, and the dashes or the closing bracket that are items. -/
def classOpen : Read (Bool × List (Nested CharClass)) := do
  advance
  let negated := (← peek?) = some '^'
  if negated then advance
  let dashes ← takeAll (· == '-')
  if dashes.isEmpty ∧ (← peek?) = some ']' then
    advance
    return (negated, [⟨.single ']', 0⟩])
  return (negated, dashes.map fun _ => ⟨.single '-', 0⟩)

/-- Reads the items of a class up to its closing bracket. `before` is what
stands to the left of the last operator, with the operator, and `items` what
was read since, last first. -/
def classBody : Nat → Option (Nested CharClass × SetOp) → List (Nested CharClass) →
    Read (Nested CharClass)
  | 0, _, _ => throw .tooLong
  | fuel + 1, before, items => do
    blanks
    let text ← rest
    match text with
    | [] => throw .unclosedClass
    | ']' :: _ =>
      skip 1
      return combined before items
    | '[' :: _ =>
      match posix? text with
      | some (negated, named, after) =>
        jump after
        let set ← signed negated (← folded named)
        classBody fuel before (⟨set, 0⟩ :: items)
      | none =>
        let (negated, first) ← classOpen
        let inner ← within (classBody fuel none first)
        let set ← signed negated inner.value
        classBody fuel before (⟨set, inner.depth + 1⟩ :: items)
    | _ =>
      match setOp? text with
      | some op =>
        skip 2
        classBody fuel (some (combined before items, op)) []
      | none =>
        let set ← folded (← classRange)
        classBody fuel before (⟨set, 0⟩ :: items)

/-- Reads a class in brackets. -/
def bracketed : Read (Nested CharClass) := do
  let fuel := (← rest).length + 1
  let (negated, first) ← classOpen
  let inner ← within (classBody fuel none first)
  return ⟨← signed negated inner.value, inner.depth + 1⟩

end Read

end Packrat.Regex
