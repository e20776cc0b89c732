import Packrat.Regex.Bracket
/-!
# Reading regular expressions

An expression is alternatives of parts in a row. The flags are resolved while
it is read, so the pattern that results carries none.

## Main definitions

* `Item` — a part of an expression.
* `Pattern.read` — the pattern that a text writes.
-/

namespace Packrat.Regex

/-- A part of an expression, which may be repeated unless it only sets flags. -/
inductive Item where
  | part (pattern : Nested Pattern)
  | setting

/-- The depth of a part. -/
def Item.depth : Item → Nat
  | .part pattern => pattern.depth
  | .setting => 0

/-- The pattern of parts in a row, collected last first. -/
def sequence (items : List Item) : Nested Pattern :=
  { value := .row (items.reverse.filterMap fun | .part p => some p.value | .setting => none)
    depth := rowDepth (items.map Item.depth) }

/-- The pattern of alternatives, collected last first. -/
def choice (branches : List (Nested Pattern)) : Nested Pattern :=
  { value := .choice (branches.reverse.map (·.value))
    depth := rowDepth (branches.map (·.depth)) }

/-- Whether a character may stand in the name of a group. -/
def isNameChar (first : Bool) (c : Char) : Bool :=
  c == '_' ||
    if first then Unicode.isAlphabetic c
    else Unicode.isAlphanumeric c || c == '.' || c == '[' || c == ']'

/-- Turns one flag on or off. -/
def Flags.set? (flags : Flags) (on : Bool) : Char → Option Flags
  | 'i' => some { flags with ignoreCase := on }
  | 'm' => some { flags with multiLine := on }
  | 's' => some { flags with dotAll := on }
  | 'U' => some { flags with swapGreed := on }
  | 'x' => some { flags with skipBlanks := on }
  | 'R' => some { flags with crlf := on }
  | 'u' => some { flags with unicode := on }
  | _ => none

/-- Whether a text begins like an assertion about the text around it. -/
def isLookAround : List Char → Bool
  | '?' :: '=' :: _ => true
  | '?' :: '!' :: _ => true
  | '?' :: '<' :: '=' :: _ => true
  | '?' :: '<' :: '!' :: _ => true
  | _ => false

/-- What an opening parenthesis begins. -/
inductive Opening where
  | capture (index : Nat) (name : Option String)
  | plain (flags : Flags)
  | setting (flags : Flags)

namespace Read

/-! ## Repetitions -/

/-- Reads a number below 2³²; blanks may stand around it. -/
def decimal : Read Nat := do
  jump ((← rest).dropWhile Unicode.isSpace)
  let digits ← takeAll CharClass.asciiDigit.contains
  jump ((← rest).dropWhile Unicode.isSpace)
  if digits.isEmpty then throw .badCount
  let n := digits.foldl (fun n c => 10 * n + (c.toNat - '0'.toNat)) 0
  if 0x100000000 ≤ n then throw .badCount
  return n

/-- Reads the bounds of a repetition with the braces around them. -/
def bounds : Read (Nat × Option Nat) := do
  advance
  let least ← decimal
  let most ← do
    if (← peek?) = some ',' then
      advance
      if (← peek?) = some '\x7d' then pure none else some <$> decimal
    else pure (some least)
  if (← peek?) ≠ some '\x7d' ∨ most.any (· < least) then throw .badCount
  advance
  return (least, most)

/-- The parts read so far, last first, with the last one repeated. -/
def repeatLast (least : Nat) (most : Option Nat) : List Item → Read (List Item)
  | .part body :: earlier => do
    if depthLimit ≤ body.depth then throw .tooDeep
    let lazily ← accept "?"
    let greedy := lazily == (← flags).swapGreed
    let pattern : Nested Pattern :=
      { value := .repeated least most greedy body.value, depth := body.depth + 1 }
    return .part pattern :: earlier
  | _ => throw .nothingToRepeat

/-! ## Groups -/

/-- Reads the name of a group and the angle bracket after it. -/
def groupName : Read String := do
  let text ← rest
  let name := text.takeWhile (· ≠ '>')
  if name.length = text.length ∨ name.isEmpty then throw .badGroupName
  if !(name.take 1).all (isNameChar true) || !(name.drop 1).all (isNameChar false) then
    throw .badGroupName
  let name := String.ofList name
  if (← get).names.contains name then throw .duplicateGroupName
  modify fun r => { r with rest := text.drop (name.length + 1), names := name :: r.names }
  return name

/-- Takes the next group index. -/
def nextGroup : Read Nat := do
  let index := (← get).groups + 1
  modify fun r => { r with groups := index }
  return index

/-- Reads flags up to `:` or `)`, of which a `-` turns the rest off. No flag
and no `-` may come twice, and a `-` needs a flag after it. There are eight
characters to choose from, so nine steps reach the end. -/
def flagList : Nat → List Char → Flags → Read (List Char × Flags)
  | 0, _, _ => throw .tooLong
  | fuel + 1, seen, flags => do
    match ← peek? with
    | none => throw .unclosedGroup
    | some c =>
      if c = ':' ∨ c = ')' then
        if seen.head? = some '-' then throw .badFlag
        return (seen, flags)
      if seen.contains c then throw .badFlag
      skip 1
      if c = '-' then flagList fuel (c :: seen) flags
      else
        match flags.set? (!seen.contains '-') c with
        | some flags => flagList fuel (c :: seen) flags
        | none => throw .badFlag

/-- Reads an opening parenthesis with what belongs to it. -/
def opening : Read Opening := do
  advance
  let text ← rest
  if isLookAround text then throw .lookAround
  let named ← (do if ← accept "?P<" then return true else accept "?<")
  if named then
    let index ← nextGroup
    return .capture index (some (← groupName))
  else if ← accept "?" then
    let (seen, flags) ← flagList 9 [] (← flags)
    let closed ← accept ")"
    if closed then
      if seen.isEmpty then throw .nothingToRepeat
      return .setting flags
    skip 1
    return .plain flags
  else return .capture (← nextGroup) none

/-- Reads the inside of a group with its closing parenthesis. The flags that
were in force before the group come back after it. -/
def grouped (outer : Flags) (inside : Read (Nested Pattern)) : Read (Nested Pattern) := do
  let body ← within inside
  if !(← accept ")") then throw .unclosedGroup
  setFlags outer
  return { body with depth := body.depth + 1 }

/-! ## Expressions -/

/-- One character of a class. -/
def oneOf (set : CharClass) : Read Pattern := return .ofClass (← flags).unicode set

/-- A literal character. -/
def literal (c : Char) : Read Pattern := do oneOf (← folded (CharClass.single c))

/-- Reads a part that is neither a group nor a class. -/
def simplePart (c : Char) : Read Pattern := do
  let flags ← flags
  skip 1
  match c with
  | '\\' =>
    match ← escape with
    | .literal c => literal c
    | .set set => oneOf set
    | .look look => return .look look
  | '.' =>
    if !flags.unicode then throw .needsUnicode
    if flags.dotAll then return (← oneOf CharClass.all)
    let breaks :=
      if flags.crlf then (CharClass.single '\n').union (CharClass.single '\r')
      else CharClass.single '\n'
    oneOf (CharClass.outside breaks)
  | '^' => return .look (if flags.multiLine then .lineStart flags.crlf else .textStart)
  | '$' => return .look (if flags.multiLine then .lineEnd flags.crlf else .textEnd)
  | c => literal c

/-- Reads alternatives up to a closing parenthesis or the end. `branches` are
the alternatives before the current one, and `items` the parts of the current
one; both are kept last first. -/
def alternatives : Nat → List (Nested Pattern) → List Item → Read (Nested Pattern)
  | 0, _, _ => throw .tooLong
  | fuel + 1, branches, items => do
    blanks
    match ← peek? with
    | none => return choice (sequence items :: branches)
    | some ')' => return choice (sequence items :: branches)
    | some '|' =>
      skip 1
      alternatives fuel (sequence items :: branches) []
    | some '(' =>
      let outer ← flags
      match ← opening with
      | .setting flags =>
        setFlags flags
        alternatives fuel branches (.setting :: items)
      | .plain flags =>
        setFlags flags
        let body ← grouped outer (alternatives fuel [] [])
        alternatives fuel branches (.part body :: items)
      | .capture index name =>
        let body ← grouped outer (alternatives fuel [] [])
        let group : Nested Pattern := { body with value := .group index name body.value }
        alternatives fuel branches (.part group :: items)
    | some '[' =>
      let set ← bracketed
      let part ← oneOf set.value
      alternatives fuel branches (.part ⟨part, set.depth⟩ :: items)
    | some '?' =>
      skip 1
      alternatives fuel branches (← repeatLast 0 (some 1) items)
    | some '*' =>
      skip 1
      alternatives fuel branches (← repeatLast 0 none items)
    | some '+' =>
      skip 1
      alternatives fuel branches (← repeatLast 1 none items)
    | some '\x7b' =>
      if items.isEmpty then throw .nothingToRepeat
      let (least, most) ← bounds
      alternatives fuel branches (← repeatLast least most items)
    | some c =>
      let part ← simplePart c
      alternatives fuel branches (.part ⟨part, 0⟩ :: items)

end Read

/-- The pattern that a text writes under given flags. -/
def Pattern.read (text : String) (flags : Flags) : Except PatternError Pattern := do
  let chars := text.toList
  let (pattern, reader) ←
    (Read.alternatives (chars.length + 1) [] []).run { rest := chars, flags }
  if !reader.rest.isEmpty then throw .unopenedGroup
  if Read.depthLimit < pattern.depth then throw .tooDeep
  return pattern.value

end Packrat.Regex
