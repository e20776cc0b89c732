import Packrat.Regex.CharClass
/-!
# Reading steps

The written form of a regular expression is read by steps over the text that
is left. Flags change how what follows is read, up to the end of the group that
sets them, so they are part of the state of the reader.

Functions that loop take fuel; each call takes a character or stops, so the
length of the text is fuel enough, and the functions that start a loop provide
it.

## Nesting

Expressions may be nested 250 levels deep. Groups, repetitions and classes in
brackets are levels, and so are two or more parts side by side, alternatives,
and operators in classes. The depth of what was read is kept next to it.
Besides, no more than 250 groups and brackets can be open at once, because all
of them will count; this bounds the recursion of the reader.

## Main definitions

* `Flags` — what changes how an expression is read.
* `PatternError` — why a text is no regular expression.
* `Read` — reading steps.
* `Nested` — something that was read, with its depth.
-/

namespace Packrat.Regex

/-- What changes how an expression is read. -/
structure Flags where
  /-- Letters match either case. -/
  ignoreCase : Bool := false
  /-- `^` and `$` hold at every line. -/
  multiLine : Bool := false
  /-- `.` matches line feeds too. -/
  dotAll : Bool := false
  /-- Repetitions prefer few copies, and those marked with `?` prefer many. -/
  swapGreed : Bool := false
  /-- Blanks and comments between the parts are skipped. -/
  skipBlanks : Bool := false
  /-- `\r` and `\r\n` end lines too. -/
  crlf : Bool := false
  /-- Classes and case are those of Unicode; otherwise those of ASCII. -/
  unicode : Bool := true
deriving Repr, DecidableEq

/-- Why a text is no regular expression. -/
inductive PatternError where
  | unclosedGroup
  | unopenedGroup
  | unclosedClass
  | badClassItem
  | badRange
  | nothingToRepeat
  | badCount
  | badEscape
  | backReference
  | lookAround
  | badGroupName
  | duplicateGroupName
  | badFlag
  | needsUnicode
  | tooDeep
  | tooLarge
  | tooLong
deriving Repr, DecidableEq

/-- The reader's place: the text that is left and what was met so far. -/
structure Reader where
  rest : List Char
  flags : Flags
  /-- The number of groups and brackets that are open. -/
  level : Nat := 0
  /-- The number of capturing groups opened. -/
  groups : Nat := 0
  /-- The names of the groups opened. -/
  names : List String := []

/-- A reading step. -/
abbrev Read (α : Type) := StateT Reader (Except PatternError) α

/-- The rest of a text after its blanks and comments. A comment goes from `#`
to the end of the line. -/
def dropBlanks : Bool → List Char → List Char
  | _, [] => []
  | true, c :: rest => dropBlanks (c ≠ '\n') rest
  | false, c :: rest =>
    if Unicode.isSpace c then dropBlanks false rest
    else if c = '#' then dropBlanks true rest
    else c :: rest

/-- The characters of a kind that a text begins with, and what follows them.
Where blanks are skipped, those between the characters and after them are left
out. -/
def spanKind (kind : Char → Bool) (skipBlanks : Bool) :
    Bool → List Char → List Char × List Char
  | _, [] => ([], [])
  | true, c :: rest => spanKind kind skipBlanks (c ≠ '\n') rest
  | false, c :: rest =>
    if skipBlanks ∧ Unicode.isSpace c then spanKind kind skipBlanks false rest
    else if skipBlanks ∧ c = '#' then spanKind kind skipBlanks true rest
    else if kind c then
      let (taken, left) := spanKind kind skipBlanks false rest
      (c :: taken, left)
    else ([], c :: rest)

/-- The first character of a text that is neither a blank nor the first `#`.
What stands in a comment is not passed over. -/
def firstMark? : Bool → List Char → Option Char
  | _, [] => none
  | commented, c :: rest =>
    if Unicode.isSpace c then firstMark? commented rest
    else if c = '#' ∧ !commented then firstMark? true rest
    else some c

namespace Read

/-! ## The text that is left -/

/-- The flags in force. -/
def flags : Read Flags := return (← get).flags

/-- Puts flags in force. -/
def setFlags (flags : Flags) : Read Unit := modify fun r => { r with flags }

/-- The text that is left. -/
def rest : Read (List Char) := return (← get).rest

/-- The next character, if any. -/
def peek? : Read (Option Char) := return (← get).rest.head?

/-- Goes on at a given rest of the text. -/
def jump (rest : List Char) : Read Unit := modify fun r => { r with rest }

/-- Drops characters. -/
def skip (n : Nat) : Read Unit := modify fun r => { r with rest := r.rest.drop n }

/-- Drops a given text when it comes next, and says whether it did. -/
def accept (text : String) : Read Bool := do
  if text.toList.isPrefixOf (← rest) then
    skip text.toList.length
    return true
  return false

/-- Skips blanks and comments where the flags say so. -/
def blanks : Read Unit := do
  if (← flags).skipBlanks then modify fun r => { r with rest := dropBlanks false r.rest }

/-- Drops one character and the blanks after it. -/
def advance : Read Unit := do
  skip 1
  blanks

/-- The character that decides what the next one means. Where blanks are
skipped this is the first mark after it. -/
def peekSecond? : Read (Option Char) := do
  let after := (← rest).drop 1
  return if (← flags).skipBlanks then firstMark? false after else after.head?

/-- Takes the characters of a kind that come next. Blanks may stand after each
where the flags say so. -/
def takeAll (kind : Char → Bool) : Read (List Char) := do
  let (taken, left) := spanKind kind (← flags).skipBlanks false (← rest)
  jump left
  return taken

/-! ## Depth -/

/-- The greatest depth of an expression. -/
def depthLimit : Nat := 250

/-- Reads what is inside a group or a bracket. -/
def within {α : Type} (inside : Read α) : Read α := do
  let level := (← get).level
  if depthLimit ≤ level then throw .tooDeep
  modify fun r => { r with level := level + 1 }
  let result ← inside
  modify fun r => { r with level }
  return result

end Read

/-- Something that was read, with the number of levels in it. -/
structure Nested (α : Type) where
  value : α
  depth : Nat := 0

/-- How deep parts side by side nest: two or more are a level of their own. -/
def rowDepth : List Nat → Nat
  | [] => 0
  | [depth] => depth
  | depths => depths.foldl max 0 + 1

end Packrat.Regex
