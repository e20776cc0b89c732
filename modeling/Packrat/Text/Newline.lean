/-!
# Line breaks

A line ends with `\n`, with `\r\n` or with a lone `\r`. This module finds the
breaks of a text, splits a text at them, and makes every break a `\n`.

The breaks are found by one pass that looks one character ahead; they are made
the same by two passes, the first of which joins every `\r\n`.
-/

namespace Packrat.Text

/-- Where a line break begins, and where the next line begins. -/
structure LineBreak where
  start : Nat
  stop : Nat
deriving Repr, DecidableEq

/-- The line breaks of a text whose first byte stands at `offset`, in order. -/
def lineBreaksFrom (offset : Nat) : List Char → List LineBreak
  | '\r' :: '\n' :: rest => ⟨offset, offset + 2⟩ :: lineBreaksFrom (offset + 2) rest
  | c :: rest =>
    if c = '\r' ∨ c = '\n' then ⟨offset, offset + 1⟩ :: lineBreaksFrom (offset + 1) rest
    else lineBreaksFrom (offset + c.utf8Size) rest
  | [] => []

/-- The line breaks of a text, in order. -/
def lineBreaks (text : List Char) : List LineBreak := lineBreaksFrom 0 text

/-- Puts a character in front of the first line. -/
def consFirst (c : Char) : List (List Char) → List (List Char)
  | [] => [[c]]
  | line :: rest => (c :: line) :: rest

/-- The lines of a text without their breaks. A text has one line more than it
has breaks. -/
def splitLines : List Char → List (List Char)
  | '\r' :: '\n' :: rest => [] :: splitLines rest
  | c :: rest =>
    if c = '\r' ∨ c = '\n' then [] :: splitLines rest else consFirst c (splitLines rest)
  | [] => [[]]

/-- Makes every `\r\n` a `\n`. -/
def joinCrLf : List Char → List Char
  | '\r' :: '\n' :: rest => '\n' :: joinCrLf rest
  | c :: rest => c :: joinCrLf rest
  | [] => []

/-- Makes every line break of a text a `\n`. -/
def normalizeChars (text : List Char) : List Char :=
  (joinCrLf text).map fun c => if c = '\r' then '\n' else c

/-- `normalizeChars` on strings. -/
def normalizeNewlines (s : String) : String := String.ofList (normalizeChars s.toList)

end Packrat.Text
