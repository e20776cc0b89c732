import Packrat.Text.Utf8
/-!
# Sources

A source is the text that is parsed. Parsers address it by byte offsets, and
an offset is a place to parse from only at a *boundary*: where a character
begins or where the text ends.

## Looking up an offset

`seek` says what stands at an offset by walking over the characters before
it. A source keeps the answers for all offsets in a table, so that a lookup
takes constant time; `Source.cursor?_eq_seek` says that the table answers as
`seek` does, and proofs use `seek` alone.

## Main definitions

* `Cursor` — the character before an offset and the text after it.
* `Source.cursor?` — the cursor at an offset, when the offset is a boundary.
* `Source.slice` — the text between two offsets.
* `Source.floor` — the last boundary that is not after an offset.
-/

namespace Packrat

open Text (byteLength takeBytes)

/-- A place between two characters of a text. -/
structure Cursor where
  /-- The character that ends at this place; none at the start of the text. -/
  before : Option Char
  /-- The text from this place on. -/
  rest : List Char
deriving Repr, DecidableEq

namespace Cursor

/-- The place that lies `offset` bytes after a place; nothing when that is
inside a character or past the end. -/
def seek (before : Option Char) : List Char → Nat → Option Cursor
  | rest, 0 => some ⟨before, rest⟩
  | [], _ + 1 => none
  | c :: rest, offset + 1 =>
    if c.utf8Size ≤ offset + 1 then seek (some c) rest (offset + 1 - c.utf8Size) else none

/-- The answers of `seek` for the offsets from zero to the end of the text. -/
def table (before : Option Char) : List Char → List (Option Cursor)
  | [] => [some ⟨before, []⟩]
  | c :: rest =>
    some ⟨before, c :: rest⟩ :: (List.replicate (c.utf8Size - 1) none ++ table (some c) rest)

/-- An entry of the table is what `seek` finds at its offset. -/
theorem getElem?_table (before : Option Char) (text : List Char) (offset : Nat) :
    (table before text)[offset]?.join = seek before text offset := by
  induction text generalizing before offset with
  | nil => cases offset <;> simp [table, seek]
  | cons c rest ih =>
    have hpos := c.utf8Size_pos
    cases offset with
    | zero => simp [table, seek]
    | succ offset =>
      simp only [table, seek, List.getElem?_cons_succ]
      split
      · rw [List.getElem?_append_right (by simp; omega)]
        simp only [List.length_replicate]
        rw [show offset - (c.utf8Size - 1) = offset + 1 - c.utf8Size by omega]
        exact ih _ _
      · rw [List.getElem?_append_left (by simp; omega), List.getElem?_replicate]
        split <;> rfl

end Cursor

/-- A text with the places between its characters. -/
structure Source where
  /-- The characters of the text. -/
  text : List Char
  /-- The number of bytes of the text. -/
  size : Nat
  /-- The cursor at every boundary, by offset. -/
  cursors : Array (Option Cursor)
  size_eq : size = byteLength text
  cursors_eq : cursors.toList = Cursor.table none text

namespace Source

/-- The source that holds a text. -/
def ofList (text : List Char) : Source where
  text
  size := byteLength text
  cursors := (Cursor.table none text).toArray
  size_eq := rfl
  cursors_eq := by simp

/-- The source that holds the characters of a string. -/
def ofString (s : String) : Source := ofList s.toList

/-- The cursor at an offset; nothing when the offset is no boundary. -/
def cursor? (src : Source) (offset : Nat) : Option Cursor := src.cursors[offset]?.join

/-- A lookup answers as the walk over the characters does. -/
theorem cursor?_eq_seek (src : Source) (offset : Nat) :
    src.cursor? offset = Cursor.seek none src.text offset := by
  rw [cursor?, ← Array.getElem?_toList, src.cursors_eq, Cursor.getElem?_table]

/-- Whether a character begins at an offset or the text ends there. -/
def isBoundary (src : Source) (offset : Nat) : Bool := (src.cursor? offset).isSome

/-- The text between two offsets. It is empty when the first is no boundary,
and it ends early when the second is inside a character. -/
def slice (src : Source) (start stop : Nat) : List Char :=
  match src.cursor? start with
  | none => []
  | some cursor => takeBytes (stop - start) cursor.rest

/-- The text from an offset on. -/
def suffix (src : Source) (start : Nat) : List Char :=
  match src.cursor? start with
  | none => []
  | some cursor => cursor.rest

/-- The last boundary that is not after an offset. -/
def floor (src : Source) : Nat → Nat
  | 0 => 0
  | offset + 1 => if src.isBoundary (offset + 1) then offset + 1 else src.floor offset

end Source

end Packrat
