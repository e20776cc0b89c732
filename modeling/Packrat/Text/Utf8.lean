/-!
# Bytes of a text

Offsets into a text count the bytes of its UTF-8 form, while the text itself
is a list of characters. This module measures lists of characters in bytes and
cuts them off at a number of bytes.

Nothing here encodes a character: `Char.utf8Size` alone fixes where
characters begin, so every function is a recursion over the list.

## Main definitions

* `byteLength` — the number of bytes of a text.
* `takeBytes` — the longest prefix that fits into a number of bytes.
-/

namespace Packrat.Text

/-- The number of bytes that a text takes. -/
def byteLength : List Char → Nat
  | [] => 0
  | c :: rest => c.utf8Size + byteLength rest

@[simp] theorem byteLength_nil : byteLength [] = 0 := rfl

@[simp] theorem byteLength_cons (c : Char) (rest : List Char) :
    byteLength (c :: rest) = c.utf8Size + byteLength rest := rfl

/-- The bytes of a concatenation are those of its parts. -/
theorem byteLength_append (left right : List Char) :
    byteLength (left ++ right) = byteLength left + byteLength right := by
  induction left with
  | nil => simp
  | cons c rest ih => simp [ih, Nat.add_assoc]

/-- Every character takes a byte at least. -/
theorem byteLength_eq_zero_iff {text : List Char} : byteLength text = 0 ↔ text = [] := by
  cases text with
  | nil => simp
  | cons c rest =>
    have hpos := c.utf8Size_pos
    simp only [byteLength_cons, reduceCtorEq, iff_false]
    omega

/-- The longest prefix of a text that takes at most `budget` bytes. -/
def takeBytes : Nat → List Char → List Char
  | _, [] => []
  | budget, c :: rest =>
    if c.utf8Size ≤ budget then c :: takeBytes (budget - c.utf8Size) rest else []

end Packrat.Text
