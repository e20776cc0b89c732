import Packrat.Regex.CharClass
/-!
# Classes as bytes

In UTF-8 a character is a row of bytes, and the characters of a range are the
rows that some sequences of byte ranges allow. `CharClass.sequences` gives these
sequences for a class, in the order of the characters.

## Splitting a range

A continuation byte holds six bits. If the first and the last character of a
range have the same leading byte, the continuation bytes are split for
themselves. Otherwise the leading byte of the first character stands alone
unless all its characters are there, and so does that of the last; the leading
bytes in between allow all continuation bytes.

## Main definitions

* `ByteRange` — an inclusive range of bytes.
* `CharClass.sequences` — the sequences of byte ranges of a class.
-/

namespace Packrat.Regex

/-- An inclusive range of bytes. -/
abbrev ByteRange := Nat × Nat

/-- Any continuation byte. -/
def anyContinuation : ByteRange := (0x80, 0xbf)

/-- The number of values that continuation bytes hold. -/
def continuationValues : Nat → Nat
  | 0 => 1
  | count + 1 => 64 * continuationValues count

/-- The sequences for the numbers from `first` to `last`, written as a leading
byte, which counts from `mark`, and a number of continuation bytes. -/
def byteSequences (mark : Nat) : Nat → Nat → Nat → List (List ByteRange)
  | 0, first, last => [[(mark + first, mark + last)]]
  | count + 1, first, last =>
    let unit := continuationValues (count + 1)
    let under (lead first last : Nat) : List (List ByteRange) :=
      (byteSequences 0x80 count first last).map ((mark + lead, mark + lead) :: ·)
    let firstLead := first / unit
    let lastLead := last / unit
    if firstLead = lastLead then under firstLead (first % unit) (last % unit)
    else
      let (low, firstWhole) :=
        if first % unit = 0 then ([], firstLead)
        else (under firstLead (first % unit) (unit - 1), firstLead + 1)
      let (high, endWhole) :=
        if last % unit = unit - 1 then ([], lastLead + 1)
        else (under lastLead 0 (last % unit), lastLead)
      let whole :=
        if firstWhole < endWhole then
          [(mark + firstWhole, mark + endWhole - 1) :: List.replicate (count + 1) anyContinuation]
        else []
      low ++ whole ++ high

/-- A block of characters with the same number of bytes. The surrogates, which
are no characters, lie between two blocks. -/
structure Utf8Block where
  first : Nat
  last : Nat
  /-- What is added to the leading byte. -/
  mark : Nat
  /-- The number of continuation bytes. -/
  count : Nat

/-- The blocks in order. -/
def utf8Blocks : List Utf8Block :=
  [⟨0, 0x7f, 0, 0⟩, ⟨0x80, 0x7ff, 0xc0, 1⟩, ⟨0x800, 0xd7ff, 0xe0, 2⟩, ⟨0xe000, 0xffff, 0xe0, 2⟩,
    ⟨0x10000, 0x10ffff, 0xf0, 3⟩]

/-- The sequences of the characters of a range. -/
def rangeSequences (first last : Nat) : List (List ByteRange) :=
  utf8Blocks.flatMap fun block =>
    let first := max first block.first
    let last := min last block.last
    if first ≤ last then byteSequences block.mark block.count first last else []

/-- The sequences of byte ranges of a class, in the order of the characters. -/
def CharClass.sequences (set : CharClass) : List (List ByteRange) :=
  set.normal.flatMap fun (first, last) => rangeSequences first last

end Packrat.Regex
