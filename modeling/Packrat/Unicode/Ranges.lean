/-!
# Ranges of characters

A property of characters is kept as a list of inclusive ranges of code points
in the order of their first ones. Long lists are written as lines of text, with
the code points in hexadecimal: `3b1` is one character, `3b1-3c9` is a range,
and `100-12e/2` is every second character of a range.

## Main definitions

* `Ranges`, `Ranges.contains` — lists of ranges and their characters.
* `Ranges.ofLines` — the ranges that lines of text write.
* `Ranges.normal` — the normal form of a list.
* `Ranges.union`, `Ranges.inter`, `Ranges.diff`, `Ranges.compl` — operations on
  the sets of code points.
-/

namespace Packrat.Unicode

/-- Inclusive ranges of code points, in the order of their first ones. -/
abbrev Ranges := List (Nat × Nat)

namespace Ranges

/-- Whether some range holds a code point; ranges above it are not tried. -/
def holds : Ranges → Nat → Bool
  | [], _ => false
  | (first, last) :: rest, n =>
    if n < first then false else n ≤ last || holds rest n

/-- Whether some range holds a character. -/
def contains (ranges : Ranges) (c : Char) : Bool := holds ranges c.toNat

/-! ## Operations

The operations take lists in order and give lists in normal form: in order, and
with at least one code point between a range and the next. -/

/-- The code points from `next` on that are not in a list. -/
def gaps (next : Nat) : Ranges → Ranges
  | [] => if next ≤ 0x10ffff then [(next, 0x10ffff)] else []
  | (first, last) :: rest =>
    let others := gaps (max next (last + 1)) rest
    if next < first then (next, first - 1) :: others else others

/-- The code points that are not in a list. -/
def compl (a : Ranges) : Ranges := gaps 0 a

/-- The normal form of a list. Between two gaps there is something, so a
complement is in normal form whatever the list. -/
def normal (a : Ranges) : Ranges := a.compl.compl

/-- The ranges of both lists, in order. -/
def merged (a b : Ranges) : Ranges := a.merge b fun x y => x.1 ≤ y.1

/-- The code points of either list. -/
def union (a b : Ranges) : Ranges := (merged a b).normal

/-- The code points of any of some lists. -/
def unionAll (lists : List Ranges) : Ranges :=
  normal (lists.flatten.mergeSort fun x y => x.1 ≤ y.1)

/-- The code points of both lists. -/
def inter (a b : Ranges) : Ranges := (merged a.compl b.compl).compl

/-- The code points of the first list that are not in the second. -/
def diff (a b : Ranges) : Ranges := (merged a.compl b).compl

/-- The code points of exactly one of two lists. -/
def symmDiff (a b : Ranges) : Ranges := (a.diff b).union (b.diff a)

/-- The ranges of some code points. -/
def ofCodes (codes : List Nat) : Ranges := unionAll [codes.map fun n => (n, n)]

/-! ## Written ranges -/

/-- The number that hexadecimal digits write. -/
def ofHex (digits : List Char) : Nat :=
  digits.foldl (fun n c =>
    16 * n + if c.isDigit then c.toNat - '0'.toNat else c.toNat - 'a'.toNat + 10) 0

/-- The ranges that one word of a line writes. -/
def ofWord (word : List Char) : Ranges :=
  let first := ofHex (word.takeWhile (· != '-'))
  match word.dropWhile (· != '-') with
  | [] => [(first, first)]
  | _ :: rest =>
    let last := ofHex (rest.takeWhile (· != '/'))
    if rest.contains '/' then
      (List.range ((last - first) / 2 + 1)).map fun i => (first + 2 * i, first + 2 * i)
    else [(first, last)]

/-- The ranges that lines of text write. -/
def ofLines (lines : List String) : Ranges :=
  lines.flatMap fun line => (line.toList.splitOn ' ').flatMap ofWord

end Ranges

end Packrat.Unicode
