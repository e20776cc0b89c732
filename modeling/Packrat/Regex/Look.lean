import Packrat.Regex.CharClass
import Packrat.Source
/-!
# Assertions

An assertion takes no character. It holds at a place or does not, which depends
on the characters before and after the place.

## Main definitions

* `Look` — an assertion.
* `Look.holds` — whether an assertion holds at a place.
-/

namespace Packrat.Regex

/-- Which characters of a word an assertion asks for around a place. -/
inductive WordEdge where
  /-- A word begins or ends here. -/
  | edge
  /-- No word begins or ends here. -/
  | inside
  /-- A word begins here. -/
  | start
  /-- A word ends here. -/
  | stop
  /-- No word character stands before this place. -/
  | startHalf
  /-- No word character stands after this place. -/
  | stopHalf
deriving Repr, DecidableEq

/-- An assertion about a place of the text. -/
inductive Look where
  | textStart
  | textEnd
  /-- The start of a line; with `crlf` lines also end with `\r` and `\r\n`. -/
  | lineStart (crlf : Bool)
  /-- The end of a line. -/
  | lineEnd (crlf : Bool)
  /-- An edge of a word of Unicode or of ASCII word characters. -/
  | word (side : WordEdge) (unicode : Bool)
deriving Repr, DecidableEq

/-- Whether a word edge is present between two places, given whether a word
character stands before and after. -/
def WordEdge.holds (before after : Bool) : WordEdge → Bool
  | .edge => before != after
  | .inside => before == after
  | .start => !before && after
  | .stop => before && !after
  | .startHalf => !before
  | .stopHalf => !after

/-- Whether an assertion holds at a place. -/
def Look.holds (look : Look) (place : Cursor) : Bool :=
  let before := place.before
  let after := place.rest.head?
  match look with
  | .textStart => before.isNone
  | .textEnd => after.isNone
  | .lineStart false => before.isNone || before == some '\n'
  | .lineStart true =>
    before.isNone || before == some '\n' || (before == some '\r' && after != some '\n')
  | .lineEnd false => after.isNone || after == some '\n'
  | .lineEnd true =>
    after.isNone || after == some '\r' || (after == some '\n' && before != some '\r')
  | .word side unicode =>
    let words := if unicode then Unicode.wordRanges else CharClass.asciiWord
    side.holds (before.any words.contains) (after.any words.contains)

end Packrat.Regex
