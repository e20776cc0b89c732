import Packrat.Text.Quoted
import Packrat.Unicode.Visible
/-!
# Texts for inspection

Writes a text so that every character of it can be told: what does not show by
itself is written as an escape, by its number if it has no shorter one.
-/

namespace Packrat.Text

/-- How one character is written for inspection. -/
def inspectChar (c : Char) : List Char :=
  if c = '\x00' then ['\\', '0']
  else if c = '\t' then ['\\', 't']
  else if c = '\r' then ['\\', 'r']
  else if c = '\n' then ['\\', 'n']
  else if c = '"' then ['\\', '"']
  else if c = '\\' then ['\\', '\\']
  else if Unicode.isVisible c then [c]
  else '\\' :: 'u' :: '\x7b' :: Nat.toDigits 16 c.toNat ++ ['\x7d']

/-- A text for inspection, between double quotes. -/
def inspect (s : String) : String :=
  "\"" ++ String.ofList (s.toList.flatMap inspectChar) ++ "\""

end Packrat.Text
