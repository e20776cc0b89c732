import Packrat.Source
import Packrat.Text.Newline
/-!
# Locations

A location names an offset of a source by line and column, both counted from
one; columns count characters. `Location.excerpt` shows the lines around a
location with a pointer below its column.
-/

namespace Packrat

/-- An offset with its line and column. -/
structure Location where
  offset : Nat
  line : Nat
  column : Nat
deriving Repr, DecidableEq

namespace Location

/-- The location of an offset. An offset past the end counts as the end, and
one inside a character as the start of that character. A line begins right
after each break, so an offset between the two characters of a `\r\n` still
belongs to the line that they end. -/
def locate (src : Source) (offset : Nat) : Location :=
  let offset := src.floor (min offset src.size)
  let passed := (Text.lineBreaks src.text).takeWhile (·.stop ≤ offset)
  let lineStart := (passed.getLast?.map (·.stop)).getD 0
  { offset, line := passed.length + 1, column := (src.slice lineStart offset).length + 1 }

/-- How a location is written in a sentence. -/
def display (loc : Location) : String :=
  "line " ++ toString loc.line ++ ", column " ++ toString loc.column

/-- How many lines an excerpt shows before and after its line. -/
def excerptReach : Nat := 2

/-- What stands in front of a line of an excerpt. -/
def gutter (number : Nat) (marked : Bool) : List Char :=
  (if marked then "  > " else "    ").toList ++ (toString number).toList ++ " | ".toList

/-- The line below a marked line, with a caret under column `column`. -/
def pointer (loc : Location) : List Char :=
  List.replicate ((gutter loc.line true).length + loc.column - 1) ' ' ++ "^--- here".toList

/-- One numbered line of an excerpt, with the pointer after the marked line. -/
def excerptLine (loc : Location) (number : Nat) (content : List Char) : List (List Char) :=
  if number = loc.line then [gutter number true ++ content, pointer loc]
  else [gutter number false ++ content]

/-- The lines of a source around a location: up to two before it and up to two
after it, each with its number, and a pointer below the line of the location. -/
def excerpt (src : Source) (loc : Location) : List String :=
  let shown := (Text.splitLines src.text).zipIdx 1 |>.filter fun (_, number) =>
    loc.line ≤ number + excerptReach ∧ number ≤ loc.line + excerptReach
  shown.flatMap fun (content, number) => (excerptLine loc number content).map String.ofList

end Location

end Packrat
