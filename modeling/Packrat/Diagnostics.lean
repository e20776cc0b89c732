import Packrat.Engine.State
import Packrat.Source.Location
/-!
# Diagnostics

What is said about a parse that failed: where, what would have matched there,
and the lines around that place. Parsers that failed at other offsets than the
deepest one are not listed, so diagnostics for another offset expect nothing.
-/

namespace Packrat

/-- Where a parse failed and what was expected there. -/
structure Diagnostics where
  location : Location
  expected : List String
  context : List String
deriving Repr, DecidableEq

namespace Diagnostics

/-- The diagnostics of a run for an offset. -/
def atOffset (src : Source) (st : State) (offset : Nat) : Diagnostics :=
  let location := Location.locate src offset
  { location
    expected := if offset = st.deepest then st.expected else []
    context := location.excerpt src }

/-- The diagnostics of a run for its deepest failure. -/
def capture (src : Source) (st : State) : Diagnostics := atOffset src st st.deepest

/-- The offset that diagnostics are about. -/
def position (d : Diagnostics) : Nat := d.location.offset

/-- How diagnostics are shown. -/
def display (d : Diagnostics) : String :=
  let place :=
    "Syntax error at " ++ d.location.display ++ " (offset " ++ toString d.position ++ ")"
  let expected :=
    if d.expected.isEmpty then [] else ["Expected one of: " ++ ", ".intercalate d.expected]
  "\n".intercalate (place :: expected ++ d.context)

end Diagnostics

/-- Why the whole of a source could not be parsed. -/
inductive ParseError where
  /-- The parser does not match at the start of the source. -/
  | unmatchedInput (diagnostics : Diagnostics)
  /-- The parser matches, but something is left behind its match. -/
  | extraCharacters (position : Nat) (remainder : String) (diagnostics : Diagnostics)
  /-- A parser refused what it was given. -/
  | transform (position : Nat) (error : TransformError)
  /-- A parser would have run deeper than the limit. -/
  | recursionLimit (limit position : Nat)
deriving Repr, DecidableEq

namespace ParseError

/-- The error that the early end of a run is reported as. -/
def ofAbort : Abort → ParseError
  | .transform position error => .transform position error
  | .recursionLimit limit position => .recursionLimit limit position

/-- The offset that an error is about. -/
def position : ParseError → Nat
  | .unmatchedInput _ => 0
  | .extraCharacters position _ _ => position
  | .transform position _ => position
  | .recursionLimit _ position => position

/-- The diagnostics of an error; those that ended the run early have none. -/
def diagnostics? : ParseError → Option Diagnostics
  | .unmatchedInput diagnostics => some diagnostics
  | .extraCharacters _ _ diagnostics => some diagnostics
  | .transform _ _ => none
  | .recursionLimit _ _ => none

/-- Whether nothing matched. -/
def isUnmatchedInput : ParseError → Bool
  | .unmatchedInput _ => true
  | _ => false

/-- Whether something was left behind the match. -/
def isExtraCharacters : ParseError → Bool
  | .extraCharacters .. => true
  | _ => false

/-- How an error is shown. -/
def display : ParseError → String
  | .unmatchedInput diagnostics => "Failed to parse.\n" ++ diagnostics.display
  | .extraCharacters position remainder diagnostics =>
    "Extra characters found after position " ++ toString position ++ ": \"" ++ remainder ++
      "\"\n" ++ diagnostics.display
  | .transform position error =>
    "Transform failed at position " ++ toString position ++ ": " ++ error.message
  | .recursionLimit limit position =>
    "Recursion limit of " ++ toString limit ++ " exceeded at position " ++ toString position

end ParseError

end Packrat
