import Packrat.Engine
/-!
# The log of a run

A log is a list of records in the order in which things happened. What a
reader of a log wants to know of a run is part of its trace: where the deepest
failure went, left recursions, and why the run ended early.
-/

namespace Packrat

/-- How much a record matters. -/
inductive LogLevel where
  | debug
  | trace
  | warn
deriving Repr, DecidableEq

/-- The name of a level. -/
def LogLevel.name : LogLevel → String
  | .debug => "debug"
  | .trace => "trace"
  | .warn => "warn"

/-- One record of a log. -/
structure LogRecord where
  level : LogLevel
  message : String
deriving Repr, DecidableEq

/-- What is logged when a run ends early. -/
def Abort.logMessage : Abort → String
  | .transform position error =>
    "parse aborted at offset " ++ toString position ++ ": " ++ error.message
  | .recursionLimit limit position =>
    "recursion limit of " ++ toString limit ++ " reached at offset " ++ toString position

/-- What is logged of an event, if anything. -/
def Event.logRecord? (g : Grammar) : Event → Option LogRecord
  | .entered .. => none
  | .started .. => none
  | .failed .. => none
  | .moved earlier later =>
    some ⟨.trace, "deepest failure moved " ++ toString earlier ++ " -> " ++ toString later⟩
  | .leftRecursion slot offset =>
    some ⟨.warn, "left recursion in " ++ g.describe slot ++ " at offset " ++ toString offset ++
      "; treating as no match"⟩
  | .aborted abort => some ⟨.warn, abort.logMessage⟩

/-- The log of what has happened up to a state. -/
def State.log (g : Grammar) (st : State) : List LogRecord :=
  st.trace.reverse.filterMap (·.logRecord? g)

end Packrat
