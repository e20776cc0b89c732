import Packrat.Diagnostics
import Packrat.Log
import Packrat.Text.Preview
/-!
# Parsing whole sources

Runs a parser from the start of a source, on a fresh state, and asks that it
takes everything. If it does not, the error says where to look: at the deepest
failure, unless the match has passed that.

## Main definitions

* `Env.parseAll` — the outcome of parsing a whole source, with the state that
  the run ended in.
* `Report.log` — the log of the run.
-/

namespace Packrat

/-- How many characters of the rest an error shows. -/
def remainderLimit : Nat := 10

/-- What parsing a whole source led to. -/
structure Report where
  outcome : Except ParseError Value
  /-- Whether the parser matched at the start of the source. -/
  matched : Bool
  /-- The state that the run ended in. -/
  final : State

namespace Env

/-- The outcome of a run that ended in a state with an answer. -/
def outcome (env : Env) (answer : Option Match) (st : State) : Except ParseError Value :=
  match st.abort, answer with
  | some abort, _ => .error (.ofAbort abort)
  | none, none => .error (.unmatchedInput (.capture env.source st))
  | none, some m =>
    if m.stop = env.source.size then .ok m.value
    else
      let rest := Text.truncateChars (env.source.suffix m.stop) remainderLimit "...".toList
      let remainder := String.ofList (Text.escapeChars rest)
      .error (.extraCharacters m.stop remainder
        (.atOffset env.source st (max st.deepest m.stop)))

/-- Parses a whole source; nothing if the run does not end. -/
def parseAll (env : Env) (slot : SlotId) : Option Report :=
  match env.parse slot 0 {} with
  | none => none
  | some (answer, st) => some ⟨env.outcome answer st, answer.isSome, st⟩

/-- What is logged before a run. -/
def openingRecord (env : Env) : LogRecord :=
  ⟨.debug, "parsing " ++ toString env.source.size ++ " bytes (memoization: " ++
    toString env.options.memoize ++ ")"⟩

end Env

namespace Report

/-- What is logged after a run. -/
def closingRecord (report : Report) : LogRecord :=
  let st := report.final
  ⟨.debug, "parse finished: matched=" ++ toString report.matched ++ ", deepest failure at " ++
    toString st.deepest ++ ", cache hits=" ++ toString st.hits ++ " misses=" ++
    toString st.misses ++ " entries=" ++ toString st.entries⟩

/-- The log of a run, with a record before it and one after it. -/
def log (env : Env) (report : Report) : List LogRecord :=
  env.openingRecord :: report.final.log env.grammar ++ [report.closingRecord]

end Report

end Packrat
