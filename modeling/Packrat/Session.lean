import Packrat.ParseAll
import Packrat.Text.Inspect
/-!
# Sessions

A session runs one step after another on the same state: parsing at any
offset, ending the run by hand, and asking about places, failures and parsers.

## Main definitions

* `Step`, `Reply` — what can be asked, and what is answered.
* `Env.session` — the replies to a list of steps, each with a view of the
  state after it.
-/

namespace Packrat

/-- One step of a session. -/
inductive Step where
  /-- Parses at an offset, which need not be a boundary. -/
  | parse (slot : SlotId) (offset : Nat)
  /-- Ends the run with an error. -/
  | abort (offset : Nat) (message : String)
  | locate (offset : Nat)
  /-- Asks for diagnostics, at the deepest failure or at an offset. -/
  | diagnose (offset : Option Nat)
  /-- Asks what a parser is called. -/
  | label (slot : SlotId)
  /-- Asks for the whole context. -/
  | inspect

/-- What a step answers. -/
inductive Reply where
  | parsed (result : Option Match)
  | aborted
  | located (location : Location)
  | diagnosed (diagnostics : Diagnostics)
  | labelled (label : Grammar.Label)
  | inspected (text : String)

/-- What can be seen of a state from outside. -/
structure StateView where
  deepest : Nat
  expected : List String
  hits : Nat
  misses : Nat
  entries : Nat
  aborted : Bool
deriving Repr, DecidableEq

/-- What can be seen of a state. -/
def State.view (st : State) : StateView where
  deepest := st.deepest
  expected := st.expected
  hits := st.hits
  misses := st.misses
  entries := st.entries
  aborted := st.isAborted

/-- The fields of a record, written for inspection. -/
def inspectRecord (name : String) (fields : List (String × String)) : String :=
  let parts := fields.map fun (field, value) => field ++ ": " ++ value
  name ++ " \x7b " ++ ", ".intercalate parts ++ " \x7d"

/-- Options, written for inspection. -/
def Options.inspect (options : Options) : String :=
  let limit := match options.maxDepth with
    | none => "None"
    | some limit => "Some(" ++ toString limit ++ ")"
  inspectRecord "ParseOptions"
    [("use_memoization", toString options.memoize), ("max_depth", limit)]

namespace Env

/-- A run and its state, written for inspection. -/
def inspect (env : Env) (st : State) : String :=
  inspectRecord "ParseContext"
    [("src_len", toString env.source.size),
      ("options", env.options.inspect),
      ("cache_entries", toString st.entries),
      ("error_position", toString st.deepest),
      ("suggested_parsers", "[" ++ ", ".intercalate (st.expected.map Text.inspect) ++ "]"),
      ("aborted", toString st.isAborted)]

/-- The reply to a step, and the state after it; nothing if it does not end. -/
def step (env : Env) (st : State) : Step → Option (Reply × State)
  | .parse slot offset => (env.parse slot offset st).map fun (result, st) => (.parsed result, st)
  | .abort offset message => some (.aborted, st.raise (.transform offset (.refusal message)))
  | .locate offset => some (.located (.locate env.source offset), st)
  | .diagnose none => some (.diagnosed (.capture env.source st), st)
  | .diagnose (some offset) => some (.diagnosed (.atOffset env.source st offset), st)
  | .label slot => some (.labelled (env.grammar.label st.wasEntered slot), st)
  | .inspect => some (.inspected (env.inspect st), st)

/-- The replies to the steps of a session, each with a view of the state after
it, and the last state; nothing if a step does not end. -/
def session (env : Env) : List Step → State → Option (List (Reply × StateView) × State)
  | [], st => some ([], st)
  | step :: rest, st =>
    match env.step st step with
    | none => none
    | some (reply, st) =>
      (env.session rest st).map fun (replies, last) => ((reply, st.view) :: replies, last)

end Env

end Packrat
