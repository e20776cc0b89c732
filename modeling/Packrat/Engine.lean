import Packrat.Engine.State
import Packrat.Grammar.Describe
/-!
# The engine

Runs the parsers of a grammar on a source. A call of a parser at an offset is
answered from the memo table where possible; otherwise the plan of its body is
carried out, and the questions of the plan are calls again.

## Order of decisions

A call is refused in a run that has ended early, and it ends the run when the
depth limit is reached. With memoization, an entry in progress means that the
parser has come back to itself without taking anything: the call does not
match. A finished entry is the answer. Only then does the body run.

## Termination

A grammar may be left-recursive without bound, so calls take fuel: the number
of calls that may be nested. A call that runs out of fuel has no answer at
all, which is different from not matching. With memoization no parser runs
inside itself at the same offset, and with a depth limit no more parsers are
nested than the limit allows; `fuel` computes from this how much is enough.

## Main definitions

* `Plan.exec` — carries out a plan, given how calls are answered.
* `Env.answer` — answers a call, given how the calls of its body are answered.
* `Env.call` — a call of a parser at an offset.
* `Env.parse` — a call with enough fuel.
-/

namespace Packrat

/-- How a call of a parser at an offset is answered from a state: the answer
and the state after it, or nothing when the call does not end. -/
abbrev Call := SlotId → Nat → State → Option (Option Match × State)

/-- Carries out a plan from a state, with a way to answer its questions. There
is no result when some question has no answer. -/
def Plan.exec {α : Type} (options : Options) (call : Call) : Plan α → State → Option (α × State)
  | .done result, st => some (result, st)
  | .abort position error plan, st =>
    plan.exec options call (st.raise (.transform position error))
  | .ask slot offset resume, st =>
    match call slot offset st with
    | none => none
    | some (answer, st) => (resume answer).exec options call st
  | .look resume, st => (resume (st.snapshot options)).exec options call st
  | .ended resume, st => (resume st.isAborted).exec options call st

/-- A plan that goes on with another is carried out part by part. -/
theorem Plan.exec_bind {α β : Type} (options : Options) (call : Call) (plan : Plan α)
    (next : α → Plan β) (st : State) :
    (plan.bind next).exec options call st =
      match plan.exec options call st with
      | none => none
      | some (result, st) => (next result).exec options call st := by
  induction plan generalizing st with
  | done result => rfl
  | abort position error plan ih => exact ih _
  | ask slot offset resume ih =>
    simp only [Plan.ask_bind, Plan.exec]
    split
    · rfl
    · exact ih _ _
  | look resume ih => exact ih _ _
  | ended resume ih => exact ih _ _

/-- What stays the same during a run. -/
structure Env where
  grammar : Grammar
  source : Source
  options : Options

namespace Env

/-- What a parser does at an offset. -/
def planOf (env : Env) (slot : SlotId) (offset : Nat) : Plan (Option Match) :=
  match env.grammar.bodies[slot]? with
  | some body => body.plan env.source offset
  | none => .done none

/-- Carries out what a parser does at an offset, one level deeper, and records
its failure. -/
def invoke (env : Env) (call : Call) : Call := fun slot offset st =>
  match (env.planOf slot offset).exec env.options call (st.begin slot offset) with
  | none => none
  | some (result, st) => some (result, st.finish slot offset (env.grammar.name? slot) result)

/-- Carries out what a parser does at an offset and remembers the answer. -/
def remember (env : Env) (call : Call) : Call := fun slot offset st =>
  match env.invoke call slot offset (st.reserve slot offset) with
  | none => none
  | some (result, st) =>
    some (if st.isAborted then none else result, st.settle slot offset result)

/-- Whether one more parser would run deeper than the limit. -/
def atLimit (env : Env) (st : State) : Option Nat :=
  env.options.maxDepth.filter (· ≤ st.depth)

/-- Answers a call of a parser at an offset, with a way to answer the calls
that its body makes. -/
def answer (env : Env) (call : Call) : Call := fun slot offset st =>
  if st.isAborted then some (none, st)
  else
    let st := st.enter slot offset
    match env.atLimit st with
    | some limit => some (none, st.raise (.recursionLimit limit offset))
    | none =>
      if !env.options.memoize then env.invoke call slot offset st
      else
        match st.memo.find? slot offset with
        | some .inProgress => some (none, st.note (.leftRecursion slot offset))
        | some .failed => some (none, st.hit)
        | some (.matched m) => some (some m, st.hit)
        | none => env.remember call slot offset st

/-- A call of a parser at an offset. The fuel is the number of calls that may
be nested, this one included. -/
def call (env : Env) : Nat → Call
  | 0 => fun _ _ _ => none
  | fuel + 1 => env.answer (env.call fuel)

/-- Enough fuel for every run that ends, unless values look at the state of a run
with neither memoization nor a depth limit. With a depth limit, no more calls
than the limit and one that is refused are nested. Otherwise the nested calls
are all at different slots and offsets, but for one that is refused; offsets
are those up to the end of the source and the one that the run begins at. -/
def fuel (env : Env) : Nat :=
  let places := env.grammar.size * (env.source.size + 2) + 2
  match env.options.maxDepth with
  | none => places
  | some limit => if env.options.memoize then min places (limit + 1) else limit + 1

/-- A call of a parser at an offset; nothing if it does not end. -/
def parse (env : Env) (slot : SlotId) (offset : Nat) (st : State) :
    Option (Option Match × State) :=
  env.call env.fuel slot offset st

end Env

end Packrat
