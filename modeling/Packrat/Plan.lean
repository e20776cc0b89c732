import Packrat.Primitive
/-!
# Plans

What the body of a parser does, with the running of other parsers left open. A
plan is a tree of questions: it asks for the match of another parser at an
offset and says how to go on for each answer, until it is done or aborts the
whole parse.

A plan knows nothing of memo tables, depths or failure tracking. How questions
are answered is up to the engine, so whatever holds of the engine's answers
holds of all parser bodies at once, by induction on plans.

## Early ends

A plan that aborts the parse is not cut off: it goes on, and so do the plans
that asked for it. The engine answers every later question with no match, which
most plans pass on. A plan that would turn such an answer into a match has to
ask whether the run has ended early, as `unlessEnded` does.

## Main definitions

* `Plan`, `Plan.bind` — plans that yield a result, and plans one after another.
* `Plan.iterate` — round after round, as long as rounds match and move on.
-/

namespace Packrat

/-- The place of a parser in its grammar. A parser that is written twice has
two slots. -/
abbrev SlotId := Nat

/-- How a parse is run. -/
structure Options where
  /-- Whether each parser runs at most once at each offset. -/
  memoize : Bool := true
  /-- How many parsers may be running at the same time; unlimited if absent. -/
  maxDepth : Option Nat := none
deriving Repr, DecidableEq

/-- What a parser body may learn about the run that it is part of. -/
structure Snapshot where
  options : Options
  /-- The deepest offset at which a parser has failed. -/
  deepest : Nat
  /-- The names of the parsers that failed there. -/
  expected : List String
  hits : Nat
  misses : Nat
  entries : Nat

/-- Why a parser aborted the whole parse. -/
inductive TransformError where
  | number (error : NumberError)
  | integer (error : Decimal.WordError)
  /-- A refusal in the grammar's own words. -/
  | refusal (message : String)
deriving Repr, DecidableEq

/-- How a transform error is worded. -/
def TransformError.message : TransformError → String
  | .number error => error.message
  | .integer error => error.message
  | .refusal message => message

/-- What the body of a parser does. -/
inductive Plan (α : Type) where
  /-- The body is done. -/
  | done (result : α)
  /-- The whole parse is to end with an error at an offset. -/
  | abort (position : Nat) (error : TransformError) (next : Plan α)
  /-- Another parser is run at an offset. -/
  | ask (slot : SlotId) (offset : Nat) (resume : Option Match → Plan α)
  /-- The state of the run is looked at. -/
  | look (resume : Snapshot → Plan α)
  /-- Whether the run has ended early is looked at. -/
  | ended (resume : Bool → Plan α)

namespace Plan

variable {α β γ : Type}

/-- Goes on with the result of a plan. -/
def bind : Plan α → (α → Plan β) → Plan β
  | .done result, next => next result
  | .abort position error plan, next => .abort position error (plan.bind next)
  | .ask slot offset resume, next => .ask slot offset fun answer => (resume answer).bind next
  | .look resume, next => .look fun snapshot => (resume snapshot).bind next
  | .ended resume, next => .ended fun ended => (resume ended).bind next

@[simp] theorem done_bind (result : α) (next : α → Plan β) :
    (Plan.done result).bind next = next result := rfl

@[simp] theorem abort_bind (position : Nat) (error : TransformError) (plan : Plan α)
    (next : α → Plan β) :
    (Plan.abort position error plan).bind next = .abort position error (plan.bind next) := rfl

@[simp] theorem ask_bind (slot : SlotId) (offset : Nat) (resume : Option Match → Plan α)
    (next : α → Plan β) :
    (Plan.ask slot offset resume).bind next =
      .ask slot offset fun answer => (resume answer).bind next := rfl

@[simp] theorem look_bind (resume : Snapshot → Plan α) (next : α → Plan β) :
    (Plan.look resume).bind next = .look fun snapshot => (resume snapshot).bind next := rfl

@[simp] theorem ended_bind (resume : Bool → Plan α) (next : α → Plan β) :
    (Plan.ended resume).bind next = .ended fun ended => (resume ended).bind next := rfl

@[simp] theorem bind_done (plan : Plan α) : plan.bind .done = plan := by
  induction plan with
  | done => rfl
  | abort position error plan ih => simp [ih]
  | ask slot offset resume ih => simp [ih]
  | look resume ih => simp [ih]
  | ended resume ih => simp [ih]

theorem bind_assoc (plan : Plan α) (next : α → Plan β) (last : β → Plan γ) :
    (plan.bind next).bind last = plan.bind fun result => (next result).bind last := by
  induction plan with
  | done => rfl
  | abort position error plan ih => simp [ih]
  | ask slot offset resume ih => simp [ih]
  | look resume ih => simp [ih]
  | ended resume ih => simp [ih]

/-- Runs a parser at an offset. -/
def run (slot : SlotId) (offset : Nat) : Plan (Option Match) := .ask slot offset .done

/-- Runs a parser at an offset and takes no match for an answer. -/
def attempt (slot : SlotId) (offset : Nat) (next : Match → Plan (Option β)) : Plan (Option β) :=
  .ask slot offset fun
    | none => .done none
    | some m => next m

/-- Yields a result, and nothing if the run has ended early. -/
def unlessEnded (result : Option β) : Plan (Option β) :=
  .ended fun ended => .done (if ended then none else result)

/-- One round after another from `offset`, each beginning where the last one
ended, with what the rounds yield added to `total`. It ends before the first
round that does not match or does not move on, and yields the total with the
offset that was reached. No more than `budget` rounds are run. -/
def iterate (round : Nat → Plan (Option (β × Nat))) (add : α → β → α) :
    Nat → α → Nat → Plan (α × Nat)
  | 0, total, offset => .done (total, offset)
  | budget + 1, total, offset =>
    (round offset).bind fun
      | none => .done (total, offset)
      | some (found, stop) =>
        if stop ≤ offset then .done (total, offset)
        else iterate round add budget (add total found) stop

end Plan

end Packrat
