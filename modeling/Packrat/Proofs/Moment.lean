import Packrat.Proofs.Memoized
import Packrat.Proofs.Work
/-!
# Runs moment by moment

`Env.call` gives the answer to a call and the state after it; if the call does not
end it gives nothing. What happens in between, and what happens in runs that never
end, is told by *moments*: what is being done, which bodies wait for an answer, what
is still to be called from outside, and the state. `Env.Next` takes a run from one
moment to the next.

Nothing is left to chance in a step, so the moments of a run follow from its first
one. Whatever a single step keeps, a run keeps from its first moment to its last,
whether or not it ends.

## Main definitions

* `Moment`, `Env.Next` — a moment of a run, and how the next one follows.
* `Env.Passes` — a run from one moment to another, with the moments on the way.

## Main results

* `Env.Passes.keeps` — what every step keeps holds at all moments of a run.
* `Env.Next.unique` — at most one moment follows another.
-/

namespace Packrat

/-- What is being done at a moment of a run. -/
inductive Doing where
  /-- Nothing has been called, or all that was called has been answered. -/
  | idle
  /-- A parser is called at an offset. -/
  | call (slot : SlotId) (offset : Nat)
  /-- The body of a parser goes on. -/
  | body (slot : SlotId) (offset : Nat) (work : Work (Option Match))
  /-- A call is answered. -/
  | answer (slot : SlotId) (offset : Nat) (answer : Option Match)

/-- A body that has called a parser and waits for the answer. -/
structure Caller where
  slot : SlotId
  offset : Nat
  resume : Option Match → Work (Option Match)

/-- A moment of a run. -/
structure Moment where
  doing : Doing
  /-- The bodies that wait for an answer, the last caller first. -/
  callers : List Caller
  /-- The calls that are still to be made from outside. -/
  todo : List (SlotId × Nat)
  state : State

namespace Moment

/-- The first moment of a run in which calls are made one after another on a state. -/
def first (todo : List (SlotId × Nat)) (st : State) : Moment := ⟨.idle, [], todo, st⟩

/-- The last moment of a run in which all calls have been answered. -/
def last (st : State) : Moment := ⟨.idle, [], [], st⟩

/-- The parsers whose bodies are running with the offsets at which they run, the
innermost first. -/
def running (m : Moment) : List (SlotId × Nat) :=
  match m.doing with
  | .body slot offset _ => (slot, offset) :: m.callers.map fun c => (c.slot, c.offset)
  | _ => m.callers.map fun c => (c.slot, c.offset)

end Moment

namespace Env

/-- The work of a parser at an offset. -/
def workOf (env : Env) (slot : SlotId) (offset : Nat) : Work (Option Match) :=
  match env.grammar.bodies[slot]? with
  | some body => body.work env.source offset
  | none => .done none

/-- Without the marks the work of a parser is its plan. -/
theorem erase_workOf (env : Env) (slot : SlotId) (offset : Nat) :
    (env.workOf slot offset).erase = env.planOf slot offset := by
  unfold workOf planOf
  cases env.grammar.bodies[slot]? with
  | none => rfl
  | some body => exact body.erase_work env.source offset

/-- The ways in which a call is answered without running a body, with the state that
it leaves behind. -/
inductive AtOnce (env : Env) (slot : SlotId) (offset : Nat) (st : State) :
    Option Match → State → Prop
  | stopped (hended : st.isAborted = true) : env.AtOnce slot offset st none st
  | refused {limit : Nat} (hlive : st.isAborted = false) (hlimit : env.atLimit st = some limit) :
    env.AtOnce slot offset st none ((st.enter slot offset).raise (.recursionLimit limit offset))
  | recursive (hlive : st.isAborted = false) (hroom : env.atLimit st = none)
      (hmemo : env.options.memoize = true)
      (hentry : st.memo.find? slot offset = some .inProgress) :
    env.AtOnce slot offset st none ((st.enter slot offset).note (.leftRecursion slot offset))
  | knownFailure (hlive : st.isAborted = false) (hroom : env.atLimit st = none)
      (hmemo : env.options.memoize = true)
      (hentry : st.memo.find? slot offset = some .failed) :
    env.AtOnce slot offset st none (st.enter slot offset).hit
  | knownMatch {m : Match} (hlive : st.isAborted = false) (hroom : env.atLimit st = none)
      (hmemo : env.options.memoize = true)
      (hentry : st.memo.find? slot offset = some (.matched m)) :
    env.AtOnce slot offset st (some m) (st.enter slot offset).hit

/-- The answer to a call whose body has ended with a result, and the state after it. -/
inductive Leaves (env : Env) (slot : SlotId) (offset : Nat) (result : Option Match)
    (st : State) : Option Match → State → Prop
  | ran (hmemo : env.options.memoize = false) :
    env.Leaves slot offset result st result
      (st.finish slot offset (env.grammar.name? slot) result)
  | missed (hmemo : env.options.memoize = true) :
    env.Leaves slot offset result st (if st.isAborted then none else result)
      ((st.finish slot offset (env.grammar.name? slot) result).settle slot offset result)

/-- How the next moment of a run follows from a moment. -/
inductive Next (env : Env) : Moment → Moment → Prop
  /-- The next call is made from outside. -/
  | start {slot : SlotId} {offset : Nat} {todo : List (SlotId × Nat)} {st : State} :
    env.Next ⟨.idle, [], (slot, offset) :: todo, st⟩ ⟨.call slot offset, [], todo, st⟩
  /-- A call is answered without running a body. -/
  | atOnce {slot : SlotId} {offset : Nat} {callers : List Caller} {todo : List (SlotId × Nat)}
      {st st' : State} {answer : Option Match} (h : env.AtOnce slot offset st answer st') :
    env.Next ⟨.call slot offset, callers, todo, st⟩
      ⟨.answer slot offset answer, callers, todo, st'⟩
  /-- A body begins to run. -/
  | begin {slot : SlotId} {offset : Nat} {callers : List Caller} {todo : List (SlotId × Nat)}
      {st first : State} (hlive : st.isAborted = false) (hroom : env.atLimit st = none)
      (h : env.Begins slot offset st first) :
    env.Next ⟨.call slot offset, callers, todo, st⟩
      ⟨.body slot offset (env.workOf slot offset), callers, todo, first⟩
  /-- A body ends the run. -/
  | abort {slot : SlotId} {offset position : Nat} {error : TransformError}
      {next : Work (Option Match)} {callers : List Caller} {todo : List (SlotId × Nat)}
      {st : State} :
    env.Next ⟨.body slot offset (.abort position error next), callers, todo, st⟩
      ⟨.body slot offset next, callers, todo, st.raise (.transform position error)⟩
  /-- A body calls a parser. -/
  | ask {slot slot' : SlotId} {offset offset' : Nat}
      {resume : Option Match → Work (Option Match)} {callers : List Caller}
      {todo : List (SlotId × Nat)} {st : State} :
    env.Next ⟨.body slot offset (.ask slot' offset' resume), callers, todo, st⟩
      ⟨.call slot' offset', ⟨slot, offset, resume⟩ :: callers, todo, st⟩
  /-- A body looks at the state. -/
  | look {slot : SlotId} {offset : Nat} {resume : Snapshot → Work (Option Match)}
      {callers : List Caller} {todo : List (SlotId × Nat)} {st : State} :
    env.Next ⟨.body slot offset (.look resume), callers, todo, st⟩
      ⟨.body slot offset (resume (st.snapshot env.options)), callers, todo, st⟩
  /-- A body looks whether the run has ended early. -/
  | ended {slot : SlotId} {offset : Nat} {resume : Bool → Work (Option Match)}
      {callers : List Caller} {todo : List (SlotId × Nat)} {st : State} :
    env.Next ⟨.body slot offset (.ended resume), callers, todo, st⟩
      ⟨.body slot offset (resume st.isAborted), callers, todo, st⟩
  /-- A body applies a function. -/
  | apply {slot : SlotId} {offset : Nat} {application : Application}
      {next : Work (Option Match)} {callers : List Caller} {todo : List (SlotId × Nat)}
      {st : State} :
    env.Next ⟨.body slot offset (.apply application next), callers, todo, st⟩
      ⟨.body slot offset next, callers, todo, st⟩
  /-- A body ends, and the call that it ran for is answered. -/
  | leave {slot : SlotId} {offset : Nat} {result answer : Option Match}
      {callers : List Caller} {todo : List (SlotId × Nat)} {st st' : State}
      (h : env.Leaves slot offset result st answer st') :
    env.Next ⟨.body slot offset (.done result), callers, todo, st⟩
      ⟨.answer slot offset answer, callers, todo, st'⟩
  /-- The last caller is given its answer. -/
  | resume {slot : SlotId} {offset : Nat} {answer : Option Match} {caller : Caller}
      {callers : List Caller} {todo : List (SlotId × Nat)} {st : State} :
    env.Next ⟨.answer slot offset answer, caller :: callers, todo, st⟩
      ⟨.body caller.slot caller.offset (caller.resume answer), callers, todo, st⟩
  /-- The answer is given outside. -/
  | outside {slot : SlotId} {offset : Nat} {answer : Option Match}
      {todo : List (SlotId × Nat)} {st : State} :
    env.Next ⟨.answer slot offset answer, [], todo, st⟩ ⟨.idle, [], todo, st⟩

/-- A run comes from one moment to another and passes some moments on the way, the
one that it begins with included. -/
inductive Passes (env : Env) : Moment → List Moment → Moment → Prop
  | nil (m : Moment) : env.Passes m [] m
  | cons {m next m' : Moment} {passed : List Moment} (hstep : env.Next m next)
      (hrest : env.Passes next passed m') : env.Passes m (m :: passed) m'

namespace Passes

variable {env : Env} {m m' m'' : Moment} {passed passed' : List Moment}

theorem single (h : env.Next m m') : env.Passes m [m] m' := .cons h (.nil m')

theorem append (h : env.Passes m passed m') (h' : env.Passes m' passed' m'') :
    env.Passes m (passed ++ passed') m'' := by
  induction h with
  | nil => exact h'
  | cons hstep _ ih => exact .cons hstep (ih h')

/-- What every step keeps holds of all moments of a run that begins with it. -/
theorem keeps {I : Moment → Prop} (hstep : ∀ {m m'}, env.Next m m' → I m → I m')
    (h : env.Passes m passed m') (hfirst : I m) : I m' ∧ ∀ x ∈ passed, I x := by
  induction h with
  | nil => exact ⟨hfirst, nofun⟩
  | cons hs _ ih =>
      obtain ⟨hlast, hpassed⟩ := ih (hstep hs hfirst)
      refine ⟨hlast, fun x hx => ?_⟩
      rcases List.mem_cons.1 hx with rfl | hx
      · exact hfirst
      · exact hpassed x hx

/-- A run that passes a moment comes to it and goes on from it. -/
theorem split {x : Moment} {before after : List Moment}
    (h : env.Passes m (before ++ x :: after) m') :
    env.Passes m before x ∧ env.Passes x (x :: after) m' := by
  induction before generalizing m with
  | nil =>
      cases h with
      | cons hstep hrest => exact ⟨.nil _, .cons hstep hrest⟩
  | cons y before ih =>
      cases h with
      | cons hstep hrest =>
          obtain ⟨hbefore, hafter⟩ := ih hrest
          exact ⟨.cons hstep hbefore, hafter⟩

theorem of_mem {x : Moment} (h : env.Passes m passed m') (hx : x ∈ passed) :
    ∃ before after, passed = before ++ x :: after ∧ env.Passes m before x ∧
      env.Passes x (x :: after) m' := by
  obtain ⟨before, after, rfl⟩ := List.append_of_mem hx
  exact ⟨before, after, rfl, h.split⟩

end Passes

variable {env : Env}

/-! ## Steps are determined -/

theorem AtOnce.unique {slot : SlotId} {offset : Nat} {st st₁ st₂ : State}
    {answer₁ answer₂ : Option Match} (h₁ : env.AtOnce slot offset st answer₁ st₁)
    (h₂ : env.AtOnce slot offset st answer₂ st₂) : answer₁ = answer₂ ∧ st₁ = st₂ := by
  cases h₁ <;> cases h₂ <;> simp_all

/-- A call that is answered at once runs no body. -/
theorem AtOnce.not_begins {slot : SlotId} {offset : Nat} {st st' first : State}
    {answer : Option Match} (h : env.AtOnce slot offset st answer st')
    (hlive : st.isAborted = false) (hroom : env.atLimit st = none)
    (hfirst : env.Begins slot offset st first) : False := by
  cases h <;> cases hfirst <;> simp_all

theorem Begins.unique {slot : SlotId} {offset : Nat} {st first first' : State}
    (h : env.Begins slot offset st first) (h' : env.Begins slot offset st first') :
    first = first' := by
  cases h <;> cases h' <;> simp_all

theorem Leaves.unique {slot : SlotId} {offset : Nat} {result answer₁ answer₂ : Option Match}
    {st st₁ st₂ : State} (h₁ : env.Leaves slot offset result st answer₁ st₁)
    (h₂ : env.Leaves slot offset result st answer₂ st₂) : answer₁ = answer₂ ∧ st₁ = st₂ := by
  cases h₁ <;> cases h₂ <;> simp_all

/-- At most one moment follows another. -/
theorem Next.unique {m m₁ m₂ : Moment} (h₁ : env.Next m m₁) (h₂ : env.Next m m₂) : m₁ = m₂ := by
  cases h₁ with
  | atOnce h =>
      cases h₂ with
      | atOnce h' =>
          obtain ⟨rfl, rfl⟩ := h.unique h'
          rfl
      | begin hlive hroom h' => exact (h.not_begins hlive hroom h').elim
  | begin hlive hroom h =>
      cases h₂ with
      | atOnce h' => exact (h'.not_begins hlive hroom h).elim
      | begin _ _ h' => rw [h.unique h']
  | leave h =>
      cases h₂ with
      | leave h' =>
          obtain ⟨rfl, rfl⟩ := h.unique h'
          rfl
  | start | abort | ask | look | ended | apply | resume | outside =>
      cases h₂
      rfl

/-- Nothing follows the last moment of a run. -/
theorem not_step_last {st : State} {m : Moment} : ¬env.Next (.last st) m := nofun

/-- A run that has come to a moment comes through it to its last moment. -/
theorem Passes.through {m x : Moment} {passed passed' : List Moment} {st : State}
    (h : env.Passes m passed (.last st)) (hx : env.Passes m passed' x) :
    ∃ after, env.Passes x after (.last st) ∧ passed = passed' ++ after := by
  induction hx generalizing passed with
  | nil => exact ⟨passed, h, rfl⟩
  | cons hstep _ ih =>
      cases h with
      | nil => exact (not_step_last hstep).elim
      | cons hstep' hrest =>
          obtain rfl := hstep.unique hstep'
          obtain ⟨after, hafter, rfl⟩ := ih hrest
          exact ⟨after, hafter, rfl⟩

end Env

end Packrat
