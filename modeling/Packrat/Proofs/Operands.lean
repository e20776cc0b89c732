import Packrat.Proofs.Given
import Packrat.Proofs.PegRun
/-!
# Operands in a row

What a left-associative parser finds is said by what its term and its operator find, each run
by itself on a fresh state: a first operand, and then pairs of an operator and an operand as
far as they go. The value is the fold of the operands from the left, in their order. The
match ends where the last operand ends, so an operator with no operand behind it is not
taken. So it is for the items of a separated list.

## Main definitions

* `Env.Reports` — what parsers report on a fresh state.
* `Operands` — operands with parsers between them.

## Main results

* `Grammar.foldsOperands` — what left-associative parsers and separated lists find.
-/

namespace Packrat

/-! ## Operands -/

/-- A first operand, the pairs behind it of what is between and an operand, and where the last
operand stops. Behind it there is no pair, or none that moves on. -/
def Operands (known : Knowledge) (operand between : SlotId) (start : Nat) (first : Value)
    (later : List (Value × Value)) (stop : Nat) : Prop :=
  ∃ mid, known operand start (.found first mid) ∧
    Chain (Pair known between operand) mid (.found later stop)

/-- A chain of pairs that has begun where an operand stops ends where one does. -/
private theorem Chain.ends {known : Knowledge} {operand between : SlotId} {offset stop : Nat}
    {later : List (Value × Value)}
    (h : Chain (Pair known between operand) offset (.found later stop))
    (hbegin : ∃ start value, known operand start (.found value offset)) :
    ∃ start value, known operand start (.found value stop) := by
  -- The induction is on the chain, with the operand that it begins behind carried along.
  generalize hverdict : Verdict.found later stop = verdict at h
  induction h generalizing later with
  | noMatch | idle =>
      obtain ⟨-, rfl⟩ := Verdict.found.inj hverdict
      exact hbegin
  | more hround _ _ ih =>
      obtain ⟨-, rfl⟩ := Verdict.found.inj hverdict
      refine ih ?_ rfl
      cases hround with
      | found _ hnext =>
          cases hnext with
          | found hoperand heq =>
              obtain ⟨-, rfl⟩ := Verdict.found.inj heq
              exact ⟨_, _, hoperand⟩
          | noMatch _ heq => contradiction
      | noMatch _ heq => contradiction
  | abort | moreAbort => contradiction

/-- Operands in a row end where an operand does. -/
theorem Operands.ends {known : Knowledge} {operand between : SlotId} {start stop : Nat}
    {first : Value} {later : List (Value × Value)}
    (h : Operands known operand between start first later stop) :
    ∃ offset value, known operand offset (.found value stop) := by
  obtain ⟨mid, hfirst, hchain⟩ := h
  exact hchain.ends ⟨start, first, hfirst⟩

/-- What follows upon a match of a first parser, if it is a match, follows upon one. -/
private theorem found_of_after {α β : Type} {first : Verdict α → Prop}
    {next : α → Nat → Verdict β → Prop} {value : β} {stop : Nat}
    (h : After first next (.found value stop)) :
    ∃ a mid, first (.found a mid) ∧ next a mid (.found value stop) := by
  cases h with
  | found hfirst hnext => exact ⟨_, _, hfirst, hnext⟩
  | noMatch _ heq => contradiction

namespace Body.Rule

variable {src : Source} {known : Knowledge} {start stop : Nat} {value : Value}

/-- A left-associative parser finds the fold of operands in a row. -/
theorem operands_of_leftAssociative {combine : Value → Value → Value → Value}
    {term operator : SlotId}
    (h : (Body.leftAssociative combine term operator).Rule src known start (.found value stop)) :
    ∃ first later, Operands known term operator start first later stop ∧
      value = later.foldl (fun left (op, right) => combine left op right) first := by
  obtain ⟨first, mid, hfirst, hrest⟩ := found_of_after h
  obtain ⟨later, last, hchain, heq⟩ := found_of_after hrest
  obtain ⟨rfl, rfl⟩ := Verdict.found.inj heq
  exact ⟨first, later, ⟨mid, hfirst, hchain⟩, rfl⟩

/-- A parser for a separated list finds the items in a row. -/
theorem operands_of_separated {item separator : SlotId}
    (h : (Body.separated item separator).Rule src known start (.found value stop)) :
    ∃ first later, Operands known item separator start first later stop ∧
      value = .list (first :: later.map (·.2)) := by
  obtain ⟨first, mid, hfirst, hrest⟩ := found_of_after h
  obtain ⟨later, last, hchain, heq⟩ := found_of_after hrest
  obtain ⟨rfl, rfl⟩ := Verdict.found.inj heq
  exact ⟨first, later, ⟨mid, hfirst, hchain⟩, rfl⟩

end Body.Rule

/-! ## Reports -/

namespace Env

/-- What parsers report, each run by itself on a fresh state. -/
def Reports (env : Env) : Knowledge := fun slot offset verdict =>
  ∃ answer last, env.parse slot offset {} = some (answer, last) ∧
    verdict.Reported offset answer last

variable {env : Env} (hfree : env.grammar.StateFree) (hclosed : env.grammar.Closed)
  (hlimit : env.options.maxDepth = none)

include hfree hclosed hlimit

/-- With and without memoization, what is derived is reported. -/
theorem reports_of_derives {slot : SlotId} (hslot : slot < env.grammar.size) {start : Nat}
    {verdict : Verdict Value} (h : env.grammar.Derives env.source slot start verdict) :
    env.Reports slot start verdict := by
  obtain ⟨height, failures, heval⟩ := eval_of_derives hfree h
  obtain ⟨answer, last, hparse, hleads⟩ := parse_of_eval hfree hclosed hlimit hslot heval
  exact ⟨answer, last, hparse, Verdict.reported_iff.2 ⟨hleads.answer, hleads.abort⟩⟩

/-- What a parser reports follows by the rule for its body from what its parts report. -/
theorem rule_of_eval {slot : SlotId} {body : Body}
    (hbody : env.grammar.bodies[slot]? = some body) {height start : Nat}
    {ending : Ending (Option Match)} {failures : List Failure}
    (h : env.eval height slot start = some (ending, failures)) {answer : Option Match}
    {last : State} (hparse : env.parse slot start {} = some (answer, last)) :
    ∃ verdict, verdict.Reported start answer last ∧
      body.Rule env.source env.Reports start verdict := by
  have hslot := Grammar.lt_size_of_getElem? hbody
  obtain ⟨verdict, rfl⟩ := eval_eq_answer h
  have hderives := derives_of_eval hfree height ⟨failures, h⟩
  obtain ⟨answer', last', hparse', hreported⟩ :=
    reports_of_derives hfree hclosed hlimit hslot hderives
  obtain ⟨rfl, rfl⟩ := Prod.mk.inj (Option.some.inj (hparse'.symm.trans hparse))
  refine ⟨verdict, hreported, ?_⟩
  have hrule := (Grammar.derives_iff_rule hbody).1 hderives
  exact hrule.mono fun part hpart offset verdict =>
    reports_of_derives hfree hclosed hlimit
      (hclosed.bodies body (Array.mem_of_getElem? hbody) part hpart)

end Env

/-! ## Runs -/

/-- What a left-associative parser, or one for a separated list, finds at an offset. The match
ends where an operand does. -/
structure Env.FoldsOperands (env : Env) (slot : SlotId) (start : Nat) (m : Match) : Prop where
  /-- The fold of the operands from the left, in their order. -/
  folded : ∀ {combine term operator},
    env.grammar.bodies[slot]? = some (.leftAssociative combine term operator) →
    (∃ first later, Operands env.Reports term operator start first later m.stop ∧
      m.value = later.foldl (fun left (op, right) => combine left op right) first) ∧
    ∃ offset value, env.Reports term offset (.found value m.stop)
  /-- The list of the items, in their order. -/
  listed : ∀ {item separator}, env.grammar.bodies[slot]? = some (.separated item separator) →
    (∃ first later, Operands env.Reports item separator start first later m.stop ∧
      m.value = .list (first :: later.map (·.2))) ∧
    ∃ offset value, env.Reports item offset (.found value m.stop)

namespace Grammar

variable {g : Grammar} {src : Source} {memoize : Bool} {slot : SlotId} {start : Nat}

/-- A match that is found follows by the rule for the body from what the parts report, where
values may depend on the options of the run. -/
private theorem rule_of_match (hviews : ∀ body ∈ g.bodies, body.Views View.OfOptions)
    (hclosed : g.Closed) (hends : g.EndsUncached src memoize slot start) {m : Match}
    {last : State} (h : (Env.unlimited g src memoize).parse slot start {} = some (some m, last))
    {body : Body} (hbody : g.bodies[slot]? = some body) :
    (body.given ⟨memoize, none⟩).Rule src (Env.unlimited g src memoize).Reports start
      (.found m.value m.stop) := by
  obtain ⟨fuel, run, hends⟩ := hends
  have hends' : ((Env.unlimited (g.given ⟨memoize, none⟩) src memoize).withMemo false).call fuel
      slot start {} = some run := hends
  obtain ⟨height, ending, failures, heval⟩ := Env.eval_of_run stateFree_given rfl hends'
  have hparse : (Env.unlimited (g.given ⟨memoize, none⟩) src memoize).parse =
      (Env.unlimited g src memoize).parse := parse_given_unlimited hviews memoize
  have hgiven : (g.given ⟨memoize, none⟩).bodies[slot]? = some (body.given ⟨memoize, none⟩) := by
    rw [bodies_given, hbody, Option.map_some]
  obtain ⟨verdict, hreported, hrule⟩ := Env.rule_of_eval stateFree_given hclosed.given rfl hgiven
    heval (by rw [hparse, h])
  have hreports : (Env.unlimited (g.given ⟨memoize, none⟩) src memoize).Reports =
      (Env.unlimited g src memoize).Reports := by
    funext slot offset verdict
    rw [Env.Reports, Env.Reports, hparse]
  cases verdict with
  | found value stop =>
      obtain rfl := Option.some.inj hreported.1
      exact hreports ▸ hrule
  | noMatch => cases hreported.1
  | abort => cases hreported.1

/-- What left-associative parsers and separated lists find in either mode, where a run ends
without memoization and values may depend on the options. -/
theorem foldsOperands (hviews : ∀ body ∈ g.bodies, body.Views View.OfOptions)
    (hclosed : g.Closed) (hends : g.EndsUncached src memoize slot start) {m : Match}
    {last : State}
    (h : (Env.unlimited g src memoize).parse slot start {} = some (some m, last)) :
    (Env.unlimited g src memoize).FoldsOperands slot start m := by
  refine ⟨fun hbody => ?_, fun hbody => ?_⟩
  · obtain ⟨first, later, hoperands, hvalue⟩ :=
      (rule_of_match hviews hclosed hends h hbody).operands_of_leftAssociative
    exact ⟨⟨first, later, hoperands, hvalue⟩, hoperands.ends⟩
  · obtain ⟨first, later, hoperands, hvalue⟩ :=
      (rule_of_match hviews hclosed hends h hbody).operands_of_separated
    exact ⟨⟨first, later, hoperands, hvalue⟩, hoperands.ends⟩

end Grammar

end Packrat
