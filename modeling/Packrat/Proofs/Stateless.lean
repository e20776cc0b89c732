import Packrat.Proofs.EarlyEnd
import Packrat.Proofs.Span
/-!
# Parsing without a state

What a parser does at an offset does not depend on the state of the run, as long
as no mapped value looks at it. Here parsers are evaluated with no state at all:
the result says how the parser ends, and the failures on the way are listed in
the order in which they are recorded.

Evaluation has a *height*: how many parsers are nested. A parser that has a
result at some height has the same one at every greater height, and the engine
is compared with the result at the least height. There a parser does not come
back to itself at the same offset.

## Main definitions

* `Ending` — how a parser ends: with a result or with an abort.
* `Plan.eval`, `Env.eval` — plans and parsers evaluated without a state.
* `Grammar.StateFree` — no mapped value looks at the state.

## Main results

* `Env.eval_mono` — what is evaluated at a height is so at greater heights.
* `Env.eval_spans` — spans of evaluated matches are sound.
-/

namespace Packrat

/-- How a plan or a parser ends, apart from the state that it leaves behind. -/
inductive Ending (α : Type) where
  | done (result : α)
  | abort (position : Nat) (error : TransformError)

/-- How parsers end at offsets, with the failures on the way; nothing where that
is not known. -/
abbrev Oracle := SlotId → Nat → Option (Ending (Option Match) × List Failure)

/-- Whatever one oracle knows, the other knows too. -/
def Oracle.Agrees (oracle oracle' : Oracle) : Prop :=
  ∀ ⦃slot offset outcome⦄, oracle slot offset = some outcome →
    oracle' slot offset = some outcome

/-- A view of a state that stands for all of them. -/
def Snapshot.blank : Snapshot where
  options := {}
  deepest := 0
  expected := []
  hits := 0
  misses := 0
  entries := 0

namespace Plan

variable {α β : Type}

/-- How a plan ends when an oracle answers its questions, and the failures on the
way. The plan is stopped by the first abort. -/
def eval (oracle : Oracle) : Plan α → Option (Ending α × List Failure)
  | .done result => some (.done result, [])
  | .abort position error _ => some (.abort position error, [])
  | .ask slot offset resume =>
    match oracle slot offset with
    | none => none
    | some (.abort position error, failures) => some (.abort position error, failures)
    | some (.done answer, failures) =>
      match (resume answer).eval oracle with
      | none => none
      | some (ending, rest) => some (ending, failures ++ rest)
  | .look resume => (resume .blank).eval oracle
  | .ended resume => (resume false).eval oracle

/-- A plan that ends does so with every oracle that knows as much of the parsers
that the plan may ask for. -/
theorem Meets.eval_of_asks {c : Contract} {post : α → Prop} {oracle oracle' : Oracle}
    (hasks : ∀ {slot offset outcome}, c.asks slot offset →
      oracle slot offset = some outcome → oracle' slot offset = some outcome)
    (hreplies : ∀ {slot offset m failures},
      oracle slot offset = some (.done (some m), failures) → c.replies slot offset m)
    {plan : Plan α} (hplan : plan.Meets c post) {outcome : Ending α × List Failure}
    (h : plan.eval oracle = some outcome) : plan.eval oracle' = some outcome := by
  induction plan generalizing outcome with
  | done result => exact h
  | abort position error plan => exact h
  | ask slot offset resume ih =>
      obtain ⟨hask, hnone, hsome⟩ := hplan
      simp only [eval] at h ⊢
      cases hanswer : oracle slot offset with
      | none =>
          rw [hanswer] at h
          contradiction
      | some answer =>
          rw [hasks hask hanswer]
          rw [hanswer] at h
          obtain ⟨ending, failures⟩ := answer
          cases ending with
          | abort position error => exact h
          | done answer =>
              have hmeets : (resume answer).Meets c post := by
                cases answer with
                | none => exact hnone
                | some m => exact hsome m (hreplies hanswer)
              simp only at h ⊢
              cases hrest : (resume answer).eval oracle with
              | none =>
                  rw [hrest] at h
                  contradiction
              | some rest =>
                  rw [ih answer hmeets hrest]
                  rw [hrest] at h
                  exact h
  | look resume ih => exact ih _ (hplan _) h
  | ended resume ih => exact ih _ (hplan _) h

/-- A plan that ends does so with every oracle that knows more. -/
theorem eval_mono {oracle oracle' : Oracle} (horacle : oracle.Agrees oracle')
    (plan : Plan α) {outcome : Ending α × List Failure} (h : plan.eval oracle = some outcome) :
    plan.eval oracle' = some outcome :=
  plan.meets_any.eval_of_asks (fun _ hanswer => horacle hanswer) (fun _ => trivial) h

/-- A plan that does not depend on what it sees of the state. -/
def Blind : Plan α → Prop
  | .done _ => True
  | .abort _ _ _ => True
  | .ask _ _ resume => ∀ answer, (resume answer).Blind
  | .look resume => (∀ snapshot, resume snapshot = resume .blank) ∧ (resume .blank).Blind
  | .ended resume => (resume false).Blind

namespace Blind

theorem bind {plan : Plan α} {next : α → Plan β} (hplan : plan.Blind)
    (hnext : ∀ result, (next result).Blind) : (plan.bind next).Blind := by
  induction plan with
  | done result => exact hnext result
  | abort position error plan => exact True.intro
  | ask slot offset resume ih => exact fun answer => ih answer (hplan answer)
  | look resume ih =>
      refine ⟨fun snapshot => ?_, ih _ hplan.2⟩
      show (resume snapshot).bind next = (resume .blank).bind next
      rw [hplan.1 snapshot]
  | ended resume ih => exact ih _ hplan

theorem attempt {slot : SlotId} {offset : Nat} {next : Match → Plan (Option β)}
    (hnext : ∀ m, (next m).Blind) : (Plan.attempt slot offset next).Blind := by
  intro answer
  cases answer with
  | none => exact True.intro
  | some m => exact hnext m

theorem iterate {round : Nat → Plan (Option (β × Nat))} {add : α → β → α}
    (hround : ∀ offset, (round offset).Blind) (budget : Nat) (total : α) (offset : Nat) :
    (Plan.iterate round add budget total offset).Blind := by
  induction budget generalizing total offset with
  | zero => exact True.intro
  | succ budget ih =>
      refine (hround offset).bind fun answer => ?_
      cases answer with
      | none => exact True.intro
      | some found =>
          obtain ⟨found, stop⟩ := found
          by_cases hle : stop ≤ offset
          · simp only [hle, if_true]
            exact True.intro
          · simp only [hle, if_false]
            exact ih (add total found) stop

end Blind

end Plan

/-! ## State-free grammars -/

/-- The value of a match does not depend on the run. -/
def Body.StateFree : Body → Prop
  | .mapInRun make _ => ∀ snapshot, make snapshot = make .blank
  | _ => True

/-- No parser of a grammar looks at the state of the run. -/
def Grammar.StateFree (g : Grammar) : Prop := ∀ body ∈ g.bodies, body.StateFree

/-- A value of a parser is made from the state of the run. -/
def Body.looks : Body → Bool
  | .mapInRun _ _ => true
  | _ => false

theorem Grammar.stateFree_of_looks {g : Grammar} (h : g.bodies.toList.any (·.looks) = false) :
    g.StateFree := by
  intro body hbody
  have hlooks : ¬body.looks = true :=
    List.any_eq_false.1 h body (Array.mem_toList_iff.2 hbody)
  cases body with
  | mapInRun make inner => exact absurd rfl hlooks
  | _ => exact True.intro

private theorem single_blind (inner : SlotId) (offset : Nat) :
    (Body.single inner offset).Blind :=
  .attempt fun _ => True.intro

private theorem pair_blind (first second : SlotId) (offset : Nat) :
    (Body.pair first second offset).Blind :=
  .attempt fun _ => .attempt fun _ => True.intro

theorem Body.StateFree.plan_blind {src : Source} {start : Nat} {body : Body}
    (h : body.StateFree) : (body.plan src start).Blind := by
  cases body with
  | primitive p =>
      simp only [plan]
      split <;> exact True.intro
  | sequence first second => exact .attempt fun _ => .attempt fun _ => True.intro
  | choice first second =>
      intro answer
      cases answer with
      | none => exact fun _ => True.intro
      | some m => exact True.intro
  | negation inner | optional inner =>
      intro answer
      cases answer <;> exact True.intro
  | zeroOrMore inner =>
      exact (Plan.Blind.iterate (single_blind inner) _ _ _).bind fun _ => True.intro
  | oneOrMore inner =>
      refine (Plan.Blind.iterate (single_blind inner) _ _ _).bind ?_
      rintro ⟨values, stop⟩
      cases values <;> exact True.intro
  | mapInRun make inner =>
      refine .attempt fun m => ⟨fun snapshot => ?_, True.intro⟩
      show Plan.done (some { m with value := make snapshot src m }) = _
      rw [h snapshot]
  | tryMap make inner =>
      refine .attempt fun m => ?_
      split <;> exact True.intro
  | lookahead inner | map make inner | filter accepts description inner =>
      exact .attempt fun _ => True.intro
  | named name inner | reference cell => exact fun _ => True.intro
  | leftAssociative combine term operator =>
      exact .attempt fun _ => (Plan.Blind.iterate (pair_blind operator term) _ _ _).bind
        fun _ => True.intro
  | foldLeft apply term operation =>
      exact .attempt fun _ => (Plan.Blind.iterate (single_blind operation) _ _ _).bind
        fun _ => True.intro
  | between opening content closing =>
      exact .attempt fun _ => .attempt fun _ => .attempt fun _ => True.intro
  | separated item separator =>
      exact .attempt fun _ => (Plan.Blind.iterate (pair_blind separator item) _ _ _).bind
        fun _ => True.intro

namespace Env

variable {env : Env}

theorem planOf_blind (hfree : env.grammar.StateFree) (slot : SlotId) (start : Nat) :
    (env.planOf slot start).Blind := by
  unfold planOf
  cases hbody : env.grammar.bodies[slot]? with
  | none => exact True.intro
  | some body => exact (hfree body (Array.mem_of_getElem? hbody)).plan_blind

/-! ## Evaluation -/

/-- The failure that a parser adds when it ends. -/
def failures (env : Env) (slot : SlotId) (offset : Nat) : Ending (Option Match) → List Failure
  | .done none => [⟨env.grammar.name? slot, offset⟩]
  | .done (some _) => []
  | .abort _ _ => []

/-- How a parser ends at an offset and the failures on the way, its own last;
nothing when more parsers are nested than the height allows. -/
def eval (env : Env) : Nat → Oracle
  | 0 => fun _ _ => none
  | height + 1 => fun slot offset =>
    match (env.planOf slot offset).eval (env.eval height) with
    | none => none
    | some (ending, before) => some (ending, before ++ env.failures slot offset ending)

theorem eval_succ_eq_some_iff {height : Nat} {slot : SlotId} {offset : Nat}
    {ending : Ending (Option Match)} {all : List Failure} :
    env.eval (height + 1) slot offset = some (ending, all) ↔
      ∃ before, (env.planOf slot offset).eval (env.eval height) = some (ending, before) ∧
        all = before ++ env.failures slot offset ending := by
  simp only [eval]
  constructor
  · intro h
    split at h
    · contradiction
    case h_2 hplan =>
      obtain ⟨rfl, rfl⟩ := Prod.mk.inj (Option.some.inj h)
      exact ⟨_, hplan, rfl⟩
  · rintro ⟨before, hplan, rfl⟩
    rw [hplan]

/-- What is evaluated at a height is evaluated at every greater height. -/
theorem eval_mono (env : Env) {height height' : Nat} (hle : height ≤ height') :
    (env.eval height).Agrees (env.eval height') := by
  induction height generalizing height' with
  | zero =>
      intro slot offset outcome h
      contradiction
  | succ height ih =>
      cases height' with
      | zero => omega
      | succ height' =>
          intro slot offset outcome h
          obtain ⟨ending, all⟩ := outcome
          rw [eval_succ_eq_some_iff] at h ⊢
          obtain ⟨before, hplan, hall⟩ := h
          exact ⟨before, Plan.eval_mono (ih (by omega)) _ hplan, hall⟩

/-- A parser does not end in two ways, whatever the heights. -/
theorem eval_unique {height height' : Nat} {slot : SlotId} {offset : Nat}
    {outcome outcome' : Ending (Option Match) × List Failure}
    (h : env.eval height slot offset = some outcome)
    (h' : env.eval height' slot offset = some outcome') : outcome = outcome' := by
  rcases Nat.le_total height height' with hle | hle
  · rw [eval_mono env hle h] at h'
    exact Option.some.inj h'
  · rw [eval_mono env hle h'] at h
    exact (Option.some.inj h).symm

/-- There is a least height at which a parser is evaluated. -/
theorem eval_least {height : Nat} {slot : SlotId} {offset : Nat}
    {outcome : Ending (Option Match) × List Failure}
    (h : env.eval height slot offset = some outcome) :
    ∃ least, least < height ∧ env.eval least slot offset = none ∧
      env.eval (least + 1) slot offset = some outcome := by
  induction height with
  | zero => contradiction
  | succ height ih =>
      cases hbelow : env.eval height slot offset with
      | none => exact ⟨height, by omega, hbelow, h⟩
      | some outcome' =>
          rw [← eval_unique h hbelow] at hbelow
          obtain ⟨least, hlt, hnone, hsome⟩ := ih hbelow
          exact ⟨least, by omega, hnone, hsome⟩

end Env

/-- The result of a plan that keeps to a contract is as promised if the oracle's
answers are. -/
theorem Plan.Meets.eval {α : Type} {c : Contract} {post : α → Prop} {plan : Plan α}
    {oracle : Oracle}
    (horacle : ∀ {slot offset m failures}, oracle slot offset = some (.done (some m), failures) →
      c.replies slot offset m)
    (hplan : plan.Meets c post) {result : α} {failures : List Failure}
    (h : plan.eval oracle = some (.done result, failures)) : post result := by
  induction plan generalizing failures with
  | done result' =>
      obtain ⟨hdone, -⟩ := Prod.mk.inj (Option.some.inj h)
      rw [← Ending.done.inj hdone]
      exact hplan
  | abort position error plan =>
      obtain ⟨habort, -⟩ := Prod.mk.inj (Option.some.inj h)
      contradiction
  | ask slot offset resume ih =>
      obtain ⟨-, hnone, hsome⟩ := hplan
      simp only [Plan.eval] at h
      split at h
      · contradiction
      · obtain ⟨habort, -⟩ := Prod.mk.inj (Option.some.inj h)
        contradiction
      case h_3 answer before hanswer =>
        split at h
        · contradiction
        case h_2 ending rest hrest =>
          obtain ⟨rfl, -⟩ := Prod.mk.inj (Option.some.inj h)
          cases answer with
          | none => exact ih none hnone hrest
          | some m => exact ih (some m) (hsome m (horacle hanswer)) hrest
  | look resume ih => exact ih _ (hplan _) h
  | ended resume ih => exact ih _ (hplan _) h

/-- Spans of evaluated matches are sound. -/
theorem Env.eval_spans {env : Env} (height : Nat) {slot : SlotId} {offset : Nat} {m : Match}
    {failures : List Failure}
    (h : env.eval height slot offset = some (.done (some m), failures)) :
    m.Spans env.source offset := by
  induction height generalizing slot offset m failures with
  | zero => contradiction
  | succ height ih =>
      obtain ⟨before, hplan, -⟩ := eval_succ_eq_some_iff.1 h
      exact (env.planOf_meets slot offset).eval ih hplan m rfl

end Packrat
