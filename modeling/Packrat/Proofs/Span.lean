import Packrat.Proofs.PlanRule
import Packrat.Proofs.Scan
/-!
# Spans of bodies

Every kind of parser computes where its match ends, and where the parsers below
it are asked for, from the matches that it was given. Here all of them are shown
to keep to one contract: a parser that runs at `start` asks only at offsets that
are reached from `start`, and its match ends at such an offset.

## Main results

* `spanContract` — what a body may ask for, and what it may rely on.
* `Body.plan_meets` — every body keeps to the contract.
-/

namespace Packrat

/-! ## Bodies -/

/-- A match begins at an offset and ends at one that is reached from it. -/
structure Match.Spans (src : Source) (start : Nat) (m : Match) : Prop where
  start_eq : m.start = start
  reaches : src.Reaches start m.stop

/-- The parsers that a body may ask for. -/
def Body.parts : Body → List SlotId
  | .primitive _ => []
  | .sequence first second => [first, second]
  | .choice first second => [first, second]
  | .lookahead inner => [inner]
  | .negation inner => [inner]
  | .optional inner => [inner]
  | .zeroOrMore inner => [inner]
  | .oneOrMore inner => [inner]
  | .map _ inner => [inner]
  | .mapInRun _ inner => [inner]
  | .tryMap _ inner => [inner]
  | .filter _ _ inner => [inner]
  | .named _ inner => [inner]
  | .reference cell => [cell]
  | .leftAssociative _ term operator => [term, operator]
  | .foldLeft _ term operation => [term, operation]
  | .between opening content closing => [opening, content, closing]
  | .separated item separator => [item, separator]

/-- What a parser that runs at `start` may do: it asks for its parts, at offsets
that are reached from `start`, and it aborts at `start`. -/
def spanContract (src : Source) (start : Nat) (parts : List SlotId) : Contract where
  asks slot offset := slot ∈ parts ∧ src.Reaches start offset
  replies _ offset m := m.Spans src offset
  aborts position := position = start

namespace Body

variable {src : Source} {start : Nat} {parts : List SlotId}

/-- What is promised of the result of a body. -/
abbrev Promise (src : Source) (start : Nat) (result : Option Match) : Prop :=
  ∀ m, result = some m → m.Spans src start

theorem promise_none : Promise src start none := by
  intro m h
  contradiction

theorem promise_some {m : Match} (h : m.Spans src start) : Promise src start (some m) := by
  intro m' hm
  rw [← Option.some.inj hm]
  exact h

/-- A match of the first part may be changed as long as its span stays. -/
private theorem attempt_meets {inner : SlotId} {next : Match → Plan (Option Match)}
    (hinner : inner ∈ parts)
    (hnext : ∀ m, m.Spans src start →
      (next m).Meets (spanContract src start parts) (Promise src start)) :
    (Plan.attempt inner start next).Meets (spanContract src start parts) (Promise src start) :=
  .attempt ⟨hinner, .refl src start⟩ promise_none hnext

/-- A round of one parser moves along the source. -/
theorem single_meets {inner : SlotId} (hinner : inner ∈ parts) {offset : Nat}
    (hoffset : src.Reaches start offset) :
    (single inner offset).Meets (spanContract src start parts) fun answer =>
        ∀ found stop, answer = some (found, stop) → offset < stop → src.Reaches start stop := by
  refine .attempt ⟨hinner, hoffset⟩ (by simp) fun m hm => ?_
  intro found stop hanswer _
  obtain ⟨rfl, rfl⟩ := Prod.mk.inj (Option.some.inj hanswer)
  exact hoffset.trans hm.reaches

/-- A round of two parsers moves along the source. -/
theorem pair_meets {first second : SlotId} (hfirst : first ∈ parts)
    (hsecond : second ∈ parts) {offset : Nat} (hoffset : src.Reaches start offset) :
    (pair first second offset).Meets (spanContract src start parts) fun answer =>
        ∀ found stop, answer = some (found, stop) → offset < stop → src.Reaches start stop := by
  refine .attempt ⟨hfirst, hoffset⟩ (by simp) fun a ha => ?_
  refine .attempt ⟨hsecond, hoffset.trans ha.reaches⟩ (by simp) fun b hb => ?_
  intro found stop hanswer _
  obtain ⟨rfl, rfl⟩ := Prod.mk.inj (Option.some.inj hanswer)
  exact (hoffset.trans ha.reaches).trans hb.reaches

/-- A match that ends where rounds ended has a sound span. -/
private theorem ended_meets {value : Value} {stop : Nat} (hstop : src.Reaches start stop) :
    (Plan.unlessEnded (some (⟨value, start, stop⟩ : Match))).Meets
      (spanContract src start parts) (Promise src start) :=
  .unlessEnded promise_none (promise_some ⟨rfl, hstop⟩)

/-- Rounds that move along the source end at an offset that is reached. -/
private theorem rounds_meets {α β : Type} {round : Nat → Plan (Option (β × Nat))}
    {add : α → β → α}
    (hround : ∀ offset, src.Reaches start offset →
      (round offset).Meets (spanContract src start parts) fun answer =>
        ∀ found stop, answer = some (found, stop) → offset < stop → src.Reaches start stop)
    (budget : Nat) (total : α) {offset : Nat} (hoffset : src.Reaches start offset) :
    (Plan.iterate round add budget total offset).Meets (spanContract src start parts)
      fun result => src.Reaches start result.2 :=
  .iterate (fun _ offset => src.Reaches start offset) (fun _ => hround) budget hoffset

/-- A repetition moves along the source. -/
private theorem repetition_meets {inner : SlotId} (hinner : inner ∈ parts) :
    (repetition src start inner).Meets (spanContract src start parts)
      fun result => src.Reaches start result.2 :=
  rounds_meets (fun _ hoffset => single_meets hinner hoffset) _ [] (.refl src start)

/-- Every body keeps to the contract of spans. -/
theorem plan_meets (body : Body) :
    (body.plan src start).Meets (spanContract src start body.parts) (Promise src start) := by
  cases body with
  | primitive p =>
      simp only [plan]
      split
      case h_1 => exact promise_none
      case h_2 hscan => exact promise_some ⟨rfl, p.scan_reaches hscan⟩
      case h_3 => exact ⟨rfl, promise_none⟩
  | sequence first second =>
      refine attempt_meets (by simp [parts]) fun a ha => ?_
      refine .attempt ⟨by simp [parts], ha.reaches⟩ promise_none fun b hb => ?_
      exact promise_some ⟨rfl, ha.reaches.trans hb.reaches⟩
  | choice first second =>
      refine ⟨⟨by simp [parts], .refl src start⟩, ?_, fun m hm => promise_some hm⟩
      exact .run ⟨by simp [parts], .refl src start⟩ promise_none fun m hm => promise_some hm
  | lookahead inner =>
      exact attempt_meets (by simp [parts]) fun m _ => promise_some ⟨rfl, .refl src start⟩
  | negation inner =>
      exact ⟨⟨by simp [parts], .refl src start⟩, ended_meets (.refl src start),
        fun _ _ => promise_none⟩
  | optional inner =>
      exact ⟨⟨by simp [parts], .refl src start⟩, ended_meets (.refl src start),
        fun m hm => promise_some ⟨hm.start_eq, hm.reaches⟩⟩
  | zeroOrMore inner =>
      refine (repetition_meets (by simp [parts])).bind fun result hstop => ?_
      exact ended_meets hstop
  | oneOrMore inner =>
      refine (repetition_meets (by simp [parts])).bind fun result hstop => ?_
      obtain ⟨values, stop⟩ := result
      cases values with
      | nil => exact promise_none
      | cons value values => exact ended_meets hstop
  | map make inner =>
      exact attempt_meets (by simp [parts]) fun m hm => promise_some ⟨hm.start_eq, hm.reaches⟩
  | mapInRun make inner =>
      exact attempt_meets (by simp [parts]) fun m hm _ => promise_some ⟨hm.start_eq, hm.reaches⟩
  | tryMap make inner =>
      refine attempt_meets (by simp [parts]) fun m hm => ?_
      split
      · exact promise_some ⟨hm.start_eq, hm.reaches⟩
      · exact ⟨hm.start_eq, promise_none⟩
  | filter accepts description inner =>
      refine attempt_meets (by simp [parts]) fun m hm => ?_
      by_cases haccepts : accepts m.value = true
      · simp only [haccepts, if_true]
        exact promise_some hm
      · simp only [haccepts]
        exact promise_none
  | named name inner =>
      exact .run ⟨by simp [parts], .refl src start⟩ promise_none fun m hm => promise_some hm
  | reference cell =>
      exact .run ⟨by simp [parts], .refl src start⟩ promise_none fun m hm => promise_some hm
  | leftAssociative combine term operator =>
      refine attempt_meets (by simp [parts]) fun first hfirst => ?_
      refine (rounds_meets (fun _ hoffset => pair_meets (by simp [parts]) (by simp [parts])
        hoffset) _ _ hfirst.reaches).bind fun result hstop => ?_
      exact ended_meets hstop
  | foldLeft apply term operation =>
      refine attempt_meets (by simp [parts]) fun first hfirst => ?_
      refine (rounds_meets (fun _ hoffset => single_meets (by simp [parts]) hoffset) _ _
        hfirst.reaches).bind fun result hstop => ?_
      exact ended_meets hstop
  | between opening content closing =>
      refine attempt_meets (by simp [parts]) fun a ha => ?_
      refine .attempt ⟨by simp [parts], ha.reaches⟩ promise_none fun b hb => ?_
      have hcontent := ha.reaches.trans hb.reaches
      refine .attempt ⟨by simp [parts], hcontent⟩ promise_none fun c hc => ?_
      exact promise_some ⟨rfl, hcontent.trans hc.reaches⟩
  | separated item separator =>
      refine attempt_meets (by simp [parts]) fun first hfirst => ?_
      refine (rounds_meets (fun _ hoffset => pair_meets (by simp [parts]) (by simp [parts])
        hoffset) _ _ hfirst.reaches).bind fun result hstop => ?_
      exact ended_meets hstop

end Body

/-- The parsers that the parser in a slot may ask for. -/
def Grammar.partsOf (g : Grammar) (slot : SlotId) : List SlotId :=
  match g.bodies[slot]? with
  | some body => body.parts
  | none => []

/-- What the parser in a slot does keeps to the contract of spans. -/
theorem Env.planOf_meets (env : Env) (slot : SlotId) (start : Nat) :
    (env.planOf slot start).Meets (spanContract env.source start (env.grammar.partsOf slot))
      (Body.Promise env.source start) := by
  unfold planOf Grammar.partsOf
  cases env.grammar.bodies[slot]? with
  | none => exact Body.promise_none
  | some body => exact body.plan_meets

end Packrat
