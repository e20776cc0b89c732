import Packrat.Proofs.Peg
/-!
# Bodies mean what their rules say

A plan is a tree of questions and a rule is a relation between verdicts. Here
each plan is read as a relation too, `Plan.Yields`, over what is known of the
parsers that it asks for, and the way a body is put together from plans is
matched with the way its rule is put together: a question with `Upon`, rounds
with `Chain`.

Rounds of a plan are bounded and chains are not. A chain moves on along the
source with every round, so the bound is never reached.

## Main results

* `Plan.ask_yields_iff`, `Plan.iterate_yields_iff` — questions and rounds.
* `Body.plan_yields_iff` — what a body yields is what its rule says.
-/

namespace Packrat

namespace Verdict

variable {α β γ : Type}

/-- How a verdict looks to a plan that makes results from values and stops. -/
def ending (make : α → Nat → γ) : Verdict α → Ending (Option γ)
  | .found value stop => .done (some (make value stop))
  | .noMatch => .done none
  | .abort position error => .abort position error

/-- The answer to a call at an offset. -/
abbrev answer (start : Nat) (verdict : Verdict Value) : Ending (Option Match) :=
  verdict.ending fun value stop => ⟨value, start, stop⟩

/-- How the verdict on a chain looks when its values are added up. A chain always
matches or aborts. -/
def added (add : β → α → β) (total : β) : Verdict (List α) → Ending (β × Nat)
  | .found values stop => .done (values.foldl add total, stop)
  | .noMatch => .done (total, 0)
  | .abort position error => .abort position error

end Verdict

namespace Plan

variable {α β γ : Type} {known : Knowledge}

/-- How a plan may end, given what is known of the parsers that it asks for. -/
def Yields (known : Knowledge) : Plan α → Ending α → Prop
  | .done result, ending => ending = .done result
  | .abort position error _, ending => ending = .abort position error
  | .ask slot offset resume, ending =>
    (∃ position error, known slot offset (.abort position error) ∧
      ending = .abort position error) ∨
    (known slot offset .noMatch ∧ (resume none).Yields known ending) ∨
    ∃ value stop, known slot offset (.found value stop) ∧
      (resume (some ⟨value, offset, stop⟩)).Yields known ending
  | .look resume, ending => (resume .blank).Yields known ending
  | .ended resume, ending => (resume false).Yields known ending

/-- A plan that goes on with another ends as the other does, or in an abort. -/
theorem bind_yields_iff {plan : Plan α} {next : α → Plan β} {ending : Ending β} :
    (plan.bind next).Yields known ending ↔
      (∃ position error, plan.Yields known (.abort position error) ∧
        ending = .abort position error) ∨
      ∃ result, plan.Yields known (.done result) ∧ (next result).Yields known ending := by
  induction plan with
  | done result =>
      constructor
      · exact fun hnext => .inr ⟨result, rfl, hnext⟩
      · rintro (⟨_, _, habort, -⟩ | ⟨_, hdone, hnext⟩)
        · contradiction
        · rwa [Ending.done.inj hdone] at hnext
  | abort position error plan =>
      constructor
      · exact fun hending => .inl ⟨position, error, rfl, hending⟩
      · rintro (⟨_, _, habort, hending⟩ | ⟨_, hdone, -⟩)
        · obtain ⟨rfl, rfl⟩ := Ending.abort.inj habort
          exact hending
        · contradiction
  | ask slot offset resume ih =>
      constructor
      · rintro (⟨position, error, hknown, hending⟩ | ⟨hknown, hrest⟩ | ⟨value, stop, hknown, hrest⟩)
        · exact .inl ⟨position, error, .inl ⟨position, error, hknown, rfl⟩, hending⟩
        · rcases (ih none).1 hrest with ⟨position, error, hplan, hending⟩ | ⟨result, hplan, hnext⟩
          · exact .inl ⟨position, error, .inr (.inl ⟨hknown, hplan⟩), hending⟩
          · exact .inr ⟨result, .inr (.inl ⟨hknown, hplan⟩), hnext⟩
        · rcases (ih _).1 hrest with ⟨position, error, hplan, hending⟩ | ⟨result, hplan, hnext⟩
          · exact .inl ⟨position, error, .inr (.inr ⟨value, stop, hknown, hplan⟩), hending⟩
          · exact .inr ⟨result, .inr (.inr ⟨value, stop, hknown, hplan⟩), hnext⟩
      · rintro (⟨position, error, hplan, hending⟩ | ⟨result, hplan, hnext⟩)
        · rcases hplan with ⟨position', error', hknown, hplan⟩ | ⟨hknown, hplan⟩ |
            ⟨value, stop, hknown, hplan⟩
          · obtain ⟨rfl, rfl⟩ := Ending.abort.inj hplan
            exact .inl ⟨position, error, hknown, hending⟩
          · exact .inr (.inl ⟨hknown, (ih none).2 (.inl ⟨position, error, hplan, hending⟩)⟩)
          · exact .inr (.inr ⟨value, stop, hknown,
              (ih _).2 (.inl ⟨position, error, hplan, hending⟩)⟩)
        · rcases hplan with ⟨_, _, -, hplan⟩ | ⟨hknown, hplan⟩ | ⟨value, stop, hknown, hplan⟩
          · contradiction
          · exact .inr (.inl ⟨hknown, (ih none).2 (.inr ⟨result, hplan, hnext⟩)⟩)
          · exact .inr (.inr ⟨value, stop, hknown, (ih _).2 (.inr ⟨result, hplan, hnext⟩)⟩)
  | look resume ih => exact ih _
  | ended resume ih => exact ih _

/-- What follows a question follows upon the verdict that is known. -/
theorem ask_yields_iff {slot : SlotId} {offset : Nat} {resume : Option Match → Plan (Option γ)}
    {make : β → Nat → γ} {verdict : Verdict β} :
    (Plan.ask slot offset resume).Yields known (verdict.ending make) ↔
      Upon (known slot offset)
        (fun value stop verdict =>
          (resume (some ⟨value, offset, stop⟩)).Yields known (verdict.ending make))
        (fun verdict => (resume none).Yields known (verdict.ending make)) verdict := by
  constructor
  · rintro (⟨position, error, hknown, hending⟩ | ⟨hknown, hrest⟩ | ⟨value, stop, hknown, hrest⟩)
    · cases verdict with
      | abort position' error' =>
          obtain ⟨rfl, rfl⟩ := Ending.abort.inj hending
          exact .abort hknown
      | found value stop => contradiction
      | noMatch => contradiction
    · exact .noMatch hknown hrest
    · exact .found hknown hrest
  · intro h
    cases h with
    | found hknown hrest => exact .inr (.inr ⟨_, _, hknown, hrest⟩)
    | noMatch hknown hrest => exact .inr (.inl ⟨hknown, hrest⟩)
    | abort hknown => exact .inl ⟨_, _, hknown, rfl⟩

theorem none_yields_iff {make : β → Nat → γ} {verdict : Verdict β} :
    (Plan.done (none : Option γ)).Yields known (verdict.ending make) ↔ verdict = .noMatch := by
  cases verdict <;> simp [Yields, Verdict.ending]

/-- A result is what is found, if it shows what it is made from. -/
theorem done_yields_iff (make : β → Nat → γ)
    (hmake : ∀ {value value' stop stop'}, make value stop = make value' stop' →
      value = value' ∧ stop = stop') {value : β} {stop : Nat} {verdict : Verdict β} :
    (Plan.done (some (make value stop))).Yields known (verdict.ending make) ↔
      verdict = .found value stop := by
  constructor
  · intro hdone
    cases verdict with
    | found value' stop' =>
        obtain ⟨rfl, rfl⟩ := hmake (Option.some.inj (Ending.done.inj hdone))
        rfl
    | noMatch =>
        have hnone := Ending.done.inj hdone
        contradiction
    | abort position error => contradiction
  · rintro rfl
    rfl

theorem match_yields_iff {start stop : Nat} {value : Value} {verdict : Verdict Value} :
    (Plan.done (some (⟨value, start, stop⟩ : Match))).Yields known (verdict.answer start) ↔
      verdict = .found value stop :=
  done_yields_iff (fun value stop => (⟨value, start, stop⟩ : Match))
    fun h => ⟨congrArg Match.value h, congrArg Match.stop h⟩

theorem abort_yields_iff {position : Nat} {error : TransformError} {plan : Plan (Option γ)}
    {make : β → Nat → γ} {verdict : Verdict β} :
    (Plan.abort position error plan).Yields known (verdict.ending make) ↔
      verdict = .abort position error := by
  cases verdict <;> simp [Yields, Verdict.ending]

theorem unlessEnded_yields_iff {result : Option γ} {ending : Ending (Option γ)} :
    (Plan.unlessEnded result).Yields known ending ↔ (Plan.done result).Yields known ending :=
  Iff.rfl

theorem attempt_yields_iff {slot : SlotId} {offset : Nat} {next : Match → Plan (Option γ)}
    {make : β → Nat → γ} {verdict : Verdict β} :
    (Plan.attempt slot offset next).Yields known (verdict.ending make) ↔
      After (known slot offset)
        (fun value stop verdict =>
          (next ⟨value, offset, stop⟩).Yields known (verdict.ending make)) verdict := by
  simp only [attempt, ask_yields_iff, none_yields_iff]

theorem run_yields_iff {slot : SlotId} {offset : Nat} {verdict : Verdict Value} :
    (Plan.run slot offset).Yields known (verdict.answer offset) ↔ known slot offset verdict := by
  simp only [run, ask_yields_iff, match_yields_iff, none_yields_iff]
  exact Upon.self_iff

/-! ## Rounds -/

section Rounds

variable {β' : Type} {round : Nat → Plan (Option (β × Nat))} {add : α → β → α} {size : Nat}

/-- What a round of a plan finds. -/
abbrev RoundYields (known : Knowledge) (round : Nat → Plan (Option (β × Nat))) (offset : Nat)
    (verdict : Verdict β) : Prop :=
  (round offset).Yields known (verdict.ending Prod.mk)

/-- Rounds that move on no further than some size yield what the chain of their
matches says, if the budget is not less than the way that is left. -/
theorem iterate_yields_iff
    (hbound : ∀ {offset value stop}, RoundYields known round offset (.found value stop) →
      offset < stop → stop ≤ size)
    (budget : Nat) (hpos : 0 < budget) {total : α} {offset : Nat} (hbudget : size < offset + budget)
    {ending : Ending (α × Nat)} :
    (Plan.iterate round add budget total offset).Yields known ending ↔
      ∃ verdict, Chain (RoundYields known round) offset verdict ∧
        ending = verdict.added add total := by
  induction budget generalizing total offset with
  | zero => contradiction
  | succ budget ih =>
      have hrest {value : β} {stop : Nat}
          (hround : RoundYields known round offset (.found value stop)) (hmoves : offset < stop) :
          (Plan.iterate round add budget (add total value) stop).Yields known ending ↔
            ∃ verdict, Chain (RoundYields known round) stop verdict ∧
              ending = verdict.added add (add total value) := by
        have hle := hbound hround hmoves
        exact ih (by omega) (by omega)
      simp only [iterate, bind_yields_iff]
      constructor
      · rintro (⟨position, error, hround, rfl⟩ | ⟨answer, hround, hnext⟩)
        · exact ⟨.abort position error, .abort hround, rfl⟩
        · cases answer with
          | none => exact ⟨.found [] offset, .noMatch hround, hnext⟩
          | some found =>
              obtain ⟨value, stop⟩ := found
              by_cases hle : stop ≤ offset
              · simp only [hle, if_true] at hnext
                exact ⟨.found [] offset, .idle hround hle, hnext⟩
              · simp only [hle, if_false] at hnext
                have hmoves : offset < stop := by omega
                obtain ⟨verdict, hchain, rfl⟩ := (hrest hround hmoves).1 hnext
                cases verdict with
                | found values last =>
                    exact ⟨.found (value :: values) last, .more hround hmoves hchain, rfl⟩
                | noMatch => contradiction
                | abort position error =>
                    exact ⟨.abort position error, .moreAbort hround hmoves hchain, rfl⟩
      · rintro ⟨verdict, hchain, rfl⟩
        cases hchain with
        | noMatch hround => exact .inr ⟨none, hround, rfl⟩
        | @idle _ stop value hround hidle =>
            refine .inr ⟨some (value, stop), hround, ?_⟩
            simp only [hidle, if_true]
            rfl
        | @more _ stop last value values hround hmoves hchain =>
            refine .inr ⟨some (value, stop), hround, ?_⟩
            simp only [Nat.not_le.2 hmoves, if_false]
            exact (hrest hround hmoves).2 ⟨_, hchain, rfl⟩
        | abort hround => exact .inl ⟨_, _, hround, rfl⟩
        | @moreAbort _ stop position value error hround hmoves hchain =>
            refine .inr ⟨some (value, stop), hround, ?_⟩
            simp only [Nat.not_le.2 hmoves, if_false]
            exact (hrest hround hmoves).2 ⟨_, hchain, rfl⟩

/-- What follows rounds follows upon the chain of their matches. -/
theorem iterate_bind_yields_iff
    (hbound : ∀ {offset value stop}, RoundYields known round offset (.found value stop) →
      offset < stop → stop ≤ size)
    {budget : Nat} (hpos : 0 < budget) {total : α} {offset : Nat}
    (hbudget : size < offset + budget) {next : α × Nat → Plan (Option γ)} {make : β' → Nat → γ}
    {verdict : Verdict β'} :
    ((Plan.iterate round add budget total offset).bind next).Yields known (verdict.ending make) ↔
      After (Chain (RoundYields known round) offset)
        (fun values stop verdict =>
          (next (values.foldl add total, stop)).Yields known (verdict.ending make)) verdict := by
  rw [bind_yields_iff]
  constructor
  · rintro (⟨position, error, hrounds, hending⟩ | ⟨result, hrounds, hnext⟩)
    · obtain ⟨chain, hchain, habort⟩ := (iterate_yields_iff hbound budget hpos hbudget).1 hrounds
      cases chain with
      | found values stop => contradiction
      | noMatch => contradiction
      | abort position' error' =>
          obtain ⟨rfl, rfl⟩ := Ending.abort.inj habort
          cases verdict with
          | abort position' error' =>
              obtain ⟨rfl, rfl⟩ := Ending.abort.inj hending
              exact .abort hchain
          | found value stop => contradiction
          | noMatch => contradiction
    · obtain ⟨chain, hchain, hdone⟩ := (iterate_yields_iff hbound budget hpos hbudget).1 hrounds
      cases chain with
      | found values stop =>
          obtain rfl := Ending.done.inj hdone
          exact .found hchain hnext
      | noMatch => contradiction
      | abort position error => contradiction
  · intro h
    cases h with
    | found hchain hnext =>
        exact .inr ⟨_, (iterate_yields_iff hbound budget hpos hbudget).2 ⟨_, hchain, rfl⟩, hnext⟩
    | noMatch hchain => contradiction
    | abort hchain =>
        exact .inl ⟨_, _, (iterate_yields_iff hbound budget hpos hbudget).2 ⟨_, hchain, rfl⟩, rfl⟩

end Rounds

end Plan

/-! ## Bodies -/

/-- Matches that are known reach along the source. -/
def Knowledge.Sound (known : Knowledge) (src : Source) : Prop :=
  ∀ ⦃slot offset value stop⦄, known slot offset (.found value stop) → src.Reaches offset stop

theorem Knowledge.Sound.pair {known : Knowledge} {src : Source} (h : known.Sound src)
    {first second : SlotId} {offset stop : Nat} {values : Value × Value}
    (hpair : Pair known first second offset (.found values stop)) : src.Reaches offset stop := by
  cases hpair with
  | found hfirst hrest =>
      cases hrest with
      | found hsecond hstop =>
          obtain ⟨-, rfl⟩ := Verdict.found.inj hstop
          exact (h hfirst).trans (h hsecond)
      | noMatch _ hstop => contradiction
  | noMatch _ hstop => contradiction

namespace Body

open Plan

variable {src : Source} {known : Knowledge}

theorem single_yields (inner : SlotId) : RoundYields known (single inner) = known inner := by
  funext offset verdict
  refine propext (attempt_yields_iff.trans ?_)
  simp only [done_yields_iff Prod.mk Prod.mk.inj]
  exact Upon.self_iff

theorem pair_yields (first second : SlotId) :
    RoundYields known (pair first second) = Pair known first second := by
  funext offset verdict
  refine propext (attempt_yields_iff.trans ?_)
  simp only [attempt_yields_iff, done_yields_iff Prod.mk Prod.mk.inj]
  rfl

section Rounds

variable {γ : Type} {add : γ → Value → γ} {total : γ} {offset start : Nat}
  {next : γ × Nat → Plan (Option Match)} {verdict : Verdict Value}

theorem budget_pos (src : Source) (start : Nat) : 0 < budget src start := by
  unfold budget
  omega

theorem size_lt_budget (src : Source) (start : Nat) : src.size < start + budget src start := by
  unfold budget
  omega

/-- What follows repeated matches of a parser. -/
theorem singles_yields_iff (hsound : known.Sound src) {inner : SlotId} :
    ((Plan.iterate (single inner) add (budget src offset) total offset).bind next).Yields known
        (verdict.answer start) ↔
      After (Chain (known inner) offset)
        (fun values stop verdict =>
          (next (values.foldl add total, stop)).Yields known (verdict.answer start)) verdict := by
  rw [iterate_bind_yields_iff ?_ (budget_pos src offset) (size_lt_budget src offset),
    single_yields]
  intro offset value stop hround hmoves
  rw [single_yields] at hround
  exact (hsound hround).stop_le_size hmoves

/-- What follows repeated matches of a parser behind another one. -/
theorem pairs_yields_iff {add : γ → Value × Value → γ} (hsound : known.Sound src)
    {first second : SlotId} :
    ((Plan.iterate (pair first second) add (budget src offset) total offset).bind next).Yields
        known (verdict.answer start) ↔
      After (Chain (Pair known first second) offset)
        (fun pairs stop verdict =>
          (next (pairs.foldl add total, stop)).Yields known (verdict.answer start)) verdict := by
  rw [iterate_bind_yields_iff ?_ (budget_pos src offset) (size_lt_budget src offset),
    pair_yields]
  intro offset value stop hround hmoves
  rw [pair_yields] at hround
  exact (hsound.pair hround).stop_le_size hmoves

end Rounds

/-- The items are collected in reverse, behind the first one. -/
private theorem separated_values (first : Value) (pairs : List (Value × Value)) :
    (pairs.foldl (fun values (_, value) => value :: values) [first]).reverse =
      first :: pairs.map (·.2) := by
  rw [List.foldl_flip_cons_eq_append, List.reverse_append, List.reverse_reverse]
  rfl

/-- A body yields what its rule says. -/
theorem plan_yields_iff (hsound : known.Sound src) {body : Body} (hfree : body.StateFree)
    {start : Nat} {verdict : Verdict Value} :
    (body.plan src start).Yields known (verdict.answer start) ↔
      body.Rule src known start verdict := by
  cases body with
  | primitive p =>
      simp only [plan, Rule]
      cases p.scan src start with
      | noMatch => exact none_yields_iff
      | found value stop => exact match_yields_iff
      | overflow error => exact abort_yields_iff
  | sequence first second =>
      simp only [plan, Rule, attempt_yields_iff, match_yields_iff]
  | choice first second =>
      simp only [plan, Rule, ask_yields_iff, match_yields_iff, run_yields_iff]
  | lookahead inner => simp only [plan, Rule, attempt_yields_iff, match_yields_iff]
  | negation inner =>
      simp only [plan, Rule, ask_yields_iff, unlessEnded_yields_iff, match_yields_iff,
        none_yields_iff]
  | optional inner =>
      simp only [plan, Rule, ask_yields_iff, unlessEnded_yields_iff, match_yields_iff]
  | zeroOrMore inner =>
      simp only [plan, Rule, repetition, singles_yields_iff hsound, unlessEnded_yields_iff,
        match_yields_iff, List.foldl_flip_cons_eq_append', List.append_nil, List.reverse_reverse]
  | oneOrMore inner =>
      simp only [plan, Rule, repetition, singles_yields_iff hsound,
        List.foldl_flip_cons_eq_append', List.append_nil, List.isEmpty_reverse,
        List.reverse_reverse]
      refine Upon.found_congr fun values stop verdict => ?_
      split
      · exact none_yields_iff
      · exact unlessEnded_yields_iff.trans match_yields_iff
  | map make inner => simp only [plan, Rule, attempt_yields_iff, match_yields_iff]
  | mapInRun make inner =>
      simp only [plan, Rule, attempt_yields_iff]
      refine Upon.found_congr fun value stop verdict => ?_
      show (Plan.done _).Yields known _ ↔ _
      rw [match_yields_iff]
      constructor
      · exact fun hfound => ⟨.blank, hfound⟩
      · rintro ⟨snapshot, hfound⟩
        rwa [hfree snapshot] at hfound
  | tryMap make inner =>
      simp only [plan, Rule, attempt_yields_iff]
      refine Upon.found_congr fun value stop verdict => ?_
      cases make value with
      | ok made => exact match_yields_iff
      | error error => exact abort_yields_iff
  | filter accepts description inner =>
      simp only [plan, Rule, attempt_yields_iff]
      refine Upon.found_congr fun value stop verdict => ?_
      cases accepts value with
      | true => exact match_yields_iff
      | false => exact none_yields_iff
  | named name inner => exact run_yields_iff
  | reference cell => exact run_yields_iff
  | leftAssociative combine term operator =>
      simp only [plan, Rule, attempt_yields_iff, pairs_yields_iff hsound, unlessEnded_yields_iff,
        match_yields_iff]
  | foldLeft apply term operation =>
      simp only [plan, Rule, attempt_yields_iff, singles_yields_iff hsound, unlessEnded_yields_iff,
        match_yields_iff]
  | between opening content closing =>
      simp only [plan, Rule, attempt_yields_iff, match_yields_iff]
  | separated item separator =>
      simp only [plan, Rule, attempt_yields_iff, pairs_yields_iff hsound, unlessEnded_yields_iff,
        match_yields_iff, separated_values]

end Body

end Packrat
