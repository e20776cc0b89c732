import Packrat.Proofs.Ending
import Packrat.Proofs.Uncached
/-!
# How many parsers a run nests

A run that ends nests no more parsers than the grammar has places for. With
memoization no place is entered twice; without, the same follows from evaluation:
the places that are evaluated at a height grow with the height, and once they
stop growing they are all that is ever evaluated.

A depth limit cuts a run short where more parsers would be nested. It does so by
an abort that says so, and no other run ends with that abort.

## Main results

* `Env.call_limited` — only a depth limit that is set is ever exceeded.
* `Env.eval_height` — what is evaluated is evaluated at a height that is not
  greater than the number of places.
* `Env.parse_of_call` — a call that ends with some fuel ends with `Env.fuel`.
-/

namespace Packrat

namespace Env

variable {env : Env}

/-! ## Depth limits -/

/-- The depth limit has ended the run. -/
def Exceeded (env : Env) (st : State) : Prop :=
  ∃ limit position, env.options.maxDepth = some limit ∧
    st.abort = some (.recursionLimit limit position)

theorem not_exceeded (hlimit : env.options.maxDepth = none) (st : State) : ¬env.Exceeded st := by
  rintro ⟨limit, position, hsome, -⟩
  rw [hlimit] at hsome
  contradiction

/-- The run has not been ended by a depth limit, or only by the one that is set. -/
def Limited (env : Env) (st : State) : Prop := st.WithinLimit ∨ env.Exceeded st

theorem limited_raise (env : Env) {st : State} (h : env.Limited st) (position : Nat)
    (error : TransformError) : env.Limited (st.raise (.transform position error)) := by
  cases hended : st.isAborted with
  | true => rwa [State.raise_of_isAborted hended]
  | false =>
      rw [State.raise_of_not_isAborted hended]
      exact .inl fun limit position' habort => by simp at habort

/-- A call runs into no depth limit but the one that is set. -/
theorem call_limited (fuel : Nat) {slot : SlotId} {offset : Nat} {st st' : State}
    {answer : Option Match} (hst : env.Limited st)
    (h : env.call fuel slot offset st = some (answer, st')) : env.Limited st' := by
  induction fuel generalizing slot offset st answer st' with
  | zero => contradiction
  | succ fuel ih =>
      have hbody {first last : State} {result : Option Match}
          (hexec : (env.planOf slot offset).exec env.options (env.call fuel) first =
            some (result, last)) (hfirst : env.Limited first) : env.Limited last :=
        (Plan.Meets.exec (I := env.Limited) (fun _ hfirst hcall => ⟨ih hfirst hcall,
          fun _ _ => trivial⟩) (fun _ hfirst => env.limited_raise hfirst _ _)
          (Plan.meets_any _) hfirst hexec).1
      cases answer_eq_some_iff.1 h with
      | stopped => exact hst
      | @refused limit hlive hlimit =>
          have hentered : (st.enter slot offset).isAborted = false := hlive
          rw [State.raise_of_not_isAborted hentered]
          exact .inr ⟨limit, offset, (Option.filter_eq_some_iff.1 hlimit).1, rfl⟩
      | recursive => exact hst
      | knownFailure => exact hst
      | knownMatch => exact hst
      | ran _ _ _ hexec =>
          have hlast := hbody hexec hst
          simpa only [Limited, State.WithinLimit, Exceeded, State.finish_abort] using hlast
      | missed _ _ _ _ hexec =>
          have hlast := hbody hexec hst
          simpa only [Limited, State.WithinLimit, Exceeded, State.settle_abort,
            State.finish_abort] using hlast

/-! ## Heights -/

/-- The places that are evaluated at a height, of those that may be asked for in a
run from an offset. -/
def evaluated (env : Env) (start height : Nat) : Finset (SlotId × Nat) :=
  (env.places start).filter fun place => (env.eval height place.1 place.2).isSome

theorem mem_evaluated_iff {start height : Nat} {slot : SlotId} {offset : Nat} :
    (slot, offset) ∈ env.evaluated start height ↔
      (slot, offset) ∈ env.places start ∧
        ∃ outcome, env.eval height slot offset = some outcome := by
  simp only [evaluated, Finset.mem_filter, Option.isSome_iff_exists]

theorem mem_places_iff {start : Nat} {slot : SlotId} {offset : Nat} :
    (slot, offset) ∈ env.places start ↔
      slot < env.grammar.size ∧ (offset = start ∨ offset ≤ env.source.size) := by
  simp only [places, Finset.mem_product, Finset.mem_range, Finset.mem_insert, Nat.lt_succ_iff]

/-- The parts of a parser are at places too. -/
theorem mem_places_of_asks (hclosed : env.grammar.Closed) {start : Nat} {slot part : SlotId}
    {offset offset' : Nat} (hplace : (slot, offset) ∈ env.places start)
    (hpart : part ∈ env.grammar.partsOf slot) (hoffset : env.source.Reaches offset offset') :
    (part, offset') ∈ env.places start := by
  rw [mem_places_iff] at hplace ⊢
  refine ⟨hclosed.parts slot part hpart, ?_⟩
  rcases hoffset with rfl | hsome
  · exact hplace.2
  · exact .inr hsome.stop_le_size

/-- Where nothing more is evaluated at the next height, nothing more is evaluated at
the one after it. -/
theorem evaluated_stable (hclosed : env.grammar.Closed) {start height : Nat}
    (h : env.evaluated start (height + 1) ⊆ env.evaluated start height) :
    env.evaluated start (height + 2) ⊆ env.evaluated start (height + 1) := by
  intro place hplace
  obtain ⟨slot, offset⟩ := place
  obtain ⟨hplace, ⟨ending, all⟩, heval⟩ := mem_evaluated_iff.1 hplace
  refine mem_evaluated_iff.2 ⟨hplace, (ending, all), ?_⟩
  obtain ⟨before, hplan, hall⟩ := eval_succ_eq_some_iff.1 heval
  refine eval_succ_eq_some_iff.2 ⟨before, ?_, hall⟩
  refine (env.planOf_meets slot offset).eval_of_asks ?_ (eval_spans (height + 1)) hplan
  rintro part offset' outcome ⟨hpart, hoffset⟩ hanswer
  have hmem := mem_places_of_asks hclosed hplace hpart hoffset
  obtain ⟨-, outcome', hanswer'⟩ := mem_evaluated_iff.1 (h (mem_evaluated_iff.2 ⟨hmem, _, hanswer⟩))
  rw [eval_unique hanswer hanswer']
  exact hanswer'

/-- At each height more is evaluated, until nothing more is. -/
theorem evaluated_stable_or_lt (hclosed : env.grammar.Closed) (start height : Nat) :
    env.evaluated start (height + 1) ⊆ env.evaluated start height ∨
      height < (env.evaluated start (height + 1)).card := by
  have hgrows (height : Nat)
      (hstable : ¬env.evaluated start (height + 1) ⊆ env.evaluated start height) :
      (env.evaluated start height).card < (env.evaluated start (height + 1)).card := by
    refine Finset.card_lt_card ⟨fun place hplace => ?_, hstable⟩
    obtain ⟨slot, offset⟩ := place
    obtain ⟨hplace, outcome, heval⟩ := mem_evaluated_iff.1 hplace
    exact mem_evaluated_iff.2 ⟨hplace, outcome, eval_mono env (Nat.le_succ height) heval⟩
  induction height with
  | zero =>
      by_cases hstable : env.evaluated start 1 ⊆ env.evaluated start 0
      · exact .inl hstable
      · have hlt := hgrows 0 hstable
        exact .inr (by omega)
  | succ height ih =>
      rcases ih with hstable | hlt
      · exact .inl (evaluated_stable hclosed hstable)
      · by_cases hstable : env.evaluated start (height + 2) ⊆ env.evaluated start (height + 1)
        · exact .inl hstable
        · have hlt' := hgrows (height + 1) hstable
          exact .inr (by omega)

/-- No more is ever evaluated than at the height that is the number of places. -/
theorem evaluated_subset (hclosed : env.grammar.Closed) (start more : Nat) :
    env.evaluated start ((env.places start).card + more) ⊆
      env.evaluated start (env.places start).card := by
  have hstable (more : Nat) :
      env.evaluated start ((env.places start).card + more + 1) ⊆
        env.evaluated start ((env.places start).card + more) := by
    rcases evaluated_stable_or_lt hclosed start ((env.places start).card + more) with h | hlt
    · exact h
    · have hle : (env.evaluated start ((env.places start).card + more + 1)).card ≤
          (env.places start).card := Finset.card_filter_le _ _
      omega
  induction more with
  | zero => exact Finset.Subset.refl _
  | succ more ih => exact (hstable more).trans ih

/-- What is evaluated at some height is evaluated at one that is not greater than
the number of places. -/
theorem eval_height (hclosed : env.grammar.Closed) {height : Nat} {slot : SlotId} {start : Nat}
    (hslot : slot < env.grammar.size) {outcome : Ending (Option Match) × List Failure}
    (h : env.eval height slot start = some outcome) :
    env.eval (env.grammar.size * (env.source.size + 2)) slot start = some outcome := by
  have hplace : (slot, start) ∈ env.places start := mem_places_iff.2 ⟨hslot, .inl rfl⟩
  have habove := eval_mono env (Nat.le_add_left height (env.places start).card) h
  have hmem := evaluated_subset hclosed start height (mem_evaluated_iff.2 ⟨hplace, _, habove⟩)
  obtain ⟨-, outcome', heval⟩ := mem_evaluated_iff.1 hmem
  rw [eval_unique h heval]
  exact eval_mono env (card_places_le env start) heval

/-! ## Fuel -/

/-- Without memoization and without a depth limit a call that ends does so with
`Env.fuel`, if no value looks at the state. -/
private theorem parse_ends_of_call (hclosed : env.grammar.Closed) (hfree : env.grammar.StateFree)
    (hmode : env.options.memoize = false) (hlimit : env.options.maxDepth = none) {fuel : Nat}
    {slot : SlotId} {start : Nat} {st st' : State} {answer : Option Match}
    (hslot : slot < env.grammar.size) (hlive : st.abort = none)
    (h : env.call fuel slot start st = some (answer, st')) :
    ∃ answer st', env.parse slot start st = some (answer, st') := by
  have hwithin : st'.WithinLimit :=
    (call_limited fuel (.inl (State.withinLimit_of_live hlive)) h).resolve_right
      (not_exceeded hlimit st')
  obtain ⟨ending, failures, heval, -⟩ := eval_of_call hfree hmode fuel hlive h hwithin
  have hfuel : env.grammar.size * (env.source.size + 2) < env.fuel := by
    simp only [Env.fuel, hlimit]
    omega
  obtain ⟨answer', last, hparse, -⟩ :=
    call_of_eval hfree hmode _ hfuel (.of_unlimited hlimit _ st) hlive
      (eval_height hclosed hslot heval)
  exact ⟨answer', last, hparse⟩

/-- A call of a parser of a closed grammar that ends with some fuel ends with
`Env.fuel`, in the same way. Without memoization and without a depth limit this
takes a grammar that does not look at the state: one that does may come back to a
parser at the same offset and find it changed. -/
theorem parse_of_call (hclosed : env.grammar.Closed)
    (hmode : env.options.memoize = true ∨ env.options.maxDepth.isSome = true ∨
      env.grammar.StateFree)
    {fuel : Nat} {slot : SlotId} {start : Nat} {st : State} (hslot : slot < env.grammar.size)
    (hmemo : st.MemoSound env.source) {result : Option Match × State}
    (h : env.call fuel slot start st = some result) : env.parse slot start st = some result := by
  have hends : ∃ answer st', env.parse slot start st = some (answer, st') := by
    by_cases hbounded : env.options.memoize = true ∨ env.options.maxDepth.isSome = true
    · exact parse_ends hclosed hbounded hslot start hmemo
    · have hplain : env.options.memoize = false := by
        simpa using fun hmemoize => hbounded (.inl hmemoize)
      have hlimit : env.options.maxDepth = none := by
        simpa using fun hsome => hbounded (.inr hsome)
      have hfree : env.grammar.StateFree := by
        simpa [hplain, hlimit] using hmode
      cases habort : st.abort with
      | none =>
          exact parse_ends_of_call hclosed hfree hplain hlimit hslot habort h
      | some abort =>
          have hended : st.isAborted = true := by simp [State.isAborted, habort]
          obtain ⟨below, hfuel⟩ : ∃ below, env.fuel = below + 1 := ⟨env.fuel - 1, by
            have hpos := env.fuel_pos
            omega⟩
          rw [parse, hfuel]
          exact ⟨none, st, call_of_isAborted hended below slot start⟩
  obtain ⟨answer, st', hparse⟩ := hends
  rw [call_unique h hparse]
  exact hparse

end Env

end Packrat
