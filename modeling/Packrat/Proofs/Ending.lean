import Mathlib.Data.Finset.Prod
import Packrat.Proofs.Closed
import Packrat.Proofs.SpanRun
/-!
# Runs end

A grammar may be left-recursive without bound, so nothing about the grammar says
that a call ends. What does is the state. With memoization each body that begins
to run fills a place in the memo table that was free, and there are only so many
places: a run moves along the source, and no further than its end. With a depth
limit each body runs one level deeper, and there are only so many levels.

`Env.Enough` says that some fuel is more than what is left of one of the two.

Loops need no such argument: each round begins further along the source than the
one before, or the loop is over. `Plan.iterate` is given a number of rounds, but
that number is never used up: a loop that were allowed more rounds would do the
same.

## Main results

* `Env.call_precedes` — a call comes back at the depth where it began, and
  forgets nothing unless the run has ended early.
* `Env.call_ends_of_limit` — with a depth limit every call ends.
* `Env.call_ends` — a call with enough fuel ends.
* `Env.parse_ends` — `Env.fuel` is enough for every run with memoization or with
  a depth limit.
* `Env.iterate_exec_budget` — loops come to an end by themselves.
-/

namespace Packrat

namespace State

/-- A state may come after another: as many parsers are running, an early end
is final, and without one no entry is forgotten. -/
structure Precedes (st st' : State) : Prop where
  depth : st'.depth = st.depth
  ended : st.isAborted = true → st'.isAborted = true
  entries : st'.isAborted = false →
    ∀ slot offset, st.memo.find? slot offset ≠ none → st'.memo.find? slot offset ≠ none

namespace Precedes

variable {st st' st'' : State}

theorem refl (st : State) : st.Precedes st := ⟨rfl, id, fun _ _ _ => id⟩

theorem enter (st : State) (slot : SlotId) (offset : Nat) :
    st.Precedes (st.enter slot offset) := ⟨rfl, id, fun _ _ _ => id⟩

theorem trans (h : st.Precedes st') (h' : st'.Precedes st'') : st.Precedes st'' := by
  refine ⟨h'.depth.trans h.depth, fun hended => h'.ended (h.ended hended), ?_⟩
  intro hlive slot offset hentry
  have hlive' : st'.isAborted = false := by
    cases hended : st'.isAborted with
    | false => rfl
    | true =>
        rw [h'.ended hended] at hlive
        contradiction
  exact h'.entries hlive slot offset (h.entries hlive' slot offset hentry)

/-- The end of a run takes no entry away. -/
theorem raise (st : State) (abort : Abort) : st.Precedes (st.raise abort) := by
  refine ⟨raise_depth _ _, fun _ => raise_isAborted _ _, ?_⟩
  intro hlive
  rw [raise_isAborted] at hlive
  contradiction

end Precedes

end State

namespace Env

variable {env : Env}

/-- A call comes back at the depth where it began, and forgets nothing unless
the run has ended early. -/
theorem call_precedes (fuel : Nat) {slot : SlotId} {start : Nat} {st st' : State}
    {answer : Option Match} (h : env.call fuel slot start st = some (answer, st')) :
    st.Precedes st' := by
  induction fuel generalizing slot start st answer st' with
  | zero => contradiction
  | succ fuel ih =>
      have hbody {first last : State} {result : Option Match}
          (hexec : (env.planOf slot start).exec env.options (env.call fuel) first =
            some (result, last)) : first.Precedes last :=
        (Plan.Meets.exec (I := first.Precedes) (fun _ hfirst hcall => ⟨hfirst.trans (ih hcall),
          fun _ _ => trivial⟩) (fun _ hfirst => hfirst.trans (.raise _ _))
          (Plan.meets_any _) (.refl first) hexec).1
      cases answer_eq_some_iff.1 h with
      | stopped => exact .refl st
      | refused => exact (State.Precedes.enter st slot start).trans (.raise _ _)
      | recursive => exact ⟨rfl, id, fun _ _ _ => id⟩
      | knownFailure => exact ⟨rfl, id, fun _ _ _ => id⟩
      | knownMatch => exact ⟨rfl, id, fun _ _ _ => id⟩
      | @ran _ last hlive _ _ hexec =>
          have hrun := hbody hexec
          have hdepth : last.depth = st.depth + 1 := hrun.depth
          refine ⟨by rw [State.finish_depth]; omega, by simp [hlive], ?_⟩
          intro hlast slot' offset' hentry
          rw [State.finish_isAborted] at hlast
          rw [State.finish_memo]
          exact hrun.entries hlast slot' offset' hentry
      | @missed _ last hlive _ _ hfree hexec =>
          have hrun := hbody hexec
          have hdepth : last.depth = st.depth + 1 := hrun.depth
          refine ⟨by rw [State.settle_depth, State.finish_depth]; omega, by simp [hlive], ?_⟩
          intro hlast slot' offset' hentry
          rw [State.settle_isAborted] at hlast
          rw [State.settle_of_not_isAborted hlast]
          rw [State.finish_isAborted] at hlast
          simp only [State.finish_memo, MemoTable.find?_insert]
          split
          · simp
          case isFalse hother =>
            refine hrun.entries hlast slot' offset' ?_
            have hreserved : (((st.enter slot start).reserve slot start).begin slot start).memo =
                st.memo.insert slot start .inProgress := rfl
            rw [hreserved, MemoTable.find?_insert, if_neg hother]
            exact hentry

/-! ## Bodies that begin to run -/

/-- The states in which the body of a parser begins to run when it is called. -/
inductive Begins (env : Env) (slot : SlotId) (start : Nat) (st : State) : State → Prop
  /-- Nothing is remembered. -/
  | ran (hmemo : env.options.memoize = false) :
    env.Begins slot start st ((st.enter slot start).begin slot start)
  /-- The answer is not known yet. -/
  | missed (hmemo : env.options.memoize = true) (hentry : st.memo.find? slot start = none) :
    env.Begins slot start st (((st.enter slot start).reserve slot start).begin slot start)

theorem Begins.depth {slot : SlotId} {start : Nat} {st first : State}
    (h : env.Begins slot start st first) : first.depth = st.depth + 1 := by
  cases h <;> rfl

theorem Begins.memoSound {slot : SlotId} {start : Nat} {st first : State}
    (h : env.Begins slot start st first) (hmemo : st.MemoSound env.source) :
    first.MemoSound env.source := by
  cases h with
  | ran => exact hmemo
  | missed => exact hmemo.reserve

/-- A call ends if the body that it may run does. -/
theorem call_ends_of_begins (fuel : Nat) {slot : SlotId} {start : Nat} {st : State}
    (hbody : ∀ first, st.isAborted = false → env.atLimit st = none →
      env.Begins slot start st first → ∃ result last,
        (env.planOf slot start).exec env.options (env.call fuel) first = some (result, last)) :
    ∃ answer st', env.call (fuel + 1) slot start st = some (answer, st') := by
  by_cases hended : st.isAborted = true
  · exact ⟨_, _, answer_eq_some_iff.2 (.stopped hended)⟩
  have hlive : st.isAborted = false := Bool.not_eq_true _ ▸ hended
  cases hroom : env.atLimit st with
  | some limit => exact ⟨_, _, answer_eq_some_iff.2 (.refused hlive hroom)⟩
  | none =>
  cases hmode : env.options.memoize with
  | false =>
      obtain ⟨result, last, hexec⟩ := hbody _ hlive hroom (.ran hmode)
      exact ⟨_, _, answer_eq_some_iff.2 (.ran hlive hroom hmode hexec)⟩
  | true =>
      cases hentry : st.memo.find? slot start with
      | some memo =>
          cases memo with
          | inProgress => exact ⟨_, _, answer_eq_some_iff.2 (.recursive hlive hroom hmode hentry)⟩
          | failed => exact ⟨_, _, answer_eq_some_iff.2 (.knownFailure hlive hroom hmode hentry)⟩
          | matched m => exact ⟨_, _, answer_eq_some_iff.2 (.knownMatch hlive hroom hmode hentry)⟩
      | none =>
          obtain ⟨result, last, hexec⟩ := hbody _ hlive hroom (.missed hmode hentry)
          exact ⟨_, _, answer_eq_some_iff.2 (.missed hlive hroom hmode hentry hexec)⟩

/-- With a depth limit a call ends, whatever the grammar and the state. -/
theorem call_ends_of_limit {limit : Nat} (hlimit : env.options.maxDepth = some limit) (fuel : Nat)
    (slot : SlotId) (start : Nat) (st : State) (hpos : 0 < fuel)
    (hfuel : limit < st.depth + fuel) :
    ∃ answer st', env.call fuel slot start st = some (answer, st') := by
  induction fuel generalizing slot start st with
  | zero => contradiction
  | succ fuel ih =>
      refine call_ends_of_begins fuel fun first _ hroom hfirst => ?_
      have hbelow : st.depth < limit := atLimit_eq_none_iff.1 hroom limit hlimit
      have hcall {slot' : SlotId} {offset : Nat} {st' : State}
          (_ : Contract.any.asks slot' offset) (hdepth : st'.depth = st.depth + 1) :
          ∃ answer st'', env.call fuel slot' offset st' = some (answer, st'') ∧
            st''.depth = st.depth + 1 ∧ ∀ m, answer = some m → True := by
        obtain ⟨answer, st'', hanswer⟩ := ih slot' offset st' (by omega) (by omega)
        have hdepth' := (call_precedes fuel hanswer).depth
        exact ⟨answer, st'', hanswer, hdepth'.trans hdepth, fun _ _ => trivial⟩
      obtain ⟨result, last, hexec, -⟩ := Plan.Meets.exec_ends
        (I := fun st' => st'.depth = st.depth + 1) hcall
        (fun _ hdepth => (State.raise_depth _ _).trans hdepth)
        (Plan.meets_any (env.planOf slot start)) hfirst.depth
      exact ⟨result, last, hexec⟩

/-! ## Free places -/

/-- The places that may be asked for in a run that begins at an offset: the
parsers of the grammar at that offset and at those up to the end of the source. -/
def places (env : Env) (start : Nat) : Finset (SlotId × Nat) :=
  Finset.range env.grammar.size ×ˢ insert start (Finset.range (env.source.size + 1))

/-- The number of places that have no entry in the memo table. -/
def free (env : Env) (start : Nat) (st : State) : Nat :=
  ((env.places start).filter fun place => (st.memo.find? place.1 place.2).isNone).card

theorem card_places_le (env : Env) (start : Nat) :
    (env.places start).card ≤ env.grammar.size * (env.source.size + 2) := by
  have hoffsets : (insert start (Finset.range (env.source.size + 1))).card ≤
      env.source.size + 2 := by
    have hinsert := Finset.card_insert_le start (Finset.range (env.source.size + 1))
    rw [Finset.card_range] at hinsert
    omega
  calc (env.places start).card
      = env.grammar.size * (insert start (Finset.range (env.source.size + 1))).card := by
        rw [places, Finset.card_product, Finset.card_range]
    _ ≤ env.grammar.size * (env.source.size + 2) := Nat.mul_le_mul_left _ hoffsets

/-- There are no more free places than places. -/
theorem free_le (env : Env) (start : Nat) (st : State) :
    env.free start st ≤ env.grammar.size * (env.source.size + 2) :=
  (Finset.card_filter_le _ _).trans (env.card_places_le start)

/-- No place becomes free as a run goes on and moves along the source. -/
theorem free_le_of_entries {start offset : Nat} {st st' : State}
    (hoffset : env.source.Reaches start offset)
    (hentries : ∀ slot offset, st.memo.find? slot offset ≠ none →
      st'.memo.find? slot offset ≠ none) :
    env.free offset st' ≤ env.free start st := by
  refine Finset.card_le_card fun place hplace => ?_
  obtain ⟨slot, position⟩ := place
  simp only [places, Finset.mem_filter, Finset.mem_product, Finset.mem_range, Finset.mem_insert,
    Option.isNone_iff_eq_none] at hplace ⊢
  obtain ⟨⟨hslot, hposition⟩, hfree⟩ := hplace
  refine ⟨⟨hslot, ?_⟩, ?_⟩
  · rcases hposition with rfl | hposition
    · rcases hoffset with rfl | hpart
      · exact .inl rfl
      · have hle := hpart.stop_le_size
        exact .inr (by omega)
    · exact .inr hposition
  · by_contra hentry
    exact hentries slot position hentry hfree

/-- A body that begins to run fills a place. -/
theorem free_insert_lt {slot : SlotId} {start : Nat} {st : State} {memo : Memo}
    (hslot : slot < env.grammar.size) (hfree : st.memo.find? slot start = none) :
    env.free start { st with memo := st.memo.insert slot start memo } < env.free start st := by
  refine Finset.card_lt_card ⟨fun place hplace => ?_, fun hsubset => ?_⟩
  · simp only [Finset.mem_filter, MemoTable.find?_insert] at hplace ⊢
    refine ⟨hplace.1, ?_⟩
    have hnone := hplace.2
    split at hnone
    · contradiction
    · exact hnone
  · have hplace : (slot, start) ∈ (env.places start).filter fun place =>
        (st.memo.find? place.1 place.2).isNone := by
      simp [places, hslot, hfree]
    have hfilled := hsubset hplace
    simp [MemoTable.find?_insert] at hfilled

/-! ## Enough fuel -/

/-- Fuel is more than what is left for a run to use up: the run has ended early,
or it comes to the depth limit or to the last free place before. -/
def Enough (env : Env) (fuel start : Nat) (st : State) : Prop :=
  st.isAborted = true ∨
    (∃ limit, env.options.maxDepth = some limit ∧ limit < st.depth + fuel) ∨
    (env.options.memoize = true ∧ env.free start st < fuel)

/-- `Env.fuel` is enough from every state, with memoization or a depth limit. -/
theorem enough_fuel (h : env.options.memoize = true ∨ env.options.maxDepth.isSome = true)
    (start : Nat) (st : State) : env.Enough env.fuel start st := by
  have hfree := env.free_le start st
  cases hlimit : env.options.maxDepth with
  | none =>
      have hmemo : env.options.memoize = true := by simpa [hlimit] using h
      have hfuel : env.fuel = env.grammar.size * (env.source.size + 2) + 2 := by
        simp only [fuel, hlimit]
      exact .inr (.inr ⟨hmemo, by omega⟩)
  | some limit =>
      by_cases hmemo : env.options.memoize = true
      · have hfuel : env.fuel =
            min (env.grammar.size * (env.source.size + 2) + 2) (limit + 1) := by
          simp only [fuel, hlimit, hmemo, if_true]
        by_cases hle : env.grammar.size * (env.source.size + 2) + 2 ≤ limit + 1
        · exact .inr (.inr ⟨hmemo, by omega⟩)
        · exact .inr (.inl ⟨limit, hlimit, by omega⟩)
      · have hfuel : env.fuel = limit + 1 := by
          simp only [fuel, hlimit, hmemo]
          rfl
        exact .inr (.inl ⟨limit, hlimit, by omega⟩)

/-- What holds in the course of a body that began to run in a state. -/
private def Within (env : Env) (start : Nat) (first st : State) : Prop :=
  env.Course start first st ∧ first.Precedes st

/-- A body ends if the calls that it may make do. -/
private theorem body_ends {fuel : Nat} (slot : SlotId) (start : Nat) (first : State)
    (hfirst : first.MemoSound env.source)
    (hends : ∀ {slot' offset st}, slot' ∈ env.grammar.partsOf slot →
      env.source.Reaches start offset → first.Precedes st → st.MemoSound env.source →
      ∃ answer st', env.call fuel slot' offset st = some (answer, st')) :
    ∃ result last, (env.planOf slot start).exec env.options (env.call fuel) first =
      some (result, last) := by
  have hrun : ∃ result last, (env.planOf slot start).exec env.options (env.call fuel) first =
      some (result, last) ∧ env.Within start first last := by
    refine (env.planOf_meets slot start).exec_ends ?_ ?_ ⟨⟨hfirst, .refl _ _⟩, .refl first⟩
    · rintro slot' offset st hask ⟨hcourse, hprec⟩
      obtain ⟨answer, st', hcall⟩ := hends hask.1 hask.2 hprec hcourse.1
      obtain ⟨hcourse', hreply⟩ := hcourse.ask (call_sound fuel) hask hcall
      exact ⟨answer, st', hcall, ⟨hcourse', hprec.trans (call_precedes fuel hcall)⟩, hreply⟩
    · rintro position error st hposition ⟨hcourse, hprec⟩
      exact ⟨hcourse.raise hposition, hprec.trans (.raise _ _)⟩
  obtain ⟨result, last, hexec, -⟩ := hrun
  exact ⟨result, last, hexec⟩

/-- Below a limit there is fuel left for the bodies one level deeper. -/
private theorem enough_of_limit {fuel start : Nat} {st first : State}
    (hroom : env.atLimit st = none) (hdepth : first.depth = st.depth + 1)
    (hlimit : ∃ limit, env.options.maxDepth = some limit ∧ limit < st.depth + (fuel + 1)) :
    0 < fuel ∧ ∀ {st'}, first.Precedes st' → env.Enough fuel start st' := by
  obtain ⟨limit, hlimit, hlt⟩ := hlimit
  have hbelow := atLimit_eq_none_iff.1 hroom limit hlimit
  refine ⟨by omega, fun hprec => .inr (.inl ⟨limit, hlimit, ?_⟩)⟩
  have hdepth' := hprec.depth
  omega

/-- Where a place has been filled there is fuel left for the bodies below it. -/
private theorem enough_of_free {fuel start offset : Nat} {st first : State}
    (hmode : env.options.memoize = true) (hfirst : env.free start first < env.free start st)
    (hfree : env.free start st < fuel + 1) (hoffset : env.source.Reaches start offset) :
    0 < fuel ∧ ∀ {st'}, first.Precedes st' → env.Enough fuel offset st' := by
  refine ⟨by omega, fun {st'} hprec => ?_⟩
  cases hlive : st'.isAborted with
  | true => exact .inl hlive
  | false =>
      have hle := free_le_of_entries hoffset (hprec.entries hlive)
      exact .inr (.inr ⟨hmode, by omega⟩)

/-- A body that begins to run leaves enough fuel for the calls that it makes. -/
private theorem Enough.begins {fuel start offset : Nat} {slot : SlotId} {st first : State}
    (h : env.Enough (fuel + 1) start st) (hlive : st.isAborted = false)
    (hroom : env.atLimit st = none) (hfirst : env.Begins slot start st first)
    (hslot : slot < env.grammar.size) (hoffset : env.source.Reaches start offset) :
    0 < fuel ∧ ∀ {st'}, first.Precedes st' → env.Enough fuel offset st' := by
  rcases h with hended | hlimit | ⟨hmode, hfree⟩
  · rw [hlive] at hended
    contradiction
  · exact enough_of_limit hroom hfirst.depth hlimit
  · cases hfirst with
    | ran hmode' =>
        rw [hmode] at hmode'
        contradiction
    | missed _ hentry => exact enough_of_free hmode (free_insert_lt hslot hentry) hfree hoffset

/-- A call with enough fuel ends. -/
theorem call_ends (hclosed : env.grammar.Closed) (fuel : Nat) {slot : SlotId} {start : Nat}
    {st : State} (hslot : slot < env.grammar.size) (hmemo : st.MemoSound env.source)
    (hfuel : 0 < fuel) (henough : env.Enough fuel start st) :
    ∃ answer st', env.call fuel slot start st = some (answer, st') := by
  induction fuel generalizing slot start st with
  | zero => omega
  | succ fuel ih =>
      refine call_ends_of_begins fuel fun first hlive hroom hfirst => ?_
      refine body_ends slot start first (hfirst.memoSound hmemo) ?_
      intro slot' offset st' hpart hoffset hprec hsound
      have hless := henough.begins hlive hroom hfirst hslot hoffset
      exact ih (hclosed.parts slot slot' hpart) hsound hless.1 (hless.2 hprec)

theorem fuel_pos (env : Env) : 0 < env.fuel := by
  simp only [fuel]
  split
  · omega
  · split <;> omega

/-- `Env.fuel` is enough for a call of any parser of a closed grammar, from any
sound state, with memoization or a depth limit. -/
theorem parse_ends (hclosed : env.grammar.Closed)
    (hmode : env.options.memoize = true ∨ env.options.maxDepth.isSome = true) {slot : SlotId}
    (hslot : slot < env.grammar.size) (start : Nat) {st : State}
    (hmemo : st.MemoSound env.source) :
    ∃ answer st', env.parse slot start st = some (answer, st') :=
  call_ends hclosed env.fuel hslot hmemo env.fuel_pos (enough_fuel hmode start st)

end Env

/-! ## Loops -/

namespace Body

/-- The rounds of which the loops of bodies are made. -/
inductive Round : {β : Type} → (Nat → Plan (Option (β × Nat))) → Prop
  | single (inner : SlotId) : Round (single inner)
  | pair (first second : SlotId) : Round (pair first second)

/-- A round moves along the source. -/
theorem Round.meets {β : Type} {round : Nat → Plan (Option (β × Nat))} (h : Round round)
    (src : Source) (offset : Nat) :
    ∃ parts, (round offset).Meets (spanContract src offset parts) fun answer =>
      ∀ found stop, answer = some (found, stop) → offset < stop → src.Reaches offset stop := by
  cases h with
  | single inner =>
      exact ⟨[inner], single_meets (List.mem_singleton_self inner) (.refl src offset)⟩
  | pair first second =>
      exact ⟨[first, second], pair_meets (by simp) (by simp) (.refl src offset)⟩

end Body

namespace Env

variable {env : Env}

/-- A round that moves on from an offset is at most at the end of the source then. -/
theorem round_exec {β : Type} {round : Nat → Plan (Option (β × Nat))}
    (hround : Body.Round round) {fuel offset stop : Nat} {found : β} {st st' : State}
    (hmemo : st.MemoSound env.source)
    (h : (round offset).exec env.options (env.call fuel) st = some (some (found, stop), st'))
    (hlt : offset < stop) : stop ≤ env.source.size ∧ st'.MemoSound env.source := by
  obtain ⟨parts, hmeets⟩ := hround.meets env.source offset
  obtain ⟨⟨hsound, -⟩, hreaches⟩ := hmeets.exec (I := env.Course offset st)
    (Course.ask (call_sound fuel)) Course.raise ⟨hmemo, .refl _ _⟩ h
  rcases hreaches found stop rfl hlt with heq | hpart
  · omega
  · exact ⟨hpart.stop_le_size, hsound⟩

/-- A loop comes to an end by itself: if it may go round once more than there are bytes
left, it makes no difference how often it may go round. -/
theorem iterate_exec_budget {α β : Type} {round : Nat → Plan (Option (β × Nat))}
    (hround : Body.Round round) (add : α → β → α) (fuel more : Nat) {budget : Nat} {total : α}
    {offset : Nat} {st : State} (hmemo : st.MemoSound env.source)
    (hbudget : env.source.size - offset < budget) :
    (Plan.iterate round add (budget + more) total offset).exec env.options (env.call fuel) st =
      (Plan.iterate round add budget total offset).exec env.options (env.call fuel) st := by
  induction budget generalizing total offset st with
  | zero => omega
  | succ budget ih =>
      rw [Nat.succ_add]
      simp only [Plan.iterate, Plan.exec_bind]
      cases hexec : (round offset).exec env.options (env.call fuel) st with
      | none => rfl
      | some answered =>
          obtain ⟨answer, st'⟩ := answered
          cases answer with
          | none => rfl
          | some found =>
              obtain ⟨found, stop⟩ := found
              by_cases hle : stop ≤ offset
              · simp only [hle, if_true]
              · simp only [hle, if_false]
                obtain ⟨hstop, hsound⟩ := round_exec hround hmemo hexec (Nat.lt_of_not_le hle)
                exact ih hsound (by omega)

end Env

end Packrat
