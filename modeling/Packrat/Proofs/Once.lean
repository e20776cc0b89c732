import Packrat.Proofs.Ending
import Packrat.Session
/-!
# Bodies run once

With memoization a body runs only where there is no entry for it, and it leaves
an entry behind, so no body runs twice at one offset. An entry is removed only
when the run has ended early, and then no body runs any more.

## Main results

* `Env.call_ranOnce` — a call keeps the invariant `State.RanOnce`.
* `Env.session_ranOnce` — every session ends; in its course no body has run
  twice at one offset, and there were no more misses than places.
-/

namespace Packrat

namespace State

/-- The parsers whose bodies have run with the offsets at which they ran, the
latest first. -/
def ran (st : State) : List (SlotId × Nat) :=
  st.trace.filterMap fun
    | .started slot offset => some (slot, offset)
    | _ => none

@[simp] theorem ran_raise (st : State) (abort : Abort) : (st.raise abort).ran = st.ran := by
  by_cases hended : st.isAborted = true
  · rw [raise_of_isAborted hended]
  · rw [raise_of_not_isAborted (Bool.not_eq_true _ ▸ hended)]
    rfl

@[simp] theorem ran_recordFailure (st : State) (slot : SlotId) (offset : Nat)
    (name : Option String) : (st.recordFailure slot offset name).ran = st.ran := by
  rw [recordFailure_eq, ran, failureEvents]
  split <;> rfl

@[simp] theorem ran_finish (st : State) (slot : SlotId) (offset : Nat) (name : Option String)
    (result : Option Match) : (st.finish slot offset name result).ran = st.ran := by
  unfold finish
  simp only
  split
  · rw [ran_recordFailure]
    rfl
  · rfl

@[simp] theorem ran_settle (st : State) (slot : SlotId) (offset : Nat)
    (result : Option Match) : (st.settle slot offset result).ran = st.ran := by
  rw [ran, settle_trace]
  rfl

/-- No body has run twice at one offset, and the memo table knows all that ran. -/
structure RanOnce (env : Env) (st : State) : Prop where
  nodup : st.ran.Nodup
  /-- A body runs when the memo table has no answer. -/
  misses : st.misses = st.ran.length
  /-- What has run is remembered while the run goes on. -/
  known : st.isAborted = false →
    ∀ place ∈ st.ran, st.memo.find? place.1 place.2 ≠ none
  /-- Parsers of the grammar ran at offsets up to the end of the source. -/
  inside : ∀ place ∈ st.ran, place.1 < env.grammar.size ∧ place.2 ≤ env.source.size

namespace RanOnce

variable {env : Env} {st : State}

theorem fresh (env : Env) : RanOnce env {} := by
  have hnone : ({} : State).ran = [] := rfl
  refine ⟨?_, rfl, fun _ place hplace => ?_, fun place hplace => ?_⟩
  · rw [hnone]
    exact List.nodup_nil
  · rw [hnone] at hplace
    contradiction
  · rw [hnone] at hplace
    contradiction

/-- The invariant is about bodies, misses, entries and whether the run goes on. -/
theorem of_eq {st' : State} (h : st.RanOnce env) (hran : st'.ran = st.ran)
    (hmisses : st'.misses = st.misses) (hmemo : st'.memo = st.memo)
    (hended : st'.isAborted = false → st.isAborted = false) : st'.RanOnce env := by
  refine ⟨?_, ?_, fun hlive place hplace => ?_, fun place hplace => ?_⟩
  · rw [hran]
    exact h.nodup
  · rw [hran, hmisses]
    exact h.misses
  · rw [hran] at hplace
    rw [hmemo]
    exact h.known (hended hlive) place hplace
  · rw [hran] at hplace
    exact h.inside place hplace

theorem raise (h : st.RanOnce env) (abort : Abort) : (st.raise abort).RanOnce env :=
  h.of_eq (ran_raise _ _) (raise_misses _ _) (raise_memo _ _) (by simp)

/-- A body may begin to run where there is no entry for it. -/
theorem begin (h : st.RanOnce env) {slot : SlotId} {offset : Nat} (hlive : st.isAborted = false)
    (hfree : st.memo.find? slot offset = none) (hslot : slot < env.grammar.size)
    (hoffset : offset ≤ env.source.size) :
    (((st.enter slot offset).reserve slot offset).begin slot offset).RanOnce env := by
  have hran : (((st.enter slot offset).reserve slot offset).begin slot offset).ran =
      (slot, offset) :: st.ran := rfl
  have hnew : (slot, offset) ∉ st.ran := fun hplace => h.known hlive _ hplace hfree
  refine ⟨?_, ?_, fun _ place hplace => ?_, fun place hplace => ?_⟩
  · rw [hran]
    exact List.nodup_cons.2 ⟨hnew, h.nodup⟩
  · rw [hran, List.length_cons, ← h.misses]
    rfl
  · have hmemo : (((st.enter slot offset).reserve slot offset).begin slot offset).memo =
        st.memo.insert slot offset .inProgress := rfl
    rw [hmemo, MemoTable.find?_insert]
    split
    · simp
    case isFalse hother =>
      rw [hran] at hplace
      rcases List.mem_cons.1 hplace with rfl | hplace
      · exact absurd ⟨rfl, rfl⟩ hother
      · exact h.known hlive place hplace
  · rw [hran] at hplace
    rcases List.mem_cons.1 hplace with rfl | hplace
    · exact ⟨hslot, hoffset⟩
    · exact h.inside place hplace

/-- The answer of a body may be remembered in place of any entry. -/
theorem settle (h : st.RanOnce env) (slot : SlotId) (offset : Nat) (result : Option Match) :
    (st.settle slot offset result).RanOnce env := by
  refine ⟨?_, ?_, fun hlive place hplace => ?_, fun place hplace => ?_⟩
  · rw [ran_settle]
    exact h.nodup
  · rw [ran_settle, settle_misses]
    exact h.misses
  · rw [settle_isAborted] at hlive
    rw [ran_settle] at hplace
    rw [settle_of_not_isAborted hlive]
    show (st.memo.insert slot offset (.ofResult result)).find? place.1 place.2 ≠ none
    rw [MemoTable.find?_insert]
    split
    · simp
    · exact h.known hlive place hplace
  · rw [ran_settle] at hplace
    exact h.inside place hplace

/-- No more bodies have run than there are places for them. -/
theorem misses_le (h : st.RanOnce env) :
    st.misses ≤ env.grammar.size * (env.source.size + 1) := by
  have hsubset : st.ran.toFinset ⊆
      Finset.range env.grammar.size ×ˢ Finset.range (env.source.size + 1) := by
    intro place hplace
    obtain ⟨hslot, hoffset⟩ := h.inside place (List.mem_toFinset.1 hplace)
    simp only [Finset.mem_product, Finset.mem_range]
    exact ⟨hslot, by omega⟩
  calc st.misses = st.ran.toFinset.card := by
        rw [h.misses, List.toFinset_card_of_nodup h.nodup]
    _ ≤ (Finset.range env.grammar.size ×ˢ Finset.range (env.source.size + 1)).card :=
        Finset.card_le_card hsubset
    _ = env.grammar.size * (env.source.size + 1) := by
        rw [Finset.card_product, Finset.card_range, Finset.card_range]

end RanOnce

end State

namespace Env

variable {env : Env}

/-- With memoization a call of a parser of the grammar keeps the invariant. -/
theorem call_ranOnce (hclosed : env.grammar.Closed) (hmode : env.options.memoize = true)
    (fuel : Nat) {slot : SlotId} {start : Nat} {st st' : State} {answer : Option Match}
    (hslot : slot < env.grammar.size) (hstart : start ≤ env.source.size)
    (hmemo : st.MemoSound env.source) (honce : st.RanOnce env)
    (h : env.call fuel slot start st = some (answer, st')) : st'.RanOnce env := by
  induction fuel generalizing slot start st answer st' with
  | zero => contradiction
  | succ fuel ih =>
      cases answer_eq_some_iff.1 h with
      | stopped => exact honce
      | refused =>
          have hentered : (st.enter slot start).RanOnce env := honce.of_eq rfl rfl rfl id
          exact hentered.raise _
      | recursive => exact honce.of_eq rfl rfl rfl id
      | knownFailure => exact honce.of_eq rfl rfl rfl id
      | knownMatch => exact honce.of_eq rfl rfl rfl id
      | ran _ _ hmode' => simp [hmode] at hmode'
      | @missed result last hlive hroom hmemoize hentry hexec =>
          let first := ((st.enter slot start).reserve slot start).begin slot start
          have hsound : first.MemoSound env.source := hmemo.reserve
          have hbegun : first.RanOnce env := honce.begin hlive hentry hslot hstart
          have hrun : (env.Course start first last ∧ last.RanOnce env) ∧
              Body.Promise env.source start result := by
            refine (env.planOf_meets slot start).exec
              (I := fun s => env.Course start first s ∧ s.RanOnce env) ?_ ?_
              ⟨⟨hsound, .refl _ _⟩, hbegun⟩ hexec
            · rintro slot' offset s answer' s' hask ⟨hcourse, honce'⟩ hcall
              obtain ⟨hcourse', hreply⟩ := hcourse.ask (call_sound fuel) hask hcall
              have hpart := hclosed.parts slot slot' hask.1
              have hoffset : offset ≤ env.source.size := by
                rcases hask.2 with rfl | hoffset
                · exact hstart
                · exact hoffset.stop_le_size
              exact ⟨⟨hcourse', ih hpart hoffset hcourse.1 honce' hcall⟩, hreply⟩
            · rintro position error s hposition ⟨hcourse, honce'⟩
              exact ⟨hcourse.raise hposition, honce'.raise _⟩
          have hfinish := hrun.1.2.of_eq
            (State.ran_finish last slot start (env.grammar.name? slot) result) (by simp) (by simp)
            (by simp)
          exact hfinish.settle slot start result

/-- One step of a session ends and keeps the invariant. -/
private theorem step_ranOnce (hclosed : env.grammar.Closed) (hmode : env.options.memoize = true)
    (step : Step) (hstep : ∀ slot offset, step = .parse slot offset →
      slot < env.grammar.size ∧ env.source.isBoundary offset = true)
    {st : State} (hmemo : st.MemoSound env.source) (honce : st.RanOnce env) :
    ∃ reply st', env.step st step = some (reply, st') ∧
      st'.MemoSound env.source ∧ st'.RanOnce env := by
  cases step with
  | parse slot offset =>
      obtain ⟨hslot, hoffset⟩ := hstep slot offset rfl
      obtain ⟨answer, st', hcall⟩ := parse_ends hclosed (.inl hmode) hslot offset hmemo
      have hle := Source.le_size_of_isBoundary hoffset
      refine ⟨.parsed answer, st', by simp [Env.step, hcall], ?_, ?_⟩
      · exact (call_sound _ hmemo hcall).1.1
      · exact call_ranOnce hclosed hmode _ hslot hle hmemo honce hcall
  | abort offset message =>
      exact ⟨_, _, rfl, hmemo.of_eq (State.raise_memo _ _), honce.raise _⟩
  | locate offset => exact ⟨_, _, rfl, hmemo, honce⟩
  | diagnose offset => cases offset <;> exact ⟨_, _, rfl, hmemo, honce⟩
  | label slot => exact ⟨_, _, rfl, hmemo, honce⟩
  | inspect => exact ⟨_, _, rfl, hmemo, honce⟩

private theorem session_keeps (hclosed : env.grammar.Closed)
    (hmode : env.options.memoize = true) {steps : List Step}
    (hsteps : ∀ slot offset, .parse slot offset ∈ steps →
      slot < env.grammar.size ∧ env.source.isBoundary offset = true)
    {st : State} (hmemo : st.MemoSound env.source) (honce : st.RanOnce env) :
    ∃ replies last, env.session steps st = some (replies, last) ∧ last.RanOnce env := by
  induction steps generalizing st with
  | nil => exact ⟨[], st, rfl, honce⟩
  | cons step rest ih =>
      obtain ⟨reply, st', hreply, hmemo', honce'⟩ := step_ranOnce hclosed hmode step
        (fun slot offset h => hsteps slot offset (by simp [h])) hmemo honce
      obtain ⟨replies, last, hrest, hlast⟩ := ih
        (fun slot offset h => hsteps slot offset (List.mem_cons_of_mem _ h)) hmemo' honce'
      exact ⟨(reply, st'.view) :: replies, last, by simp [session, hreply, hrest], hlast⟩

/-- With memoization every session on a fresh state ends, as long as parsers of
the grammar are called at boundaries, however the parsers refer to each other:
all grammars that are laid out from rules are closed (`Grammar.build_closed`). No
body has run twice at one offset, each miss is a body that ran, and there are no
more of them than places for a parser. And no loop is cut short by the number of
rounds that it is given: with more of them it does the same. -/
theorem session_ranOnce (hclosed : env.grammar.Closed) (hmode : env.options.memoize = true)
    {steps : List Step} (hsteps : ∀ slot offset, .parse slot offset ∈ steps →
      slot < env.grammar.size ∧ env.source.isBoundary offset = true) :
    (∃ replies last, env.session steps {} = some (replies, last) ∧
      last.ran.Nodup ∧ last.misses = last.ran.length ∧
      last.misses ≤ env.grammar.size * (env.source.size + 1)) ∧
    ∀ {α β : Type} {round : Nat → Plan (Option (β × Nat))}, Body.Round round →
      ∀ (add : α → β → α) (fuel more : Nat) (total : α) (offset : Nat) (st : State),
        st.MemoSound env.source →
        (Plan.iterate round add (Body.budget env.source offset + more) total offset).exec
            env.options (env.call fuel) st =
          (Plan.iterate round add (Body.budget env.source offset) total offset).exec
            env.options (env.call fuel) st := by
  obtain ⟨replies, last, hsession, honce⟩ :=
    session_keeps hclosed hmode hsteps Reachable.fresh.memoSound (.fresh env)
  refine ⟨⟨replies, last, hsession, honce.nodup, honce.misses, honce.misses_le⟩, ?_⟩
  intro α β round hround add fuel more total offset st hmemo
  exact iterate_exec_budget hround add fuel more hmemo (Nat.lt_succ_self _)

/-- A rule that begins with itself: itself and an `x`, or an `x`. -/
def leftRecursive : Env where
  grammar := ⟨#[.choice 1 3, .sequence 2 3, .reference 0, .primitive (.char 'x')], [("xs", 0)]⟩
  source := .ofString "xx"
  options := {}

theorem leftRecursive_closed : leftRecursive.grammar.Closed := by decide

theorem session_ranOnce_leftRecursive :
    leftRecursive.grammar.Closed ∧ leftRecursive.options.memoize = true ∧
      ∃ replies last,
        leftRecursive.session [.parse 0 0, .parse 0 1] {} = some (replies, last) ∧
          last.ran.Nodup ∧ last.misses = last.ran.length ∧ last.misses ≤ 4 * (2 + 1) := by
  have hsteps : ∀ slot offset, .parse slot offset ∈ [Step.parse 0 0, .parse 0 1] →
      slot < leftRecursive.grammar.size ∧ leftRecursive.source.isBoundary offset = true := by
    intro slot offset hstep
    simp only [List.mem_cons, List.not_mem_nil, or_false, Step.parse.injEq] at hstep
    rcases hstep with ⟨rfl, rfl⟩ | ⟨rfl, rfl⟩ <;> decide
  exact ⟨leftRecursive_closed, rfl, (session_ranOnce leftRecursive_closed rfl hsteps).1⟩

end Env

end Packrat
