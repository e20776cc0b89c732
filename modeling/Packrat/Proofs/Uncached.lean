import Packrat.Proofs.Simulation
/-!
# Runs without memoization

Without memoization a call does what evaluation says, from every state of a run
that goes on: the state has no part in whether a parser matches. A call ends just
when the parser is evaluated at some height that the depth limit has room for.

## Main results

* `Env.call_of_eval` — a parser that is evaluated is answered.
* `Env.eval_of_call` — a parser that is answered is evaluated, unless the depth
  limit has ended the run.
-/

namespace Packrat

namespace Env

variable {env : Env}

/-- There is room for a number of parsers, each inside the last. -/
def Room (env : Env) (height : Nat) (st : State) : Prop :=
  ∀ limit, env.options.maxDepth = some limit → st.depth + height ≤ limit

/-- Without a depth limit there is always room. -/
theorem Room.of_unlimited (hlimit : env.options.maxDepth = none) (height : Nat) (st : State) :
    env.Room height st := by
  intro limit hsome
  rw [hlimit] at hsome
  contradiction

/-- Where there is room for a parser, those inside it have room one level deeper. -/
theorem Room.below {height : Nat} {st first : State} (h : env.Room (height + 1) st)
    (hdepth : first.depth = st.depth + 1) : env.Room height first := by
  intro limit hlimit
  have hle := h limit hlimit
  omega

theorem Room.atLimit {height : Nat} {st : State} (h : env.Room (height + 1) st) :
    env.atLimit st = none := by
  refine atLimit_eq_none_iff.2 fun limit hlimit => ?_
  have hle := h limit hlimit
  omega

theorem Room.mono {height height' : Nat} {st : State} (h : env.Room height st)
    (hle : height' ≤ height) : env.Room height' st := by
  intro limit hlimit
  have hroom := h limit hlimit
  omega

/-- Without memoization a parser that is evaluated is answered as evaluation says. -/
theorem call_of_eval (hfree : env.grammar.StateFree) (hmode : env.options.memoize = false)
    (height : Nat) {fuel : Nat} {slot : SlotId} {offset : Nat} {st : State}
    {ending : Ending (Option Match)} {failures : List Failure} (hfuel : height < fuel)
    (hroom : env.Room height st) (hlive : st.abort = none)
    (h : env.eval height slot offset = some (ending, failures)) :
    ∃ answer st', env.call fuel slot offset st = some (answer, st') ∧
      ending.Leads failures st answer st' := by
  induction height generalizing fuel slot offset st ending failures with
  | zero => contradiction
  | succ height ih =>
      obtain ⟨before, hplan, rfl⟩ := eval_succ_eq_some_iff.1 h
      cases fuel with
      | zero => omega
      | succ fuel =>
      let first := (st.enter slot offset).begin slot offset
      have hdepth : first.depth = st.depth + 1 := rfl
      have hgoes : st.isAborted = false := by simp [State.isAborted, hlive]
      obtain ⟨fuel, rfl⟩ : ∃ below, fuel = below + 1 := ⟨fuel - 1, by omega⟩
      have hbelow : height < fuel + 1 := by omega
      have hcall {slot' : SlotId} {offset' : Nat} {st' : State} {ending' : Ending (Option Match)}
          {failures' : List Failure} (hst' : env.Room height st') (hlive' : st'.abort = none)
          (heval : env.eval height slot' offset' = some (ending', failures')) :
          ∃ answer st'', env.call (fuel + 1) slot' offset' st' = some (answer, st'') ∧
            ending'.Leads failures' st' answer st'' ∧
            (st''.abort = none → env.Room height st'') := by
        obtain ⟨answer, st'', hanswer, hleads⟩ := ih hbelow hst' hlive' heval
        refine ⟨answer, st'', hanswer, hleads, fun _ limit hlimit => ?_⟩
        rw [hleads.depth]
        exact hst' limit hlimit
      obtain ⟨result, last, hexec, hleads, -⟩ := Plan.exec_of_eval hcall
        (fun hended slot' offset' => call_of_isAborted hended fuel slot' offset')
        (env.planOf_heedsEnd slot offset) (planOf_blind hfree slot offset)
        (hroom.below hdepth) (show first.abort = none from hlive) hplan
      exact ⟨_, _, answer_eq_some_iff.2 (.ran hgoes hroom.atLimit hmode hexec),
        hleads.finish env slot offset hdepth rfl⟩

/-! ## From runs to evaluation -/

/-- How many parsers a call with some fuel may nest from a depth on. -/
def height (env : Env) (fuel depth : Nat) : Nat :=
  match env.options.maxDepth with
  | none => fuel
  | some limit => min fuel (limit - depth)

theorem height_succ {fuel : Nat} {st : State} (hroom : env.atLimit st = none) :
    env.height (fuel + 1) st.depth = env.height fuel (st.depth + 1) + 1 := by
  have hbelow := atLimit_eq_none_iff.1 hroom
  unfold height
  cases hlimit : env.options.maxDepth with
  | none => rfl
  | some limit =>
      have hlt := hbelow limit hlimit
      simp only
      omega

/-- The limit has room for as many parsers. -/
theorem room_height (env : Env) {fuel : Nat} {st : State}
    (hdepth : ∀ limit, env.options.maxDepth = some limit → st.depth ≤ limit) :
    env.Room (env.height fuel st.depth) st := by
  intro limit hlimit
  have hle := hdepth limit hlimit
  simp only [height, hlimit]
  omega

theorem height_le (env : Env) (fuel depth : Nat) : env.height fuel depth ≤ fuel := by
  unfold height
  split
  · exact Nat.le_refl _
  · exact Nat.min_le_left _ _

/-- Without memoization a parser that is answered is evaluated in the same way,
unless the depth limit has ended the run. -/
theorem eval_of_call (hfree : env.grammar.StateFree) (hmode : env.options.memoize = false)
    (fuel : Nat) {slot : SlotId} {offset : Nat} {st st' : State} {answer : Option Match}
    (hlive : st.abort = none) (h : env.call fuel slot offset st = some (answer, st'))
    (hlimit : st'.WithinLimit) :
    ∃ ending failures, env.eval (env.height fuel st.depth) slot offset =
        some (ending, failures) ∧ ending.Leads failures st answer st' := by
  induction fuel generalizing slot offset st answer st' with
  | zero => contradiction
  | succ fuel ih =>
      have hgoes : st.isAborted = false := by simp [State.isAborted, hlive]
      cases answer_eq_some_iff.1 h with
      | stopped hended => simp [hgoes] at hended
      | @refused limit =>
          have hentered : (st.enter slot offset).isAborted = false := hgoes
          refine absurd ?_ (hlimit limit offset)
          rw [State.raise_of_not_isAborted hentered]
      | recursive _ _ hmode' => simp [hmode] at hmode'
      | knownFailure _ _ hmode' => simp [hmode] at hmode'
      | knownMatch _ _ hmode' => simp [hmode] at hmode'
      | missed _ _ hmode' => simp [hmode] at hmode'
      | @ran _ last _ hroom _ hexec =>
          have hlast : last.WithinLimit := by
            intro limit position
            have hstays := hlimit limit position
            rwa [State.finish_abort] at hstays
          have hcall {slot' : SlotId} {offset' : Nat} {s s' : State} {answer' : Option Match}
              (hdepth : s.depth = st.depth + 1) (hlive' : s.abort = none)
              (hanswer : env.call fuel slot' offset' s = some (answer', s'))
              (hlimit' : s'.WithinLimit) :
              ∃ ending failures, env.eval (env.height fuel (st.depth + 1)) slot' offset' =
                  some (ending, failures) ∧ ending.Leads failures s answer' s' ∧
                (s'.abort = none → s'.depth = st.depth + 1) := by
            obtain ⟨ending, failures, heval, hleads⟩ := ih hlive' hanswer hlimit'
            rw [hdepth] at heval
            exact ⟨ending, failures, heval, hleads, fun _ => hleads.depth.trans hdepth⟩
          let first := (st.enter slot offset).begin slot offset
          have hdepth : first.depth = st.depth + 1 := rfl
          obtain ⟨ending, before, hplan, hleads⟩ :=
            Plan.eval_of_exec (I := fun s => s.depth = st.depth + 1) (env.call_quiet fuel)
              hcall (env.planOf_heedsEnd slot offset) (planOf_blind hfree slot offset)
              hdepth hlive hexec hlast
          have hfinish := hleads.finish env slot offset hdepth (rfl : first.frontier = st.frontier)
          refine ⟨ending, before ++ env.failures slot offset ending, ?_, hfinish⟩
          rw [height_succ hroom]
          exact eval_succ_eq_some_iff.2 ⟨before, hplan, rfl⟩

end Env

end Packrat
