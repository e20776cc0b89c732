import Packrat.Proofs.Stateless
/-!
# Runs as evaluation says

A run of the engine ends as evaluation says: it gives the evaluated answer, or it
is ended by the evaluated abort, and the deepest failure is what the evaluated
failures make of it. `Ending.Leads` states this for a state and the one after it.

Here the statement is carried from calls to the bodies that make them, in both
directions: from evaluation to runs, and from runs to evaluation.

## Main results

* `Plan.exec_of_eval` — a plan that is evaluated is carried out as evaluation says.
* `Plan.eval_of_exec` — a plan that is carried out is evaluated, unless the depth
  limit has ended the run.
-/

namespace Packrat

/-- The depth limit has not ended the run. -/
def State.WithinLimit (st : State) : Prop :=
  ∀ limit position, st.abort ≠ some (.recursionLimit limit position)

theorem State.withinLimit_of_live {st : State} (h : st.abort = none) : st.WithinLimit := by
  intro limit position
  rw [h]
  simp

namespace Ending

/-- The answer that is given. -/
def answer : Ending (Option Match) → Option Match
  | .done result => result
  | .abort _ _ => none

/-- The abort that ends the run. -/
def abort? : Ending (Option Match) → Option Abort
  | .done _ => none
  | .abort position error => some (.transform position error)

/-- A run has come from one state to another and given an answer, as an ending and
the failures on the way say. -/
structure Leads (ending : Ending (Option Match)) (failures : List Failure) (st : State)
    (answer : Option Match) (st' : State) : Prop where
  depth : st'.depth = st.depth
  frontier : st'.frontier = st.frontier.recordAll failures
  abort : st'.abort = ending.abort?
  answer : answer = ending.answer

namespace Leads

variable {ending : Ending (Option Match)} {failures : List Failure} {st st₁ st' : State}
  {result : Option Match}

/-- A result without further ado. -/
theorem done (hlive : st.abort = none) (result : Option Match) :
    (Ending.done result).Leads [] st result st :=
  ⟨rfl, rfl, hlive, rfl⟩

/-- What follows an answer follows the failures on the way to it. -/
theorem after {answer : Option Match} {before : List Failure}
    (hanswer : (Ending.done answer).Leads before st answer st₁)
    (hrest : ending.Leads failures st₁ result st') :
    ending.Leads (before ++ failures) st result st' := by
  refine ⟨hrest.depth.trans hanswer.depth, ?_, hrest.abort, hrest.answer⟩
  rw [hrest.frontier, hanswer.frontier, Frontier.recordAll_append]

/-- A run that is ended by a body. -/
theorem raise (hlive : st.abort = none) (position : Nat) (error : TransformError) :
    (Ending.abort position error).Leads [] st none (st.raise (.transform position error)) := by
  have hgoes : st.isAborted = false := by simp [State.isAborted, hlive]
  refine ⟨State.raise_depth _ _, ?_, ?_, rfl⟩
  · rw [State.raise_of_not_isAborted hgoes]
    rfl
  · rw [State.raise_of_not_isAborted hgoes]
    rfl

/-- An answer that was given comes with a state that goes on. -/
theorem isAborted_eq (h : ending.Leads failures st result st') :
    st'.isAborted = ending.abort?.isSome := by
  rw [State.isAborted, h.abort]

/-- A body has come back: its own failure follows those on the way. -/
theorem finish {first last : State} (h : ending.Leads failures first result last) (env : Env)
    (slot : SlotId) (offset : Nat) (hdepth : first.depth = st.depth + 1)
    (hfrontier : first.frontier = st.frontier) :
    ending.Leads (failures ++ env.failures slot offset ending) st result
      (last.finish slot offset (env.grammar.name? slot) result) := by
  refine ⟨?_, ?_, (State.finish_abort _ _ _ _ _).trans h.abort, h.answer⟩
  · rw [State.finish_depth, h.depth, hdepth]
    exact Nat.add_sub_cancel _ _
  · have hlast := h.frontier
    rw [hfrontier] at hlast
    obtain rfl := h.answer
    cases ending with
    | abort position error =>
        rw [State.finish_of_not_failed (.inr h.isAborted_eq)]
        show last.frontier = _
        rw [hlast, Env.failures, List.append_nil]
    | done result =>
        cases result with
        | some m =>
            rw [State.finish_of_not_failed (.inl rfl)]
            show last.frontier = _
            rw [hlast, Env.failures, List.append_nil]
        | none =>
            have hlive : last.isAborted = false := h.isAborted_eq
            have hback : State.frontier { last with depth := last.depth - 1 } = last.frontier :=
              rfl
            rw [show Ending.answer (.done none) = none from rfl, State.finish_none hlive,
              State.recordFailure_frontier, hback, hlast, Env.failures,
              Frontier.recordAll_append]
            rfl

end Leads

end Ending

namespace Plan

variable {options : Options} {oracle : Oracle} {call : Call}

/-- A plan that is evaluated is carried out as evaluation says, if calls are
answered as the oracle says from the states of an invariant. -/
theorem exec_of_eval {I : State → Prop}
    (hcall : ∀ {slot offset st ending failures}, I st → st.abort = none →
      oracle slot offset = some (ending, failures) →
      ∃ answer st', call slot offset st = some (answer, st') ∧
        ending.Leads failures st answer st' ∧ (st'.abort = none → I st'))
    (hended : ∀ {st : State}, st.isAborted = true →
      ∀ slot offset, call slot offset st = some (none, st))
    {plan : Plan (Option Match)} (hheeds : plan.HeedsEnd (· = none)) (hblind : plan.Blind)
    {st : State} (hst : I st) (hlive : st.abort = none) {ending : Ending (Option Match)}
    {failures : List Failure} (h : plan.eval oracle = some (ending, failures)) :
    ∃ result st', plan.exec options call st = some (result, st') ∧
      ending.Leads failures st result st' ∧ (st'.abort = none → I st') := by
  induction plan generalizing st ending failures with
  | done result =>
      obtain ⟨rfl, rfl⟩ := Prod.mk.inj (Option.some.inj h)
      exact ⟨result, st, rfl, .done hlive result, fun _ => hst⟩
  | abort position error plan ih =>
      obtain ⟨rfl, rfl⟩ := Prod.mk.inj (Option.some.inj h)
      have hraised := Ending.Leads.raise hlive position error
      obtain ⟨result, hexec, rfl⟩ := AfterEnd.exec_ends (hended (State.raise_isAborted st _))
        (State.raise_isAborted st _) hheeds
      refine ⟨none, _, hexec, hraised, fun hgoes => ?_⟩
      rw [hraised.abort] at hgoes
      contradiction
  | ask slot offset resume ih =>
      simp only [eval] at h
      split at h
      · contradiction
      case h_2 position error before hanswer =>
        obtain ⟨rfl, rfl⟩ := Prod.mk.inj (Option.some.inj h)
        obtain ⟨answer, st₁, hask, hleads, -⟩ := hcall hst hlive hanswer
        obtain rfl : answer = none := hleads.answer
        have hover : st₁.isAborted = true := hleads.isAborted_eq
        obtain ⟨result, hexec, rfl⟩ : ∃ result, (resume none).exec options call st₁ =
            some (result, st₁) ∧ result = none := AfterEnd.exec_ends (hended hover) hover hheeds.1
        refine ⟨none, st₁, by simp only [Plan.exec, hask, hexec], hleads, fun hgoes => ?_⟩
        rw [hleads.abort] at hgoes
        contradiction
      case h_3 answer before hanswer =>
        split at h
        · contradiction
        case h_2 ending' rest hrest =>
          obtain ⟨rfl, rfl⟩ := Prod.mk.inj (Option.some.inj h)
          obtain ⟨answer', st₁, hask, hleads, hst₁⟩ := hcall hst hlive hanswer
          obtain rfl : answer' = answer := hleads.answer
          obtain ⟨result, st', hexec, hleads', hst'⟩ :=
            ih answer' (hheeds.2 answer') (hblind answer') (hst₁ hleads.abort) hleads.abort hrest
          refine ⟨result, st', ?_, hleads.after hleads', hst'⟩
          simp only [Plan.exec, hask, hexec]
  | look resume ih =>
      simp only [Plan.exec]
      rw [hblind.1]
      exact ih .blank (hheeds .blank) hblind.2 hst hlive h
  | ended resume ih =>
      have hgoes : st.isAborted = false := by simp [State.isAborted, hlive]
      simp only [Plan.exec, hgoes]
      exact ih false hheeds hblind hst hlive h

/-- A plan that is carried out is evaluated with an oracle that knows how calls
are answered, unless the depth limit has ended the run. -/
theorem eval_of_exec {I : State → Prop} (hquiet : call.Quiet)
    (hcall : ∀ {slot offset st answer st'}, I st → st.abort = none →
      call slot offset st = some (answer, st') → st'.WithinLimit →
      ∃ ending failures, oracle slot offset = some (ending, failures) ∧
        ending.Leads failures st answer st' ∧ (st'.abort = none → I st'))
    {plan : Plan (Option Match)} (hheeds : plan.HeedsEnd (· = none)) (hblind : plan.Blind)
    {st st' : State} (hst : I st) (hlive : st.abort = none) {result : Option Match}
    (h : plan.exec options call st = some (result, st')) (hlimit : st'.WithinLimit) :
    ∃ ending failures, plan.eval oracle = some (ending, failures) ∧
      ending.Leads failures st result st' := by
  induction plan generalizing st with
  | done result' =>
      obtain ⟨rfl, rfl⟩ := Prod.mk.inj (Option.some.inj h)
      exact ⟨_, _, rfl, .done hlive result'⟩
  | abort position error plan ih =>
      obtain ⟨rfl, rfl⟩ := AfterEnd.of_exec hquiet (State.raise_isAborted st _) hheeds h
      exact ⟨_, _, rfl, .raise hlive position error⟩
  | ask slot offset resume ih =>
      simp only [Plan.exec] at h
      split at h
      · contradiction
      case h_2 answer st₁ hask =>
        cases habort : st₁.abort with
        | none =>
            obtain ⟨ending, before, horacle, hleads, hst₁⟩ :=
              hcall hst hlive hask (State.withinLimit_of_live habort)
            -- The run goes on, so what was asked for has not ended in an abort.
            cases ending with
            | abort position error =>
                have hover := hleads.abort
                rw [habort] at hover
                contradiction
            | done answer' =>
                obtain rfl : answer = answer' := hleads.answer
                obtain ⟨ending, rest, hrest, hleads'⟩ :=
                  ih answer (hheeds.2 answer) (hblind answer) (hst₁ habort) habort h
                refine ⟨ending, before ++ rest, ?_, hleads.after hleads'⟩
                simp only [eval, horacle, hrest]
        | some abort =>
            have hover : st₁.isAborted = true := by simp [State.isAborted, habort]
            obtain rfl : answer = none := (hquiet hask).2 hover
            obtain ⟨rfl, rfl⟩ := AfterEnd.of_exec hquiet hover hheeds.1 h
            obtain ⟨ending, before, horacle, hleads, -⟩ := hcall hst hlive hask hlimit
            cases ending with
            | done answer' =>
                have hgoes := hleads.abort
                rw [habort] at hgoes
                contradiction
            | abort position error =>
                refine ⟨.abort position error, before, ?_, hleads⟩
                simp only [eval, horacle]
  | look resume ih =>
      simp only [Plan.exec] at h
      rw [hblind.1] at h
      exact ih .blank (hheeds .blank) hblind.2 hst hlive h
  | ended resume ih =>
      have hgoes : st.isAborted = false := by simp [State.isAborted, hlive]
      simp only [Plan.exec, hgoes] at h
      exact ih false hheeds hblind hst hlive h

end Plan

end Packrat
