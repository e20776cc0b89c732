import Packrat.Proofs.CallRule
/-!
# Early ends

A plan is not cut off when the run ends early; from then on all its questions
are answered with no match. A body must not make a match out of that. Here all
bodies are shown to heed an early end: whatever question the run ends in, and
also where the body itself ends the run, the body yields nothing.

So a run that has ended early stands still: no call changes the state, and no
body has a result.

## Main results

* `Body.plan_heedsEnd` — every body heeds an early end.
* `Env.call_quiet` — a call after the end of a run leaves the state as it is, and
  a call that the run ends in has no match.
-/

namespace Packrat

/-- Calls after the end of a run leave the state as it is, and calls that the run
ends in have no match. -/
def Call.Quiet (call : Call) : Prop :=
  ∀ ⦃slot offset st answer st'⦄, call slot offset st = some (answer, st') →
    (st.isAborted = true → st' = st) ∧ (st'.isAborted = true → answer = none)

namespace Plan

variable {α β : Type}

/-- What a plan yields when the run has ended early. -/
def AfterEnd (post : α → Prop) : Plan α → Prop
  | .done result => post result
  | .abort _ _ plan => plan.AfterEnd post
  | .ask _ _ resume => (resume none).AfterEnd post
  | .look resume => ∀ snapshot, (resume snapshot).AfterEnd post
  | .ended resume => (resume true).AfterEnd post

/-- What a plan that begins in a run that goes on yields when the run ends early
in one of its questions or by itself. -/
def HeedsEnd (post : α → Prop) : Plan α → Prop
  | .done _ => True
  | .abort _ _ plan => plan.AfterEnd post
  | .ask _ _ resume => (resume none).AfterEnd post ∧ ∀ answer, (resume answer).HeedsEnd post
  | .look resume => ∀ snapshot, (resume snapshot).HeedsEnd post
  | .ended resume => (resume false).HeedsEnd post

namespace AfterEnd

/-- Nothing needs to be said of a result. -/
theorem trivial (plan : Plan α) : plan.AfterEnd fun _ => True := by
  induction plan with
  | done result => exact True.intro
  | abort position error plan ih => exact ih
  | ask slot offset resume ih => exact ih none
  | look resume ih => exact ih
  | ended resume ih => exact ih true

theorem bind {mid : α → Prop} {post : β → Prop} {plan : Plan α} {next : α → Plan β}
    (hplan : plan.AfterEnd mid) (hnext : ∀ result, mid result → (next result).AfterEnd post) :
    (plan.bind next).AfterEnd post := by
  induction plan with
  | done result => exact hnext result hplan
  | abort position error plan ih => exact ih hplan
  | ask slot offset resume ih => exact ih none hplan
  | look resume ih => exact fun snapshot => ih snapshot (hplan snapshot)
  | ended resume ih => exact ih true hplan

/-- A plan that is carried out after the end of a run leaves the state as it is. -/
theorem of_exec {options : Options} {call : Call} {post : α → Prop} {plan : Plan α}
    {st st' : State} {result : α} (hcall : call.Quiet) (hended : st.isAborted = true)
    (hplan : plan.AfterEnd post) (h : plan.exec options call st = some (result, st')) :
    st' = st ∧ post result := by
  induction plan with
  | done result' =>
      obtain ⟨rfl, rfl⟩ := Prod.mk.inj (Option.some.inj h)
      exact ⟨rfl, hplan⟩
  | abort position error plan ih =>
      simp only [Plan.exec, State.raise_of_isAborted hended] at h
      exact ih hplan h
  | ask slot offset resume ih =>
      simp only [Plan.exec] at h
      split at h
      · contradiction
      case h_2 answer st₁ hanswer =>
        obtain ⟨hstay, hnone⟩ := hcall hanswer
        obtain rfl := hstay hended
        obtain rfl := hnone hended
        exact ih none hplan h
  | look resume ih => exact ih _ (hplan _) h
  | ended resume ih =>
      simp only [Plan.exec, hended] at h
      exact ih true hplan h

/-- A plan that is carried out after the end of a run comes to its end if calls
are answered. -/
theorem exec_ends {options : Options} {call : Call} {post : α → Prop} {plan : Plan α}
    {st : State} (hcall : ∀ slot offset, call slot offset st = some (none, st))
    (hended : st.isAborted = true) (hplan : plan.AfterEnd post) :
    ∃ result, plan.exec options call st = some (result, st) ∧ post result := by
  induction plan with
  | done result => exact ⟨result, rfl, hplan⟩
  | abort position error plan ih =>
      simp only [Plan.exec, State.raise_of_isAborted hended]
      exact ih hplan
  | ask slot offset resume ih =>
      simp only [Plan.exec, hcall slot offset]
      exact ih none hplan
  | look resume ih => exact ih _ (hplan _)
  | ended resume ih =>
      simp only [Plan.exec, hended]
      exact ih true hplan

end AfterEnd

namespace HeedsEnd

theorem bind {mid : α → Prop} {post : β → Prop} {plan : Plan α} {next : α → Plan β}
    (hplan : plan.HeedsEnd mid) (hafter : ∀ result, mid result → (next result).AfterEnd post)
    (hnext : ∀ result, (next result).HeedsEnd post) : (plan.bind next).HeedsEnd post := by
  induction plan with
  | done result => exact hnext result
  | abort position error plan ih => exact AfterEnd.bind hplan hafter
  | ask slot offset resume ih =>
      exact ⟨AfterEnd.bind hplan.1 hafter, fun answer => ih answer (hplan.2 answer)⟩
  | look resume ih => exact fun snapshot => ih snapshot (hplan snapshot)
  | ended resume ih => exact ih false hplan

/-- No match is passed on as no match. -/
theorem attempt {slot : SlotId} {offset : Nat} {next : Match → Plan (Option β)}
    (hnext : ∀ m, (next m).HeedsEnd (· = none)) :
    (Plan.attempt slot offset next).HeedsEnd (· = none) := by
  refine ⟨rfl, fun answer => ?_⟩
  cases answer with
  | none => exact True.intro
  | some m => exact hnext m

theorem run {slot : SlotId} {offset : Nat} :
    (Plan.run slot offset).HeedsEnd (· = none) := ⟨rfl, fun _ => True.intro⟩

/-- Rounds break off at an early end, and what they yield then does not matter. -/
theorem iterate {round : Nat → Plan (Option (β × Nat))} {add : α → β → α}
    (hround : ∀ offset, (round offset).HeedsEnd (· = none)) (budget : Nat) (total : α)
    (offset : Nat) : (Plan.iterate round add budget total offset).HeedsEnd fun _ => True := by
  induction budget generalizing total offset with
  | zero => exact True.intro
  | succ budget ih =>
      refine (hround offset).bind (fun _ _ => .trivial _) fun answer => ?_
      cases answer with
      | none => exact True.intro
      | some found =>
          obtain ⟨found, stop⟩ := found
          by_cases hle : stop ≤ offset
          · simp only [hle, if_true]
            exact True.intro
          · simp only [hle, if_false]
            exact ih (add total found) stop

/-- A result that is held back when the run has ended is safe after any plan. -/
theorem bind_unlessEnded {plan : Plan α} {result : α → Option β}
    (hplan : plan.HeedsEnd fun _ => True) :
    (plan.bind fun total => Plan.unlessEnded (result total)).HeedsEnd (· = none) :=
  hplan.bind (fun _ _ => rfl) fun _ => True.intro

/-- A plan that the run ends in yields what it has to. -/
theorem exec {options : Options} {call : Call} {post : α → Prop} {plan : Plan α}
    {st st' : State} {result : α} (hcall : call.Quiet) (hlive : st.isAborted = false)
    (hplan : plan.HeedsEnd post) (h : plan.exec options call st = some (result, st'))
    (hended : st'.isAborted = true) : post result := by
  induction plan generalizing st with
  | done result' =>
      obtain ⟨rfl, rfl⟩ := Prod.mk.inj (Option.some.inj h)
      rw [hlive] at hended
      contradiction
  | abort position error plan ih =>
      exact (AfterEnd.of_exec hcall (State.raise_isAborted st _) hplan h).2
  | ask slot offset resume ih =>
      simp only [Plan.exec] at h
      split at h
      · contradiction
      case h_2 answer st₁ hanswer =>
        cases hover : st₁.isAborted with
        | true =>
            obtain rfl := (hcall hanswer).2 hover
            exact (AfterEnd.of_exec hcall hover hplan.1 h).2
        | false => exact ih answer hover (hplan.2 answer) h
  | look resume ih => exact ih _ hlive (hplan _) h
  | ended resume ih =>
      simp only [Plan.exec, hlive] at h
      exact ih false hlive hplan h

end HeedsEnd

end Plan

namespace Body

variable {src : Source} {start : Nat}

private theorem single_heedsEnd (inner : SlotId) (offset : Nat) :
    (single inner offset).HeedsEnd (· = none) :=
  .attempt fun _ => True.intro

private theorem pair_heedsEnd (first second : SlotId) (offset : Nat) :
    (pair first second offset).HeedsEnd (· = none) :=
  .attempt fun _ => .attempt fun _ => True.intro

/-- Every body heeds an early end: it yields nothing. -/
theorem plan_heedsEnd (body : Body) : (body.plan src start).HeedsEnd (· = none) := by
  cases body with
  | primitive p =>
      simp only [plan]
      split
      · exact True.intro
      · exact True.intro
      · exact rfl
  | sequence first second => exact .attempt fun _ => .attempt fun _ => True.intro
  | choice first second =>
      refine ⟨rfl, fun answer => ?_⟩
      cases answer with
      | none => exact .run
      | some m => exact True.intro
  | lookahead inner => exact .attempt fun _ => True.intro
  | negation inner =>
      refine ⟨rfl, fun answer => ?_⟩
      cases answer <;> exact True.intro
  | optional inner =>
      refine ⟨rfl, fun answer => ?_⟩
      cases answer <;> exact True.intro
  | zeroOrMore inner => exact .bind_unlessEnded (.iterate (single_heedsEnd inner) _ _ _)
  | oneOrMore inner =>
      refine Plan.HeedsEnd.bind (.iterate (single_heedsEnd inner) _ _ _) ?_ ?_
      · rintro ⟨values, stop⟩ -
        cases values <;> exact rfl
      · rintro ⟨values, stop⟩
        cases values <;> exact True.intro
  | map make inner => exact .attempt fun _ => True.intro
  | mapInRun make inner => exact .attempt fun _ _ => True.intro
  | tryMap make inner =>
      refine .attempt fun m => ?_
      split
      · exact True.intro
      · exact rfl
  | filter accepts description inner => exact .attempt fun _ => True.intro
  | named name inner => exact .run
  | reference cell => exact .run
  | leftAssociative combine term operator =>
      exact .attempt fun _ => .bind_unlessEnded (.iterate (pair_heedsEnd operator term) _ _ _)
  | foldLeft apply term operation =>
      exact .attempt fun _ => .bind_unlessEnded (.iterate (single_heedsEnd operation) _ _ _)
  | between opening content closing =>
      exact .attempt fun _ => .attempt fun _ => .attempt fun _ => True.intro
  | separated item separator =>
      exact .attempt fun _ => .bind_unlessEnded (.iterate (pair_heedsEnd separator item) _ _ _)

end Body

namespace Env

variable {env : Env}

theorem planOf_heedsEnd (env : Env) (slot : SlotId) (start : Nat) :
    (env.planOf slot start).HeedsEnd (· = none) := by
  unfold planOf
  cases env.grammar.bodies[slot]? with
  | none => exact True.intro
  | some body => exact body.plan_heedsEnd

/-- A call after the end of a run is answered at once. -/
theorem call_of_isAborted {st : State} (hended : st.isAborted = true) (fuel : Nat)
    (slot : SlotId) (offset : Nat) : env.call (fuel + 1) slot offset st = some (none, st) :=
  answer_eq_some_iff.2 (.stopped hended)

/-- After the end of a run calls leave the state as it is, and calls that the run
ends in have no match. -/
theorem call_quiet (env : Env) (fuel : Nat) : (env.call fuel).Quiet := by
  induction fuel with
  | zero =>
      intro slot offset st answer st' h
      contradiction
  | succ fuel ih =>
      intro slot offset st answer st' h
      have hheeds := env.planOf_heedsEnd slot offset
      cases answer_eq_some_iff.1 h with
      | stopped => exact ⟨fun _ => rfl, fun _ => rfl⟩
      | refused hlive => exact ⟨by simp [hlive], fun _ => rfl⟩
      | recursive hlive => exact ⟨by simp [hlive], fun _ => rfl⟩
      | knownFailure hlive => exact ⟨by simp [hlive], fun _ => rfl⟩
      | knownMatch hlive =>
          refine ⟨by simp [hlive], fun hended => ?_⟩
          have hgoes : (st.enter slot offset).hit.isAborted = false := hlive
          rw [hgoes] at hended
          contradiction
      | ran hlive _ _ hexec =>
          refine ⟨by simp [hlive], fun hended => ?_⟩
          rw [State.finish_isAborted] at hended
          have hnone := hheeds.exec ih (by simpa using hlive) hexec hended
          exact hnone
      | missed hlive =>
          refine ⟨by simp [hlive], fun hended => ?_⟩
          rw [State.settle_isAborted] at hended
          rw [if_pos hended]

end Env

end Packrat
