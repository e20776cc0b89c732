import Packrat.Proofs.PegRun
import Packrat.Proofs.SpanRun
/-!
# Calls of primitive parsers

A primitive asks nothing of other parsers, so what it finds depends on the source alone. What
the memo table holds of it is what it finds: a finding that ends the run is not remembered, and
then the run is not gone on with. So a call of a primitive comes to what the primitive finds,
in every state that a run may come to, whether it is answered from the memo table or not.

## Main definitions

* `State.Scanned` — what is remembered of primitives is what they find.

## Main results

* `Env.exec_primitive` — what the body of a primitive does.
* `Env.call_primitive` — what a call of a primitive is answered.
-/

namespace Packrat

/-- What may be remembered of a primitive at an offset is what it finds there. -/
def Memo.Scanned (src : Source) (p : Primitive) (start : Nat) : Memo → Prop
  | .inProgress => True
  | .failed => p.scan src start = .noMatch
  | .matched m => m.start = start ∧ p.scan src start = .found m.value m.stop

/-- What is remembered of primitives is what they find. -/
def State.Scanned (env : Env) (st : State) : Prop :=
  ∀ slot p, env.grammar.bodies[slot]? = some (.primitive p) → ∀ start memo,
    st.memo.find? slot start = some memo → memo.Scanned env.source p start

namespace State.Scanned

variable {env : Env} {st st' : State} {slot : SlotId} {offset : Nat}

theorem fresh (env : Env) : ({} : State).Scanned env := by
  intro slot p _ start memo hfind
  rw [State.find?_fresh] at hfind
  contradiction

theorem of_eq (h : st.Scanned env) (hmemo : st'.memo = st.memo) : st'.Scanned env := by
  unfold Scanned
  rw [hmemo]
  exact h

/-- An entry may be made if it is what a primitive in its slot finds. -/
theorem insert (h : st.Scanned env) {memo : Memo}
    (hentry : ∀ p, env.grammar.bodies[slot]? = some (.primitive p) →
      memo.Scanned env.source p offset) :
    State.Scanned env { st with memo := st.memo.insert slot offset memo } := by
  intro slot' p hslot start memo' hfind
  rw [MemoTable.find?_insert] at hfind
  split at hfind
  case isTrue hsame =>
    obtain ⟨rfl, rfl⟩ := hsame
    rw [← Option.some.inj hfind]
    exact hentry p hslot
  case isFalse => exact h slot' p hslot start memo' hfind

theorem reserve (h : st.Scanned env) : (st.reserve slot offset).Scanned env :=
  h.insert fun _ _ => trivial

/-- The entry of a parser that has run may be filled in if it is what a primitive in its slot
finds, or if the run has been ended. -/
theorem settle (h : st.Scanned env) {result : Option Match}
    (hresult : st.isAborted = false → ∀ p, env.grammar.bodies[slot]? = some (.primitive p) →
      (Memo.ofResult result).Scanned env.source p offset) :
    (st.settle slot offset result).Scanned env := by
  by_cases hended : st.isAborted = true
  · rw [settle_of_isAborted hended]
    intro slot' p hslot start memo hfind
    rw [MemoTable.find?_erase] at hfind
    split at hfind
    · contradiction
    · exact h slot' p hslot start memo hfind
  · have hlive := Bool.not_eq_true _ ▸ hended
    rw [settle_of_not_isAborted hlive]
    exact h.insert (hresult hlive)

end State.Scanned

namespace Env

variable {env : Env} {slot : SlotId} {p : Primitive} {start : Nat} {st : State}

/-- The body of a primitive comes to what the primitive finds. It leaves the state as it is,
unless it ends the run. -/
theorem exec_primitive (hslot : env.grammar.bodies[slot]? = some (.primitive p)) (call : Call)
    (start : Nat) (hlive : st.abort = none) :
    ∃ answer st', (env.planOf slot start).exec env.options call st = some (answer, st') ∧
      (Verdict.ofScan start (p.scan env.source start)).Reported start answer st' ∧
      (st'.abort = none → st' = st) := by
  simp only [planOf, hslot, Body.plan]
  cases p.scan env.source start with
  | noMatch => exact ⟨none, st, rfl, ⟨rfl, hlive⟩, fun _ => rfl⟩
  | found value stop => exact ⟨_, st, rfl, ⟨rfl, hlive⟩, fun _ => rfl⟩
  | overflow error =>
      have habort : (st.raise (.transform start (.number error))).abort =
          some (.transform start (.number error)) := by
        rw [State.raise_of_not_isAborted (by rw [State.isAborted, hlive]; rfl)]
      have hended : (st.raise (.transform start (.number error))).abort ≠ none :=
        habort ▸ Option.some_ne_none _
      exact ⟨none, _, rfl, ⟨rfl, habort⟩, fun hnone => absurd hnone hended⟩

/-- What the body of a primitive comes to may be remembered. -/
private theorem ofResult_scanned {answer : Option Match} {st' : State}
    (h : (Verdict.ofScan start (p.scan env.source start)).Reported start answer st')
    (hlive : st'.isAborted = false) :
    (Memo.ofResult answer).Scanned env.source p start := by
  cases hscan : p.scan env.source start with
  | noMatch =>
      rw [hscan] at h
      obtain ⟨rfl, -⟩ := h
      exact hscan
  | found value stop =>
      rw [hscan] at h
      obtain ⟨rfl, -⟩ := h
      exact ⟨rfl, hscan⟩
  | overflow error =>
      rw [hscan] at h
      obtain ⟨-, habort⟩ := h
      rw [State.isAborted, habort] at hlive
      contradiction

/-- A call remembers only what primitives find. -/
theorem call_scanned (fuel : Nat) {slot : SlotId} {start : Nat} {st st' : State}
    {answer : Option Match} (hst : st.Scanned env)
    (h : env.call fuel slot start st = some (answer, st')) : st'.Scanned env := by
  induction fuel generalizing slot start st answer st' with
  | zero => contradiction
  | succ fuel ih =>
      have hbody {first last : State} {result : Option Match} (hfirst : first.Scanned env)
          (hexec : (env.planOf slot start).exec env.options (env.call fuel) first =
            some (result, last)) : last.Scanned env :=
        ((Plan.meets_any _).exec (I := State.Scanned env)
          (fun _ hst hcall => ⟨ih hst hcall, fun _ _ => trivial⟩)
          (fun _ hst => hst.of_eq (State.raise_memo _ _)) hfirst hexec).1
      cases answer_eq_some_iff.1 h with
      | stopped => exact hst
      | refused => exact hst.of_eq (State.raise_memo _ _)
      | recursive | knownFailure | knownMatch => exact hst.of_eq rfl
      | ran _ _ _ hexec =>
          have hfirst : ((st.enter slot start).begin slot start).Scanned env := hst.of_eq rfl
          exact (hbody hfirst hexec).of_eq (State.finish_memo _ _ _ _ _)
      | @missed result last hlive _ _ _ hexec =>
          have hreserved : ((st.enter slot start).reserve slot start).Scanned env :=
            (hst.of_eq rfl : (st.enter slot start).Scanned env).reserve
          have hfirst : (((st.enter slot start).reserve slot start).begin slot start).Scanned env :=
            hreserved.of_eq rfl
          have hlast : last.Scanned env := hbody hfirst hexec
          have hnone : (((st.enter slot start).reserve slot start).begin slot start).abort = none :=
            show st.abort = none by simpa [State.isAborted] using hlive
          refine (hlast.of_eq (State.finish_memo _ _ _ _ _)).settle fun hgoes p hslot => ?_
          obtain ⟨result', last', hexec', hreported, -⟩ :=
            exec_primitive hslot (env.call fuel) start hnone
          rw [hexec] at hexec'
          obtain ⟨rfl, rfl⟩ := Prod.mk.inj (Option.some.inj hexec')
          exact ofResult_scanned hreported (by rwa [State.finish_isAborted] at hgoes)

/-- So it is at every moment in the course of a call. -/
theorem Visits.scanned {plan : Plan (Option Match)} {st' : State}
    (h : env.Visits slot start st plan st') (hst : st.Scanned env) : st'.Scanned env := by
  induction h with
  | ran => exact hst.of_eq rfl
  | missed => exact ((hst.of_eq rfl : (State.enter _ _ _).Scanned env).reserve).of_eq rfl
  | step _ hstep ih =>
      exact ((Plan.meets_any _).step (I := State.Scanned env)
        (fun _ hst hcall => ⟨call_scanned _ hst hcall, fun _ _ => trivial⟩)
        (fun _ hst => hst.of_eq (State.raise_memo _ _)) (ih hst) hstep).1
  | nested _ _ ih ih' => exact ih' (ih hst)

/-- In every state that a run may come to, what is remembered of primitives is what they
find. -/
theorem Reachable.scanned {st : State} (h : env.Reachable st) : st.Scanned env := by
  induction h with
  | fresh => exact .fresh env
  | called _ hcall ih => exact call_scanned _ ih hcall
  | aborted _ position error ih => exact ih.of_eq (State.raise_memo _ _)
  | visited _ hvisit ih => exact hvisit.scanned ih

/-- In every state that a run may come to and go on from, a call of a primitive is answered
what the primitive finds, if the depth limit leaves room for it and it is not running
already. -/
theorem call_primitive (hslot : env.grammar.bodies[slot]? = some (.primitive p)) (start : Nat)
    (hst : env.Reachable st) (hlive : st.abort = none) (hroom : env.atLimit st = none)
    (hidle : st.memo.find? slot start ≠ some .inProgress) {fuel : Nat} (hfuel : 0 < fuel) :
    ∃ answer st', env.call fuel slot start st = some (answer, st') ∧
      (Verdict.ofScan start (p.scan env.source start)).Reported start answer st' := by
  obtain ⟨fuel, rfl⟩ := Nat.exists_eq_add_one_of_ne_zero (Nat.pos_iff_ne_zero.1 hfuel)
  have hgoes : st.isAborted = false := by
    rw [State.isAborted, hlive]
    rfl
  cases hmode : env.options.memoize with
  | false =>
      have hnone : ((st.enter slot start).begin slot start).abort = none := hlive
      obtain ⟨answer, last, hexec, hreported, -⟩ :=
        exec_primitive hslot (env.call fuel) start hnone
      refine ⟨answer, _, answer_eq_some_iff.2 (.ran hgoes hroom hmode hexec), ?_⟩
      rw [Verdict.reported_iff] at hreported ⊢
      rwa [State.finish_abort]
  | true =>
      cases hentry : st.memo.find? slot start with
      | none =>
          have hnone : (((st.enter slot start).reserve slot start).begin slot start).abort = none :=
            hlive
          obtain ⟨answer, last, hexec, hreported, -⟩ :=
            exec_primitive hslot (env.call fuel) start hnone
          refine ⟨_, _, answer_eq_some_iff.2 (.missed hgoes hroom hmode hentry hexec), ?_⟩
          rw [State.finish_isAborted, hreported.held]
          rw [Verdict.reported_iff] at hreported ⊢
          rwa [State.settle_abort, State.finish_abort]
      | some memo =>
          have hscanned := hst.scanned slot p hslot start memo hentry
          cases memo with
          | inProgress => exact absurd hentry hidle
          | failed =>
              refine ⟨none, _, answer_eq_some_iff.2 (.knownFailure hgoes hroom hmode hentry), ?_⟩
              rw [show p.scan env.source start = .noMatch from hscanned]
              exact ⟨rfl, hlive⟩
          | matched m =>
              refine ⟨some m, _, answer_eq_some_iff.2 (.knownMatch hgoes hroom hmode hentry), ?_⟩
              obtain ⟨hstart, hscan⟩ := hscanned
              rw [hscan]
              exact ⟨by rw [← hstart], hlive⟩

end Env

end Packrat
