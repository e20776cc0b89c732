import Packrat.Proofs.Moment
/-!
# Calls by steps

The engine answers a call by recursion, with fuel for the calls that may be nested;
steps go on as long as there is something to do. Both come to the same: a call ends
with some fuel just when its steps come to an answer, and then the answer and the
state are the same.

## Main results

* `Env.call_passes` — a call that ends does so by steps.
* `Env.call_of_passes` — a call that comes to an answer by steps ends.
* `Env.calls_passes` — calls one after another end by steps.
-/

namespace Packrat

namespace Env

variable {env : Env}

/-- A run comes from one moment to another. -/
def ComesTo (env : Env) (m m' : Moment) : Prop := ∃ passed, env.Passes m passed m'

namespace ComesTo

variable {m m' m'' : Moment}

theorem refl (m : Moment) : env.ComesTo m m := ⟨[], .nil m⟩

theorem head (h : env.Next m m') (h' : env.ComesTo m' m'') : env.ComesTo m m'' :=
  ⟨_, .cons h h'.choose_spec⟩

theorem trans (h : env.ComesTo m m') (h' : env.ComesTo m' m'') : env.ComesTo m m'' := by
  obtain ⟨passed, hpassed⟩ := h
  obtain ⟨passed', hpassed'⟩ := h'
  exact ⟨passed ++ passed', hpassed.append hpassed'⟩

theorem single (h : env.Next m m') : env.ComesTo m m' := ⟨[m], .single h⟩

end ComesTo

/-! ## From calls to steps -/

/-- Calls that are answered are answered by steps, whoever has called. -/
def Stepwise (env : Env) (call : Call) : Prop :=
  ∀ ⦃slot offset st answer st'⦄, call slot offset st = some (answer, st') →
    ∀ callers todo, env.ComesTo ⟨.call slot offset, callers, todo, st⟩
      ⟨.answer slot offset answer, callers, todo, st'⟩

/-- Work whose plan is carried out is done by steps. -/
theorem work_comesTo {call : Call} (hcall : env.Stepwise call) {work : Work (Option Match)}
    {st st' : State} {result : Option Match}
    (h : work.erase.exec env.options call st = some (result, st')) (slot : SlotId)
    (offset : Nat) (callers : List Caller) (todo : List (SlotId × Nat)) :
    env.ComesTo ⟨.body slot offset work, callers, todo, st⟩
      ⟨.body slot offset (.done result), callers, todo, st'⟩ := by
  induction work generalizing st with
  | done result' =>
      obtain ⟨rfl, rfl⟩ := Prod.mk.inj (Option.some.inj h)
      exact .refl _
  | abort position error next ih => exact .head .abort (ih h)
  | ask slot' offset' resume ih =>
      simp only [Work.erase, Plan.exec] at h
      split at h
      · contradiction
      case h_2 answer st₁ hanswer =>
        have hasked := hcall hanswer (⟨slot, offset, resume⟩ :: callers) todo
        exact .head .ask (hasked.trans (.head .resume (ih answer h)))
  | look resume ih => exact .head .look (ih _ h)
  | ended resume ih => exact .head .ended (ih _ h)
  | apply application next ih => exact .head .apply (ih h)

/-- A call that ends does so by steps. -/
theorem call_passes (env : Env) (fuel : Nat) : env.Stepwise (env.call fuel) := by
  induction fuel with
  | zero =>
      intro slot offset st answer st' h
      contradiction
  | succ fuel ih =>
      intro slot offset st answer st' h callers todo
      have hbody {first last : State} {result : Option Match}
          (hexec : (env.planOf slot offset).exec env.options (env.call fuel) first =
            some (result, last)) :
          env.ComesTo ⟨.body slot offset (env.workOf slot offset), callers, todo, first⟩
            ⟨.body slot offset (.done result), callers, todo, last⟩ := by
        rw [← erase_workOf] at hexec
        exact work_comesTo ih hexec slot offset callers todo
      cases answer_eq_some_iff.1 h with
      | stopped hended => exact .single (.atOnce (.stopped hended))
      | refused hlive hlimit => exact .single (.atOnce (.refused hlive hlimit))
      | recursive hlive hroom hmode hentry =>
          exact .single (.atOnce (.recursive hlive hroom hmode hentry))
      | knownFailure hlive hroom hmode hentry =>
          exact .single (.atOnce (.knownFailure hlive hroom hmode hentry))
      | knownMatch hlive hroom hmode hentry =>
          exact .single (.atOnce (.knownMatch hlive hroom hmode hentry))
      | ran hlive hroom hmode hexec =>
          exact .head (.begin hlive hroom (.ran hmode))
            ((hbody hexec).trans (.single (.leave (.ran hmode))))
      | missed hlive hroom hmode hentry hexec =>
          rw [State.finish_isAborted]
          exact .head (.begin hlive hroom (.missed hmode hentry))
            ((hbody hexec).trans (.single (.leave (.missed hmode))))

/-- The state after some runs that began in a state. -/
def stateAfter (st : State) (runs : List (Option Match × State)) : State :=
  runs.foldl (fun _ run => run.2) st

/-- Calls one after another end by steps: each of them is answered at a moment of the
run with the state after it, and the run ends in the last of these states. -/
theorem calls_passes {fuel : Nat} {todo : List (SlotId × Nat)} {st : State}
    {runs : List (Option Match × State)} (h : env.calls fuel todo st = some runs) :
    ∃ passed, env.Passes (.first todo st) passed (.last (stateAfter st runs)) ∧
      List.Forall₂ (fun place run =>
        ∃ rest, ⟨.answer place.1 place.2 run.1, [], rest, run.2⟩ ∈ passed) todo runs := by
  induction todo generalizing st runs with
  | nil =>
      obtain rfl := Option.some.inj h
      exact ⟨[], .nil _, .nil⟩
  | cons place rest ih =>
      obtain ⟨slot, offset⟩ := place
      simp only [Env.calls] at h
      split at h
      · contradiction
      case h_2 answer st₁ hanswer =>
        obtain ⟨runs, hrest, rfl⟩ := Option.map_eq_some_iff.1 h
        obtain ⟨passed, hpassed⟩ := call_passes env fuel hanswer [] rest
        obtain ⟨passed', hpassed', hruns⟩ := ih hrest
        have hfirst : env.Passes (.first ((slot, offset) :: rest) st)
            (.first ((slot, offset) :: rest) st :: passed ++
              ⟨.answer slot offset answer, [], rest, st₁⟩ :: passed')
            (.last (stateAfter st₁ runs)) :=
          .cons .start (hpassed.append (.cons .outside hpassed'))
        refine ⟨_, hfirst, .cons ⟨rest, by simp⟩ (hruns.imp fun place run hrun => ?_)⟩
        obtain ⟨rest', hmem⟩ := hrun
        exact ⟨rest', by simp [hmem]⟩

/-! ## From steps to calls -/

/-- A run that comes to rest from a call answers it on the way. -/
private def AnswersWithin (env : Env) (n : Nat) : Prop :=
  ∀ ⦃slot offset callers todo st passed st'⦄,
    env.Passes ⟨.call slot offset, callers, todo, st⟩ passed (.last st') → passed.length ≤ n →
    ∃ fuel answer st₁ rest, env.call fuel slot offset st = some (answer, st₁) ∧
      env.Passes ⟨.answer slot offset answer, callers, todo, st₁⟩ rest (.last st') ∧
      rest.length < passed.length

/-- A run that comes to rest from the work of a body does the work on the way. -/
private theorem exec_of_passes {n : Nat} (hcall : env.AnswersWithin n)
    {slot : SlotId} {offset : Nat} {work : Work (Option Match)} {callers : List Caller}
    {todo : List (SlotId × Nat)} {st st' : State} {passed : List Moment}
    (h : env.Passes ⟨.body slot offset work, callers, todo, st⟩ passed (.last st'))
    (hlength : passed.length ≤ n) :
    ∃ fuel result st₁ rest,
      work.erase.exec env.options (env.call fuel) st = some (result, st₁) ∧
      env.Passes ⟨.body slot offset (.done result), callers, todo, st₁⟩ rest (.last st') ∧
      rest.length ≤ passed.length := by
  induction work generalizing st passed with
  | done result => exact ⟨0, result, st, passed, rfl, h, Nat.le_refl _⟩
  | ask slot' offset' resume ih =>
      cases h with
      | cons hstep hrest =>
      cases hstep
      rw [List.length_cons] at hlength
      obtain ⟨fuel, answer, st₁, rest, hanswer, hafter, hlt⟩ := hcall hrest (by omega)
      cases hafter with
      | cons hstep' hrest' =>
      cases hstep'
      rw [List.length_cons] at hlt
      obtain ⟨fuel', result, st₂, rest', hexec, hdone, hle⟩ :=
        ih answer hrest' (by omega)
      refine ⟨max fuel fuel', result, st₂, rest', ?_, hdone, by rw [List.length_cons]; omega⟩
      have hmax := call_mono env (Nat.le_max_left fuel fuel') hanswer
      simp only [Work.erase, Plan.exec, hmax]
      exact Plan.exec_mono (call_mono env (Nat.le_max_right fuel fuel')) _ hexec
  | abort _ _ _ ih | apply _ _ ih =>
      cases h with
      | cons hstep hrest =>
      cases hstep
      rw [List.length_cons] at hlength
      obtain ⟨fuel, result, st₁, rest, hexec, hdone, hle⟩ := ih hrest (by omega)
      exact ⟨fuel, result, st₁, rest, hexec, hdone, by rw [List.length_cons]; omega⟩
  | look _ ih | ended _ ih =>
      cases h with
      | cons hstep hrest =>
      cases hstep
      rw [List.length_cons] at hlength
      obtain ⟨fuel, result, st₁, rest, hexec, hdone, hle⟩ := ih _ hrest (by omega)
      exact ⟨fuel, result, st₁, rest, hexec, hdone, by rw [List.length_cons]; omega⟩

private theorem answersWithin (env : Env) (n : Nat) : env.AnswersWithin n := by
  induction n with
  | zero =>
      intro slot offset callers todo st passed st' h hlength
      cases h with
      | cons hstep hrest => simp at hlength
  | succ n ih =>
      intro slot offset callers todo st passed st' h hlength
      cases h with
      | cons hstep hrest =>
      rw [List.length_cons] at hlength ⊢
      cases hstep with
      | atOnce hanswer =>
          refine ⟨1, _, _, _, answer_eq_some_iff.2 ?_, hrest, Nat.lt_succ_self _⟩
          cases hanswer with
          | stopped hended => exact .stopped hended
          | refused hlive hlimit => exact .refused hlive hlimit
          | recursive hlive hroom hmode hentry => exact .recursive hlive hroom hmode hentry
          | knownFailure hlive hroom hmode hentry => exact .knownFailure hlive hroom hmode hentry
          | knownMatch hlive hroom hmode hentry => exact .knownMatch hlive hroom hmode hentry
      | begin hlive hroom hbegins =>
          obtain ⟨fuel, result, last, rest, hexec, hdone, hle⟩ :=
            exec_of_passes ih hrest (by omega)
          rw [erase_workOf] at hexec
          cases hdone with
          | cons hstep' hrest' =>
          rw [List.length_cons] at hle
          cases hstep' with
          | leave hleaves =>
          refine ⟨fuel + 1, _, _, _, answer_eq_some_iff.2 ?_, hrest', by omega⟩
          cases hbegins with
          | ran hmode =>
              cases hleaves with
              | ran => exact .ran hlive hroom hmode hexec
              | missed hmode' => simp [hmode] at hmode'
          | missed hmode hentry =>
              cases hleaves with
              | ran hmode' => simp [hmode] at hmode'
              | missed =>
                  rw [← State.finish_isAborted last slot offset (env.grammar.name? slot) result]
                  exact .missed hlive hroom hmode hentry hexec

/-- A call from outside that comes to an answer by steps ends with that answer. -/
theorem call_of_passes {slot : SlotId} {offset : Nat} {st st' : State} {answer : Option Match}
    {passed : List Moment}
    (h : env.Passes ⟨.call slot offset, [], [], st⟩ passed
      ⟨.answer slot offset answer, [], [], st'⟩) :
    ∃ fuel, env.call fuel slot offset st = some (answer, st') := by
  have hrest := h.append (.single .outside)
  obtain ⟨fuel, answer', st₁, rest, hanswer, -, -⟩ := answersWithin env _ hrest (Nat.le_refl _)
  -- Both answers are given at the last moment but one, and there is only one run.
  obtain ⟨passed', hpassed'⟩ := call_passes env fuel hanswer [] []
  obtain ⟨after, hafter, heq⟩ := hrest.through hpassed'
  cases hafter with
  | cons hstep hlast =>
  cases hstep
  cases hlast with
  | cons hstep' _ => exact (not_step_last hstep').elim
  | nil =>
  obtain ⟨-, hsame⟩ := List.append_inj' heq rfl
  obtain ⟨hdoing, -, -, hstate⟩ := Moment.mk.inj (List.cons.inj hsame).1
  obtain ⟨-, -, rfl⟩ := Doing.answer.inj hdoing
  exact ⟨fuel, hstate ▸ hanswer⟩

end Env

end Packrat
