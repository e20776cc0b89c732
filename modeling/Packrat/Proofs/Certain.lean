import Packrat.Proofs.Balance
import Packrat.Proofs.PegRun
/-!
# Certain verdicts

Whether a parser means the same with memoization depends on the whole grammar: a parser that
comes back to itself is refused then, and a value may be made of what is seen of the run. But
many parsers do nothing of the kind, whatever else a grammar has. Their verdict at an offset is
*certain*: their plan comes to it from verdicts that are certain in turn, with some number of
parsers nested, and does not look at the run.

A certain verdict is what a call reports from a state that is ready for it. Without memoization
all states are, as far as the depth limit leaves room.

## Main definitions

* `Env.Certain` — a parser comes to a verdict, whatever the run.
* `Env.Ready` — a state in which certain verdicts are reported.

## Main results

* `Env.Certain.unique` — no two verdicts are certain.
* `Env.certain_of_rule` — what the rule of a body says is certain if its parts are.
* `Env.call_of_certain` — a call that is certain ends and reports its verdict.
-/

namespace Packrat

/-! ## Plans -/

namespace Plan

variable {α : Type} {known known' : Knowledge} {options : Options} {call : Call}

/-- The more is known, the more a plan yields. -/
theorem Yields.mono {plan : Plan α} {ending : Ending α}
    (hknown : ∀ ⦃slot offset verdict⦄, known slot offset verdict → known' slot offset verdict)
    (h : plan.Yields known ending) : plan.Yields known' ending := by
  induction plan with
  | done result => exact h
  | abort position error plan => exact h
  | ask slot offset resume ih =>
      rcases h with ⟨position, error, hask, rfl⟩ | ⟨hask, hrest⟩ | ⟨value, stop, hask, hrest⟩
      · exact .inl ⟨position, error, hknown hask, rfl⟩
      · exact .inr (.inl ⟨hknown hask, ih _ hrest⟩)
      · exact .inr (.inr ⟨value, stop, hknown hask, ih _ hrest⟩)
  | look resume ih => exact ih _ h
  | ended resume ih => exact ih _ h

/-- A plan yields no two endings if no two verdicts are known of a parser. -/
theorem Yields.unique {plan : Plan α} {ending ending' : Ending α}
    (hknown : ∀ ⦃slot offset verdict verdict'⦄, known slot offset verdict →
      known' slot offset verdict' → verdict = verdict')
    (h : plan.Yields known ending) (h' : plan.Yields known' ending') : ending = ending' := by
  induction plan with
  | done result => exact Eq.trans h (Eq.symm h')
  | abort position error plan => exact Eq.trans h (Eq.symm h')
  | ask slot offset resume ih =>
      rcases h with ⟨position, error, hask, rfl⟩ | ⟨hask, hrest⟩ | ⟨value, stop, hask, hrest⟩ <;>
        rcases h' with ⟨position', error', hask', rfl⟩ | ⟨hask', hrest'⟩ |
          ⟨value', stop', hask', hrest'⟩ <;>
        have hsame := hknown hask hask'
      · obtain ⟨rfl, rfl⟩ := Verdict.abort.inj hsame
        rfl
      · contradiction
      · contradiction
      · contradiction
      · exact ih _ hrest hrest'
      · contradiction
      · contradiction
      · contradiction
      · obtain ⟨rfl, rfl⟩ := Verdict.found.inj hsame
        exact ih _ hrest hrest'
  | look resume ih => exact ih _ h h'
  | ended resume ih => exact ih _ h h'

/-- What a plan yields is as promised, if matches that are known reach along the source. -/
theorem Meets.of_yields {src : Source} {start : Nat} {parts : List SlotId} {post : α → Prop}
    {plan : Plan α} (hplan : plan.Meets (spanContract src start parts) post)
    (hknown : known.Sound src) {result : α} (h : plan.Yields known (.done result)) :
    post result := by
  induction plan with
  | done result' =>
      obtain rfl := Ending.done.inj h
      exact hplan
  | abort position error plan => contradiction
  | ask slot offset resume ih =>
      obtain ⟨-, hnone, hsome⟩ := hplan
      rcases h with ⟨_, _, -, hend⟩ | ⟨-, hrest⟩ | ⟨value, stop, hask, hrest⟩
      · contradiction
      · exact ih none hnone hrest
      · exact ih _ (hsome _ ⟨rfl, hknown hask⟩) hrest
  | look resume ih => exact ih _ (hplan _) h
  | ended resume ih => exact ih _ (hplan _) h

/-- A plan that yields an ending is carried out to it, if calls report what is known from the
states of an invariant. -/
theorem exec_of_yields {I : State → Prop}
    (hcall : ∀ ⦃slot offset st verdict⦄, I st → st.abort = none → known slot offset verdict →
      ∃ answer st', call slot offset st = some (answer, st') ∧
        verdict.Reported offset answer st' ∧ (st'.abort = none → I st'))
    (hended : ∀ {st : State}, st.isAborted = true →
      ∀ slot offset, call slot offset st = some (none, st))
    {plan : Plan (Option Match)} (hheeds : plan.HeedsEnd (· = none)) (hblind : plan.Blind)
    {st : State} (hst : I st) (hlive : st.abort = none) {ending : Ending (Option Match)}
    (h : plan.Yields known ending) :
    ∃ result st', plan.exec options call st = some (result, st') ∧
      (result = ending.answer ∧ st'.abort = ending.abort?) ∧ (st'.abort = none → I st') := by
  induction plan generalizing st with
  | done result =>
      obtain rfl := h
      exact ⟨result, st, rfl, ⟨rfl, hlive⟩, fun _ => hst⟩
  | abort position error plan ih =>
      obtain rfl := h
      have habort := (Ending.Leads.raise hlive position error).abort
      obtain ⟨result, hexec, rfl⟩ := AfterEnd.exec_ends (hended (State.raise_isAborted st _))
        (State.raise_isAborted st _) hheeds
      refine ⟨none, _, hexec, ⟨rfl, habort⟩, fun hgoes => ?_⟩
      rw [habort] at hgoes
      contradiction
  | ask slot offset resume ih =>
      have hgoesOn {answer : Option Match} {st₁ : State}
          (hanswer : call slot offset st = some (answer, st₁)) (hst₁ : st₁.abort = none → I st₁)
          (hlive₁ : st₁.abort = none) (hrest : (resume answer).Yields known ending) :
          ∃ result st', (Plan.ask slot offset resume).exec options call st = some (result, st') ∧
            (result = ending.answer ∧ st'.abort = ending.abort?) ∧ (st'.abort = none → I st') := by
        obtain ⟨result, st', hexec, hends⟩ :=
          ih answer (hheeds.2 answer) (hblind answer) (hst₁ hlive₁) hlive₁ hrest
        exact ⟨result, st', by simp only [Plan.exec, hanswer, hexec], hends⟩
      rcases h with ⟨position, error, hask, rfl⟩ | ⟨hask, hrest⟩ | ⟨value, stop, hask, hrest⟩ <;>
        obtain ⟨answer, st₁, hanswer, ⟨rfl, habort⟩, hst₁⟩ := hcall hst hlive hask
      · have hover : st₁.isAborted = true := by rw [State.isAborted, habort]; rfl
        obtain ⟨result, hexec, rfl⟩ : ∃ result, (resume none).exec options call st₁ =
            some (result, st₁) ∧ result = none := AfterEnd.exec_ends (hended hover) hover hheeds.1
        exact ⟨none, st₁, by simp only [Plan.exec, hanswer, hexec], ⟨rfl, habort⟩, hst₁⟩
      · exact hgoesOn hanswer hst₁ habort hrest
      · exact hgoesOn hanswer hst₁ habort hrest
  | look resume ih =>
      simp only [Plan.exec]
      rw [hblind.1]
      exact ih .blank (hheeds .blank) hblind.2 hst hlive h
  | ended resume ih =>
      have hgoes : st.isAborted = false := by simp [State.isAborted, hlive]
      simp only [Plan.exec, hgoes]
      exact ih false hheeds hblind hst hlive h

end Plan

namespace Env

variable {env : Env}

/-! ## Certainty -/

/-- A parser comes to a verdict whatever the run, with no more than some number of parsers
nested. -/
def Certain (env : Env) : Nat → Knowledge
  | 0 => fun _ _ _ => False
  | height + 1 => fun slot offset verdict =>
    (env.planOf slot offset).Blind ∧
      (env.planOf slot offset).Yields (env.Certain height) (verdict.answer offset)

theorem Certain.mono {height height' : Nat} (hle : height ≤ height') {slot : SlotId}
    {offset : Nat} {verdict : Verdict Value} (h : env.Certain height slot offset verdict) :
    env.Certain height' slot offset verdict := by
  induction height generalizing height' slot offset verdict with
  | zero => exact h.elim
  | succ height ih =>
      obtain ⟨above, rfl⟩ := Nat.exists_eq_add_of_le' (Nat.le_trans (Nat.le_add_left ..) hle)
      obtain ⟨hblind, hyields⟩ := h
      exact ⟨hblind, hyields.mono fun _ _ _ hbelow => ih (Nat.le_of_succ_le_succ hle) hbelow⟩

/-- No two verdicts are certain. -/
theorem Certain.unique {height height' : Nat} {slot : SlotId} {offset : Nat}
    {verdict verdict' : Verdict Value} (h : env.Certain height slot offset verdict)
    (h' : env.Certain height' slot offset verdict') : verdict = verdict' := by
  induction height generalizing height' slot offset verdict verdict' with
  | zero => exact h.elim
  | succ height ih =>
      cases height' with
      | zero => exact h'.elim
      | succ height' =>
          have hbelow : ∀ ⦃slot offset verdict verdict'⦄, env.Certain height slot offset verdict →
              env.Certain height' slot offset verdict' → verdict = verdict' := fun _ _ _ _ => ih
          exact Verdict.answer_inj (h.2.unique hbelow h'.2)

/-- Some verdict of a parser at an offset is certain with some number of parsers nested. -/
def IsCertain (env : Env) (height : Nat) (slot : SlotId) (offset : Nat) : Prop :=
  ∃ verdict, env.Certain height slot offset verdict

theorem IsCertain.mono {height height' : Nat} (hle : height ≤ height') {slot : SlotId}
    {offset : Nat} (h : env.IsCertain height slot offset) : env.IsCertain height' slot offset :=
  h.imp fun _ => Certain.mono hle

/-- What is certain to match reaches along the source. -/
theorem certain_sound (env : Env) (height : Nat) : (env.Certain height).Sound env.source := by
  induction height with
  | zero => exact fun _ _ _ _ h => h.elim
  | succ height ih =>
      intro slot offset value stop h
      have hspans := (env.planOf_meets slot offset).of_yields ih h.2
      exact (hspans _ rfl).reaches

/-- What the rule of a body says is certain, if what it relies on is. -/
theorem certain_of_rule {height : Nat} {slot : SlotId} {body : Body} {start : Nat}
    {verdict : Verdict Value} (hslot : env.grammar.bodies[slot]? = some body)
    (hfree : body.StateFree) (hrule : body.Rule env.source (env.Certain height) start verdict) :
    env.Certain (height + 1) slot start verdict := by
  have hplan : env.planOf slot start = body.plan env.source start := by
    rw [planOf, hslot]
  refine ⟨?_, ?_⟩
  · rw [hplan]
    exact hfree.plan_blind
  · rw [hplan]
    exact (Body.plan_yields_iff (certain_sound env height) hfree).2 hrule

/-- An answer of a parser at an offset is that of the verdict that is certain, if one is. -/
def Admits (env : Env) (slot : SlotId) (offset : Nat) (answer : Option Match) : Prop :=
  ∀ height verdict, env.Certain height slot offset verdict → verdict.answer offset = .done answer

end Env

/-- Finished entries hold the verdicts that are certain. -/
def State.Recalls (env : Env) (st : State) : Prop :=
  ∀ slot offset result, st.memo.find? slot offset = some (.ofResult result) →
    env.Admits slot offset result

/-- A finished entry may be made if it holds the verdict that is certain, if one is. -/
theorem State.Recalls.settle {env : Env} {st : State} (h : st.Recalls env) {slot : SlotId}
    {offset : Nat} {result : Option Match}
    (hresult : st.isAborted = false → env.Admits slot offset result) :
    (st.settle slot offset result).Recalls env := by
  intro slot' offset' result' hentry
  rw [State.find?_settle] at hentry
  split at hentry
  case isTrue hsame =>
    obtain ⟨rfl, rfl⟩ := hsame
    cases hended : st.isAborted with
    | true => simp [hended] at hentry
    | false =>
        simp only [hended, Bool.false_eq_true, if_false] at hentry
        obtain rfl := Memo.ofResult_inj (Option.some.inj hentry)
        exact hresult hended
  case isFalse => exact h slot' offset' result' hentry

theorem State.Recalls.of_eq {env : Env} {st st' : State} (h : st.Recalls env)
    (hmemo : st'.memo = st.memo) : st'.Recalls env := by
  unfold State.Recalls
  rw [hmemo]
  exact h

/-- The entry of a parser that is about to run is not finished. -/
theorem State.Recalls.reserve {env : Env} {st : State} (h : st.Recalls env) (slot : SlotId)
    (offset : Nat) : (st.reserve slot offset).Recalls env := by
  intro slot' offset' result hentry
  have hinsert : (st.memo.insert slot offset .inProgress).find? slot' offset' =
      some (.ofResult result) := hentry
  rw [MemoTable.find?_insert] at hinsert
  split at hinsert
  · exact absurd (Option.some.inj hinsert).symm (Memo.ofResult_ne_inProgress result)
  · exact h slot' offset' result hinsert

/-- An entry that holds the verdict reports it in a run that goes on. -/
theorem Verdict.reported_of_done {verdict : Verdict Value} {offset : Nat} {result : Option Match}
    {st : State} (h : verdict.answer offset = .done result) (hlive : st.abort = none) :
    verdict.Reported offset result st := by
  rw [Verdict.reported_iff, h]
  exact ⟨rfl, hlive⟩

/-- Of a verdict that is reported in a run that goes on the answer is what is remembered. -/
theorem Verdict.Reported.done {verdict : Verdict Value} {offset : Nat} {answer : Option Match}
    {st : State} (h : verdict.Reported offset answer st) (hlive : st.isAborted = false) :
    verdict.answer offset = .done answer := by
  cases verdict with
  | found value stop =>
      obtain ⟨rfl, -⟩ := h
      rfl
  | noMatch =>
      obtain ⟨rfl, -⟩ := h
      rfl
  | abort position error =>
      rw [State.isAborted, h.2] at hlive
      contradiction

namespace Env

variable {env : Env}

/-! ## Calls -/

/-- Verdicts that are certain with some number of parsers nested are reported from a state:
there is room for as many parsers, finished entries hold certain verdicts, and none of the
parsers is running already. -/
structure Ready (env : Env) (height : Nat) (st : State) : Prop where
  room : env.Room height st
  recalls : env.options.memoize = true → st.Recalls env
  idle : env.options.memoize = true →
    ∀ slot offset, st.Running slot offset → ¬env.IsCertain height slot offset

theorem Ready.mono {height height' : Nat} {st : State} (h : env.Ready height st)
    (hle : height' ≤ height) : env.Ready height' st :=
  ⟨h.room.mono hle, h.recalls,
    fun hmode slot offset hrun hcertain => h.idle hmode slot offset hrun (hcertain.mono hle)⟩

/-- A call leaves a state ready if its entries hold certain verdicts. -/
theorem Ready.after {height fuel : Nat} {slot : SlotId} {offset : Nat} {st st' : State}
    {answer : Option Match} (h : env.Ready height st)
    (hcall : env.call fuel slot offset st = some (answer, st'))
    (hrecalls : env.options.memoize = true → st'.Recalls env) : env.Ready height st' := by
  have hdepth : st'.depth = st.depth := (call_precedes fuel hcall).depth
  refine ⟨fun limit hlimit => ?_, hrecalls, fun hmode slot' offset' hrun => ?_⟩
  · rw [hdepth]
    exact h.room limit hlimit
  · exact h.idle hmode slot' offset' ((call_running_iff fuel hcall slot' offset').1 hrun)

theorem Begins.recalls {slot : SlotId} {offset : Nat} {st first : State}
    (h : env.Begins slot offset st first) (hrecalls : st.Recalls env) : first.Recalls env := by
  have hentered : (st.enter slot offset).Recalls env := hrecalls.of_eq rfl
  cases h with
  | ran => exact hentered.of_eq rfl
  | missed => exact (hentered.reserve slot offset).of_eq rfl

/-- The state in which the body of a parser begins to run is ready for the parsers inside it,
if the parser itself is not one of them. -/
theorem Ready.begins {height : Nat} {slot : SlotId} {offset : Nat} {st first : State}
    (h : env.Ready (height + 1) st) (hleast : ¬env.IsCertain height slot offset)
    (hfirst : env.Begins slot offset st first) : env.Ready height first := by
  refine ⟨h.room.below hfirst.depth, fun hmode => hfirst.recalls (h.recalls hmode),
    fun hmode slot' offset' hrun hcertain => ?_⟩
  cases hfirst with
  | ran hoff => simp [hmode] at hoff
  | missed =>
      rcases State.running_reserve_iff.1 hrun with ⟨rfl, rfl⟩ | hrun
      · exact hleast hcertain
      · exact h.idle hmode slot' offset' hrun (hcertain.mono (Nat.le_succ _))

/-- Calls report verdicts that are certain with some number of parsers nested. -/
def Confirms (env : Env) (call : Call) (height : Nat) : Prop :=
  ∀ ⦃slot offset st verdict⦄, env.Ready height st → st.abort = none →
    env.Certain height slot offset verdict →
    ∃ answer st', call slot offset st = some (answer, st') ∧
      verdict.Reported offset answer st' ∧ (st'.abort = none → env.Ready height st')

section Answer

variable {height fuel : Nat} {slot : SlotId} {offset : Nat} {st : State} {verdict : Verdict Value}

/-- A body whose verdict is certain comes to it, if the calls that it makes report theirs. -/
private theorem body_of_certain (hcall : env.Confirms (env.call (fuel + 1)) height)
    {first : State} (hfirst : env.Ready height first) (hlive : first.abort = none)
    (h : env.Certain (height + 1) slot offset verdict) :
    ∃ result last, (env.planOf slot offset).exec env.options (env.call (fuel + 1)) first =
        some (result, last) ∧
      verdict.Reported offset result last ∧ (last.abort = none → env.Ready height last) := by
  obtain ⟨result, last, hexec, hends, hready⟩ := Plan.exec_of_yields hcall
    (call_of_isAborted · fuel) (env.planOf_heedsEnd slot offset) h.1 hfirst hlive h.2
  exact ⟨result, last, hexec, Verdict.reported_iff.2 hends, hready⟩

/-- What is remembered is reported if it is the verdict that is certain. -/
private theorem recalled_of_certain (hst : env.Ready height st)
    (hmode : env.options.memoize = true) (hlive : st.abort = none)
    (h : env.Certain height slot offset verdict) (result : Option Match)
    (hentry : st.memo.find? slot offset = some (.ofResult result)) :
    verdict.Reported offset result (st.enter slot offset).hit ∧
      (st.enter slot offset).hit.Recalls env :=
  ⟨Verdict.reported_of_done (hst.recalls hmode slot offset result hentry height verdict h) hlive,
    (hst.recalls hmode).of_eq rfl⟩

/-- A call of a parser whose verdict is certain reports it, if the calls that its body makes
report theirs, and the parser does not come back to itself. -/
private theorem answer_of_certain (hcall : env.Confirms (env.call (fuel + 1)) height)
    (hst : env.Ready (height + 1) st) (hleast : ¬env.IsCertain height slot offset)
    (hlive : st.abort = none) (h : env.Certain (height + 1) slot offset verdict) :
    ∃ answer st', env.call (fuel + 2) slot offset st = some (answer, st') ∧
      verdict.Reported offset answer st' ∧
      (st'.abort = none → env.options.memoize = true → st'.Recalls env) := by
  have hgoes : st.isAborted = false := by simp [State.isAborted, hlive]
  have hroom : env.atLimit st = none := hst.room.atLimit
  cases hmode : env.options.memoize with
  | false =>
      obtain ⟨result, last, hexec, hreported, -⟩ :=
        body_of_certain hcall (hst.begins hleast (.ran hmode)) hlive h
      refine ⟨result, _, answer_eq_some_iff.2 (.ran hgoes hroom hmode hexec), ?_, fun _ hon => ?_⟩
      · rw [Verdict.reported_iff] at hreported ⊢
        rwa [State.finish_abort]
      · contradiction
  | true =>
      cases hentry : st.memo.find? slot offset with
      | none =>
          obtain ⟨result, last, hexec, hreported, hready⟩ :=
            body_of_certain hcall (hst.begins hleast (.missed hmode hentry)) hlive h
          let finished := last.finish slot offset (env.grammar.name? slot) result
          have hfinished : verdict.Reported offset result finished := by
            rw [Verdict.reported_iff] at hreported ⊢
            rwa [State.finish_abort]
          refine ⟨_, _, answer_eq_some_iff.2 (.missed hgoes hroom hmode hentry hexec), ?_, ?_⟩
          · rw [hfinished.held]
            rw [Verdict.reported_iff] at hfinished ⊢
            rwa [State.settle_abort]
          · intro hlast _
            rw [State.settle_abort, State.finish_abort] at hlast
            have hrecalls : finished.Recalls env :=
              ((hready hlast).recalls hmode).of_eq (State.finish_memo _ _ _ _ _)
            refine hrecalls.settle fun hlive' height' verdict' h' => ?_
            rw [← h.unique h']
            exact hfinished.done hlive'
      | some memo =>
          cases memo with
          | inProgress => exact absurd ⟨verdict, h⟩ (hst.idle hmode slot offset hentry)
          | failed =>
              have hknown := recalled_of_certain hst hmode hlive h none hentry
              exact ⟨none, _, answer_eq_some_iff.2 (.knownFailure hgoes hroom hmode hentry),
                hknown.1, fun _ _ => hknown.2⟩
          | matched m =>
              have hknown := recalled_of_certain hst hmode hlive h (some m) hentry
              exact ⟨some m, _, answer_eq_some_iff.2 (.knownMatch hgoes hroom hmode hentry),
                hknown.1, fun _ _ => hknown.2⟩

end Answer

/-- From a state that is ready a call of a parser whose verdict is certain ends and reports the
verdict. -/
theorem call_of_certain (height : Nat) {fuel : Nat} (hfuel : height < fuel) {slot : SlotId}
    {offset : Nat} {st : State} {verdict : Verdict Value} (hst : env.Ready height st)
    (hlive : st.abort = none) (h : env.Certain height slot offset verdict) :
    ∃ answer st', env.call fuel slot offset st = some (answer, st') ∧
      verdict.Reported offset answer st' ∧
      (st'.abort = none → env.options.memoize = true → st'.Recalls env) := by
  induction height generalizing fuel slot offset st verdict with
  | zero => exact h.elim
  | succ height ih =>
      by_cases hleast : env.IsCertain height slot offset
      · obtain ⟨verdict', h'⟩ := hleast
        obtain rfl := h.unique h'
        exact ih (by omega) (hst.mono (Nat.le_succ _)) hlive h'
      · obtain ⟨below, rfl⟩ : ∃ below, fuel = below + 2 := ⟨fuel - 2, by omega⟩
        have hanswers : env.Confirms (env.call (below + 1)) height := by
          intro slot' offset' st₁ verdict' hst₁ hlive₁ hcertain
          obtain ⟨answer, st', hcall, hreported, hrecalls⟩ :=
            ih (show height < below + 1 by omega) hst₁ hlive₁ hcertain
          exact ⟨answer, st', hcall, hreported, fun hgoes => hst₁.after hcall (hrecalls hgoes)⟩
        exact answer_of_certain hanswers hst hleast hlive h

end Env

end Packrat
