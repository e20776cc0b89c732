import Packrat.Proofs.Height
import Packrat.Proofs.LaidOut
import Packrat.Proofs.PegPlan
/-!
# Runs without memoization mean what the grammar says

A verdict is derived just when evaluation comes to it at some height. Since
runs without memoization do what evaluation says, a call that ends reports the
verdict that is derived, whatever state it begins in, and where a verdict is
derived the call ends.

A depth limit may cut a run short. It never makes a run report anything else,
and it makes every run end.

## Main results

* `Env.derives_iff_eval` — what is derived is what is evaluated.
* `Grammar.reference_means_rule` — a reference means the rule that it names.
* `Env.call_means_peg` — what calls without memoization report.
-/

namespace Packrat

/-- In a grammar that is laid out from rules, a reference means the rule that it names: wherever
it is laid out, just that is derived which is derived for the rule. -/
theorem Grammar.reference_means_rule {rules : List (String × Expr)} {g : Grammar}
    (h : build rules = .ok g) :
    ∃ cells, g.Placed rules cells ∧
      ∀ done rule slot, (Expr.reference rule).LaidOut (g.places cells) done slot →
        ∃ target, g.rule? rule = some target ∧ ∀ src start verdict,
          g.Derives src slot start verdict ↔ g.Derives src target start verdict := by
  obtain ⟨cells, hplaced, hcells⟩ := build_cells h
  refine ⟨cells, hplaced, fun done rule slot hlaid => ?_⟩
  obtain ⟨cell, hslot, hcell⟩ := hlaid.of_reference
  obtain ⟨target, body, hrule, htarget, hfilled⟩ := hcells cell rule hcell
  refine ⟨target, hrule, fun src start verdict => ?_⟩
  calc g.Derives src slot start verdict
      ↔ g.Derives src cell start verdict := derives_iff_rule hslot
    _ ↔ body.Rule src (g.Derives src) start verdict := derives_iff_rule hfilled
    _ ↔ g.Derives src target start verdict := (derives_iff_rule htarget).symm

namespace Verdict

theorem answer_inj {start : Nat} {verdict verdict' : Verdict Value}
    (h : verdict.answer start = verdict'.answer start) : verdict = verdict' := by
  cases verdict <;> cases verdict' <;> simp_all [ending]

/-- The answer and the state after it show a verdict on a parser at an offset. -/
def Reported (start : Nat) (answer : Option Match) (st : State) : Verdict Value → Prop
  | .found value stop => answer = some ⟨value, start, stop⟩ ∧ st.abort = none
  | .noMatch => answer = none ∧ st.abort = none
  | .abort position error => answer = none ∧ st.abort = some (.transform position error)

theorem reported_iff {start : Nat} {answer : Option Match} {st : State}
    {verdict : Verdict Value} :
    verdict.Reported start answer st ↔
      answer = (verdict.answer start).answer ∧ st.abort = (verdict.answer start).abort? := by
  cases verdict <;> exact Iff.rfl

/-- No two verdicts are reported in one way. -/
theorem Reported.unique {start : Nat} {answer : Option Match} {st : State}
    {verdict verdict' : Verdict Value} (h : verdict.Reported start answer st)
    (h' : verdict'.Reported start answer st) : verdict = verdict' := by
  obtain ⟨hanswer, habort⟩ := reported_iff.1 h
  obtain ⟨hanswer', habort'⟩ := reported_iff.1 h'
  rw [hanswer] at hanswer'
  rw [habort] at habort'
  cases verdict <;> cases verdict' <;>
    simp_all [ending, Ending.answer, Ending.abort?]

/-- An answer that is reported is given as it is when the run has ended too. -/
theorem Reported.held {verdict : Verdict Value} {start : Nat} {answer : Option Match} {st : State}
    (h : verdict.Reported start answer st) :
    (if st.isAborted then none else answer) = answer := by
  cases verdict with
  | found value stop =>
      rw [State.isAborted, h.2]
      rfl
  | noMatch | abort =>
      rw [h.1]
      split <;> rfl

end Verdict

/-! ## Plans -/

/-- What an oracle knows, as verdicts. -/
def Oracle.knowledge (oracle : Oracle) : Knowledge := fun slot offset verdict =>
  ∃ failures, oracle slot offset = some (verdict.answer offset, failures)

/-- A plan that is evaluated yields its ending, if matches begin where they were
asked for. -/
theorem Plan.yields_of_eval {α : Type} {oracle : Oracle}
    (hstart : ∀ {slot offset m failures}, oracle slot offset = some (.done (some m), failures) →
      m.start = offset)
    {plan : Plan α} {ending : Ending α} {failures : List Failure}
    (h : plan.eval oracle = some (ending, failures)) : plan.Yields oracle.knowledge ending := by
  induction plan generalizing failures with
  | done result => exact (Prod.mk.inj (Option.some.inj h)).1.symm
  | abort position error plan => exact (Prod.mk.inj (Option.some.inj h)).1.symm
  | ask slot offset resume ih =>
      simp only [eval] at h
      split at h
      · contradiction
      case h_2 position error before hanswer =>
        obtain ⟨rfl, -⟩ := Prod.mk.inj (Option.some.inj h)
        exact .inl ⟨position, error, ⟨before, hanswer⟩, rfl⟩
      case h_3 answer before hanswer =>
        split at h
        · contradiction
        case h_2 ending' rest hrest =>
          obtain ⟨rfl, -⟩ := Prod.mk.inj (Option.some.inj h)
          have hyields := ih answer hrest
          cases answer with
          | none => exact .inr (.inl ⟨⟨before, hanswer⟩, hyields⟩)
          | some m =>
              obtain rfl := hstart hanswer
              exact .inr (.inr ⟨m.value, m.stop, ⟨before, hanswer⟩, hyields⟩)
  | look resume ih => exact ih _ h
  | ended resume ih => exact ih _ h

namespace Env

variable {env : Env}

/-- What is known of parsers is evaluated at some height. -/
def Evaluates (env : Env) (known : Knowledge) : Prop :=
  ∀ ⦃slot offset verdict⦄, known slot offset verdict → ∃ height,
    (env.eval height).knowledge slot offset verdict

/-- A plan that yields an ending is evaluated at some height, if all that it may
rely on is. -/
theorem Evaluates.plan {α : Type} {known : Knowledge} (hknown : env.Evaluates known)
    {plan : Plan α} {ending : Ending α} (h : plan.Yields known ending) :
    ∃ height failures, plan.eval (env.eval height) = some (ending, failures) := by
  induction plan with
  | done result => exact ⟨0, [], by rw [Plan.eval, h]⟩
  | abort position error plan => exact ⟨0, [], by rw [Plan.eval, h]⟩
  | ask slot offset resume ih =>
      have hanswered {height : Nat} {answer : Option Match} {before : List Failure}
          (hanswer : env.eval height slot offset = some (.done answer, before))
          (hyields : (resume answer).Yields known ending) :
          ∃ height failures, (Plan.ask slot offset resume).eval (env.eval height) =
            some (ending, failures) := by
        obtain ⟨height', rest, hrest⟩ := ih answer hyields
        refine ⟨max height height', before ++ rest, ?_⟩
        have hanswer' := eval_mono env (Nat.le_max_left height height') hanswer
        have hrest' := Plan.eval_mono (eval_mono env (Nat.le_max_right height height')) _ hrest
        simp only [Plan.eval, hanswer', hrest']
      rcases h with ⟨position, error, hask, rfl⟩ | ⟨hask, hyields⟩ | ⟨value, stop, hask, hyields⟩
      · obtain ⟨height, before, hanswer⟩ := hknown hask
        refine ⟨height, before, ?_⟩
        simp only [Plan.eval, hanswer, Verdict.ending]
      · obtain ⟨height, before, hanswer⟩ := hknown hask
        exact hanswered hanswer hyields
      · obtain ⟨height, before, hanswer⟩ := hknown hask
        exact hanswered hanswer hyields
  | look resume ih => exact ih _ h
  | ended resume ih => exact ih _ h

/-! ## Parsers -/

/-- Whatever a parser is evaluated to is a verdict. -/
theorem eval_eq_answer {height : Nat} {slot : SlotId} {offset : Nat}
    {ending : Ending (Option Match)} {failures : List Failure}
    (h : env.eval height slot offset = some (ending, failures)) :
    ∃ verdict : Verdict Value, ending = verdict.answer offset := by
  cases ending with
  | done answer =>
      cases answer with
      | none => exact ⟨.noMatch, rfl⟩
      | some m =>
          obtain rfl := (eval_spans height h).start_eq
          exact ⟨.found m.value m.stop, rfl⟩
  | abort position error => exact ⟨.abort position error, rfl⟩

/-- Matches that are evaluated reach along the source. -/
theorem Evaluates.sound {known : Knowledge} (hknown : env.Evaluates known) :
    known.Sound env.source := by
  intro slot offset value stop hmatch
  obtain ⟨height, failures, heval⟩ := hknown hmatch
  exact (eval_spans height heval).reaches

theorem evaluates_knowledge (env : Env) (height : Nat) :
    env.Evaluates (env.eval height).knowledge :=
  fun _ _ _ h => ⟨height, h⟩

/-- What is evaluated is derived. -/
theorem derives_of_eval (hfree : env.grammar.StateFree) (height : Nat) {slot : SlotId}
    {start : Nat} {verdict : Verdict Value}
    (h : (env.eval height).knowledge slot start verdict) :
    env.grammar.Derives env.source slot start verdict := by
  induction height generalizing slot start verdict with
  | zero =>
      obtain ⟨failures, hnone⟩ := h
      contradiction
  | succ height ih =>
      obtain ⟨failures, heval⟩ := h
      obtain ⟨before, hplan, -⟩ := eval_succ_eq_some_iff.1 heval
      have hyields := Plan.yields_of_eval (fun h => (eval_spans height h).start_eq) hplan
      unfold planOf at hyields
      cases hbody : env.grammar.bodies[slot]? with
      | none =>
          rw [hbody] at hyields
          rw [Plan.none_yields_iff.1 hyields]
          exact .absent hbody
      | some body =>
          rw [hbody] at hyields
          have hbodyFree := hfree body (Array.mem_of_getElem? hbody)
          exact .body hbody (fun _ _ _ => ih)
            ((Body.plan_yields_iff (evaluates_knowledge env height).sound hbodyFree).1 hyields)

/-- What is derived is evaluated at some height. -/
theorem eval_of_derives (hfree : env.grammar.StateFree) {slot : SlotId} {start : Nat}
    {verdict : Verdict Value} (h : env.grammar.Derives env.source slot start verdict) :
    ∃ height, (env.eval height).knowledge slot start verdict := by
  induction h with
  | @body slot start body verdict known hbody hknown hrule ih =>
      have heval : env.Evaluates known := ih
      have hbodyFree := hfree body (Array.mem_of_getElem? hbody)
      have hyields : (env.planOf slot start).Yields known (verdict.answer start) := by
        unfold planOf
        rw [hbody]
        exact (Body.plan_yields_iff heval.sound hbodyFree).2 hrule
      obtain ⟨height, before, hplan⟩ := heval.plan hyields
      exact ⟨height + 1, _, eval_succ_eq_some_iff.2 ⟨before, hplan, rfl⟩⟩
  | @absent slot start habsent =>
      have hplan : (env.planOf slot start).eval (env.eval 0) = some (.done none, []) := by
        unfold planOf
        rw [habsent]
        rfl
      exact ⟨1, _, eval_succ_eq_some_iff.2 ⟨[], hplan, rfl⟩⟩

/-- What is derived is what is evaluated. -/
theorem derives_iff_eval (hfree : env.grammar.StateFree) {slot : SlotId} {start : Nat}
    {verdict : Verdict Value} :
    env.grammar.Derives env.source slot start verdict ↔
      ∃ height failures, env.eval height slot start = some (verdict.answer start, failures) :=
  ⟨eval_of_derives hfree, fun ⟨height, h⟩ => derives_of_eval hfree height h⟩

/-- A grammar is not ambiguous: no two verdicts are derived at one offset. -/
theorem derives_unique (hfree : env.grammar.StateFree) {slot : SlotId} {start : Nat}
    {verdict verdict' : Verdict Value}
    (h : env.grammar.Derives env.source slot start verdict)
    (h' : env.grammar.Derives env.source slot start verdict') : verdict = verdict' := by
  obtain ⟨height, failures, heval⟩ := (derives_iff_eval hfree).1 h
  obtain ⟨height', failures', heval'⟩ := (derives_iff_eval hfree).1 h'
  exact Verdict.answer_inj (Prod.mk.inj (eval_unique heval heval')).1

/-! ## Calls -/

section Calls

variable {slot : SlotId} {start : Nat} {st : State}

/-- A call that ends reports a verdict that is derived, unless the depth limit has
cut it short. -/
theorem call_reports (hfree : env.grammar.StateFree) (hmode : env.options.memoize = false)
    (hlive : st.abort = none) {fuel : Nat} {answer : Option Match} {st' : State}
    (h : env.call fuel slot start st = some (answer, st')) :
    (∃ verdict, env.grammar.Derives env.source slot start verdict ∧
      verdict.Reported start answer st') ∨ env.Exceeded st' := by
  have hst : env.Limited st := .inl (State.withinLimit_of_live hlive)
  rcases call_limited fuel hst h with hwithin | hexceeded
  · obtain ⟨ending, failures, heval, hleads⟩ := eval_of_call hfree hmode fuel hlive h hwithin
    obtain ⟨verdict, rfl⟩ := eval_eq_answer heval
    have hderives := derives_of_eval hfree _ ⟨failures, heval⟩
    exact .inl ⟨verdict, hderives, Verdict.reported_iff.2 ⟨hleads.answer, hleads.abort⟩⟩
  · exact .inr hexceeded

/-- Where a verdict is derived a call ends and reports it, unless the depth limit
cuts it short. -/
theorem call_of_derives (hfree : env.grammar.StateFree) (hmode : env.options.memoize = false)
    (hlive : st.abort = none) {verdict : Verdict Value}
    (h : env.grammar.Derives env.source slot start verdict) :
    ∃ fuel answer st', env.call fuel slot start st = some (answer, st') ∧
      (verdict.Reported start answer st' ∨ env.Exceeded st') := by
  cases hlimit : env.options.maxDepth with
  | none =>
      obtain ⟨height, failures, heval⟩ := eval_of_derives hfree h
      obtain ⟨answer, st', hcall, hleads⟩ := call_of_eval hfree hmode height
        (Nat.lt_succ_self height) (.of_unlimited hlimit height st) hlive heval
      exact ⟨_, answer, st', hcall,
        .inl (Verdict.reported_iff.2 ⟨hleads.answer, hleads.abort⟩)⟩
  | some limit =>
      obtain ⟨answer, st', hcall⟩ :=
        call_ends_of_limit hlimit (limit + 1) slot start st (by omega) (by omega)
      refine ⟨limit + 1, answer, st', hcall, ?_⟩
      rcases call_reports hfree hmode hlive hcall with ⟨verdict', hderives, hreported⟩ | hexceeded
      · rw [derives_unique hfree h hderives]
        exact .inl hreported
      · exact .inr hexceeded

/-- What calls of a parser at an offset have to do with the verdicts derived there. -/
structure MeansPeg (env : Env) (slot : SlotId) (start : Nat) (st : State) : Prop where
  /-- No two verdicts are derived. -/
  unique : ∀ verdict verdict', env.grammar.Derives env.source slot start verdict →
    env.grammar.Derives env.source slot start verdict' → verdict = verdict'
  /-- A call that ends reports a verdict that is derived. -/
  sound : ∀ fuel answer st', env.call fuel slot start st = some (answer, st') →
    (∃ verdict, env.grammar.Derives env.source slot start verdict ∧
      verdict.Reported start answer st') ∨ env.Exceeded st'
  /-- Where a verdict is derived a call ends and reports it. -/
  complete : ∀ verdict, env.grammar.Derives env.source slot start verdict →
    ∃ fuel answer st', env.call fuel slot start st = some (answer, st') ∧
      (verdict.Reported start answer st' ∨ env.Exceeded st')
  /-- Without a depth limit what is reported is what is derived. -/
  unlimited : env.options.maxDepth = none → ∀ verdict,
    env.grammar.Derives env.source slot start verdict ↔
      ∃ fuel answer st', env.call fuel slot start st = some (answer, st') ∧
        verdict.Reported start answer st'

/-- Without memoization calls mean what the grammar says, at every offset and from
every state of a run that goes on, whatever has failed before and however many
parsers are running. And what the grammar says of a reference is what it says of the
rule that the reference names. -/
theorem call_means_peg (hfree : env.grammar.StateFree) (hmode : env.options.memoize = false)
    (slot : SlotId) (start : Nat) (hlive : st.abort = none) :
    env.MeansPeg slot start st ∧
      ∀ rules, Grammar.build rules = .ok env.grammar →
        ∃ cells, env.grammar.Placed rules cells ∧
          ∀ done rule slot, (Expr.reference rule).LaidOut (env.grammar.places cells) done slot →
            ∃ target, env.grammar.rule? rule = some target ∧ ∀ src start verdict,
              env.grammar.Derives src slot start verdict ↔
                env.grammar.Derives src target start verdict := by
  refine ⟨⟨fun _ _ => derives_unique hfree, fun _ _ _ => call_reports hfree hmode hlive,
    fun _ => call_of_derives hfree hmode hlive, fun hlimit verdict => ?_⟩,
    fun _ hbuild => Grammar.reference_means_rule hbuild⟩
  constructor
  · intro hderives
    obtain ⟨fuel, answer, st', hcall, hreported | hexceeded⟩ :=
      call_of_derives hfree hmode hlive hderives
    · exact ⟨fuel, answer, st', hcall, hreported⟩
    · exact absurd hexceeded (not_exceeded hlimit st')
  · rintro ⟨fuel, answer, st', hcall, hreported⟩
    rcases call_reports hfree hmode hlive hcall with ⟨verdict', hderives, hreported'⟩ | hexceeded
    · rwa [hreported.unique hreported']
    · exact absurd hexceeded (not_exceeded hlimit st')

end Calls

/-- Digits with commas between them, a rule and the rule that it names. The source
ends in a comma behind which there is no digit. -/
def digits : Env where
  grammar := ⟨#[.separated 1 3, .reference 2, .primitive .digit, .primitive (.char ',')],
    [("digits", 0), ("digit", 2)]⟩
  source := .ofString "1,2,"
  options := { memoize := false }

theorem digits_stateFree : digits.grammar.StateFree :=
  Grammar.stateFree_of_looks rfl

/-- The comma at the end is not taken. -/
theorem call_means_peg_digits :
    digits.grammar.StateFree ∧ digits.options.memoize = false ∧
      digits.grammar.Derives digits.source 0 0 (.found (.list [.char '1', .char '2']) 3) :=
  ⟨digits_stateFree, rfl,
    ((call_means_peg digits_stateFree rfl 0 0 (show State.abort {} = none from rfl)).1.unlimited
      rfl _).2 ⟨5, _, _, rfl, rfl, rfl⟩⟩

end Env

end Packrat
