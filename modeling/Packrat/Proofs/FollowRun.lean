import Packrat.Proofs.Follow
import Packrat.Proofs.Memoized
import Packrat.Proofs.PegRun
/-!
# Runs that follow one another

If the slots of two grammars that correspond match, and a run of the one ends without
memoization, then the runs of both end, with and without memoization. They give the same
answer and have the same end, and their failures are to the same effect.

How much of an outcome is the same depends on how much of the names was looked at. If names
were looked at as they are, all of it is; if they were not looked at, all but the names that
are expected.

## Main results

* `Env.parse_of_eval` — runs end as evaluation says, with and without memoization.
* `Env.parse_of_follows` — runs of parsers that follow one another go alike.
* `Env.parse_follows` — so do runs of grammars that match.
* `Env.outcome_of_seen`, `Env.outcome_of_unseen` — what they report.
-/

namespace Packrat

/-- Two answers, and the states after them, that are the same as far as names are looked
at. -/
structure SameAsSeen (see : Option String → Option String) (run run' : Option Match × State) :
    Prop where
  answer : run'.1 = run.1
  abort : run'.2.abort = run.2.abort
  failures : ∃ failures failures', Failure.Same see failures failures' ∧
    run.2.frontier = ({} : State).frontier.recordAll failures ∧
    run'.2.frontier = ({} : State).frontier.recordAll failures'

/-- A failure is no deeper and no less deep for its name. -/
theorem Frontier.recordAll_deepest_seen (see : Option String → Option String)
    (fr fr' : Frontier) (hdeepest : fr'.deepest = fr.deepest) (failures : List Failure) :
    (fr'.recordAll (failures.map (Failure.seen see))).deepest =
      (fr.recordAll failures).deepest := by
  induction failures generalizing fr fr' with
  | nil => exact hdeepest
  | cons failure rest ih =>
      rw [List.map_cons, recordAll_cons, recordAll_cons]
      refine ih _ _ ?_
      rcases Nat.lt_trichotomy fr.deepest failure.offset with hlt | heq | hgt
      · rw [record_of_lt hlt, record_of_lt (hdeepest ▸ hlt)]
        rfl
      · rw [record_of_eq heq.symm, record_of_eq (hdeepest ▸ heq.symm)]
        exact hdeepest
      · rw [record_of_gt hgt, record_of_gt (hdeepest ▸ hgt)]
        exact hdeepest

namespace SameAsSeen

variable {see : Option String → Option String} {run run' : Option Match × State}

/-- The deepest failure is the same, whatever is looked at of names. -/
theorem deepest (h : SameAsSeen see run run') : run'.2.deepest = run.2.deepest := by
  obtain ⟨failures, failures', hsame, hfrontier, hfrontier'⟩ := h.failures
  have hdeepest := congrArg Frontier.deepest (hsame ({} : State).frontier)
  rw [Frontier.recordAll_deepest_seen see _ _ rfl, Frontier.recordAll_deepest_seen see _ _ rfl,
    ← hfrontier, ← hfrontier'] at hdeepest
  exact hdeepest.symm

/-- If names are looked at as they are, what is expected is the same. -/
theorem expected (h : SameAsSeen id run run') : run'.2.expected = run.2.expected := by
  obtain ⟨failures, failures', hsame, hfrontier, hfrontier'⟩ := h.failures
  have hall (failures : List Failure) : failures.map (Failure.seen id) = failures :=
    List.map_id failures
  have hframe := hsame ({} : State).frontier
  rw [hall, hall, ← hfrontier, ← hfrontier'] at hframe
  exact congrArg Frontier.expected hframe.symm

end SameAsSeen

namespace Env

variable {env env' : Env} {see : Option String → Option String}

/-- With and without memoization, what is evaluated is what a run on a fresh state comes
to, if there is no depth limit. -/
theorem parse_of_eval (hfree : env.grammar.StateFree) (hclosed : env.grammar.Closed)
    (hlimit : env.options.maxDepth = none) {slot : SlotId} (hslot : slot < env.grammar.size)
    {start height : Nat} {ending : Ending (Option Match)} {failures : List Failure}
    (h : env.eval height slot start = some (ending, failures)) :
    ∃ answer last, env.parse slot start {} = some (answer, last) ∧
      ending.Leads failures {} answer last := by
  have hroom : env.Room height {} := .of_unlimited hlimit height {}
  have hcall : ∃ answer last, env.call (height + 1) slot start {} = some (answer, last) ∧
      ending.Leads failures {} answer last := by
    cases hmode : env.options.memoize with
    | false => exact call_of_eval hfree hmode height (Nat.lt_succ_self _) hroom rfl h
    | true =>
        obtain ⟨hknown, hidle⟩ := (Paired.fresh env).known rfl
        have hmemo : env.withMemo true = env := by
          obtain ⟨grammar, source, options⟩ := env
          obtain ⟨memoize, maxDepth⟩ := options
          obtain rfl : memoize = true := hmode
          rfl
        rw [hmemo] at hknown
        obtain ⟨answer, last, hcall, hleads, -⟩ := memo_call_of_eval hfree hmode height
          (Nat.lt_succ_self _) hroom rfl hknown (fun slot offset hrun => absurd hrun (hidle _ _)) h
        exact ⟨answer, last, hcall, hleads⟩
  obtain ⟨answer, last, hcall, hleads⟩ := hcall
  exact ⟨answer, last, parse_of_call hclosed (.inr (.inr hfree)) hslot
    Reachable.fresh.memoSound hcall, hleads⟩

/-- With and without memoization, a run on a fresh state reports what is derived, if there is
no depth limit. -/
theorem parse_of_derives (hfree : env.grammar.StateFree) (hclosed : env.grammar.Closed)
    (hlimit : env.options.maxDepth = none) {slot : SlotId} (hslot : slot < env.grammar.size)
    {start : Nat} {verdict : Verdict Value}
    (h : env.grammar.Derives env.source slot start verdict) :
    ∃ answer last, env.parse slot start {} = some (answer, last) ∧
      verdict.Reported start answer last := by
  obtain ⟨height, failures, heval⟩ := eval_of_derives hfree h
  obtain ⟨answer, last, hparse, hleads⟩ := parse_of_eval hfree hclosed hlimit hslot heval
  exact ⟨answer, last, hparse, Verdict.reported_iff.2 ⟨hleads.answer, hleads.abort⟩⟩

/-- A run on a fresh state that ends without memoization and without a depth limit is
evaluated. -/
theorem eval_of_run (hfree : env.grammar.StateFree) (hlimit : env.options.maxDepth = none)
    {fuel start : Nat} {slot : SlotId} {run : Option Match × State}
    (h : (env.withMemo false).call fuel slot start {} = some run) :
    ∃ height ending failures, env.eval height slot start = some (ending, failures) := by
  obtain ⟨answer, last⟩ := run
  have hfree' : (env.withMemo false).grammar.StateFree := hfree
  have hwithin : last.WithinLimit :=
    (call_limited fuel (.inl (State.withinLimit_of_live rfl)) h).resolve_right
      (not_exceeded hlimit last)
  obtain ⟨ending, failures, heval, -⟩ := eval_of_call hfree' rfl fuel rfl h hwithin
  rw [eval_withMemo] at heval
  exact ⟨_, ending, failures, heval⟩

/-- Runs of parsers that follow one another go alike. What is evaluated of the one is what
both come to, and they are the same as far as names are looked at. -/
theorem parse_of_follows (hfree : env.grammar.StateFree) (hfree' : env'.grammar.StateFree)
    (hclosed : env.grammar.Closed) (hclosed' : env'.grammar.Closed)
    (hlimit : env.options.maxDepth = none) (hlimit' : env'.options.maxDepth = none)
    {slot slot' : SlotId} (hslot : slot < env.grammar.size) (hslot' : slot' < env'.grammar.size)
    {start height : Nat} (hfollows : env.Follows env' see height slot slot')
    {ending : Ending (Option Match)} {failures : List Failure}
    (h : env.eval height slot start = some (ending, failures)) :
    ∃ run run', env.parse slot start {} = some run ∧ env'.parse slot' start {} = some run' ∧
      SameAsSeen see run run' := by
  obtain ⟨⟨height', failures', h', hsame⟩, -⟩ := hfollows start ending failures h
  obtain ⟨answer, last, hparse, hleads⟩ := parse_of_eval hfree hclosed hlimit hslot h
  obtain ⟨answer', last', hparse', hleads'⟩ := parse_of_eval hfree' hclosed' hlimit' hslot' h'
  exact ⟨(answer, last), (answer', last'), hparse, hparse',
    hleads'.answer.trans hleads.answer.symm, hleads'.abort.trans hleads.abort.symm,
    failures, failures', hsame, hleads.frontier, hleads'.frontier⟩

/-- Runs of grammars that match go alike. If the run of the one ends without memoization,
both end in either mode, and they are the same as far as names are looked at. -/
theorem parse_follows (hsource : env'.source = env.source)
    (hfree : env.grammar.StateFree) (hfree' : env'.grammar.StateFree)
    (hclosed : env.grammar.Closed) (hclosed' : env'.grammar.Closed)
    (hlimit : env.options.maxDepth = none) (hlimit' : env'.options.maxDepth = none)
    {R : SlotId → SlotId → Prop}
    (hmatches : ∀ slot slot', R slot slot' →
      env.grammar.Matches env'.grammar see R slot slot')
    {slot slot' : SlotId} (hroot : R slot slot') (hslot : slot < env.grammar.size)
    (hslot' : slot' < env'.grammar.size) {height : Nat} {ending : Ending (Option Match)}
    {failures : List Failure} (h : env.eval height slot 0 = some (ending, failures)) :
    ∃ run run', env.parse slot 0 {} = some run ∧ env'.parse slot' 0 {} = some run' ∧
      SameAsSeen see run run' :=
  parse_of_follows hfree hfree' hclosed hclosed' hlimit hlimit' hslot hslot'
    (eval_follows hsource hclosed hclosed' hmatches height hroot) h

end Env

/-! ## Outcomes -/

namespace ParseError

/-- An error without the names that were expected. -/
def withoutExpected : ParseError → ParseError
  | .unmatchedInput diagnostics => .unmatchedInput { diagnostics with expected := [] }
  | .extraCharacters position remainder diagnostics =>
    .extraCharacters position remainder { diagnostics with expected := [] }
  | .transform position error => .transform position error
  | .recursionLimit limit position => .recursionLimit limit position

end ParseError

namespace Env

variable {env env' : Env} {run run' : Option Match × State}

/-- If names are looked at as they are, the outcome is the same. -/
theorem outcome_of_seen (hsource : env'.source = env.source) (h : SameAsSeen id run run') :
    env'.outcome run'.1 run'.2 = env.outcome run.1 run.2 := by
  simp only [outcome, h.answer, h.abort, Diagnostics.capture, Diagnostics.atOffset, h.deepest,
    h.expected, hsource]

/-- Whatever is looked at of names, the outcome is the same but for the names that are
expected. -/
theorem outcome_of_unseen {see : Option String → Option String}
    (hsource : env'.source = env.source) (h : SameAsSeen see run run') :
    (env'.outcome run'.1 run'.2).mapError ParseError.withoutExpected =
      (env.outcome run.1 run.2).mapError ParseError.withoutExpected := by
  obtain ⟨answer, last⟩ := run
  obtain ⟨answer', last'⟩ := run'
  obtain rfl : answer' = answer := h.answer
  have habort : last'.abort = last.abort := h.abort
  have hdeepest : last'.deepest = last.deepest := h.deepest
  simp only [outcome, habort, hsource]
  cases last.abort with
  | some abort => rfl
  | none =>
      cases answer' with
      | none =>
          simp only [Except.mapError, ParseError.withoutExpected, Diagnostics.capture,
            Diagnostics.atOffset, hdeepest]
      | some m =>
          by_cases hstop : m.stop = env.source.size
          · simp only [if_pos hstop]
          · simp only [if_neg hstop, Except.mapError, ParseError.withoutExpected,
              Diagnostics.atOffset, hdeepest]

end Env

end Packrat
