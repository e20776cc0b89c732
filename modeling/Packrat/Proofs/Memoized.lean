import Packrat.Proofs.Height
/-!
# Memoization does not change meaning

With memoization a call may be answered from the memo table, and it does not
match where the parser has come back to itself. Neither is seen from outside.

An entry holds what evaluation says, and the failures on the way to it have been
recorded when it was made. Running the parser again would record them again, and
that changes nothing: `Frontier.Absorbs`.

A parser that is still running is evaluated at some least height, and what it
asks for is evaluated below that height. So it does not ask for itself again, as
`eval_least` shows: no call is refused that would be answered without
memoization.

## Main results

* `Env.memo_call_of_eval` — a parser that is evaluated is answered in the same
  way with memoization.
* `Env.memoization_agrees` — any sequence of calls gives the same answers, the
  same deepest failures and the same end with and without memoization.
-/

namespace Packrat

namespace State

/-- Finished entries hold what evaluation says, and the failures on the way to
them have been recorded. -/
def Known (env : Env) (st : State) : Prop :=
  ∀ slot offset result, st.memo.find? slot offset = some (.ofResult result) →
    ∃ height failures, env.eval height slot offset = some (.done result, failures) ∧
      ∀ failure ∈ failures, st.frontier.Absorbs failure

/-- A parser is running at an offset. -/
def Running (st : State) (slot : SlotId) (offset : Nat) : Prop :=
  st.memo.find? slot offset = some .inProgress

variable {env : Env} {st st' : State}

/-- Entries stay known as more failures are recorded. -/
theorem Known.of_eq (h : st.Known env) (hmemo : st'.memo = st.memo) {failures : List Failure}
    (hfrontier : st'.frontier = st.frontier.recordAll failures) : st'.Known env := by
  intro slot offset result hentry
  rw [hmemo] at hentry
  obtain ⟨height, before, heval, habsorbs⟩ := h slot offset result hentry
  refine ⟨height, before, heval, fun failure hfailure => ?_⟩
  rw [hfrontier]
  exact (habsorbs failure hfailure).recordAll failures

/-- The entry of a parser that is about to run is not finished. -/
theorem Known.reserve (h : st.Known env) (slot : SlotId) (offset : Nat) :
    (st.reserve slot offset).Known env := by
  intro slot' offset' result hentry
  have hinsert : (st.memo.insert slot offset .inProgress).find? slot' offset' =
      some (.ofResult result) := hentry
  rw [MemoTable.find?_insert] at hinsert
  split at hinsert
  · exact absurd (Option.some.inj hinsert).symm (Memo.ofResult_ne_inProgress result)
  · exact h slot' offset' result hinsert

/-- A finished entry is known if it holds what evaluation says. -/
theorem Known.settle (h : st.Known env) (hlive : st.isAborted = false) {slot : SlotId}
    {offset height : Nat} {result : Option Match} {failures : List Failure}
    (heval : env.eval height slot offset = some (.done result, failures))
    (habsorbs : ∀ failure ∈ failures, st.frontier.Absorbs failure) :
    (st.settle slot offset result).Known env := by
  rw [settle_of_not_isAborted hlive]
  intro slot' offset' result' hentry
  have hinsert : (st.memo.insert slot offset (.ofResult result)).find? slot' offset' =
      some (.ofResult result') := hentry
  rw [MemoTable.find?_insert] at hinsert
  split at hinsert
  case isTrue hsame =>
    obtain ⟨rfl, rfl⟩ := hsame
    obtain rfl := Memo.ofResult_inj (Option.some.inj hinsert)
    exact ⟨height, failures, heval, habsorbs⟩
  case isFalse => exact h slot' offset' result' hinsert

theorem running_reserve {slot slot' : SlotId} {offset offset' : Nat}
    (h : (st.reserve slot offset).Running slot' offset') :
    (slot' = slot ∧ offset' = offset) ∨ st.Running slot' offset' := by
  have hinsert : (st.memo.insert slot offset .inProgress).find? slot' offset' =
      some .inProgress := h
  rw [MemoTable.find?_insert] at hinsert
  split at hinsert
  case isTrue hsame => exact .inl ⟨hsame.1.symm, hsame.2.symm⟩
  case isFalse => exact .inr hinsert

theorem running_settle (hlive : st.isAborted = false) {slot slot' : SlotId}
    {offset offset' : Nat} {result : Option Match}
    (h : (st.settle slot offset result).Running slot' offset') :
    ¬(slot' = slot ∧ offset' = offset) ∧ st.Running slot' offset' := by
  rw [settle_of_not_isAborted hlive] at h
  have hinsert : (st.memo.insert slot offset (.ofResult result)).find? slot' offset' =
      some .inProgress := h
  rw [MemoTable.find?_insert] at hinsert
  split at hinsert
  · exact absurd (Option.some.inj hinsert) (Memo.ofResult_ne_inProgress result)
  case isFalse hother => exact ⟨fun hsame => hother ⟨hsame.1.symm, hsame.2.symm⟩, hinsert⟩

end State

/-- What is remembered is what has happened. -/
theorem Ending.Leads.settle {ending : Ending (Option Match)} {failures : List Failure}
    {st last : State} {result : Option Match} (h : ending.Leads failures st result last)
    (slot : SlotId) (offset : Nat) :
    ending.Leads failures st (if last.isAborted then none else result)
      (last.settle slot offset result) := by
  have hfrontier : (last.settle slot offset result).frontier = last.frontier := by
    unfold State.settle
    split <;> rfl
  refine ⟨(State.settle_depth _ _ _ _).trans h.depth, hfrontier.trans h.frontier,
    (State.settle_abort _ _ _ _).trans h.abort, ?_⟩
  rw [h.isAborted_eq, h.answer]
  cases ending <;> rfl

namespace Env

variable {env : Env}

/-- What is not evaluated at a height is not evaluated below it. -/
theorem eval_eq_none_of_le {height height' : Nat} {slot : SlotId} {offset : Nat}
    (h : env.eval height slot offset = none) (hle : height' ≤ height) :
    env.eval height' slot offset = none := by
  cases hbelow : env.eval height' slot offset with
  | none => rfl
  | some outcome =>
      rw [eval_mono env hle hbelow] at h
      contradiction

/-- A state in the course of a run that began in another: there is room for more
parsers, entries are known, and no parser is running that was not running then. -/
structure Inside (env : Env) (height : Nat) (first st : State) : Prop where
  room : env.Room height st
  known : st.Known env
  running : ∀ slot offset, st.Running slot offset → first.Running slot offset

/-- Calls are answered as evaluation at a height says, as long as the parsers that
are running are not evaluated at that height. -/
def Answers (env : Env) (call : Call) (height : Nat) : Prop :=
  ∀ ⦃slot offset st ending failures⦄, env.Room height st → st.abort = none → st.Known env →
    (∀ slot offset, st.Running slot offset → env.eval height slot offset = none) →
    env.eval height slot offset = some (ending, failures) →
    ∃ answer st', call slot offset st = some (answer, st') ∧
      ending.Leads failures st answer st' ∧ (st'.abort = none → env.Inside height st st')

/-- A body is carried out as evaluation says if the calls that it makes are answered
so. The parsers that are running need not be evaluated below it. -/
private theorem body_of_eval (hfree : env.grammar.StateFree) {fuel height : Nat}
    (hcall : env.Answers (env.call (fuel + 1)) height) {slot : SlotId} {offset : Nat}
    {first : State} {ending : Ending (Option Match)} {before : List Failure}
    (hlive : first.abort = none) (hfirst : env.Inside height first first)
    (hrunning : ∀ slot offset, first.Running slot offset → env.eval height slot offset = none)
    (hplan : (env.planOf slot offset).eval (env.eval height) = some (ending, before)) :
    ∃ result last, (env.planOf slot offset).exec env.options (env.call (fuel + 1)) first =
        some (result, last) ∧
      ending.Leads before first result last ∧
      (last.abort = none → env.Inside height first last) := by
  have hinner {slot' : SlotId} {offset' : Nat} {st : State} {ending' : Ending (Option Match)}
      {failures : List Failure} (hst : env.Inside height first st) (hstLive : st.abort = none)
      (heval : env.eval height slot' offset' = some (ending', failures)) :
      ∃ answer st', env.call (fuel + 1) slot' offset' st = some (answer, st') ∧
        ending'.Leads failures st answer st' ∧
        (st'.abort = none → env.Inside height first st') := by
    have hidle : ∀ slot offset, st.Running slot offset → env.eval height slot offset = none :=
      fun slot offset hrun => hrunning slot offset (hst.running slot offset hrun)
    obtain ⟨answer, st', hanswer, hleads, hinside⟩ :=
      hcall hst.room hstLive hst.known hidle heval
    refine ⟨answer, st', hanswer, hleads, fun hlive' => ?_⟩
    have hst' := hinside hlive'
    exact ⟨hst'.room, hst'.known,
      fun slot offset hrun => hst.running slot offset (hst'.running slot offset hrun)⟩
  exact Plan.exec_of_eval hinner
    (fun hended slot' offset' => call_of_isAborted hended fuel slot' offset')
    (env.planOf_heedsEnd slot offset) (planOf_blind hfree slot offset) hfirst hlive hplan

/-- An answer from the memo table is what evaluation says. -/
private theorem leads_of_known {height : Nat} {slot : SlotId} {offset : Nat} {st : State}
    {ending : Ending (Option Match)} {failures : List Failure} {result : Option Match}
    (hknown : st.Known env) (hlive : st.abort = none)
    (hentry : st.memo.find? slot offset = some (.ofResult result))
    (h : env.eval height slot offset = some (ending, failures)) :
    ending.Leads failures st result (st.enter slot offset).hit := by
  obtain ⟨height', failures', heval, habsorbs⟩ := hknown slot offset result hentry
  obtain ⟨rfl, rfl⟩ := Prod.mk.inj (eval_unique h heval)
  have hfrontier : (st.enter slot offset).hit.frontier = st.frontier := rfl
  exact ⟨rfl, by rw [hfrontier, Frontier.recordAll_of_absorbs habsorbs], hlive, rfl⟩

/-- The entry of a body that has come back is known, and the body is no longer
running. -/
private theorem settle_known {height : Nat} {slot : SlotId} {offset : Nat} {st last : State}
    {ending : Ending (Option Match)} {before : List Failure} {result : Option Match}
    (hleads : ending.Leads before
      (((st.enter slot offset).reserve slot offset).begin slot offset) result last)
    (hfinish : ending.Leads (before ++ env.failures slot offset ending) st result
      (last.finish slot offset (env.grammar.name? slot) result))
    (hlive : last.abort = none) (hknown : last.Known env)
    (heval : env.eval height slot offset =
      some (ending, before ++ env.failures slot offset ending))
    (hrunning : ∀ slot' offset', last.Running slot' offset' →
      (((st.enter slot offset).reserve slot offset).begin slot offset).Running slot' offset') :
    ((last.finish slot offset (env.grammar.name? slot) result).settle slot offset
        result).Known env ∧
      ∀ slot' offset', ((last.finish slot offset (env.grammar.name? slot) result).settle slot
        offset result).Running slot' offset' → st.Running slot' offset' := by
  have hgoes : (last.finish slot offset (env.grammar.name? slot) result).isAborted = false := by
    rw [State.finish_isAborted]
    simp [State.isAborted, hlive]
  cases ending with
  | abort position error =>
      have hover := hleads.abort
      rw [hlive] at hover
      contradiction
  | done answer =>
      obtain rfl : result = answer := hleads.answer
      refine ⟨?_, fun slot' offset' hrun => ?_⟩
      · have hlast := hleads.frontier
        have hall := hfinish.frontier
        rw [Frontier.recordAll_append] at hall
        have hmid := hknown.of_eq (State.finish_memo last slot offset _ result)
          (hall.trans (congrArg (Frontier.recordAll · _) hlast.symm))
        refine hmid.settle hgoes heval fun failure hfailure => ?_
        rw [hfinish.frontier]
        exact Frontier.absorbs_recordAll _ _ failure hfailure
      · obtain ⟨hother, hrun⟩ := State.running_settle hgoes hrun
        rw [State.Running, State.finish_memo] at hrun
        exact (State.running_reserve (hrunning slot' offset' hrun)).resolve_left hother

/-- With memoization a parser that is evaluated is answered as evaluation says, as
long as the parsers that are running are not evaluated at the same height. -/
theorem memo_call_of_eval (hfree : env.grammar.StateFree) (hmode : env.options.memoize = true)
    (height : Nat) {fuel : Nat} (hfuel : height < fuel) :
    env.Answers (env.call fuel) height := by
  induction height using Nat.strongRecOn generalizing fuel with
  | ind height ih =>
      intro slot offset st ending failures hroom hlive hknown hrunning h
      obtain ⟨least, hleast, hnone, heval⟩ := eval_least h
      have hgoes : st.isAborted = false := by simp [State.isAborted, hlive]
      have hlimit : env.atLimit st = none := (hroom.mono (show least + 1 ≤ height by omega)).atLimit
      obtain ⟨fuel, rfl⟩ : ∃ below, fuel = below + 2 := ⟨fuel - 2, by omega⟩
      have hhit : env.Inside height st (st.enter slot offset).hit :=
        ⟨hroom, hknown, fun _ _ => id⟩
      cases hentry : st.memo.find? slot offset with
      | some memo =>
          cases memo with
          | inProgress =>
              rw [hrunning slot offset hentry] at h
              contradiction
          | failed =>
              exact ⟨_, _, answer_eq_some_iff.2 (.knownFailure hgoes hlimit hmode hentry),
                leads_of_known hknown hlive hentry h, fun _ => hhit⟩
          | matched m =>
              exact ⟨_, _, answer_eq_some_iff.2 (.knownMatch hgoes hlimit hmode hentry),
                leads_of_known hknown hlive hentry h, fun _ => hhit⟩
      | none =>
          obtain ⟨before, hplan, rfl⟩ := eval_succ_eq_some_iff.1 heval
          let first := ((st.enter slot offset).reserve slot offset).begin slot offset
          have hdepth : first.depth = st.depth + 1 := rfl
          have hfirst : env.Inside least first first :=
            ⟨(hroom.mono (by omega)).below hdepth, State.Known.reserve hknown slot offset,
              fun _ _ => id⟩
          -- The parser itself is not evaluated below its least height, nor are those around it.
          have hbelow : ∀ slot' offset', first.Running slot' offset' →
              env.eval least slot' offset' = none := by
            intro slot' offset' hrun
            rcases State.running_reserve hrun with ⟨rfl, rfl⟩ | hrun
            · exact hnone
            · exact eval_eq_none_of_le (hrunning slot' offset' hrun) (by omega)
          have hcall : env.Answers (env.call (fuel + 1)) least := ih least hleast (by omega)
          obtain ⟨result, last, hexec, hleads, hlast⟩ := body_of_eval hfree hcall
            (show first.abort = none from hlive) hfirst hbelow hplan
          have hfinish := hleads.finish env slot offset hdepth (rfl : first.frontier = st.frontier)
          have hsettled := hfinish.settle slot offset
          refine ⟨_, _, answer_eq_some_iff.2 (.missed hgoes hlimit hmode hentry hexec), hsettled,
            fun hlive' => ?_⟩
          rw [State.settle_abort, State.finish_abort] at hlive'
          have hinside := hlast hlive'
          have hdone := settle_known hleads hfinish hlive' hinside.known heval hinside.running
          refine ⟨fun limit hmax => ?_, hdone.1, hdone.2⟩
          rw [hsettled.depth]
          exact hroom limit hmax

/-! ## Calls one after another -/

/-- An environment with and without memoization, and otherwise the same. -/
def withMemo (env : Env) (memoize : Bool) : Env :=
  { env with options := { env.options with memoize } }

/-- Calls one after another on one state: the answer to each and the state after
it; nothing if a call does not end. -/
def calls (env : Env) (fuel : Nat) :
    List (SlotId × Nat) → State → Option (List (Option Match × State))
  | [], _ => some []
  | (slot, offset) :: rest, st =>
    match env.call fuel slot offset st with
    | none => none
    | some (answer, st) => (env.calls fuel rest st).map ((answer, st) :: ·)

/-- Evaluation knows nothing of memoization. -/
theorem eval_withMemo (env : Env) (memoize : Bool) (height : Nat) :
    (env.withMemo memoize).eval height = env.eval height := by
  induction height with
  | zero => rfl
  | succ height ih =>
      funext slot offset
      simp only [eval, ih]
      rfl

/-- Two answers, and the states after them, that cannot be told apart: they have
the same match, the same deepest failure and the same end. -/
structure SameRun (run run' : Option Match × State) : Prop where
  answer : run'.1 = run.1
  deepest : run'.2.deepest = run.2.deepest
  expected : run'.2.expected = run.2.expected
  abort : run'.2.abort = run.2.abort

/-- A state without memoization and one with it that go together between calls. -/
structure Paired (env : Env) (st st' : State) : Prop where
  depth : st'.depth = st.depth
  frontier : st'.frontier = st.frontier
  abort : st'.abort = st.abort
  /-- Calls are made from a depth within the limit. -/
  room : ∀ limit, env.options.maxDepth = some limit → st.depth ≤ limit
  /-- While the run goes on the memo table holds what evaluation says, and no
  parser is running. -/
  known : st.abort = none →
    st'.Known (env.withMemo true) ∧ ∀ slot offset, ¬st'.Running slot offset

theorem Paired.fresh (env : Env) : env.Paired {} {} := by
  refine ⟨rfl, rfl, rfl, fun limit _ => Nat.zero_le limit, fun _ => ⟨?_, ?_⟩⟩
  · intro slot offset result hentry
    rw [State.find?_fresh] at hentry
    contradiction
  · intro slot offset hrun
    rw [State.Running, State.find?_fresh] at hrun
    contradiction

/-- Calls from paired states that end without memoization end with it, in the
same way and in paired states. -/
theorem Paired.call {st st' last : State} (hpair : env.Paired st st')
    (hfree : env.grammar.StateFree) {fuel : Nat} {slot : SlotId} {offset : Nat}
    {answer : Option Match}
    (h : (env.withMemo false).call fuel slot offset st = some (answer, last))
    (hlimit : last.WithinLimit) :
    ∃ last', (env.withMemo true).call (fuel + 1) slot offset st' = some (answer, last') ∧
      env.Paired last last' := by
  cases habort : st.abort with
  | some abort =>
      have hended : st.isAborted = true := by simp [State.isAborted, habort]
      have hended' : st'.isAborted = true := by simp [State.isAborted, hpair.abort, habort]
      have hplain := (call_quiet _ fuel h)
      obtain rfl := hplain.1 hended
      obtain rfl := hplain.2 hended
      exact ⟨st', call_of_isAborted hended' fuel slot offset, hpair⟩
  | none =>
      have hplain : (env.withMemo false).grammar.StateFree := hfree
      have hcached : (env.withMemo true).grammar.StateFree := hfree
      obtain ⟨ending, failures, heval, hleads⟩ := eval_of_call hplain rfl fuel habort h hlimit
      obtain ⟨hknown, hidle⟩ := hpair.known habort
      rw [eval_withMemo, ← eval_withMemo env true] at heval
      have hheight : (env.withMemo false).height fuel st.depth < fuel + 1 :=
        Nat.lt_succ_of_le (height_le _ _ _)
      have hroom : (env.withMemo true).Room ((env.withMemo false).height fuel st.depth) st' := by
        intro limit hmax
        rw [hpair.depth]
        exact (env.withMemo false).room_height hpair.room limit hmax
      obtain ⟨answer', last', hcall, hleads', hinside⟩ := memo_call_of_eval hcached rfl _ hheight
        hroom (hpair.abort.trans habort) hknown (fun slot offset hrun => absurd hrun (hidle _ _))
        heval
      obtain rfl : answer = answer' := hleads.answer.trans hleads'.answer.symm
      refine ⟨last', hcall, ?_, ?_, hleads'.abort.trans hleads.abort.symm, ?_, fun hlive => ?_⟩
      · rw [hleads'.depth, hpair.depth, hleads.depth]
      · rw [hleads'.frontier, hpair.frontier, hleads.frontier]
      · rw [hleads.depth]
        exact hpair.room
      · have hlive' := (hleads'.abort.trans hleads.abort.symm).trans hlive
        have hlast := hinside hlive'
        exact ⟨hlast.known, fun slot offset hrun => hidle _ _ (hlast.running _ _ hrun)⟩

theorem Paired.sameRun {st st' : State} (hpair : env.Paired st st') (answer : Option Match) :
    SameRun (answer, st) (answer, st') :=
  ⟨rfl, congrArg Frontier.deepest hpair.frontier, congrArg Frontier.expected hpair.frontier,
    hpair.abort⟩

/-- So it is for calls one after another. -/
private theorem Paired.calls {st st' : State} (hpair : env.Paired st st')
    (hfree : env.grammar.StateFree) {fuel : Nat} {asked : List (SlotId × Nat)}
    {runs : List (Option Match × State)}
    (h : (env.withMemo false).calls fuel asked st = some runs)
    (hlimit : ∀ run ∈ runs, run.2.WithinLimit) :
    ∃ runs', (env.withMemo true).calls (fuel + 1) asked st' = some runs' ∧
      List.Forall₂ SameRun runs runs' := by
  induction asked generalizing st st' runs with
  | nil =>
      obtain rfl := Option.some.inj h
      exact ⟨[], rfl, .nil⟩
  | cons place rest ih =>
      obtain ⟨slot, offset⟩ := place
      simp only [Env.calls] at h
      split at h
      · contradiction
      case h_2 answer last hanswer =>
        obtain ⟨runs, hrest, rfl⟩ := Option.map_eq_some_iff.1 h
        obtain ⟨last', hanswer', hpair'⟩ :=
          hpair.call hfree hanswer (hlimit _ (List.mem_cons_self ..))
        obtain ⟨runs', hrest', hsame⟩ :=
          ih hpair' hrest fun run hrun => hlimit run (List.mem_cons_of_mem _ hrun)
        refine ⟨(answer, last') :: runs', ?_, .cons (hpair'.sameRun answer) hsame⟩
        simp only [Env.calls, hanswer', hrest', Option.map_some]

/-- Runs that cannot be told apart have the same outcome. -/
theorem outcome_of_sameRun {answer answer' : Option Match} {st st' : State}
    (h : SameRun (answer, st) (answer', st')) (memoize memoize' : Bool) :
    (env.withMemo memoize').outcome answer' st' = (env.withMemo memoize).outcome answer st := by
  obtain ⟨hanswer, hdeepest, hexpected, habort⟩ := h
  simp only at hanswer hdeepest hexpected habort
  subst hanswer
  simp only [outcome, habort, Diagnostics.capture, Diagnostics.atOffset, hdeepest, hexpected]
  rfl

/-- Memoization does not change meaning. Whatever calls are made one after another
on a fresh state, at any offsets: if they all end without memoization, and the
depth limit does not end the run, then they end with memoization too; each gives
the same answer, and after each the deepest failure, the names expected there and
the end of the run are the same. So parsing a whole source has the same outcome. -/
theorem memoization_agrees (hfree : env.grammar.StateFree) (fuel : Nat) :
    (∀ asked runs, (env.withMemo false).calls fuel asked {} = some runs →
      (∀ run ∈ runs, run.2.WithinLimit) →
      ∃ runs', (env.withMemo true).calls (fuel + 1) asked {} = some runs' ∧
        List.Forall₂ SameRun runs runs') ∧
      ∀ slot answer st, (env.withMemo false).call fuel slot 0 {} = some (answer, st) →
        st.WithinLimit → env.grammar.Closed → slot < env.grammar.size →
        ∃ report report', (env.withMemo false).parseAll slot = some report ∧
          (env.withMemo true).parseAll slot = some report' ∧
          report'.outcome = report.outcome := by
  refine ⟨fun asked runs h hlimit => (Paired.fresh env).calls hfree h hlimit, ?_⟩
  intro slot answer st h hlimit hclosed hslot
  obtain ⟨last, hcall, hpair⟩ := (Paired.fresh env).call hfree h hlimit
  have hboth (memoize : Bool) : (env.withMemo memoize).grammar.Closed := hclosed
  have hplain : (env.withMemo false).parse slot 0 {} = some (answer, st) :=
    parse_of_call (hboth false) (.inr (.inr hfree)) hslot Reachable.fresh.memoSound h
  have hcached : (env.withMemo true).parse slot 0 {} = some (answer, last) :=
    parse_of_call (hboth true) (.inl rfl) hslot Reachable.fresh.memoSound hcall
  refine ⟨_, _, by rw [parseAll, hplain], by rw [parseAll, hcached], ?_⟩
  exact outcome_of_sameRun (hpair.sameRun answer) false true

/-- An `a` and an `x`, or the same `a` and a `y`. -/
def backtracking : Env where
  grammar := ⟨#[.choice 1 2, .sequence 3 4, .sequence 3 5, .primitive (.char 'a'),
    .primitive (.char 'x'), .primitive (.char 'y')], [("pair", 0)]⟩
  source := .ofString "ay"
  options := {}

theorem backtracking_stateFree : backtracking.grammar.StateFree :=
  Grammar.stateFree_of_looks rfl

theorem memoization_agrees_backtracking :
    backtracking.grammar.StateFree ∧
      ∃ runs runs', (backtracking.withMemo false).calls 3 [(0, 0), (3, 1)] {} = some runs ∧
        (backtracking.withMemo true).calls 4 [(0, 0), (3, 1)] {} = some runs' ∧
        List.Forall₂ SameRun runs runs' := by
  have hruns : ((backtracking.withMemo false).calls 3 [(0, 0), (3, 1)] {}).map
      (·.all (·.2.abort.isNone)) = some true := rfl
  obtain ⟨runs, hplain, hlive⟩ := Option.map_eq_some_iff.1 hruns
  have hlimit (run : Option Match × State) (hrun : run ∈ runs) : run.2.WithinLimit := by
    have hnone := List.all_eq_true.1 hlive run hrun
    exact State.withinLimit_of_live (Option.isNone_iff_eq_none.1 hnone)
  obtain ⟨runs', hcached, hsame⟩ :=
    (memoization_agrees backtracking_stateFree 3).1 _ runs hplain hlimit
  exact ⟨backtracking_stateFree, runs, runs', hplain, hcached, hsame⟩

end Env

end Packrat
