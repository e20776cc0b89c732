import Packrat.Proofs.Balance
/-!
# The deepest failure of a whole run

The deepest failure is kept up to date one failure at a time, while the run goes back
and forth and while answers from the memo table record nothing. What it comes to is
said here of the whole history: of all failures in the order in which they happened,
the greatest offset, and the names that failed there, each at its first place.

A failure that is answered from the memo table has been recorded when its entry was
made. So wherever a call has no match the deepest failure is at least as deep, as long
as no parser has come back to itself: a left recursion has no match either, and nothing
has failed yet.

## Main results

* `Frontier.recordAll_eq` — what is kept of a list of failures.
* `Env.Passes.frontier` — what is kept of a run.
* `Env.Passes.deep` — where a call has no match the deepest failure is as deep.
* `Env.deepest_exact` — what is kept at all moments of all runs.
-/

namespace Packrat

namespace Failure

/-- The deepest offset of some failures, the beginning if there are none. -/
def deepest (failures : List Failure) : Nat := (failures.map (·.offset)).foldl max 0

/-- The names of the parsers that failed at an offset, in order. -/
def namesAt (failures : List Failure) (offset : Nat) : List String :=
  (failures.filter fun failure => failure.offset = offset).filterMap (·.name)

theorem deepest_append (failures : List Failure) (last : Failure) :
    deepest (failures ++ [last]) = max (deepest failures) last.offset := by
  simp [deepest]

theorem offset_le_deepest {failures : List Failure} {failure : Failure}
    (h : failure ∈ failures) : failure.offset ≤ deepest failures := by
  induction failures using List.reverseRecOn with
  | nil => exact absurd h List.not_mem_nil
  | append_singleton failures last ih =>
      rw [deepest_append]
      rcases List.mem_append.1 h with h | h
      · exact Nat.le_trans (ih h) (Nat.le_max_left ..)
      · obtain rfl := List.mem_singleton.1 h
        exact Nat.le_max_right ..

theorem mem_namesAt_iff {failures : List Failure} {offset : Nat} {name : String} :
    name ∈ namesAt failures offset ↔ ⟨some name, offset⟩ ∈ failures := by
  simp only [namesAt, List.mem_filterMap, List.mem_filter, decide_eq_true_eq]
  constructor
  · rintro ⟨⟨_, _⟩, ⟨hmem, rfl⟩, rfl⟩
    exact hmem
  · intro hmem
    exact ⟨_, ⟨hmem, rfl⟩, rfl⟩

theorem namesAt_append_of_eq {failures : List Failure} {last : Failure} {offset : Nat}
    (h : last.offset = offset) :
    namesAt (failures ++ [last]) offset = namesAt failures offset ++ last.name.toList := by
  cases hname : last.name <;> simp [namesAt, h, hname]

theorem namesAt_append_of_ne {failures : List Failure} {last : Failure} {offset : Nat}
    (h : last.offset ≠ offset) :
    namesAt (failures ++ [last]) offset = namesAt failures offset := by
  simp [namesAt, h]

/-- Nothing has failed deeper than the deepest failure. -/
theorem namesAt_of_deepest_lt {failures : List Failure} {offset : Nat}
    (h : deepest failures < offset) : namesAt failures offset = [] := by
  refine List.eq_nil_iff_forall_not_mem.2 fun name hname => ?_
  have hle := offset_le_deepest (mem_namesAt_iff.1 hname)
  exact absurd hle (Nat.not_le.2 h)

end Failure

namespace Frontier

/-- A name is added to names without repetitions just when it is new to them. -/
theorem addName_eraseDups (names : List String) (name : Option String) :
    addName names.eraseDups name = (names ++ name.toList).eraseDups := by
  cases name with
  | none => simp [addName]
  | some name =>
      rw [List.eraseDups_append, addName, Option.toList_some]
      by_cases hmem : name ∈ names <;> simp [List.removeAll, List.eraseDups_cons, hmem]

/-- Of failures, the deepest offset is kept, and the names that failed there without
repetitions, in the order of their first failures. -/
theorem recordAll_eq (failures : List Failure) :
    (⟨0, []⟩ : Frontier).recordAll failures =
      ⟨Failure.deepest failures,
        (Failure.namesAt failures (Failure.deepest failures)).eraseDups⟩ := by
  induction failures using List.reverseRecOn with
  | nil => rfl
  | append_singleton failures last ih =>
      rw [recordAll_append, ih, recordAll_cons, recordAll_nil, Failure.deepest_append]
      rcases Nat.lt_trichotomy (Failure.deepest failures) last.offset with hlt | heq | hgt
      · rw [record_of_lt hlt, Nat.max_eq_right (Nat.le_of_lt hlt),
          Failure.namesAt_append_of_eq rfl, Failure.namesAt_of_deepest_lt hlt]
        exact congrArg _ (addName_eraseDups [] last.name)
      · rw [record_of_eq heq.symm, Nat.max_eq_left (Nat.le_of_eq heq.symm),
          Failure.namesAt_append_of_eq heq.symm, addName_eraseDups]
      · rw [record_of_gt hgt, Nat.max_eq_left (Nat.le_of_lt hgt),
          Failure.namesAt_append_of_ne (Nat.ne_of_lt hgt)]

theorem nodup_addName {names : List String} (h : names.Nodup) (name : Option String) :
    (addName names name).Nodup := by
  cases name with
  | none => exact h
  | some name =>
      simp only [addName]
      split
      case isTrue => exact h
      case isFalse hnew => exact List.concat_eq_append ▸ h.concat hnew

/-- No name is kept twice. -/
theorem nodup_recordAll {fr : Frontier} (h : fr.expected.Nodup) (failures : List Failure) :
    (fr.recordAll failures).expected.Nodup := by
  induction failures generalizing fr with
  | nil => exact h
  | cons failure rest ih =>
      refine ih ?_
      rw [record]
      split
      · exact nodup_addName .nil _
      · split
        · exact nodup_addName h _
        · exact h

/-- The deepest failure never gets shallower, and is no shallower than a failure that is
recorded. -/
theorem le_record (fr : Frontier) (failure : Failure) :
    fr.deepest ≤ (fr.record failure).deepest ∧ failure.offset ≤ (fr.record failure).deepest := by
  rcases Nat.lt_trichotomy fr.deepest failure.offset with hlt | heq | hgt
  · rw [record_of_lt hlt]
    exact ⟨Nat.le_of_lt hlt, Nat.le_refl _⟩
  · rw [record_of_eq heq.symm]
    exact ⟨Nat.le_refl _, Nat.le_of_eq heq.symm⟩
  · rw [record_of_gt hgt]
    exact ⟨Nat.le_refl _, Nat.le_of_lt hgt⟩

theorem le_recordAll (fr : Frontier) (failures : List Failure) :
    fr.deepest ≤ (fr.recordAll failures).deepest := by
  induction failures generalizing fr with
  | nil => exact Nat.le_refl _
  | cons failure rest ih => exact Nat.le_trans (fr.le_record failure).1 (ih _)

end Frontier

namespace Moment

/-- The failure at a moment: the body of a parser has come back without a match in a run
that goes on. -/
def failure (env : Env) (m : Moment) : Option Failure :=
  match m.doing with
  | .body slot offset (.done none) =>
    if m.state.isAborted then none else some ⟨env.grammar.name? slot, offset⟩
  | _ => none

/-- The failures at some moments, in order. -/
def failures (env : Env) (moments : List Moment) : List Failure := moments.filterMap (failure env)

/-- A parser is called where its body is running. -/
def Reenters (m : Moment) : Prop :=
  ∃ slot offset, m.doing = .call slot offset ∧ (slot, offset) ∈ m.running

/-- Where no match is known or answered, the deepest failure is as deep. -/
structure Deep (m : Moment) : Prop where
  known : ∀ slot offset, m.state.memo.find? slot offset = some .failed → offset ≤ m.state.deepest
  answered : m.state.isAborted = false →
    ∀ slot offset, m.doing = .answer slot offset none → offset ≤ m.state.deepest

end Moment

namespace Env

variable {env : Env}

theorem Leaves.frontier {slot : SlotId} {offset : Nat} {result answer : Option Match}
    {st st' : State} (h : env.Leaves slot offset result st answer st') :
    st'.frontier =
      (st.finish slot offset (env.grammar.name? slot) result).frontier := by
  cases h with
  | ran => rfl
  | missed =>
      unfold State.settle
      split <;> rfl

/-- A step keeps what is kept of the failure in it. -/
theorem Next.frontier {m m' : Moment} (h : env.Next m m') :
    m'.state.frontier = m.state.frontier.recordAll (m.failure env).toList := by
  cases h with
  | atOnce hanswer =>
      cases hanswer with
      | refused =>
          exact congrArg₂ Frontier.mk (State.raise_deepest _ _) (State.raise_expected _ _)
      | stopped | recursive | knownFailure | knownMatch => rfl
  | begin _ _ hbegins => cases hbegins <;> rfl
  | abort => exact congrArg₂ Frontier.mk (State.raise_deepest _ _) (State.raise_expected _ _)
  | @leave slot offset result answer _ _ st _ hleaves =>
      refine hleaves.frontier.trans ?_
      cases result with
      | some m =>
          rw [State.finish_of_not_failed (.inl rfl)]
          rfl
      | none =>
          cases hended : st.isAborted with
          | true =>
              rw [State.finish_of_not_failed (.inr hended)]
              simp [Moment.failure, hended, State.frontier]
          | false =>
              rw [State.finish_none hended, State.recordFailure_frontier]
              simp [Moment.failure, hended, State.frontier]
  | start | ask | look | ended | apply | resume | outside => rfl

/-- A run keeps what is kept of the failures in it. -/
theorem Passes.frontier {m m' : Moment} {passed : List Moment} (h : env.Passes m passed m') :
    m'.state.frontier = m.state.frontier.recordAll (Moment.failures env passed) := by
  induction h with
  | nil => rfl
  | @cons m next m' passed hstep _ ih =>
      have hfailures : Moment.failures env (m :: passed) =
          (m.failure env).toList ++ Moment.failures env passed := by
        cases hfailure : m.failure env <;> simp [Moment.failures, hfailure]
      rw [ih, hstep.frontier, hfailures, Frontier.recordAll_append]

theorem Passes.deepest_le {m m' : Moment} {passed : List Moment} (h : env.Passes m passed m') :
    m.state.deepest ≤ m'.state.deepest := by
  have hle := m.state.frontier.le_recordAll (Moment.failures env passed)
  rw [← h.frontier] at hle
  exact hle

/-! ## Calls without a match -/

/-- The failure of a body that comes back without a match in a run that goes on is
recorded. -/
theorem Leaves.offset_le {slot : SlotId} {offset : Nat} {answer : Option Match} {st st' : State}
    (h : env.Leaves slot offset none st answer st') (hlive : st.isAborted = false) :
    offset ≤ st'.deepest := by
  have hfrontier : st'.frontier = st.frontier.record ⟨env.grammar.name? slot, offset⟩ := by
    rw [h.frontier, State.finish_none hlive, State.recordFailure_frontier]
    rfl
  obtain ⟨-, hle⟩ := st.frontier.le_record ⟨env.grammar.name? slot, offset⟩
  rw [← hfrontier] at hle
  exact hle

/-- A known failure was known before, or the body has just come back without a match. -/
theorem Leaves.of_failed {slot slot' : SlotId} {offset offset' : Nat}
    {result answer : Option Match} {st st' : State}
    (h : env.Leaves slot offset result st answer st')
    (hentry : st'.memo.find? slot' offset' = some .failed) :
    st.memo.find? slot' offset' = some .failed ∨
      (offset = offset' ∧ result = none ∧ st.isAborted = false) := by
  cases h with
  | ran =>
      rw [State.finish_memo] at hentry
      exact .inl hentry
  | missed =>
      rw [State.find?_settle, State.finish_memo, State.finish_isAborted] at hentry
      split at hentry
      case isTrue hsame =>
        split at hentry
        · contradiction
        case isFalse hlive =>
          have hfailed : Memo.ofResult result = .ofResult none := Option.some.inj hentry
          exact .inr ⟨hsame.2, Memo.ofResult_inj hfailed, Bool.not_eq_true _ ▸ hlive⟩
      case isFalse => exact .inl hentry

/-- A step keeps that the deepest failure is as deep, unless a parser comes back to
itself. -/
theorem Next.deep {m m' : Moment} (h : env.Next m m') (hbalanced : m.state.Balanced env m.running)
    (hfresh : ¬m.Reenters) (hm : m.Deep) : m'.Deep := by
  have hle : m.state.deepest ≤ m'.state.deepest := (Passes.single h).deepest_le
  cases h with
  | @atOnce slot offset callers todo st st' answer hanswer =>
      have hmemo : st'.memo = st.memo := by
        cases hanswer with
        | refused => exact State.raise_memo _ _
        | stopped | recursive | knownFailure | knownMatch => rfl
      refine ⟨fun slot' offset' hentry => ?_, fun hlive slot' offset' hdoing => ?_⟩
      · have hknown := hm.known slot' offset' (hmemo ▸ hentry)
        exact Nat.le_trans hknown hle
      · obtain ⟨rfl, rfl, rfl⟩ := Doing.answer.inj hdoing
        cases hanswer with
        | stopped hended => exact absurd (hlive.symm.trans hended) nofun
        | refused => exact absurd (hlive.symm.trans (State.raise_isAborted _ _)) nofun
        | recursive _ _ hmode hentry =>
            exact absurd ⟨slot, offset, rfl, (hbalanced.running hmode _ _).1 hentry⟩ hfresh
        | knownFailure _ _ _ hentry => exact hm.known slot offset hentry
  | @begin slot offset _ _ st first _ _ hbegins =>
      refine ⟨fun slot' offset' hentry => ?_, fun _ _ _ => nofun⟩
      cases hbegins with
      | ran => exact hm.known slot' offset' hentry
      | missed =>
          have hinsert : (st.memo.insert slot offset .inProgress).find? slot' offset' =
              some .failed := hentry
          rw [MemoTable.find?_insert] at hinsert
          split at hinsert
          · exact absurd (Option.some.inj hinsert) nofun
          · exact hm.known slot' offset' hinsert
  | abort =>
      refine ⟨fun slot' offset' hentry => ?_, fun _ _ _ => nofun⟩
      rw [State.raise_memo] at hentry
      exact Nat.le_trans (hm.known slot' offset' hentry) hle
  | @leave slot offset result answer callers todo st st' hleaves =>
      refine ⟨fun slot' offset' hentry => ?_, fun hlive slot' offset' hdoing => ?_⟩
      · rcases hleaves.of_failed hentry with hknown | ⟨rfl, rfl, hlive⟩
        · exact Nat.le_trans (hm.known slot' offset' hknown) hle
        · exact hleaves.offset_le hlive
      · obtain ⟨rfl, rfl, rfl⟩ := Doing.answer.inj hdoing
        have hlive' : st.isAborted = false := hleaves.isAborted_eq.symm.trans hlive
        obtain rfl : none = result := hleaves.answer_eq hlive'
        exact hleaves.offset_le hlive'
  | start | ask | look | ended | apply | resume | outside =>
      exact ⟨hm.known, fun _ _ _ => nofun⟩

theorem Passes.keepsDeep {m m' : Moment} {passed : List Moment} (h : env.Passes m passed m')
    (hbalanced : m.state.Balanced env m.running) (hfresh : ∀ x ∈ passed, ¬x.Reenters)
    (hm : m.Deep) : m'.Deep := by
  induction h with
  | nil => exact hm
  | cons hstep _ ih =>
      have hnext := hstep.deep hbalanced (hfresh _ (List.mem_cons_self ..)) hm
      exact ih (hstep.balanced hbalanced) (fun x hx => hfresh x (List.mem_cons_of_mem _ hx)) hnext

/-- In a run on a fresh state the deepest failure is as deep wherever there is no match,
as long as no parser comes back to itself. -/
theorem Passes.deep {asked : List (SlotId × Nat)} {passed : List Moment} {m : Moment}
    (h : env.Passes (.first asked {}) passed m) (hfresh : ∀ x ∈ passed, ¬x.Reenters) :
    m.Deep := by
  refine h.keepsDeep (.fresh env) hfresh ⟨fun slot offset hentry => ?_, fun _ _ _ => nofun⟩
  exact absurd ((State.find?_fresh slot offset).symm.trans hentry) nofun

/-! ## Whole runs -/

/-- What is kept in a state of the failures up to it. -/
structure Tracked (failures : List Failure) (st : State) : Prop where
  deepest : st.deepest = Failure.deepest failures
  expected : st.expected = (Failure.namesAt failures st.deepest).eraseDups
  mem_expected : ∀ name, name ∈ st.expected ↔ ⟨some name, st.deepest⟩ ∈ failures
  nodup : st.expected.Nodup

theorem Passes.tracked {asked : List (SlotId × Nat)} {passed : List Moment} {m : Moment}
    (h : env.Passes (.first asked {}) passed m) :
    Tracked (Moment.failures env passed) m.state := by
  have hfrontier : m.state.frontier =
      (⟨0, []⟩ : Frontier).recordAll (Moment.failures env passed) := h.frontier
  have hall := hfrontier.trans (Frontier.recordAll_eq _)
  have hdeepest : m.state.deepest = Failure.deepest (Moment.failures env passed) :=
    congrArg Frontier.deepest hall
  have hexpected : m.state.expected =
      (Failure.namesAt (Moment.failures env passed) m.state.deepest).eraseDups := by
    rw [hdeepest]
    exact congrArg Frontier.expected hall
  refine ⟨hdeepest, hexpected, fun name => ?_, ?_⟩
  · rw [hexpected, List.mem_eraseDups, Failure.mem_namesAt_iff]
  · have hnone : (⟨0, []⟩ : Frontier).expected.Nodup := .nil
    have hnodup := Frontier.nodup_recordAll hnone (Moment.failures env passed)
    rw [← hfrontier] at hnodup
    exact hnodup

/-- The deepest failure is tracked exactly. At all moments of all runs on a fresh state,
whether or not they end, what is kept is the deepest offset of all failures so far and
the names that failed there, in the order of their first failures, each once; the
deepest failure never gets shallower; and if no parser has come back to itself, it is as
deep as every call that is answered without a match in a run that goes on. Calls one
after another that end are such a run. -/
theorem deepest_exact (env : Env) :
    (∀ asked passed m, env.Passes (.first asked {}) passed m →
      Tracked (Moment.failures env passed) m.state ∧
        (∀ earlier ∈ passed, earlier.state.deepest ≤ m.state.deepest) ∧
        ((∀ x ∈ passed, ¬x.Reenters) → m.state.isAborted = false →
          ∀ slot offset, m.doing = .answer slot offset none → offset ≤ m.state.deepest)) ∧
    ∀ fuel asked runs, env.calls fuel asked {} = some runs →
      ∃ passed, env.Passes (.first asked {}) passed (.last (stateAfter {} runs)) ∧
        List.Forall₂ (fun place run => ∃ before rest after,
          passed = before ++ ⟨.answer place.1 place.2 run.1, [], rest, run.2⟩ :: after ∧
          Tracked (Moment.failures env before) run.2 ∧
          ((∀ x ∈ before, ¬x.Reenters) → run.1 = none → run.2.isAborted = false →
            place.2 ≤ run.2.deepest)) asked runs := by
  refine ⟨fun asked passed m h => ⟨h.tracked, fun earlier hmem => ?_, fun hfresh =>
    (h.deep hfresh).answered⟩, fun fuel asked runs h => ?_⟩
  · obtain ⟨before, after, -, -, hafter⟩ := h.of_mem hmem
    exact hafter.deepest_le
  · obtain ⟨passed, hpassed, hruns⟩ := calls_passes h
    refine ⟨passed, hpassed, hruns.imp fun place run hrun => ?_⟩
    obtain ⟨rest, hmem⟩ := hrun
    obtain ⟨before, after, rfl, hbefore, -⟩ := hpassed.of_mem hmem
    refine ⟨before, rest, after, rfl, hbefore.tracked, fun hfresh hnone hlive => ?_⟩
    exact (hbefore.deep hfresh).answered hlive place.1 place.2 (by rw [hnone])

/-- Two parsers of the same name, and one of another. -/
def suggesting : Env where
  grammar := ⟨#[.choice 1 2, .named "digit" 3, .named "digit" 4, .primitive (.char 'x'),
    .primitive (.char 'y'), .named "y" 4], []⟩
  source := .ofString "abc"
  options := {}

/-- A call without a match in which no parser is called twice. -/
private theorem suggesting_passes :
    ∃ passed st, suggesting.Passes (.first [(3, 1)] {}) passed ⟨.answer 3 1 none, [], [], st⟩ ∧
      st.isAborted = false ∧ ∀ x ∈ passed, ¬x.Reenters := by
  have hwork : suggesting.workOf 3 1 = .done none := rfl
  have hbody : suggesting.Next ⟨.call 3 1, [], [], {}⟩ _ := .begin rfl rfl (.missed rfl rfl)
  rw [hwork] at hbody
  refine ⟨_, _, .cons .start (.cons hbody (.single (.leave (.missed rfl)))), rfl, ?_⟩
  simp only [List.mem_cons, List.not_mem_nil, or_false]
  rintro x (rfl | rfl | rfl) ⟨slot, offset, hdoing, hrunning⟩
  · contradiction
  · exact absurd hrunning List.not_mem_nil
  · contradiction

/-- The name that failed twice is kept once, until there is a deeper failure. -/
theorem deepest_exact_suggesting :
    (∃ first second third passed,
      suggesting.calls 3 [(0, 0), (5, 2), (0, 1)] {} = some [first, second, third] ∧
        suggesting.Passes (.first [(0, 0), (5, 2), (0, 1)] {}) passed (.last third.2) ∧
        (first.2.deepest = 0 ∧ first.2.expected = ["digit"]) ∧
        (third.2.deepest = 2 ∧ third.2.expected = ["y"]) ∧
        Tracked (Moment.failures suggesting passed) third.2) ∧
    ∃ passed st, suggesting.Passes (.first [(3, 1)] {}) passed ⟨.answer 3 1 none, [], [], st⟩ ∧
      (∀ x ∈ passed, ¬x.Reenters) ∧ 1 ≤ st.deepest := by
  constructor
  · obtain ⟨first, second, third, hcalls, hfirst, hthird⟩ : ∃ first second third,
        suggesting.calls 3 [(0, 0), (5, 2), (0, 1)] {} = some [first, second, third] ∧
          (first.2.deepest = 0 ∧ first.2.expected = ["digit"]) ∧
          (third.2.deepest = 2 ∧ third.2.expected = ["y"]) :=
      ⟨_, _, _, rfl, ⟨rfl, rfl⟩, ⟨rfl, rfl⟩⟩
    obtain ⟨passed, hpassed, -⟩ := (deepest_exact suggesting).2 3 _ _ hcalls
    exact ⟨first, second, third, passed, hcalls, hpassed, hfirst, hthird,
      ((deepest_exact suggesting).1 _ passed _ hpassed).1⟩
  · obtain ⟨passed, st, hpassed, hlive, hfresh⟩ := suggesting_passes
    exact ⟨passed, st, hpassed, hfresh,
      ((deepest_exact suggesting).1 _ passed _ hpassed).2.2 hfresh hlive 3 1 rfl⟩

end Env

end Packrat
