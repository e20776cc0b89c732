import Packrat.Proofs.Stepwise
/-!
# Early ends are final

Nothing central makes an early end final: without memoization an answer is passed
on as it is, and each body that turns no match into a match has to look whether the
run has ended. That every body does so is `Body.work_heeds`; here it is carried to
all moments of a run, whatever bodies are waiting around the one that ends it.

From the moment at which a run ends early, then, bodies only come back. They have no
match, they apply no function, and of the state only the memo table, the depth and
the trace still change. So what is reported is the first error that has occurred.

## Main results

* `Env.Next.heeds` — all moments of a run heed an early end.
* `Env.Next.stands` — a step after the end of a run changes nothing that is reported.
* `Env.Passes.abort_eq` — the error that is kept is the first one that has occurred.
* `Env.end_final` — an early end is final, and its error is what parsing reports.
-/

namespace Packrat

theorem State.abort_eq_none {st : State} (hlive : st.isAborted = false) : st.abort = none :=
  Option.isNone_iff_eq_none.1 (Option.isSome_eq_false_iff.1 hlive)

/-- What is reported of a run is the same in two states. -/
structure State.Stands (st st' : State) : Prop where
  abort : st'.abort = st.abort
  deepest : st'.deepest = st.deepest
  expected : st'.expected = st.expected
  hits : st'.hits = st.hits
  misses : st'.misses = st.misses

namespace State.Stands

variable {st st' st'' : State}

theorem refl (st : State) : st.Stands st := ⟨rfl, rfl, rfl, rfl, rfl⟩

theorem trans (h : st.Stands st') (h' : st'.Stands st'') : st.Stands st'' :=
  ⟨h'.abort.trans h.abort, h'.deepest.trans h.deepest, h'.expected.trans h.expected,
    h'.hits.trans h.hits, h'.misses.trans h.misses⟩

/-- A run that has ended has ended as well where it stands. -/
theorem isAborted_eq (h : st.Stands st') : st'.isAborted = st.isAborted := by
  rw [isAborted, h.abort]
  rfl

/-- After the end of a run the body of a parser comes back without a trace. -/
theorem finish (hended : st.isAborted = true) (slot : SlotId) (offset : Nat)
    (name : Option String) (result : Option Match) :
    st.Stands (st.finish slot offset name result) := by
  rw [finish_of_not_failed (.inr hended)]
  exact ⟨rfl, rfl, rfl, rfl, rfl⟩

theorem settle (st : State) (slot : SlotId) (offset : Nat) (result : Option Match) :
    st.Stands (st.settle slot offset result) := by
  unfold State.settle
  split <;> exact ⟨rfl, rfl, rfl, rfl, rfl⟩

end State.Stands

/-- No mapped value of a grammar depends on more of the state than states that are
alike have in common. -/
def Grammar.SeesAlike (alike : Snapshot → Snapshot → Prop) (g : Grammar) : Prop :=
  ∀ body ∈ g.bodies, body.SeesAlike alike

/-- Of one and the same state every value sees the same. -/
theorem Grammar.seesAlike_eq (g : Grammar) : g.SeesAlike (· = ·) := by
  intro body _
  cases body with
  | mapInRun make inner =>
      intro snapshot snapshot' hsame
      rw [hsame]
  | _ => exact True.intro

/-- What is done heeds an early end: a body does, and an answer is no match if the run
is over. -/
def Doing.Heeds (alike : Snapshot → Snapshot → Prop) (isOver : Bool) : Doing → Prop
  | .idle => True
  | .call _ _ => True
  | .body _ _ work => work.Heeds alike (· = none) isOver
  | .answer _ _ given => isOver = true → given = none

/-- A body that waits heeds an early end whatever it is answered. If the run is over it
will be answered with no match. -/
def Caller.Heeds (alike : Snapshot → Snapshot → Prop) (isOver : Bool) (caller : Caller) : Prop :=
  (caller.resume none).Heeds alike (· = none) true ∧
    (isOver = false → ∀ answer, (caller.resume answer).Heeds alike (· = none) false)

/-- A body that waits still heeds an early end when the run is over. -/
theorem Caller.Heeds.mono {alike : Snapshot → Snapshot → Prop} {isOver isOver' : Bool}
    {caller : Caller} (h : caller.Heeds alike isOver) (hover : isOver' = false → isOver = false) :
    caller.Heeds alike isOver' :=
  ⟨h.1, fun hlive => h.2 (hover hlive)⟩

namespace Moment

/-- At a moment everything heeds an early end. -/
structure Heeds (alike : Snapshot → Snapshot → Prop) (m : Moment) : Prop where
  doing : m.doing.Heeds alike m.state.isAborted
  callers : ∀ caller ∈ m.callers, caller.Heeds alike m.state.isAborted

/-- The error that occurs at a moment: a body ends the run, or a call would have run
deeper than the limit. -/
def raised (env : Env) (m : Moment) : Option Abort :=
  match m.doing with
  | .call _ offset =>
    if m.state.isAborted then none
    else (env.atLimit m.state).map fun limit => .recursionLimit limit offset
  | .body _ _ (.abort position error _) => some (.transform position error)
  | _ => none

/-- The errors that occur at some moments, in order. -/
def errors (env : Env) (moments : List Moment) : List Abort := moments.filterMap (raised env)

/-- Where a call is made in a run that goes on, an error occurs if it would run too
deep. -/
theorem raised_call {env : Env} {slot : SlotId} {offset : Nat} {callers : List Caller}
    {todo : List (SlotId × Nat)} {st : State} (hlive : st.isAborted = false) :
    raised env ⟨.call slot offset, callers, todo, st⟩ =
      (env.atLimit st).map fun limit => .recursionLimit limit offset :=
  if_neg (by simp [hlive])

theorem heeds_first (alike : Snapshot → Snapshot → Prop) (todo : List (SlotId × Nat))
    (st : State) : (first todo st).Heeds alike :=
  ⟨True.intro, nofun⟩

end Moment

namespace Env

variable {env : Env}

theorem workOf_heeds {alike : Snapshot → Snapshot → Prop} (h : env.grammar.SeesAlike alike)
    (slot : SlotId) (offset : Nat) :
    (env.workOf slot offset).Heeds alike (· = none) false := by
  unfold workOf
  cases hbody : env.grammar.bodies[slot]? with
  | none => exact nofun
  | some body => exact Body.work_heeds (h body (Array.mem_of_getElem? hbody))

/-- After the end of a run a call is turned away. -/
theorem AtOnce.of_isAborted {slot : SlotId} {offset : Nat} {st st' : State}
    {answer : Option Match} (h : env.AtOnce slot offset st answer st')
    (hended : st.isAborted = true) : answer = none ∧ st' = st := by
  cases h with
  | stopped => exact ⟨rfl, rfl⟩
  | refused hlive | recursive hlive | knownFailure hlive | knownMatch hlive =>
      rw [hlive] at hended
      contradiction

/-- A call that the run ends in has no match. -/
theorem AtOnce.answer_eq_none {slot : SlotId} {offset : Nat} {st st' : State}
    {answer : Option Match} (h : env.AtOnce slot offset st answer st')
    (hended : st'.isAborted = true) : answer = none := by
  cases h with
  | stopped | refused | recursive | knownFailure => rfl
  | knownMatch hlive =>
      have hgoes : (st.enter slot offset).hit.isAborted = false := hlive
      rw [hgoes] at hended
      contradiction

/-- A body that comes back after the end of a run has no match to give. -/
theorem Leaves.of_isAborted {slot : SlotId} {offset : Nat} {answer : Option Match}
    {st st' : State} (h : env.Leaves slot offset none st answer st') : answer = none := by
  cases h with
  | ran => rfl
  | missed => split <;> rfl

/-- A body that comes back after the end of a run changes nothing that is reported. -/
theorem Leaves.stands {slot : SlotId} {offset : Nat} {result answer : Option Match}
    {st st' : State} (h : env.Leaves slot offset result st answer st')
    (hended : st.isAborted = true) : st.Stands st' := by
  cases h with
  | ran => exact .finish hended _ _ _ _
  | missed => exact (State.Stands.finish hended _ _ _ _).trans (.settle _ _ _ _)

theorem Leaves.isAborted_eq {slot : SlotId} {offset : Nat} {result answer : Option Match}
    {st st' : State} (h : env.Leaves slot offset result st answer st') :
    st'.isAborted = st.isAborted := by
  cases h <;> simp

/-- In a run that goes on the answer is the result of the body. -/
theorem Leaves.answer_eq {slot : SlotId} {offset : Nat} {result answer : Option Match}
    {st st' : State} (h : env.Leaves slot offset result st answer st')
    (hlive : st.isAborted = false) : answer = result := by
  cases h with
  | ran => rfl
  | missed =>
      rw [hlive]
      rfl

theorem Begins.isAborted_eq {slot : SlotId} {offset : Nat} {st first : State}
    (h : env.Begins slot offset st first) : first.isAborted = st.isAborted := by
  cases h <;> rfl

/-- A step after the end of a run changes nothing that is reported. -/
theorem Next.stands {m m' : Moment} (h : env.Next m m') (hended : m.state.isAborted = true) :
    m.state.Stands m'.state := by
  cases h with
  | atOnce hanswer => rw [(hanswer.of_isAborted hended).2]; exact .refl _
  | begin hlive =>
      rw [hlive] at hended
      contradiction
  | abort => rw [State.raise_of_isAborted hended]; exact .refl _
  | leave hleaves => exact hleaves.stands hended
  | start | ask | look | ended | apply | resume | outside => exact .refl _

theorem Passes.stands {m m' : Moment} {passed : List Moment} (h : env.Passes m passed m')
    (hended : m.state.isAborted = true) : m.state.Stands m'.state := by
  induction h with
  | nil => exact .refl _
  | cons hstep _ ih =>
      have hfirst := hstep.stands hended
      exact hfirst.trans (ih (hfirst.isAborted_eq.trans hended))

/-- Answering a call at once ends the run only where it would run too deep. -/
theorem AtOnce.abort_eq {slot : SlotId} {offset : Nat} {st st' : State}
    {answer : Option Match} (h : env.AtOnce slot offset st answer st')
    (hlive : st.isAborted = false) :
    st'.abort = (env.atLimit st).map fun limit => .recursionLimit limit offset := by
  cases h with
  | stopped hended =>
      rw [hlive] at hended
      contradiction
  | refused _ hlimit =>
      have hentered : (st.enter slot offset).isAborted = false := hlive
      rw [State.raise_of_not_isAborted hentered, hlimit]
      rfl
  | recursive _ hroom | knownFailure _ hroom | knownMatch _ hroom =>
      rw [hroom]
      exact State.abort_eq_none hlive

/-- If an error occurs in a step of a run that goes on, it ends the run. -/
theorem Next.abort_eq {m m' : Moment} (h : env.Next m m') (hlive : m.state.isAborted = false) :
    m'.state.abort = m.raised env := by
  cases h with
  | atOnce hanswer => rw [hanswer.abort_eq hlive, Moment.raised_call hlive]
  | begin _ hroom hbegins =>
      rw [Moment.raised_call hlive, hroom]
      cases hbegins <;> exact State.abort_eq_none hlive
  | abort =>
      rw [State.raise_of_not_isAborted hlive]
      rfl
  | leave hleaves =>
      refine Eq.trans ?_ (State.abort_eq_none hlive)
      cases hleaves <;> simp
  | start | ask | look | ended | apply | resume | outside => exact State.abort_eq_none hlive

/-- The error that a run is ended by is the first one that has occurred in it. -/
theorem Passes.abort_eq {m m' : Moment} {passed : List Moment} (h : env.Passes m passed m')
    (hlive : m.state.isAborted = false) :
    m'.state.abort = (Moment.errors env passed).head? := by
  induction h with
  | nil => exact State.abort_eq_none hlive
  | @cons m next m' passed hstep hrest ih =>
      have hnext := hstep.abort_eq hlive
      cases hraised : m.raised env with
      | none =>
          rw [hraised] at hnext
          have hgoes : next.state.isAborted = false := by rw [State.isAborted, hnext]; rfl
          rw [ih hgoes, Moment.errors, Moment.errors, List.filterMap_cons_none hraised]
      | some abort =>
          rw [hraised] at hnext
          have hended : next.state.isAborted = true := by rw [State.isAborted, hnext]; rfl
          rw [(hrest.stands hended).abort, hnext, Moment.errors,
            List.filterMap_cons_some hraised]
          rfl

/-- Every step heeds an early end. -/
theorem Next.heeds {alike : Snapshot → Snapshot → Prop} (hsees : env.grammar.SeesAlike alike)
    {m m' : Moment} (h : env.Next m m') (hm : m.Heeds alike) : m'.Heeds alike := by
  obtain ⟨hdoing, hcallers⟩ := hm
  -- The run may end in a step, but it does not begin again.
  have hstays : m'.state.isAborted = false → m.state.isAborted = false := by
    intro hlive
    by_contra hended
    rw [Bool.not_eq_false] at hended
    rw [(h.stands hended).isAborted_eq, hended] at hlive
    contradiction
  have hcallers' : ∀ caller ∈ m.callers, caller.Heeds alike m'.state.isAborted :=
    fun caller hmem => (hcallers caller hmem).mono hstays
  cases h with
  | start => exact ⟨True.intro, nofun⟩
  | atOnce hanswer => exact ⟨hanswer.answer_eq_none, hcallers'⟩
  | @begin slot offset _ _ st first hlive _ hbegins =>
      have hfirst : first.isAborted = false := hbegins.isAborted_eq.trans hlive
      refine ⟨?_, hcallers'⟩
      show (env.workOf slot offset).Heeds alike (· = none) first.isAborted
      rw [hfirst]
      exact workOf_heeds hsees slot offset
  | @abort slot offset position error next _ _ st =>
      refine ⟨?_, hcallers'⟩
      show next.Heeds alike (· = none) (st.raise (.transform position error)).isAborted
      rw [State.raise_isAborted]
      exact hdoing
  | ask =>
      refine ⟨True.intro, fun caller hmem => ?_⟩
      rcases List.mem_cons.1 hmem with rfl | hmem
      · exact hdoing
      · exact hcallers caller hmem
  | look => exact ⟨hdoing.2 _, hcallers⟩
  | ended => exact ⟨hdoing, hcallers⟩
  | @apply slot offset application next _ _ st =>
      obtain ⟨hlive, hnext⟩ := hdoing
      refine ⟨?_, hcallers⟩
      show next.Heeds alike (· = none) st.isAborted
      rw [show st.isAborted = false from hlive]
      exact hnext
  | leave hleaves =>
      refine ⟨fun hended => ?_, hcallers'⟩
      have hover := hleaves.isAborted_eq ▸ hended
      obtain rfl := hdoing hover
      exact hleaves.of_isAborted
  | @resume _ _ answer caller _ _ st =>
      refine ⟨?_, fun other hmem => hcallers other (List.mem_cons_of_mem _ hmem)⟩
      obtain ⟨hnone, hsome⟩ := hcallers caller (List.mem_cons_self ..)
      show (caller.resume answer).Heeds alike (· = none) st.isAborted
      cases hended : st.isAborted with
      | true =>
          obtain rfl := hdoing hended
          exact hnone
      | false => exact hsome hended answer
  | outside => exact ⟨True.intro, nofun⟩

/-- At all moments of a run everything heeds an early end. -/
theorem Passes.heeds {alike : Snapshot → Snapshot → Prop} (hsees : env.grammar.SeesAlike alike)
    {todo : List (SlotId × Nat)} {st : State} {passed : List Moment} {m : Moment}
    (h : env.Passes (.first todo st) passed m) : m.Heeds alike :=
  (h.keeps (I := Moment.Heeds alike) (fun hstep => hstep.heeds hsees)
    (Moment.heeds_first alike todo st)).1

/-- What an early end means at a moment of a run. -/
structure FinalEnd (env : Env) (m : Moment) : Prop where
  /-- If a body ends with a match, the run goes on. -/
  body : ∀ slot offset result, m.doing = .body slot offset (.done (some result)) →
    m.state.isAborted = false
  /-- If a call is answered with a match, the run goes on. -/
  answer : ∀ slot offset result, m.doing = .answer slot offset (some result) →
    m.state.isAborted = false
  /-- After the end a call is answered with no match, and nothing else happens. -/
  call : m.state.isAborted = true → ∀ slot offset, m.doing = .call slot offset →
    ∀ m', env.Next m m' → m' = ⟨.answer slot offset none, m.callers, m.todo, m.state⟩
  /-- After the end no function is applied. -/
  apply : m.state.isAborted = true → ∀ slot offset application next,
    m.doing ≠ .body slot offset (.apply application next)
  /-- After the end nothing changes that is reported. -/
  stands : m.state.isAborted = true → ∀ passed m', env.Passes m passed m' →
    m.state.Stands m'.state

theorem finalEnd_of_heeds {m : Moment} (h : m.Heeds (· = ·)) : env.FinalEnd m := by
  obtain ⟨doing, callers, todo, st⟩ := m
  have hdoing : doing.Heeds (· = ·) st.isAborted := h.doing
  refine
    { body := ?_
      answer := ?_
      call := ?_
      apply := ?_
      stands := fun hended passed m' hpassed => hpassed.stands hended }
  · rintro slot offset result rfl
    by_contra hended
    rw [Bool.not_eq_false] at hended
    exact nomatch hdoing hended
  · rintro slot offset result rfl
    by_contra hended
    rw [Bool.not_eq_false] at hended
    exact nomatch hdoing hended
  · rintro hended slot offset rfl m' hstep
    cases hstep with
    | atOnce hanswer =>
        obtain ⟨rfl, rfl⟩ := hanswer.of_isAborted hended
        rfl
    | begin hlive =>
        rw [show st.isAborted = true from hended] at hlive
        contradiction
  · rintro hended slot offset application next rfl
    have hlive : st.isAborted = false := hdoing.1
    rw [show st.isAborted = true from hended] at hlive
    contradiction

/-- The outcome of a run that was ended early is the error that ended it. -/
theorem outcome_of_abort {answer : Option Match} {st : State} {abort : Abort}
    (h : st.abort = some abort) : env.outcome answer st = .error (.ofAbort abort) := by
  unfold outcome
  rw [h]

/-- What parsing a whole source leads to is read off the run that it takes. -/
theorem parseAll_eq_some_iff {slot : SlotId} {report : Report} :
    env.parseAll slot = some report ↔ ∃ answer last, env.parse slot 0 {} = some (answer, last) ∧
      report = ⟨env.outcome answer last, answer.isSome, last⟩ := by
  unfold parseAll
  split
  case h_1 hnone => simp [hnone]
  case h_2 answer last hsome => simp [hsome, eq_comm]

/-- In a closed grammar parsing a whole source reports what a call of the parser comes to,
whatever fuel the call takes: with memoization or a depth limit, and without them if the
grammar does not look at the state. -/
theorem parseAll_of_call (hclosed : env.grammar.Closed) {slot : SlotId}
    (hslot : slot < env.grammar.size)
    (hmode : env.options.memoize = true ∨ env.options.maxDepth.isSome = true ∨
      env.grammar.StateFree)
    {fuel : Nat} {answer : Option Match} {last : State}
    (h : env.call fuel slot 0 {} = some (answer, last)) :
    env.parseAll slot = some ⟨env.outcome answer last, answer.isSome, last⟩ :=
  parseAll_eq_some_iff.2
    ⟨answer, last, parse_of_call hclosed hmode hslot Reachable.fresh.memoSound h, rfl⟩

/-- An early end is final. A call that is answered with a match leaves a run that goes
on; a call after the end is answered with no match and changes nothing; and at all
moments of all runs, from any state on and whether or not they end, `FinalEnd` holds.
So where a whole source is parsed, the first error that occurs is the outcome. In a
closed grammar, as all that are laid out from rules are, this is what is reported. -/
theorem end_final (env : Env) :
    (∀ fuel slot offset st answer st', env.call fuel slot offset st = some (answer, st') →
      (answer.isSome = true → st'.isAborted = false) ∧
        (st.isAborted = true → answer = none ∧ st' = st)) ∧
    (∀ todo st passed m, env.Passes (.first todo st) passed m → env.FinalEnd m) ∧
    ∀ slot fuel answer last, env.call fuel slot 0 {} = some (answer, last) →
      ∃ passed, env.Passes (.first [(slot, 0)] {}) passed (.last last) ∧
        last.abort = (Moment.errors env passed).head? ∧
        (∀ abort, (Moment.errors env passed).head? = some abort →
          env.outcome answer last = .error (.ofAbort abort) ∧
            ∀ report, env.parseAll slot = some report →
              report.outcome = .error (.ofAbort abort)) ∧
        (env.grammar.Closed → slot < env.grammar.size →
          (env.options.memoize = true ∨ env.options.maxDepth.isSome = true ∨
            env.grammar.StateFree) →
          env.parseAll slot = some ⟨env.outcome answer last, answer.isSome, last⟩) := by
  refine ⟨fun fuel slot offset st answer st' h => ?_,
    fun todo st passed m h => finalEnd_of_heeds (h.heeds env.grammar.seesAlike_eq), ?_⟩
  · obtain ⟨hstay, hnone⟩ := call_quiet env fuel h
    refine ⟨fun hsome => ?_, fun hended => ?_⟩
    · by_contra hended
      rw [hnone (Bool.not_eq_false _ ▸ hended)] at hsome
      contradiction
    · obtain rfl := hstay hended
      exact ⟨hnone hended, rfl⟩
  · intro slot fuel answer last h
    obtain ⟨passed, hpassed⟩ := call_passes env fuel h [] []
    have hrun : env.Passes (.first [(slot, 0)] {})
        (.first [(slot, 0)] {} :: passed ++ [⟨.answer slot 0 answer, [], [], last⟩]) (.last last) :=
      .cons .start (hpassed.append (.single .outside))
    have hlast : last.abort = _ := hrun.abort_eq rfl
    refine ⟨_, hrun, hlast, fun abort habort => ?_,
      fun hclosed hslot hmode => parseAll_of_call hclosed hslot hmode h⟩
    have hended : last.abort = some abort := hlast.trans habort
    refine ⟨outcome_of_abort hended, fun report hreport => ?_⟩
    obtain ⟨answer', last', h', rfl⟩ := parseAll_eq_some_iff.1 hreport
    obtain ⟨rfl, rfl⟩ := Prod.mk.inj (call_unique h h')
    exact outcome_of_abort hended

/-- Not an `x`, or an `x` or nothing, where every `x` is refused. -/
def refusing : Env where
  grammar := ⟨#[.choice 1 2, .negation 3, .optional 3, .tryMap (fun _ => .error (.refusal "no")) 4,
    .primitive (.char 'x')], [("refusing", 0)]⟩
  source := .ofString "x"
  options := { memoize := false }

theorem end_final_refusing :
    ∃ answer last passed, refusing.call 4 0 0 {} = some (answer, last) ∧
      refusing.Passes (.first [(0, 0)] {}) passed (.last last) ∧
      (Moment.errors refusing passed).head? = some (.transform 0 (.refusal "no")) ∧
      refusing.outcome answer last = .error (.transform 0 (.refusal "no")) ∧
      refusing.parseAll 0 = some ⟨.error (.transform 0 (.refusal "no")), false, last⟩ := by
  have hcall : ∃ last, refusing.call 4 0 0 {} = some (none, last) ∧
      last.abort = some (.transform 0 (.refusal "no")) := ⟨_, rfl, rfl⟩
  obtain ⟨last, hcall, habort⟩ := hcall
  obtain ⟨passed, hpassed, hlast, houtcome, hreports⟩ :=
    (end_final refusing).2.2 0 4 none last hcall
  have hfirst := hlast.symm.trans habort
  have hended := (houtcome _ hfirst).1
  have hreport := hreports (by decide) (by decide) (.inr (.inr (Grammar.stateFree_of_looks rfl)))
  rw [hended] at hreport
  exact ⟨none, last, passed, hcall, hpassed, hfirst, hended, hreport⟩

end Env

end Packrat
