import Packrat.Proofs.Certain
/-!
# Certain verdicts at all moments of a run

In the course of a run with memoization not every state is ready for every call. A parser that
is running already is refused, and an entry holds whatever its parser came to. Still a call of a
parser whose verdict is certain reports the verdict, at all moments of all runs, whatever else
the grammar has.

What keeps this so from step to step is kept by the bodies that wait. A body whose verdict is
certain waits only for a parser whose verdict is certain with fewer parsers nested. So such a
parser is never running already when it is asked for, and the entry that is made of its answer
holds its verdict.

## Main definitions

* `Env.Heads` — what is left of a body leads to the verdict that is certain.
* `Caller.Awaits` — a body waits for a parser that is certain if it is certain itself.
* `Moment.Sure` — what certainty means at a moment of a run.

## Main results

* `Env.Next.sure` — every step keeps what certainty means.
* `Env.Called.call_of_certain` — certain verdicts are reported at all moments of all runs.
-/

namespace Packrat

namespace Env

/-- What is left of a body leads to the verdict that is certain of its parser, if one is. -/
def Heads (env : Env) (slot : SlotId) (offset : Nat) (work : Work (Option Match)) : Prop :=
  ∀ height verdict, env.Certain (height + 1) slot offset verdict →
    work.erase.Blind ∧ work.erase.Yields (env.Certain height) (verdict.answer offset)

end Env

/-- A body that waits for a parser at an offset. If its verdict is certain, that of the parser
is certain with fewer parsers nested, and with the answer it goes on to its own. -/
structure Caller.Awaits (env : Env) (caller : Caller) (slot : SlotId) (offset : Nat) : Prop where
  below : ∀ height, env.IsCertain (height + 1) caller.slot caller.offset →
    env.IsCertain height slot offset
  goesOn : ∀ answer, env.Admits slot offset answer →
    env.Heads caller.slot caller.offset (caller.resume answer)

/-- The bodies that wait for a parser at an offset, each for the one before. -/
def Env.Await (env : Env) : SlotId → Nat → List Caller → Prop
  | _, _, [] => True
  | slot, offset, caller :: callers =>
    caller.Awaits env slot offset ∧ env.Await caller.slot caller.offset callers

/-- What is done leads to the verdicts that are certain. -/
def Doing.OnCourse (env : Env) (callers : List Caller) : Doing → Prop
  | .idle => True
  | .call slot offset => env.Await slot offset callers
  | .body slot offset work => env.Await slot offset callers ∧ env.Heads slot offset work
  | .answer slot offset given => env.Await slot offset callers ∧ env.Admits slot offset given

/-- Finished entries hold the verdicts that are certain, and while the run goes on what is done
leads to them. -/
structure Moment.Sure (env : Env) (m : Moment) : Prop where
  recalls : m.state.Recalls env
  onCourse : m.state.isAborted = false → m.doing.OnCourse env m.callers

namespace Env

variable {env : Env} {slot : SlotId} {offset : Nat}

/-- With a least number of parsers nested a verdict is certain. -/
theorem Certain.exists_least {height : Nat} {verdict : Verdict Value}
    (h : env.Certain height slot offset verdict) :
    ∃ least < height, env.Certain (least + 1) slot offset verdict ∧
      ¬env.IsCertain least slot offset := by
  induction height with
  | zero => exact h.elim
  | succ height ih =>
      by_cases hbelow : env.IsCertain height slot offset
      · obtain ⟨verdict', h'⟩ := hbelow
        obtain rfl := h.unique h'
        obtain ⟨least, hlt, hleast⟩ := ih h'
        exact ⟨least, by omega, hleast⟩
      · exact ⟨height, Nat.lt_succ_self height, h, hbelow⟩

/-! ## Bodies -/

theorem heads_workOf (env : Env) (slot : SlotId) (offset : Nat) :
    env.Heads slot offset (env.workOf slot offset) := by
  intro height verdict h
  rw [erase_workOf]
  exact h

/-- A body that asks for a parser waits for it. -/
theorem Heads.ask {slot' : SlotId} {offset' : Nat} {resume : Option Match → Work (Option Match)}
    (h : env.Heads slot offset (.ask slot' offset' resume)) :
    (Caller.mk slot offset resume).Awaits env slot' offset' where
  below := by
    rintro height ⟨verdict, hcertain⟩
    obtain ⟨-, hask | hask | ⟨value, stop, hask⟩⟩ := h height verdict hcertain
    · obtain ⟨position, error, hask, -⟩ := hask
      exact ⟨_, hask⟩
    · exact ⟨_, hask.1⟩
    · exact ⟨_, hask.1⟩
  goesOn := by
    intro answer hanswer height verdict hcertain
    obtain ⟨hblind, hask⟩ := h height verdict hcertain
    refine ⟨hblind answer, ?_⟩
    rcases hask with ⟨position, error, hask, -⟩ | ⟨hask, hrest⟩ | ⟨value, stop, hask, hrest⟩
    · exact absurd (hanswer height _ hask) nofun
    · obtain rfl := Ending.done.inj (hanswer height _ hask)
      exact hrest
    · obtain rfl := Ending.done.inj (hanswer height _ hask)
      exact hrest

theorem Heads.look {resume : Snapshot → Work (Option Match)}
    (h : env.Heads slot offset (.look resume)) (snapshot : Snapshot) :
    env.Heads slot offset (resume snapshot) := by
  intro height verdict hcertain
  obtain ⟨⟨hsame, hblind⟩, hyields⟩ := h height verdict hcertain
  have herase : (resume snapshot).erase = (resume .blank).erase := hsame snapshot
  rw [herase]
  exact ⟨hblind, hyields⟩

/-- The result of a body is what is certain of its parser. -/
theorem Heads.admits {result : Option Match} (h : env.Heads slot offset (.done result)) :
    env.Admits slot offset result := by
  intro height verdict hcertain
  cases height with
  | zero => exact hcertain.elim
  | succ height => exact (h height verdict hcertain).2

/-! ## Bodies that wait -/

/-- If the verdict of one of the bodies that wait is certain, that of the parser they wait for
is certain with fewer parsers nested. -/
theorem Await.below {callers : List Caller} (h : env.Await slot offset callers)
    {caller : Caller} (hcaller : caller ∈ callers) {height : Nat}
    (hcertain : env.IsCertain (height + 1) caller.slot caller.offset) :
    env.IsCertain height slot offset := by
  induction callers generalizing slot offset with
  | nil => exact absurd hcaller List.not_mem_nil
  | cons first rest ih =>
      obtain ⟨hfirst, hrest⟩ := h
      rcases List.mem_cons.1 hcaller with rfl | hcaller
      · exact hfirst.below height hcertain
      · have hinner : env.IsCertain height first.slot first.offset := ih hrest hcaller
        exact hfirst.below height (hinner.mono (Nat.le_succ height))

/-- A parser whose verdict is certain is not among the bodies that wait for it. -/
theorem Await.not_isCertain {callers : List Caller} (h : env.Await slot offset callers)
    (hmem : (slot, offset) ∈ callers.map fun c => (c.slot, c.offset)) (height : Nat) :
    ¬env.IsCertain height slot offset := by
  obtain ⟨caller, hcaller, hsame⟩ := List.mem_map.1 hmem
  obtain ⟨rfl, rfl⟩ := Prod.mk.inj hsame
  induction height with
  | zero => exact fun hcertain => hcertain.choose_spec.elim
  | succ height ih => exact fun hcertain => ih (h.below hcaller hcertain)

/-! ## Moments -/

/-- What is answered at once is what is certain. -/
theorem AtOnce.admits {st st' : State} {answer : Option Match} {callers : List Caller}
    (h : env.AtOnce slot offset st answer st') (hrecalls : st.Recalls env)
    (hcallers : env.Await slot offset callers)
    (hbalanced : st.Balanced env (callers.map fun c => (c.slot, c.offset)))
    (hlive : st'.isAborted = false) : env.Admits slot offset answer := by
  cases h with
  | stopped hended =>
      rw [hended] at hlive
      contradiction
  | refused => simp at hlive
  | recursive _ _ hmode hentry =>
      have hmem := (hbalanced.running hmode slot offset).1 hentry
      exact fun height verdict hcertain =>
        absurd ⟨verdict, hcertain⟩ (hcallers.not_isCertain hmem height)
  | knownFailure _ _ _ hentry => exact hrecalls slot offset none hentry
  | @knownMatch m _ _ _ hentry => exact hrecalls slot offset (some m) hentry

/-- A run that goes on after an answer has gone on before. -/
theorem AtOnce.isAborted_eq_false {st st' : State} {answer : Option Match}
    (h : env.AtOnce slot offset st answer st') (hlive : st'.isAborted = false) :
    st.isAborted = false := by
  cases hended : st.isAborted with
  | false => rfl
  | true =>
      rw [(h.of_isAborted hended).2, hended] at hlive
      contradiction

theorem AtOnce.memo_eq {st st' : State} {answer : Option Match}
    (h : env.AtOnce slot offset st answer st') : st'.memo = st.memo := by
  cases h with
  | refused => exact State.raise_memo _ _
  | stopped | recursive | knownFailure | knownMatch => rfl

/-- A body that comes back with what is certain leaves it in its entry. -/
theorem Leaves.recalls {st st' : State} {result answer : Option Match}
    (h : env.Leaves slot offset result st answer st') (hrecalls : st.Recalls env)
    (hresult : st.isAborted = false → env.Admits slot offset result) : st'.Recalls env := by
  have hfinished :=
    hrecalls.of_eq (State.finish_memo st slot offset (env.grammar.name? slot) result)
  cases h with
  | ran => exact hfinished
  | missed =>
      refine hfinished.settle fun hlive => hresult ?_
      rwa [State.finish_isAborted] at hlive

/-- Every step keeps what certainty means. -/
theorem Next.sure {m m' : Moment} (h : env.Next m m') (hbalanced : m.state.Balanced env m.running)
    (hm : m.Sure env) : m'.Sure env := by
  obtain ⟨hrecalls, hcourse⟩ := hm
  cases h with
  | start => exact ⟨hrecalls, fun _ => trivial⟩
  | atOnce hanswer =>
      refine ⟨hrecalls.of_eq hanswer.memo_eq, fun hlive => ?_⟩
      have hwaits := hcourse (hanswer.isAborted_eq_false hlive)
      exact ⟨hwaits, hanswer.admits hrecalls hwaits hbalanced hlive⟩
  | begin hlive _ hbegins =>
      have hwaits := hcourse hlive
      exact ⟨hbegins.recalls hrecalls, fun _ => ⟨hwaits, env.heads_workOf _ _⟩⟩
  | abort => exact ⟨hrecalls.of_eq (State.raise_memo _ _), fun hlive => by simp at hlive⟩
  | ask =>
      refine ⟨hrecalls, fun hlive => ?_⟩
      obtain ⟨hwaits, hheads⟩ := hcourse hlive
      exact ⟨hheads.ask, hwaits⟩
  | look =>
      refine ⟨hrecalls, fun hlive => ?_⟩
      obtain ⟨hwaits, hheads⟩ := hcourse hlive
      exact ⟨hwaits, hheads.look _⟩
  | @ended _ _ resume _ _ st =>
      refine ⟨hrecalls, fun hlive => ?_⟩
      obtain ⟨hwaits, hheads⟩ := hcourse hlive
      have hgoes : st.isAborted = false := hlive
      show env.Await _ _ _ ∧ env.Heads _ _ (resume st.isAborted)
      rw [hgoes]
      exact ⟨hwaits, hheads⟩
  | apply => exact ⟨hrecalls, hcourse⟩
  | leave hleaves =>
      have hadmits := fun hlive => (hcourse hlive).2.admits
      refine ⟨hleaves.recalls hrecalls hadmits, fun hlive => ?_⟩
      have hgoes := hleaves.isAborted_eq ▸ hlive
      rw [hleaves.answer_eq hgoes]
      exact ⟨(hcourse hgoes).1, hadmits hgoes⟩
  | resume =>
      refine ⟨hrecalls, fun hlive => ?_⟩
      obtain ⟨⟨hcaller, hwaits⟩, hadmits⟩ := hcourse hlive
      exact ⟨hwaits, hcaller.goesOn _ hadmits⟩
  | outside => exact ⟨hrecalls, fun _ => trivial⟩

theorem sure_first (env : Env) (asked : List (SlotId × Nat)) :
    (Moment.first asked {}).Sure env := by
  refine ⟨fun slot offset result hentry => ?_, fun _ => trivial⟩
  rw [show (Moment.first asked {}).state = {} from rfl, State.find?_fresh] at hentry
  contradiction

/-- So it is at all moments of all runs on a fresh state. -/
theorem Passes.sure {asked : List (SlotId × Nat)} {passed : List Moment} {m : Moment}
    (h : env.Passes (.first asked {}) passed m) : m.Sure env :=
  (h.keeps (I := fun m => m.state.Balanced env m.running ∧ m.Sure env)
    (fun hstep hm => ⟨hstep.balanced hm.1, hstep.sure hm.1 hm.2⟩)
    ⟨.fresh env, env.sure_first asked⟩).1.2

/-- When a parser is called whose verdict is certain, the state is ready for it. -/
theorem Passes.ready {asked : List (SlotId × Nat)} {passed : List Moment}
    {callers : List Caller} {todo : List (SlotId × Nat)} {st : State}
    (h : env.Passes (.first asked {}) passed ⟨.call slot offset, callers, todo, st⟩)
    (hlive : st.isAborted = false) {height : Nat} (hroom : env.Room (height + 1) st)
    (hleast : ¬env.IsCertain height slot offset) : env.Ready (height + 1) st := by
  obtain ⟨hrecalls, hcourse⟩ := h.sure
  have hwaits : env.Await slot offset callers := hcourse hlive
  refine ⟨hroom, fun _ => hrecalls, fun hmode slot' offset' hrun hcertain => hleast ?_⟩
  have hmem := (h.paced.running hmode slot' offset').1 hrun
  obtain ⟨caller, hcaller, hsame⟩ := List.mem_map.1 hmem
  obtain ⟨rfl, rfl⟩ := Prod.mk.inj hsame
  exact hwaits.below hcaller hcertain

/-- A parser is called in a state: at some moment of a run on a fresh state, or in any state if
runs remember nothing. -/
def Called (env : Env) (slot : SlotId) (offset : Nat) (st : State) : Prop :=
  env.options.memoize = false ∨ ∃ asked passed callers todo,
    env.Passes (.first asked {}) passed ⟨.call slot offset, callers, todo, st⟩

section Called

variable {st : State} {height : Nat} {verdict : Verdict Value}

/-- Where a parser is called whose verdict is certain, the state is ready for it. -/
theorem Called.exists_ready (h : env.Called slot offset st) (hlive : st.abort = none)
    (hroom : env.Room height st) (hcertain : env.Certain height slot offset verdict) :
    ∃ least < height, env.Certain (least + 1) slot offset verdict ∧ env.Ready (least + 1) st := by
  obtain ⟨least, hlt, hleast, hnone⟩ := hcertain.exists_least
  have hroom' : env.Room (least + 1) st := hroom.mono hlt
  refine ⟨least, hlt, hleast, ?_⟩
  rcases h with hmode | ⟨asked, passed, callers, todo, hpasses⟩
  · exact ⟨hroom', fun hon => by simp [hmode] at hon, fun hon => by simp [hmode] at hon⟩
  · exact hpasses.ready (by simp [State.isAborted, hlive]) hroom' hnone

/-- Wherever a parser is called whose verdict is certain, in a run that goes on and where the
depth limit leaves room, the call ends and reports the verdict. -/
theorem Called.call_of_certain (h : env.Called slot offset st) (hlive : st.abort = none)
    {fuel : Nat} (hfuel : height < fuel) (hroom : env.Room height st)
    (hcertain : env.Certain height slot offset verdict) :
    ∃ answer st', env.call fuel slot offset st = some (answer, st') ∧
      verdict.Reported offset answer st' := by
  obtain ⟨least, hlt, hleast, hready⟩ := h.exists_ready hlive hroom hcertain
  obtain ⟨answer, st', hcall, hreported, -⟩ :=
    Env.call_of_certain (least + 1) (show least + 1 < fuel by omega) hready hlive hleast
  exact ⟨answer, st', hcall, hreported⟩

end Called

end Env

end Packrat
