import Packrat.ParseAll
import Packrat.Proofs.CallRule
import Packrat.Proofs.Frontier
import Packrat.Proofs.Span
/-!
# Spans of runs

What a body does is sound as long as the answers are. The engine takes answers
from the memo table too; they were sound when they were made, and the invariant
`State.MemoSound` keeps them so. From a sound state, then, whatever happens in a
run happens at offsets that are reached from where the run began.

A run that does not end has no result, but it does ask, abort and match before
it gets lost. `Env.Visits` lists what bodies are about to do in the course of a
call, however the call goes on.

## Main results

* `Env.call_sound` — answers span what they should, and a run grows the state
  only by events at offsets that are reached from its start.
* `Env.Visits.sound` — so it is at every moment of a run.
* `Env.spans_sound` — spans, offsets and slices of all runs are sound.
-/

namespace Packrat

/-- The offset at which a run was ended. -/
def Abort.position : Abort → Nat
  | .transform position _ => position
  | .recursionLimit _ position => position

/-- The offset at which an event happens. -/
def Event.offset : Event → Nat
  | .entered _ offset _ => offset
  | .started _ offset => offset
  | .failed _ offset => offset
  | .moved _ later => later
  | .leftRecursion _ offset => offset
  | .aborted abort => abort.position

namespace State

/-- All matches in the memo table begin at their offsets and end where they can. -/
def MemoSound (src : Source) (st : State) : Prop :=
  ∀ slot offset m, st.memo.find? slot offset = some (.matched m) → m.Spans src offset

/-- A state has come about from another by events at offsets of one kind. -/
structure Grows (ok : Nat → Prop) (st st' : State) : Prop where
  trace : ∃ events, st'.trace = events ++ st.trace ∧ ∀ event ∈ events, ok event.offset
  abort : ∀ abort, st'.abort = some abort → st.abort = some abort ∨ ok abort.position
  deepest : st'.deepest = st.deepest ∨ ok st'.deepest

namespace Grows

variable {ok ok' : Nat → Prop} {st st' st'' : State}

/-- A change of other parts of the state is no growth at all. -/
theorem of_eq (htrace : st'.trace = st.trace) (habort : st'.abort = st.abort)
    (hdeepest : st'.deepest = st.deepest) : st.Grows ok st' := by
  refine ⟨⟨[], htrace, by simp⟩, fun abort h => ?_, .inl hdeepest⟩
  rw [habort] at h
  exact .inl h

theorem refl (ok : Nat → Prop) (st : State) : st.Grows ok st := of_eq rfl rfl rfl

theorem trans (h : st.Grows ok st') (h' : st'.Grows ok st'') : st.Grows ok st'' := by
  obtain ⟨events, htrace, hevents⟩ := h.trace
  obtain ⟨events', htrace', hevents'⟩ := h'.trace
  refine ⟨⟨events' ++ events, by rw [htrace', htrace, List.append_assoc], ?_⟩, ?_, ?_⟩
  · intro event hevent
    rcases List.mem_append.1 hevent with hevent | hevent
    · exact hevents' event hevent
    · exact hevents event hevent
  · intro abort habort
    rcases h'.abort abort habort with habort | hposition
    · exact h.abort abort habort
    · exact .inr hposition
  · rcases h'.deepest with heq | hreach
    · rw [heq]
      exact h.deepest
    · exact .inr hreach

/-- Growth at offsets of one kind is growth at offsets of every wider kind. -/
theorem mono (h : st.Grows ok st') (hok : ∀ offset, ok offset → ok' offset) :
    st.Grows ok' st' := by
  obtain ⟨events, htrace, hevents⟩ := h.trace
  refine ⟨⟨events, htrace, fun event hevent => hok _ (hevents event hevent)⟩, ?_, ?_⟩
  · exact fun abort habort => (h.abort abort habort).imp_right (hok _)
  · exact h.deepest.imp_right (hok _)

/-- A state grows by an event. -/
theorem note {event : Event} (h : ok event.offset) : st.Grows ok (st.note event) := by
  refine ⟨⟨[event], rfl, ?_⟩, fun abort habort => .inl habort, .inl rfl⟩
  intro other hother
  rw [List.mem_singleton] at hother
  rw [hother]
  exact h

/-- A state grows by the end of the run. -/
theorem raise {abort : Abort} (h : ok abort.position) : st.Grows ok (st.raise abort) := by
  by_cases hended : st.isAborted = true
  · rw [raise_of_isAborted hended]
    exact refl ok st
  · rw [raise_of_not_isAborted (Bool.not_eq_true _ ▸ hended)]
    refine ⟨⟨[.aborted abort], rfl, ?_⟩, ?_, .inl rfl⟩
    · intro event hevent
      rw [List.mem_singleton] at hevent
      rw [hevent]
      exact h
    · intro other hother
      rw [← Option.some.inj hother]
      exact .inr h

/-- A state grows by a failure. -/
theorem recordFailure {slot : SlotId} {offset : Nat} {name : Option String} (h : ok offset) :
    st.Grows ok (st.recordFailure slot offset name) := by
  rw [recordFailure_eq]
  refine ⟨⟨st.failureEvents slot offset, rfl, ?_⟩, fun abort habort => .inl habort, ?_⟩
  · intro event hevent
    have hcases : event = .moved st.deepest offset ∨ event = .failed slot offset := by
      unfold failureEvents at hevent
      split at hevent
      · simpa using hevent
      · exact .inr (by simpa using hevent)
    rcases hcases with rfl | rfl <;> exact h
  · rcases st.frontier.record_deepest ⟨name, offset⟩ with heq | heq
    · exact .inl heq
    · exact .inr (heq ▸ h)

/-- A state grows when a parser is asked for. -/
theorem enter {slot : SlotId} {offset : Nat} (h : ok offset) :
    st.Grows ok (st.enter slot offset) := note h

/-- A state grows when the body of a parser begins to run. -/
theorem begin {slot : SlotId} {offset : Nat} (h : ok offset) :
    st.Grows ok (st.begin slot offset) := by
  have hdeeper : st.Grows ok { st with depth := st.depth + 1 } := of_eq rfl rfl rfl
  exact hdeeper.trans (note h)

theorem enter_begin {slot : SlotId} {offset : Nat} (h : ok offset) :
    st.Grows ok ((st.enter slot offset).begin slot offset) :=
  (enter h).trans (begin h)

theorem enter_reserve_begin {slot : SlotId} {offset : Nat} (h : ok offset) :
    st.Grows ok (((st.enter slot offset).reserve slot offset).begin slot offset) := by
  have hreserve : (st.enter slot offset).Grows ok ((st.enter slot offset).reserve slot offset) :=
    of_eq rfl rfl rfl
  exact ((enter h).trans hreserve).trans (begin h)

/-- A state grows when the body of a parser comes back. -/
theorem finish {slot : SlotId} {offset : Nat} {name : Option String} {result : Option Match}
    (h : ok offset) : st.Grows ok (st.finish slot offset name result) := by
  have hback : st.Grows ok { st with depth := st.depth - 1 } := of_eq rfl rfl rfl
  unfold State.finish
  simp only
  split
  · exact hback.trans (.recordFailure h)
  · exact hback

/-- A state does not grow when an entry is filled in or removed. -/
theorem settle {slot : SlotId} {offset : Nat} {result : Option Match} :
    st.Grows ok (st.settle slot offset result) := by
  unfold State.settle
  split <;> exact of_eq rfl rfl rfl

end Grows

/-! ## Memo tables -/

namespace MemoSound

variable {src : Source} {st : State}

theorem of_eq {st' : State} (h : st.MemoSound src) (hmemo : st'.memo = st.memo) :
    st'.MemoSound src := by
  unfold MemoSound
  rw [hmemo]
  exact h

/-- An entry may be made if it is sound. -/
theorem insert (h : st.MemoSound src) {slot : SlotId} {offset : Nat} {memo : Memo}
    (hentry : ∀ m, memo = .matched m → m.Spans src offset) :
    MemoSound src { st with memo := st.memo.insert slot offset memo } := by
  intro slot' offset' m hfind
  rw [MemoTable.find?_insert] at hfind
  split at hfind
  case isTrue hsame =>
    obtain ⟨rfl, rfl⟩ := hsame
    exact hentry m (Option.some.inj hfind)
  case isFalse => exact h slot' offset' m hfind

/-- The entry of a parser that is about to run holds no match. -/
theorem reserve (h : st.MemoSound src) {slot : SlotId} {offset : Nat} :
    (st.reserve slot offset).MemoSound src :=
  h.insert fun m hm => by contradiction

theorem finish (h : st.MemoSound src) {slot : SlotId} {offset : Nat} {name : Option String}
    {result : Option Match} : (st.finish slot offset name result).MemoSound src := by
  exact h.of_eq (finish_memo _ _ _ _ _)

/-- The entry of a parser that has run may be filled in if its match is sound. -/
theorem settle (h : st.MemoSound src) {slot : SlotId} {offset : Nat} {result : Option Match}
    (hresult : ∀ m, result = some m → m.Spans src offset) :
    (st.settle slot offset result).MemoSound src := by
  by_cases hended : st.isAborted = true
  · rw [settle_of_isAborted hended]
    intro slot' offset' m hfind
    rw [MemoTable.find?_erase] at hfind
    split at hfind
    · contradiction
    · exact h slot' offset' m hfind
  · rw [settle_of_not_isAborted (Bool.not_eq_true _ ▸ hended)]
    refine h.insert fun m hm => ?_
    cases result with
    | none => contradiction
    | some found => exact hresult m (congrArg some (Memo.matched.inj hm))

end MemoSound

end State

/-! ## Calls -/

namespace Env

variable {env : Env}

/-- What holds of all states in the course of a run that begins at an offset in
a sound state. -/
def Course (env : Env) (start : Nat) (first st : State) : Prop :=
  st.MemoSound env.source ∧ first.Grows (env.source.Reaches start) st

/-- Calls that are answered in sound states take the run on its course, and their
answers span what they should. -/
def SoundCall (env : Env) (call : Call) : Prop :=
  ∀ ⦃slot start st answer st'⦄, st.MemoSound env.source →
    call slot start st = some (answer, st') →
    env.Course start st st' ∧ ∀ m, answer = some m → m.Spans env.source start

namespace Course

variable {start : Nat} {first st st' : State} {parts : List SlotId}

/-- Questions that the contract of spans allows keep a run on its course. -/
theorem ask {call : Call} (hcall : env.SoundCall call) {slot : SlotId} {offset : Nat}
    {answer : Option Match} (hask : (spanContract env.source start parts).asks slot offset)
    (h : env.Course start first st) (hanswer : call slot offset st = some (answer, st')) :
    env.Course start first st' ∧
      ∀ m, answer = some m → (spanContract env.source start parts).replies slot offset m := by
  obtain ⟨hsound, hgrows⟩ := h
  obtain ⟨⟨hsound', hgrows'⟩, hspans⟩ := hcall hsound hanswer
  exact ⟨⟨hsound', hgrows.trans (hgrows'.mono fun _ => hask.2.trans)⟩, hspans⟩

/-- Aborts that the contract of spans allows keep a run on its course. -/
theorem raise {position : Nat} {error : TransformError}
    (hposition : (spanContract env.source start parts).aborts position)
    (h : env.Course start first st) :
    env.Course start first (st.raise (.transform position error)) := by
  obtain ⟨hsound, hgrows⟩ := h
  have hhere : env.source.Reaches start position := hposition ▸ .refl _ _
  exact ⟨hsound.of_eq (State.raise_memo _ _), hgrows.trans (.raise hhere)⟩

end Course

/-- The answer to a call spans what it should, and the state after it is sound
and has grown only at offsets that are reached from the start of the call. -/
theorem call_sound (fuel : Nat) : env.SoundCall (env.call fuel) := by
  induction fuel with
  | zero =>
      intro slot start st answer st' _ h
      contradiction
  | succ fuel ih =>
      intro slot start st answer st' hmemo h
      have hhere : env.source.Reaches start start := .refl _ _
      have hbody {first last : State} {result : Option Match}
          (hfirst : first.MemoSound env.source)
          (hexec : (env.planOf slot start).exec env.options (env.call fuel) first =
            some (result, last)) :
          env.Course start first last ∧ ∀ m, result = some m → m.Spans env.source start :=
        (env.planOf_meets slot start).exec (I := env.Course start first) (Course.ask ih)
          Course.raise ⟨hfirst, .refl _ _⟩ hexec
      cases answer_eq_some_iff.1 h with
      | stopped => exact ⟨⟨hmemo, .refl _ _⟩, by simp⟩
      | refused =>
          refine ⟨⟨hmemo.of_eq (State.raise_memo _ _), ?_⟩, by simp⟩
          exact (State.Grows.enter hhere).trans (.raise hhere)
      | recursive =>
          exact ⟨⟨hmemo, (State.Grows.enter hhere).trans (.note hhere)⟩, by simp⟩
      | knownFailure =>
          exact ⟨⟨hmemo, (State.Grows.enter hhere).trans (.of_eq rfl rfl rfl)⟩, by simp⟩
      | knownMatch _ _ _ hentry =>
          refine ⟨⟨hmemo, (State.Grows.enter hhere).trans (.of_eq rfl rfl rfl)⟩, ?_⟩
          intro m hm
          rw [← Option.some.inj hm]
          exact hmemo _ _ _ hentry
      | ran _ _ _ hexec =>
          have hfirst : ((st.enter slot start).begin slot start).MemoSound env.source := hmemo
          obtain ⟨⟨hsound, hgrows⟩, hresult⟩ := hbody hfirst hexec
          refine ⟨⟨hsound.finish, ?_⟩, hresult⟩
          exact ((State.Grows.enter_begin hhere).trans hgrows).trans (.finish hhere)
      | missed _ _ _ _ hexec =>
          have hfirst : (((st.enter slot start).reserve slot start).begin slot
              start).MemoSound env.source := hmemo.reserve
          obtain ⟨⟨hsound, hgrows⟩, hresult⟩ := hbody hfirst hexec
          refine ⟨⟨hsound.finish.settle hresult, ?_⟩, ?_⟩
          · have hran := (State.Grows.enter_reserve_begin hhere).trans hgrows
            exact (hran.trans (.finish hhere)).trans .settle
          · intro m hm
            split at hm
            · contradiction
            · exact hresult m hm

/-! ## Moments of a run -/

/-- What bodies are about to do in the course of a call, and the states in which
they do it. The call itself need not end. -/
inductive Visits (env : Env) : SlotId → Nat → State → Plan (Option Match) → State → Prop
  /-- A body begins to run, and nothing will be remembered. -/
  | ran {slot : SlotId} {start : Nat} {st : State} (hlive : st.isAborted = false)
      (hroom : env.atLimit st = none) (hmemo : env.options.memoize = false) :
    env.Visits slot start st (env.planOf slot start) ((st.enter slot start).begin slot start)
  /-- A body begins to run whose answer is not known yet. -/
  | missed {slot : SlotId} {start : Nat} {st : State} (hlive : st.isAborted = false)
      (hroom : env.atLimit st = none) (hmemo : env.options.memoize = true)
      (hentry : st.memo.find? slot start = none) :
    env.Visits slot start st (env.planOf slot start)
      (((st.enter slot start).reserve slot start).begin slot start)
  /-- A body goes on. -/
  | step {slot : SlotId} {start fuel : Nat} {st st₁ st₂ : State}
      {plan next : Plan (Option Match)} (hvisit : env.Visits slot start st plan st₁)
      (hstep : Plan.Step env.options (env.call fuel) plan st₁ next st₂) :
    env.Visits slot start st next st₂
  /-- What is about to be done in the course of a call that a body makes. -/
  | nested {slot slot' : SlotId} {start offset : Nat} {st st₁ st₂ : State}
      {resume : Option Match → Plan (Option Match)} {plan : Plan (Option Match)}
      (hvisit : env.Visits slot start st (.ask slot' offset resume) st₁)
      (hinner : env.Visits slot' offset st₁ plan st₂) :
    env.Visits slot start st plan st₂

/-- At every moment of a run from a sound state, the body that is running does
what the contract of spans allows from an offset that the run has reached. -/
theorem Visits.sound {slot : SlotId} {start : Nat} {st st' : State}
    {plan : Plan (Option Match)} (h : env.Visits slot start st plan st')
    (hmemo : st.MemoSound env.source) :
    env.Course start st st' ∧ ∃ offset parts, env.source.Reaches start offset ∧
      plan.Meets (spanContract env.source offset parts) (Body.Promise env.source offset) := by
  induction h with
  | ran =>
      refine ⟨⟨hmemo, .enter_begin (.refl _ _)⟩, _, _, .refl _ _, env.planOf_meets _ _⟩
  | missed =>
      refine ⟨⟨hmemo.reserve, .enter_reserve_begin (.refl _ _)⟩, _, _, .refl _ _,
        env.planOf_meets _ _⟩
  | step _ hstep ih =>
      obtain ⟨⟨hsound, hgrows⟩, offset, parts, hoffset, hmeets⟩ := ih hmemo
      obtain ⟨⟨hsound', hgrows'⟩, hmeets'⟩ :=
        hmeets.step (I := env.Course offset _) (Course.ask (call_sound _)) Course.raise
          ⟨hsound, .refl _ _⟩ hstep
      exact ⟨⟨hsound', hgrows.trans (hgrows'.mono fun _ => hoffset.trans)⟩, offset, parts,
        hoffset, hmeets'⟩
  | nested _ _ ih ih' =>
      obtain ⟨⟨hsound, hgrows⟩, offset, parts, hoffset, hmeets⟩ := ih hmemo
      obtain ⟨⟨hsound', hgrows'⟩, offset', parts', hoffset', hmeets'⟩ := ih' hsound
      have hask := hoffset.trans hmeets.1.2
      exact ⟨⟨hsound', hgrows.trans (hgrows'.mono fun _ => hask.trans)⟩, offset', parts',
        hask.trans hoffset', hmeets'⟩

/-! ## All runs -/

/-- The states that a run may come to: from a fresh one by calls at any offsets,
by an end that is called for by hand, and in the course of calls. -/
inductive Reachable (env : Env) : State → Prop
  | fresh : env.Reachable {}
  | called {slot : SlotId} {start fuel : Nat} {st st' : State} {answer : Option Match}
      (h : env.Reachable st) (hcall : env.call fuel slot start st = some (answer, st')) :
    env.Reachable st'
  | aborted {st : State} (h : env.Reachable st) (position : Nat) (error : TransformError) :
    env.Reachable (st.raise (.transform position error))
  | visited {slot : SlotId} {start : Nat} {st st' : State} {plan : Plan (Option Match)}
      (h : env.Reachable st) (hvisit : env.Visits slot start st plan st') :
    env.Reachable st'

theorem Reachable.memoSound {st : State} (h : env.Reachable st) : st.MemoSound env.source := by
  induction h with
  | fresh =>
      intro slot offset m hfind
      rw [State.find?_fresh] at hfind
      contradiction
  | called _ hcall ih => exact (call_sound _ ih hcall).1.1
  | aborted _ position error ih => exact ih.of_eq (State.raise_memo _ _)
  | visited _ hvisit ih => exact (hvisit.sound ih).1.1

/-- What is sound about the spans of a call of a parser at an offset. -/
structure SoundSpans (env : Env) (slot : SlotId) (start : Nat) (st : State) : Prop where
  /-- A match begins where the parser was called, and does not end before that. -/
  result : ∀ fuel m st', env.call fuel slot start st = some (some m, st') →
    m.start = start ∧ start ≤ m.stop
  /-- From a boundary a match ends at a boundary. -/
  inside : env.source.isBoundary start = true →
    ∀ fuel m st', env.call fuel slot start st = some (some m, st') →
      env.source.isBoundary m.stop = true ∧ m.stop ≤ env.source.size
  /-- Past the end and inside a character a match takes nothing. -/
  outside : env.source.isBoundary start = false →
    ∀ fuel m st', env.call fuel slot start st = some (some m, st') → m.stop = start
  /-- From a boundary all events, the abort and the deepest failure of the call
  are at boundaries from there on. -/
  growth : env.source.isBoundary start = true →
    ∀ fuel answer st', env.call fuel slot start st = some (answer, st') →
      st.Grows (env.source.IsPart start) st'
  /-- So are the calls and aborts that bodies are about to make, and the matches
  that they are about to yield, whether or not the call ends. -/
  moments : env.source.isBoundary start = true →
    ∀ plan st', env.Visits slot start st plan st' →
      st.Grows (env.source.IsPart start) st' ∧
        (∀ position error next, plan = .abort position error next →
          env.source.IsPart start position) ∧
        (∀ slot' offset resume, plan = .ask slot' offset resume →
          env.source.IsPart start offset) ∧
        (∀ m, plan = .done (some m) →
          env.source.IsPart start m.start ∧ env.source.IsPart m.start m.stop)
  /-- Matches that a body is given, new or remembered, take parts of the source. -/
  answers : env.source.isBoundary start = true →
    ∀ slot' offset resume st₁, env.Visits slot start st (.ask slot' offset resume) st₁ →
      ∀ fuel m st₂, env.call fuel slot' offset st₁ = some (some m, st₂) →
        env.source.IsPart start m.start ∧ env.source.IsPart m.start m.stop

theorem call_spans (fuel : Nat) {slot : SlotId} {start : Nat} {st st' : State} {m : Match}
    (hmemo : st.MemoSound env.source) (h : env.call fuel slot start st = some (some m, st')) :
    m.Spans env.source start :=
  (call_sound fuel hmemo h).2 m rfl

section Moments

variable {slot : SlotId} {start : Nat} {st st' : State} {plan : Plan (Option Match)}

/-- What a body is about to do in the course of a call from a boundary, it does at
boundaries from there on. -/
theorem Visits.moment (hvisit : env.Visits slot start st plan st')
    (hmemo : st.MemoSound env.source) (hstart : env.source.isBoundary start = true) :
    st.Grows (env.source.IsPart start) st' ∧
      (∀ position error next, plan = .abort position error next →
        env.source.IsPart start position) ∧
      (∀ slot' offset resume, plan = .ask slot' offset resume →
        env.source.IsPart start offset) ∧
      (∀ m, plan = .done (some m) →
        env.source.IsPart start m.start ∧ env.source.IsPart m.start m.stop) := by
  obtain ⟨⟨-, hgrows⟩, offset, parts, hoffset, hmeets⟩ := hvisit.sound hmemo
  have hpart : env.source.IsPart start offset := hoffset.isPart hstart
  refine ⟨hgrows.mono fun _ hreach => hreach.isPart hstart, ?_, ?_, ?_⟩
  · rintro position error next rfl
    rw [show position = offset from hmeets.1]
    exact hpart
  · rintro slot' offset' resume rfl
    exact (hoffset.trans hmeets.1.2).isPart hstart
  · rintro m rfl
    have hspans : m.Spans env.source offset := hmeets m rfl
    rw [hspans.start_eq]
    exact ⟨hpart, hspans.reaches.isPart hpart.stop_isBoundary⟩

/-- A match that a body is given in the course of a call from a boundary takes a
part of the source. -/
theorem Visits.answer {slot' : SlotId} {offset fuel : Nat} {resume : Option Match → Plan _}
    {m : Match} {st₂ : State} (hvisit : env.Visits slot start st (.ask slot' offset resume) st')
    (hmemo : st.MemoSound env.source) (hstart : env.source.isBoundary start = true)
    (h : env.call fuel slot' offset st' = some (some m, st₂)) :
    env.source.IsPart start m.start ∧ env.source.IsPart m.start m.stop := by
  have hsound : st'.MemoSound env.source := (hvisit.sound hmemo).1.1
  have hpart : env.source.IsPart start offset :=
    (hvisit.moment hmemo hstart).2.2.1 slot' offset resume rfl
  have hspans := call_spans fuel hsound h
  rw [hspans.start_eq]
  exact ⟨hpart, hspans.reaches.isPart hpart.stop_isBoundary⟩

end Moments

/-- The rest of a source that an error shows begins where a match has ended. -/
theorem outcome_extraCharacters {answer : Option Match} {st : State} {position : Nat}
    {remainder : String} {diagnostics : Diagnostics}
    (h : env.outcome answer st = .error (.extraCharacters position remainder diagnostics)) :
    ∃ m, answer = some m ∧ position = m.stop := by
  unfold outcome at h
  split at h
  case h_1 abort _ =>
    have hshown := Except.error.inj h
    cases abort <;> contradiction
  case h_2 =>
    have hshown := Except.error.inj h
    contradiction
  case h_3 m _ =>
    split at h
    · contradiction
    · have hshown := Except.error.inj h
      exact ⟨m, rfl, (ParseError.extraCharacters.inj hshown).1.symm⟩

/-- What an error shows of the rest of a source is a part of it. -/
theorem remainder_isPart {slot : SlotId} {report : Report} {position : Nat} {remainder : String}
    {diagnostics : Diagnostics} (hreport : env.parseAll slot = some report)
    (houtcome : report.outcome = .error (.extraCharacters position remainder diagnostics)) :
    env.source.IsPart position env.source.size := by
  unfold parseAll at hreport
  split at hreport
  · contradiction
  case h_2 answer final h =>
    obtain rfl := Option.some.inj hreport
    obtain ⟨m, rfl, rfl⟩ := outcome_extraCharacters houtcome
    have hspans := call_spans _ Reachable.fresh.memoSound h
    have hpart := hspans.reaches.isPart env.source.isBoundary_zero
    exact ⟨hpart.stop_isBoundary, env.source.isBoundary_size, hpart.stop_le_size⟩

/-- In every state that a run may come to, the spans of all calls are sound.
Primitives take and quote parts of the source wherever they are called from a
boundary, and what an error shows of the rest of a source is a part of it. -/
theorem spans_sound {st : State} (hst : env.Reachable st) (slot : SlotId) (start : Nat) :
    env.SoundSpans slot start st ∧
      (∀ (p : Primitive) (offset : Nat), env.source.isBoundary offset = true →
        Scan.Sliced env.source offset (p.scan env.source offset)) ∧
      ∀ report position remainder diagnostics, env.parseAll slot = some report →
        report.outcome = .error (.extraCharacters position remainder diagnostics) →
        env.source.IsPart position env.source.size := by
  have hmemo : st.MemoSound env.source := hst.memoSound
  refine ⟨?_, fun p offset hoffset => p.scan_sliced hoffset,
    fun _ _ _ _ hreport houtcome => remainder_isPart hreport houtcome⟩
  refine
    { result := ?_
      inside := ?_
      outside := ?_
      growth := ?_
      moments := ?_
      answers := ?_ }
  · intro fuel m st' h
    have hspans := call_spans fuel hmemo h
    exact ⟨hspans.start_eq, hspans.reaches.le⟩
  · intro hstart fuel m st' h
    have hpart := (call_spans fuel hmemo h).reaches.isPart hstart
    exact ⟨hpart.stop_isBoundary, hpart.stop_le_size⟩
  · intro hstart fuel m st' h
    exact (call_spans fuel hmemo h).reaches.eq_of_not_isBoundary hstart
  · intro hstart fuel answer st' h
    exact (call_sound fuel hmemo h).1.2.mono fun _ hoffset => hoffset.isPart hstart
  · intro hstart plan st' hvisit
    exact hvisit.moment hmemo hstart
  · intro hstart slot' offset resume st₁ hvisit fuel m st₂ h
    exact hvisit.answer hmemo hstart h

/-- Any number of characters, on a source whose last character takes two bytes. -/
def letters : Env where
  grammar := ⟨#[.zeroOrMore 1, .primitive .any], [("letters", 0)]⟩
  source := .ofString "aé"
  options := {}

theorem spans_sound_letters :
    letters.Reachable {} ∧
      (∃ st, letters.call 2 0 0 {} = some (some ⟨.list [.char 'a', .char 'é'], 0, 3⟩, st)) ∧
      letters.SoundSpans 0 0 {} :=
  ⟨.fresh, ⟨_, rfl⟩, (spans_sound .fresh 0 0).1⟩

end Env

end Packrat
