import Packrat.Proofs.Height
import Packrat.Proofs.Nesting
/-!
# The depth limit is a threshold

A depth limit does nothing until a call is made at it. So a run with a limit goes step
by step as the run without one, as long as calls are less deep. What mapped values see
of a run shows the limit too; a grammar that does not look at it cannot tell the two runs
apart.

A run that is never as deep as the limit comes to the same end in the same state. In any
other the first call at the limit ends the run, and since an early end is final it is the
end that is reported.

## Main results

* `Env.Next.withLimit` — runs with different limits go alike as long as calls are less
  deep than both.
* `Env.limit_sharp` — the nesting of a run is the least limit that does not end it.
-/

namespace Packrat

/-- Two views of a run differ in the depth limit only. -/
def Snapshot.SameButLimit (view view' : Snapshot) : Prop :=
  ∃ limit, view' = { view with options := { view.options with maxDepth := limit } }

/-- A call that is made at a moment is less deep than a limit. -/
def Moment.Fits (limit : Option Nat) (m : Moment) : Prop :=
  ∀ slot offset, m.doing = .call slot offset → m.state.isAborted = false →
    ∀ bound, limit = some bound → m.state.depth < bound

/-- Without a limit no call is too deep. -/
theorem Moment.fits_none (m : Moment) : m.Fits none := by
  intro slot offset _ _ bound hbound
  contradiction

namespace Env

variable {env : Env} {limit limit' : Option Nat}

/-- An environment with another depth limit, and otherwise the same. -/
def withLimit (env : Env) (limit : Option Nat) : Env :=
  { env with options := { env.options with maxDepth := limit } }

theorem atLimit_withLimit {st : State} (h : ∀ bound, limit = some bound → st.depth < bound) :
    (env.withLimit limit).atLimit st = none :=
  atLimit_eq_none_iff.2 h

theorem AtOnce.withLimit {slot : SlotId} {offset : Nat} {st st' : State}
    {answer : Option Match} (h : (env.withLimit limit).AtOnce slot offset st answer st')
    (hfits : st.isAborted = false → (env.withLimit limit).atLimit st = none)
    (hfits' : st.isAborted = false → (env.withLimit limit').atLimit st = none) :
    (env.withLimit limit').AtOnce slot offset st answer st' := by
  cases h with
  | stopped hended => exact .stopped hended
  | refused hlive hlimit => exact absurd (hlimit.symm.trans (hfits hlive)) nofun
  | recursive hlive _ hmemo hentry => exact .recursive hlive (hfits' hlive) hmemo hentry
  | knownFailure hlive _ hmemo hentry => exact .knownFailure hlive (hfits' hlive) hmemo hentry
  | knownMatch hlive _ hmemo hentry => exact .knownMatch hlive (hfits' hlive) hmemo hentry

/-- A step of a run with one limit is one with another limit too, unless a call is made
as deep as one of them. -/
theorem Next.withLimit {m m' : Moment} (h : (env.withLimit limit).Next m m')
    (hm : m.Heeds Snapshot.SameButLimit) (hfits : m.Fits limit) (hfits' : m.Fits limit') :
    (env.withLimit limit').Next m m' := by
  cases h with
  | start => exact .start
  | @atOnce slot offset _ _ _ _ _ hanswer =>
      exact .atOnce (hanswer.withLimit
        (fun hlive => atLimit_withLimit (hfits slot offset rfl hlive))
        (fun hlive => atLimit_withLimit (hfits' slot offset rfl hlive)))
  | @begin slot offset callers todo st first hlive _ hbegins =>
      have hroom : (env.withLimit limit').atLimit st = none :=
        atLimit_withLimit (hfits' slot offset rfl hlive)
      have hbegins' : (env.withLimit limit').Begins slot offset st first := by
        cases hbegins with
        | ran hmemo => exact .ran hmemo
        | missed hmemo hentry => exact .missed hmemo hentry
      exact .begin hlive hroom hbegins'
  | abort => exact .abort
  | ask => exact .ask
  | @look slot offset resume callers todo st =>
      have hsame : Snapshot.SameButLimit (st.snapshot (env.withLimit limit).options)
          (st.snapshot (env.withLimit limit').options) := ⟨limit', rfl⟩
      rw [hm.doing.1 _ _ hsame]
      exact .look
  | ended => exact .ended
  | apply => exact .apply
  | leave hleaves =>
      cases hleaves with
      | ran hmemo => exact .leave (.ran hmemo)
      | missed hmemo => exact .leave (.missed hmemo)
  | resume => exact .resume
  | outside => exact .outside

/-- Runs with different limits go alike as long as calls are less deep than both. -/
theorem Passes.withLimit {m m' : Moment} {passed : List Moment}
    (hsees : env.grammar.SeesAlike Snapshot.SameButLimit)
    (h : (env.withLimit limit).Passes m passed m') (hm : m.Heeds Snapshot.SameButLimit)
    (hfits : ∀ x ∈ passed, x.Fits limit) (hfits' : ∀ x ∈ passed, x.Fits limit') :
    (env.withLimit limit').Passes m passed m' := by
  have hsees' : (env.withLimit limit).grammar.SeesAlike Snapshot.SameButLimit := hsees
  induction h with
  | nil => exact .nil _
  | cons hstep _ ih =>
      have hstep' := hstep.withLimit hm (hfits _ (List.mem_cons_self ..))
        (hfits' _ (List.mem_cons_self ..))
      refine .cons hstep' (ih (hstep.heeds hsees' hm) (fun x hx => ?_) fun x hx => ?_)
      · exact hfits x (List.mem_cons_of_mem _ hx)
      · exact hfits' x (List.mem_cons_of_mem _ hx)

/-- A call at the limit in a run that goes on ends the run for good. -/
theorem Passes.abort_of_atLimit {m x : Moment} {passed before : List Moment} {last : State}
    (h : env.Passes m passed (.last last)) (hbefore : env.Passes m before x) {slot : SlotId}
    {offset bound : Nat} (hdoing : x.doing = .call slot offset)
    (hlive : x.state.isAborted = false) (hlimit : env.atLimit x.state = some bound) :
    last.abort = some (.recursionLimit bound offset) := by
  obtain ⟨after, hafter, -⟩ := h.through hbefore
  have hraised : x.raised env = some (.recursionLimit bound offset) := by
    obtain ⟨doing, callers, todo, st⟩ := x
    obtain rfl : doing = .call slot offset := hdoing
    exact (Moment.raised_call hlive).trans (congrArg _ hlimit)
  cases hafter with
  | nil => contradiction
  | @cons _ next _ after hstep hrest =>
      have hnext : next.state.abort = some (.recursionLimit bound offset) :=
        (hstep.abort_eq hlive).trans hraised
      have hended : next.state.isAborted = true := by rw [State.isAborted, hnext]; rfl
      exact (hrest.stands hended).abort.trans hnext

/-! ## Whole sources -/

/-- The moment at which the whole source is given to a parser. -/
def asked (slot : SlotId) : Moment := ⟨.call slot 0, [], [], {}⟩

theorem asked_heeds (alike : Snapshot → Snapshot → Prop) (slot : SlotId) :
    (asked slot).Heeds alike :=
  ⟨True.intro, fun _ hmem => absurd hmem List.not_mem_nil⟩

/-- The moment at which the whole source has been parsed. -/
def answered (slot : SlotId) (answer : Option Match) (last : State) : Moment :=
  ⟨.answer slot 0 answer, [], [], last⟩

/-- A run with a limit that comes to an answer is what parsing the source leads to. -/
theorem parseAll_of_passes (hclosed : env.grammar.Closed) {slot : SlotId}
    (hslot : slot < env.grammar.size) {bound : Nat} {passed : List Moment}
    {answer : Option Match} {last : State}
    (h : (env.withLimit (some bound)).Passes (asked slot) passed (answered slot answer last)) :
    (env.withLimit (some bound)).parseAll slot =
      some ⟨env.outcome answer last, answer.isSome, last⟩ := by
  obtain ⟨fuel, hcall⟩ := call_of_passes h
  have hclosed' : (env.withLimit (some bound)).grammar.Closed := hclosed
  exact parseAll_eq_some_iff.2 ⟨answer, last,
    parse_of_call hclosed' (.inr (.inl rfl)) hslot Reachable.fresh.memoSound hcall, rfl⟩

/-- A run that comes to an answer goes on to its last moment. -/
theorem passes_last {slot : SlotId} {answer : Option Match} {last : State}
    {passed : List Moment} (h : env.Passes (asked slot) passed (answered slot answer last)) :
    ∃ passed', env.Passes (asked slot) passed' (.last last) :=
  ⟨_, h.append (.single .outside)⟩

/-- A run that is never as deep as some limit leads to the same with that limit. -/
theorem parseAll_of_nesting_le (hsees : env.grammar.SeesAlike Snapshot.SameButLimit)
    (hclosed : env.grammar.Closed) {slot : SlotId} (hslot : slot < env.grammar.size)
    {passed : List Moment} {answer : Option Match} {last : State}
    (h : (env.withLimit none).Passes (asked slot) passed (answered slot answer last))
    {bound : Nat} (hbound : Moment.nesting passed ≤ bound) :
    (env.withLimit (some bound)).parseAll slot =
      some ⟨env.outcome answer last, answer.isSome, last⟩ := by
  refine parseAll_of_passes hclosed hslot (h.withLimit hsees (asked_heeds _ slot)
    (fun x _ => x.fits_none) fun x hx slot' offset' hdoing _ bound' heq => ?_)
  obtain rfl := Option.some.inj heq
  have hentrance : x.entrance? = some ⟨x.state.depth, offset'⟩ := by
    simp only [Moment.entrance?, hdoing]
  have hlt := Moment.depth_lt_nesting (List.mem_filterMap.2 ⟨x, hx, hentrance⟩)
  exact Nat.lt_of_lt_of_le hlt hbound

/-- A run that comes to calls as deep as some limit is ended by the first of them with
that limit. -/
theorem recursionLimit_of_lt_nesting (hsees : env.grammar.SeesAlike Snapshot.SameButLimit)
    (hclosed : env.grammar.Closed) {slot : SlotId} (hslot : slot < env.grammar.size)
    {passed : List Moment} {m : Moment} (h : (env.withLimit none).Passes (asked slot) passed m)
    {bound : Nat} (hbound : bound < Moment.nesting passed) :
    ∃ offset report, (Moment.entrances passed).find? (·.depth = bound) = some ⟨bound, offset⟩ ∧
      (env.withLimit (some bound)).parseAll slot = some report ∧
      report.outcome = .error (.recursionLimit bound offset) := by
  obtain ⟨before, x, after, slot', offset, rfl, hbefore, hdoing, hdepth, hlive, hshallow⟩ :=
    h.first_entrance hbound
  have hentrance : x.entrance? = some ⟨bound, offset⟩ := by
    simp only [Moment.entrance?, hdoing, hdepth]
  have hfits (y : Moment) (hy : y ∈ before) : y.Fits (some bound) := by
    intro slot₁ offset₁ hcall _ bound' heq
    obtain rfl := Option.some.inj heq
    have hentrance : y.entrance? = some ⟨y.state.depth, offset₁⟩ := by
      simp only [Moment.entrance?, hcall]
    exact hshallow _ (List.mem_filterMap.2 ⟨y, hy, hentrance⟩)
  have hbefore' := hbefore.withLimit hsees (asked_heeds _ slot) (fun y _ => y.fits_none) hfits
  have hclosed' : (env.withLimit (some bound)).grammar.Closed := hclosed
  obtain ⟨answer, last, hparse⟩ :=
    parse_ends hclosed' (.inr rfl) hslot 0 Reachable.fresh.memoSound
  obtain ⟨passed', hpassed'⟩ := call_passes _ _ hparse [] []
  obtain ⟨passed', hlast⟩ := passes_last hpassed'
  have hlimit : (env.withLimit (some bound)).atLimit x.state = some bound := by
    simp [atLimit, withLimit, hdepth]
  have habort := hlast.abort_of_atLimit hbefore' hdoing hlive hlimit
  refine ⟨offset, _, ?_, parseAll_eq_some_iff.2 ⟨answer, last, hparse, rfl⟩,
    outcome_of_abort habort⟩
  refine List.find?_eq_some_iff_append.2 ⟨by simp, Moment.entrances before,
    Moment.entrances after, ?_, fun entrance hmem => ?_⟩
  · simp [Moment.entrances, hentrance]
  · simpa using Nat.ne_of_lt (hshallow entrance hmem)

/-- A run that is not ended by its limit is never as deep. -/
theorem fits_of_outcome {slot : SlotId} {passed : List Moment} {answer : Option Match}
    {last : State} (h : env.Passes (asked slot) passed (answered slot answer last))
    (houtcome : ∀ bound position,
      env.outcome answer last ≠ .error (.recursionLimit bound position)) :
    ∀ x ∈ passed, x.Fits env.options.maxDepth := by
  intro x hx slot' offset hdoing hlive bound hbound
  obtain ⟨before, after, -, hbefore, -⟩ := h.of_mem hx
  obtain ⟨passed', hlast⟩ := passes_last h
  by_contra hge
  have hlimit : env.atLimit x.state = some bound := by
    simp [atLimit, hbound, Nat.not_lt.1 hge]
  exact houtcome bound offset
    (outcome_of_abort (hlast.abort_of_atLimit hbefore hdoing hlive hlimit))

/-- How parsing a whole source depends on the limit, given what it leads to without one
and the moments that it passes. -/
structure Sharp (env : Env) (slot : SlotId) (passed : List Moment) (report : Report) :
    Prop where
  one_le : 1 ≤ Moment.nesting passed
  unlimited : ∀ report', (env.withLimit none).parseAll slot = some report' → report' = report
  /-- A limit that is no less than the nesting changes nothing. -/
  same : ∀ limit, Moment.nesting passed ≤ limit →
    (env.withLimit (some limit)).parseAll slot = some report
  /-- A lower limit ends the run at the first call that is made at that depth. -/
  ends : ∀ limit < Moment.nesting passed, ∃ offset report',
    (Moment.entrances passed).find? (·.depth = limit) = some ⟨limit, offset⟩ ∧
    (env.withLimit (some limit)).parseAll slot = some report' ∧
    report'.outcome = .error (.recursionLimit limit offset)

theorem sharp_of_passes (hsees : env.grammar.SeesAlike Snapshot.SameButLimit)
    (hclosed : env.grammar.Closed) {slot : SlotId} (hslot : slot < env.grammar.size)
    {fuel : Nat} {answer : Option Match} {last : State} {passed : List Moment}
    (h : (env.withLimit none).call fuel slot 0 {} = some (answer, last))
    (hpassed : (env.withLimit none).Passes (asked slot) passed (answered slot answer last)) :
    env.Sharp slot passed ⟨env.outcome answer last, answer.isSome, last⟩ := by
  refine ⟨?_, fun report' hreport => ?_,
    fun limit hle => parseAll_of_nesting_le hsees hclosed hslot hpassed hle,
    fun limit hlt => recursionLimit_of_lt_nesting hsees hclosed hslot hpassed hlt⟩
  · cases hpassed with
    | @cons _ _ _ passed _ _ =>
        have hfirst : (asked slot).entrance? = some ⟨0, 0⟩ := rfl
        exact Moment.depth_lt_nesting (List.mem_filterMap.2 ⟨_, List.mem_cons_self .., hfirst⟩)
  · obtain ⟨answer', last', hparse, rfl⟩ := parseAll_eq_some_iff.1 hreport
    obtain ⟨rfl, rfl⟩ := Prod.mk.inj (call_unique h hparse)
    rfl

/-- The depth limit is a sharp threshold. If parsing a source ends without a limit, then
the greatest nesting of calls on the way there, at least one, is the least limit that
changes nothing: not the outcome, and not the state that the run ends in. Each lower one
is the outcome, with the offset of the first call at that depth. So, whether or not
parsing ends without a limit, a limit that is not the outcome may be raised or taken away
and nothing changes. Mapped values must not see the limit. -/
theorem limit_sharp (hsees : env.grammar.SeesAlike Snapshot.SameButLimit)
    (hclosed : env.grammar.Closed) {slot : SlotId} (hslot : slot < env.grammar.size) :
    (∀ fuel answer last, (env.withLimit none).call fuel slot 0 {} = some (answer, last) →
      ∃ passed, (env.withLimit none).Passes (asked slot) passed (answered slot answer last) ∧
        env.Sharp slot passed ⟨env.outcome answer last, answer.isSome, last⟩) ∧
    ∀ limit report, (env.withLimit (some limit)).parseAll slot = some report →
      (∀ bound position, report.outcome ≠ .error (.recursionLimit bound position)) →
      (∀ limit', limit ≤ limit' → (env.withLimit (some limit')).parseAll slot = some report) ∧
      ∃ fuel answer, (env.withLimit none).call fuel slot 0 {} = some (answer, report.final) ∧
        report = ⟨env.outcome answer report.final, answer.isSome, report.final⟩ := by
  refine ⟨fun fuel answer last h => ?_, fun limit report hreport houtcome => ?_⟩
  · obtain ⟨passed, hpassed⟩ := call_passes _ fuel h [] []
    exact ⟨passed, hpassed, sharp_of_passes hsees hclosed hslot h hpassed⟩
  · obtain ⟨answer, last, hparse, rfl⟩ := parseAll_eq_some_iff.1 hreport
    obtain ⟨passed, hpassed⟩ := call_passes _ _ hparse [] []
    have hfits := fits_of_outcome hpassed houtcome
    refine ⟨fun limit' hle => parseAll_of_passes hclosed hslot
      (hpassed.withLimit hsees (asked_heeds _ slot) hfits ?_), ?_⟩
    · intro x hx slot' offset hdoing hlive bound heq
      obtain rfl := Option.some.inj heq
      exact Nat.lt_of_lt_of_le (hfits x hx slot' offset hdoing hlive limit rfl) hle
    · have hfree : (env.withLimit none).Passes (asked slot) passed (answered slot answer last) :=
        hpassed.withLimit hsees (asked_heeds _ slot) hfits fun x _ => x.fits_none
      obtain ⟨fuel, hcall⟩ := call_of_passes hfree
      exact ⟨fuel, answer, hcall, rfl⟩

/-- An `a` and, by way of a reference, a `b`. -/
def nested : Env where
  grammar := ⟨#[.sequence 1 2, .primitive (.char 'a'), .reference 3, .primitive (.char 'b')],
    [("pair", 0)]⟩
  source := .ofString "ab"
  options := {}

theorem nested_seesAlike : nested.grammar.SeesAlike Snapshot.SameButLimit := by
  intro body hbody
  simp only [nested, List.mem_toArray, List.mem_cons, List.not_mem_nil, or_false] at hbody
  rcases hbody with rfl | rfl | rfl | rfl <;> exact True.intro

theorem nested_closed : nested.grammar.Closed := by decide

/-- The `b` is called at depth two: with a limit of three it is found, with a limit of two
it is too deep. -/
theorem limit_sharp_nested :
    nested.grammar.SeesAlike Snapshot.SameButLimit ∧ nested.grammar.Closed ∧
      ∃ answer last passed, (nested.withLimit none).call 3 0 0 {} = some (answer, last) ∧
        (nested.withLimit none).Passes (asked 0) passed (answered 0 answer last) ∧
        Moment.nesting passed = 3 ∧
        (nested.withLimit (some 3)).parseAll 0 =
          some ⟨nested.outcome answer last, answer.isSome, last⟩ ∧
        ∃ report, (nested.withLimit (some 2)).parseAll 0 = some report ∧
          report.outcome = .error (.recursionLimit 2 1) := by
  obtain ⟨answer, last, hcall⟩ : ∃ answer last,
      (nested.withLimit none).call 3 0 0 {} = some (answer, last) := ⟨_, _, rfl⟩
  have hslot : 0 < nested.grammar.size := by decide
  obtain ⟨passed, hpassed, hsharp⟩ :=
    (limit_sharp nested_seesAlike nested_closed hslot).1 3 answer last hcall
  obtain ⟨enough, value, hthree, hok⟩ : ∃ report value,
      (nested.withLimit (some 3)).parseAll 0 = some report ∧ report.outcome = .ok value :=
    ⟨_, _, rfl, rfl⟩
  obtain ⟨few, htwo, herror⟩ : ∃ report, (nested.withLimit (some 2)).parseAll 0 = some report ∧
      report.outcome = .error (.recursionLimit 2 1) := ⟨_, rfl, rfl⟩
  have hle : Moment.nesting passed ≤ 3 := by
    by_contra hlt
    obtain ⟨offset, report, -, hreport, houtcome⟩ := hsharp.ends 3 (Nat.not_le.1 hlt)
    obtain rfl := Option.some.inj (hthree.symm.trans hreport)
    exact absurd (hok.symm.trans houtcome) nofun
  have hge : ¬Moment.nesting passed ≤ 2 := by
    intro hle
    obtain rfl := Option.some.inj (htwo.symm.trans (hsharp.same 2 hle))
    obtain rfl := Option.some.inj (hthree.symm.trans (hsharp.same 3 (by omega)))
    exact absurd (hok.symm.trans herror) nofun
  exact ⟨nested_seesAlike, nested_closed, answer, last, passed, hcall, hpassed, by omega,
    hsharp.same 3 hle, few, htwo, herror⟩

end Env

end Packrat
