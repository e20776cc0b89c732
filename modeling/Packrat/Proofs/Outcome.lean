import Packrat.Proofs.Excerpt
import Packrat.Proofs.FinalEnd
/-!
# What parsing a source comes to

Three offsets meet in the outcome of a run that was not ended early: where the match
ends, where the deepest failure was, and where the diagnostics point. All of them are
boundaries of the source, because a run from its start reaches nothing else. So the
diagnostics point exactly where they are told to, at the deepest failure or at the end of
the match, whichever is later, and what is left behind the match is a text that can be
taken out of the source.

## Main results

* `Env.call_boundaries` — a run from the start of a source ends and fails at boundaries.
* `Env.outcome_exact` — the outcome and its diagnostics, for every run that is not ended
  early.
-/

namespace Packrat

namespace Source

/-- What stands behind a boundary is the rest of the text. -/
theorem text_eq_append_suffix {src : Source} {offset : Nat}
    (h : src.isBoundary offset = true) :
    ∃ taken, src.text = taken ++ src.suffix offset ∧ Text.byteLength taken = offset := by
  obtain ⟨⟨before, rest⟩, hplace⟩ := isBoundary_iff.1 h
  have hsuffix : src.suffix offset = rest := by simp only [suffix, hplace]
  rw [hsuffix]
  rw [cursor?_eq_seek] at hplace
  exact Cursor.seek_taken hplace

end Source

namespace Env

variable {env : Env}

/-- The match and the deepest failure of a run from the start of a source are at
boundaries. -/
theorem call_boundaries {fuel : Nat} {slot : SlotId} {answer : Option Match} {last : State}
    (h : env.call fuel slot 0 {} = some (answer, last)) :
    env.source.isBoundary last.deepest = true ∧
      ∀ m, answer = some m → env.source.isBoundary m.stop = true := by
  obtain ⟨⟨-, hgrows⟩, hspans⟩ := call_sound fuel Reachable.fresh.memoSound h
  have hreached {offset : Nat} (hreaches : env.source.Reaches 0 offset) :
      env.source.isBoundary offset = true :=
    (hreaches.isPart env.source.isBoundary_zero).stop_isBoundary
  refine ⟨?_, fun m hm => hreached (hspans m hm).reaches⟩
  rcases hgrows.deepest with heq | hreaches
  · rw [heq]
    exact env.source.isBoundary_zero
  · exact hreached hreaches

/-! ## Remainders -/

/-- What an error shows of a text that is left behind: its first ten characters as they are
written between double quotes, and three dots exactly when there are more. -/
def remainderOf (rest : List Char) : String :=
  String.ofList (Text.escapeChars (rest.take remainderLimit) ++
    if remainderLimit < rest.length then "...".toList else [])

theorem escape_truncate (rest : List Char) :
    String.ofList (Text.escapeChars (Text.truncateChars rest remainderLimit "...".toList)) =
      remainderOf rest := by
  unfold remainderOf Text.truncateChars
  rw [if_neg (by decide)]
  split
  · rw [Text.escapeChars, List.flatMap_append]
    rfl
  · rw [List.take_of_length_le (by omega), List.append_nil]

/-! ## Outcomes -/

/-- What holds of the diagnostics of an error: where they point and what they expect there,
and that they mark the line where they point. -/
structure Points (env : Env) (d : Diagnostics) (offset : Nat) (expected : List String) :
    Prop where
  position : d.position = offset
  expected : d.expected = expected
  marks : d.location.Marks env.source d.context

theorem points_atOffset (st : State) {offset : Nat}
    (h : env.source.isBoundary offset = true) :
    env.Points (.atOffset env.source st offset) offset
      (if offset = st.deepest then st.expected else []) :=
  ⟨Location.locate_offset h, rfl, Diagnostics.atOffset_marks _ _ _⟩

theorem outcome_none {st : State} (hlive : st.abort = none) :
    env.outcome none st = .error (.unmatchedInput (.capture env.source st)) := by
  simp only [outcome, hlive]

theorem outcome_some_of_eq {st : State} {m : Match} (hlive : st.abort = none)
    (hstop : m.stop = env.source.size) : env.outcome (some m) st = .ok m.value := by
  simp only [outcome, hlive, if_pos hstop]

theorem outcome_some_of_ne {st : State} {m : Match} (hlive : st.abort = none)
    (hstop : m.stop ≠ env.source.size) :
    env.outcome (some m) st = .error (.extraCharacters m.stop
      (remainderOf (env.source.suffix m.stop))
      (.atOffset env.source st (max st.deepest m.stop))) := by
  simp only [outcome, hlive, if_neg hstop, escape_truncate]

/-- How the outcome of parsing a source depends on the answer to the call of its parser and
on the state after it, if the run was not ended early. -/
structure ExactOutcome (env : Env) (answer : Option Match) (st : State)
    (outcome : Except ParseError Value) : Prop where
  /-- No match goes past the end of the source, so these are all outcomes. -/
  within : ∀ m, answer = some m → m.stop ≤ env.source.size
  ok : ∀ value, outcome = .ok value ↔
    ∃ m, answer = some m ∧ m.stop = env.source.size ∧ m.value = value
  unmatched : (∃ d, outcome = .error (.unmatchedInput d)) ↔ answer = none
  /-- If nothing matches, the diagnostics point at the deepest failure. -/
  unmatchedAt : ∀ d, outcome = .error (.unmatchedInput d) → env.Points d st.deepest st.expected
  extra : (∃ position remainder d, outcome = .error (.extraCharacters position remainder d)) ↔
    ∃ m, answer = some m ∧ m.stop < env.source.size
  /-- If something is left behind the match, the diagnostics point there or at a deeper
  failure, and what failed before is not listed. -/
  extraAt : ∀ position remainder d,
    outcome = .error (.extraCharacters position remainder d) →
      (∃ m, answer = some m ∧ m.stop = position) ∧
      position ≤ d.position ∧ d.position ≤ env.source.size ∧
      env.Points d (max st.deepest position)
        (if position ≤ st.deepest then st.expected else []) ∧
      ∃ taken rest, env.source.text = taken ++ rest ∧ Text.byteLength taken = position ∧
        remainder = remainderOf rest

theorem exactOutcome_none {st : State} (hlive : st.abort = none)
    (hdeepest : env.source.isBoundary st.deepest = true) :
    env.ExactOutcome none st (env.outcome none st) := by
  rw [outcome_none hlive]
  refine ⟨nofun, fun value => ⟨nofun, nofun⟩, ⟨fun _ => rfl, fun _ => ⟨_, rfl⟩⟩, fun d hd => ?_,
    ⟨nofun, nofun⟩, nofun⟩
  obtain rfl := ParseError.unmatchedInput.inj (Except.error.inj hd)
  have hpoints := points_atOffset st hdeepest
  rwa [if_pos rfl] at hpoints

theorem exactOutcome_of_eq {st : State} {m : Match} (hlive : st.abort = none)
    (hstop : m.stop = env.source.size) :
    env.ExactOutcome (some m) st (env.outcome (some m) st) := by
  rw [outcome_some_of_eq hlive hstop]
  refine ⟨fun m' hm => ?_, fun value => ⟨fun h => ?_, ?_⟩, ⟨nofun, nofun⟩, nofun,
    ⟨nofun, ?_⟩, nofun⟩
  · obtain rfl := Option.some.inj hm
    exact Nat.le_of_eq hstop
  · exact ⟨m, rfl, hstop, Except.ok.inj h⟩
  · rintro ⟨m', hm, -, rfl⟩
    rw [Option.some.inj hm]
  · rintro ⟨m', hm, hlt⟩
    obtain rfl := Option.some.inj hm
    exact absurd hstop (Nat.ne_of_lt hlt)

theorem exactOutcome_of_lt {st : State} {m : Match} (hlive : st.abort = none)
    (hdeepest : env.source.isBoundary st.deepest = true)
    (hmatch : env.source.isBoundary m.stop = true) (hlt : m.stop < env.source.size) :
    env.ExactOutcome (some m) st (env.outcome (some m) st) := by
  rw [outcome_some_of_ne hlive (Nat.ne_of_lt hlt)]
  refine ⟨fun m' hm => ?_, fun value => ⟨nofun, ?_⟩, ⟨nofun, nofun⟩, nofun,
    ⟨fun _ => ⟨m, rfl, hlt⟩, fun _ => ⟨_, _, _, rfl⟩⟩, fun position remainder d hd => ?_⟩
  · obtain rfl := Option.some.inj hm
    exact Nat.le_of_lt hlt
  · rintro ⟨m', hm, hstop, -⟩
    obtain rfl := Option.some.inj hm
    exact absurd hstop (Nat.ne_of_lt hlt)
  · obtain ⟨rfl, rfl, rfl⟩ := ParseError.extraCharacters.inj (Except.error.inj hd)
    have hmax : env.source.isBoundary (max st.deepest m.stop) = true := by
      rcases Nat.le_total st.deepest m.stop with hle | hle
      · rwa [Nat.max_eq_right hle]
      · rwa [Nat.max_eq_left hle]
    have hpoints := points_atOffset st hmax
    have hdeeper : max st.deepest m.stop = st.deepest ↔ m.stop ≤ st.deepest := by omega
    simp only [hdeeper] at hpoints
    refine ⟨⟨m, rfl, rfl⟩, ?_, ?_, hpoints, ?_⟩
    · rw [hpoints.position]
      exact Nat.le_max_right _ _
    · rw [hpoints.position]
      exact Source.le_size_of_isBoundary hmax
    · obtain ⟨taken, htext, htaken⟩ := Source.text_eq_append_suffix hmatch
      exact ⟨taken, _, htext, htaken, rfl⟩

/-- The outcome of parsing a source is exact, for every grammar, source and options for
which the call of its parser is answered and the run is not ended early. Whatever
`Env.parseAll` reports is this outcome with the state after the call, and in a closed
grammar, as all that are laid out from rules are, it does report it. -/
theorem outcome_exact {fuel : Nat} {slot : SlotId} {answer : Option Match} {last : State}
    (h : env.call fuel slot 0 {} = some (answer, last)) (hlive : last.abort = none) :
    env.ExactOutcome answer last (env.outcome answer last) ∧
      (∀ report, env.parseAll slot = some report →
        report.outcome = env.outcome answer last ∧ report.final = last) ∧
      (env.grammar.Closed → slot < env.grammar.size →
        (env.options.memoize = true ∨ env.options.maxDepth.isSome = true ∨
          env.grammar.StateFree) →
        env.parseAll slot = some ⟨env.outcome answer last, answer.isSome, last⟩) := by
  refine ⟨?_, fun report hreport => ?_,
    fun hclosed hslot hmode => parseAll_of_call hclosed hslot hmode h⟩
  · obtain ⟨hdeepest, hmatch⟩ := call_boundaries h
    cases answer with
    | none => exact exactOutcome_none hlive hdeepest
    | some m =>
        have hle : m.stop ≤ env.source.size := Source.le_size_of_isBoundary (hmatch m rfl)
        rcases Nat.lt_or_eq_of_le hle with hlt | hstop
        · exact exactOutcome_of_lt hlive hdeepest (hmatch m rfl) hlt
        · exact exactOutcome_of_eq hlive hstop
  · obtain ⟨answer', last', hparse, rfl⟩ := parseAll_eq_some_iff.1 hreport
    obtain ⟨rfl, rfl⟩ := Prod.mk.inj (call_unique h hparse)
    exact ⟨rfl, rfl⟩

/-- An `x`, and a `y` with a named `z` behind it where there is one. -/
def trailing : Env where
  grammar := ⟨#[.sequence 1 2, .primitive (.char 'x'), .optional 3, .sequence 4 5,
    .primitive (.char 'y'), .named "z" 6, .primitive (.char 'z')], [("trailing", 0)]⟩
  source := .ofString "xyé"
  options := {}

/-- The match ends behind the `x`, and the diagnostics point at the missing `z`. -/
theorem outcome_exact_trailing :
    ∃ answer last, trailing.call 5 0 0 {} = some (answer, last) ∧ last.abort = none ∧
      ∃ remainder d, trailing.outcome answer last = .error (.extraCharacters 1 remainder d) ∧
        d.position = 2 ∧ d.expected = ["z"] ∧ d.location.Marks trailing.source d.context ∧
        trailing.parseAll 0 = some ⟨.error (.extraCharacters 1 remainder d), true, last⟩ := by
  obtain ⟨m, last, hcall, hlive, hstop, hdeepest, hexpected⟩ :
      ∃ m last, trailing.call 5 0 0 {} = some (some m, last) ∧ last.abort = none ∧
        m.stop = 1 ∧ last.deepest = 2 ∧ last.expected = ["z"] := ⟨_, _, rfl, rfl, rfl, rfl, rfl⟩
  obtain ⟨hexact, -, hreports⟩ := outcome_exact hcall hlive
  have hreport := hreports (by decide) (by decide) (.inl rfl)
  obtain ⟨position, remainder, d, houtcome⟩ :=
    hexact.extra.2 ⟨m, rfl, by rw [hstop]; decide⟩
  obtain ⟨⟨m', hm, rfl⟩, -, -, hpoints, -⟩ := hexact.extraAt _ _ _ houtcome
  obtain rfl := Option.some.inj hm
  rw [hstop] at houtcome hpoints
  rw [hdeepest, hexpected] at hpoints
  rw [houtcome] at hreport
  exact ⟨some m, last, hcall, hlive, remainder, d, houtcome, hpoints.position, hpoints.expected,
    hpoints.marks, hreport⟩

end Env

end Packrat
