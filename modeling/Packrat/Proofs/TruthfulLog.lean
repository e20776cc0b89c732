import Packrat.ParseAll
import Packrat.Proofs.FinalEnd
/-!
# The log tells the truth

A log is read off the trace of a run when the run is over, and its records are texts. Here
the texts of a log are tied to what the run came to: the moves that are logged make up the
way of the deepest failure from the start of the source to where it is in the end, and a
warning that the run has ended stands in the log just when an error is reported, right
before the closing record.

Two things make this so. A failure is recorded as a move only from where the deepest failure
is, to somewhere deeper, so the moves chain up however far apart in a run they happen. And
after the end of a run nothing is added to its trace: bodies come back without a word.

## Main definitions

* `Climbs` — moves that chain up, each to somewhere deeper.
* `State.Chronicled` — what the trace of a state tells.
* `Report.TruthfulLog` — what the log of a run tells.

## Main results

* `Env.Next.chronicled` — a step keeps that the trace tells the truth.
* `Env.log_truthful` — the log of every run that ends tells the truth.
-/

namespace Packrat

/-! ## Moves -/

/-- Moves that begin at an offset, each where the one before it has ended, go deeper with
every one and end at an offset. -/
inductive Climbs : Nat → List (Nat × Nat) → Nat → Prop
  | rest (offset : Nat) : Climbs offset [] offset
  | move {first next last : Nat} {moves : List (Nat × Nat)} (hdeeper : first < next)
      (hmoves : Climbs next moves last) : Climbs first ((first, next) :: moves) last

/-- One more move from where the moves have ended. -/
theorem Climbs.snoc {first last next : Nat} {moves : List (Nat × Nat)}
    (h : Climbs first moves last) (hdeeper : last < next) :
    Climbs first (moves ++ [(last, next)]) next := by
  induction h with
  | rest offset => exact .move hdeeper (.rest next)
  | move hfirst _ ih => exact .move hfirst (ih hdeeper)

/-- The move that an event is, if it is one. -/
def Event.move? : Event → Option (Nat × Nat)
  | .moved earlier later => some (earlier, later)
  | _ => none

/-- An event that the trace of a run may hold anywhere: it is no move, it ends no run, and it
is no left recursion unless the run remembers. -/
structure Event.Plain (env : Env) (event : Event) : Prop where
  move : event.move? = none
  abort : ∀ abort, event ≠ .aborted abort
  recursion : ∀ slot offset, event = .leftRecursion slot offset → env.options.memoize = true

/-! ## What traces tell -/

namespace State

/-- The moves of the deepest failure in the trace of a state, in order. -/
def moves (st : State) : List (Nat × Nat) := st.trace.reverse.filterMap Event.move?

/-- The trace of a state tells where the deepest failure is and how it came there, and what
ended the run, which is the last thing that it tells. -/
structure Chronicled (env : Env) (st : State) : Prop where
  moves : Climbs 0 st.moves st.deepest
  /-- Nothing has ended a run that goes on. -/
  live : st.abort = none → ∀ abort, Event.aborted abort ∉ st.trace
  /-- What has ended a run has happened once, and nothing has happened since. -/
  ended : ∀ abort, st.abort = some abort → ∃ earlier, st.trace = .aborted abort :: earlier ∧
    ∀ other, Event.aborted other ∉ earlier
  recursion : ∀ slot offset, Event.leftRecursion slot offset ∈ st.trace →
    env.options.memoize = true

namespace Chronicled

variable {env : Env} {st st' : State}

theorem fresh (env : Env) : Chronicled env {} :=
  ⟨.rest 0, fun _ _ => List.not_mem_nil, nofun, nofun⟩

/-- Nothing is told but what is in the trace. -/
theorem of_eq (h : st.Chronicled env) (htrace : st'.trace = st.trace)
    (hdeepest : st'.deepest = st.deepest) (habort : st'.abort = st.abort) :
    st'.Chronicled env := by
  have hmoves : st'.moves = st.moves := by rw [State.moves, State.moves, htrace]
  refine ⟨?_, ?_, ?_, ?_⟩
  · rw [hmoves, hdeepest]
    exact h.moves
  · rw [habort, htrace]
    exact h.live
  · rw [habort, htrace]
    exact h.ended
  · rw [htrace]
    exact h.recursion

/-- A plain event may be added to a run that goes on. -/
theorem note (h : st.Chronicled env) (hlive : st.abort = none) {event : Event}
    (hplain : event.Plain env) : (st.note event).Chronicled env := by
  have hmoves : (st.note event).moves = st.moves := by
    rw [State.moves, note_trace, List.reverse_cons, List.filterMap_append,
      List.filterMap_cons_none hplain.move, List.filterMap_nil, List.append_nil, State.moves]
  refine ⟨?_, fun _ abort hmem => ?_, fun abort hended => ?_, fun slot offset hmem => ?_⟩
  · rw [hmoves, note_deepest]
    exact h.moves
  · rcases List.mem_cons.1 hmem with heq | hmem
    · exact hplain.abort abort heq.symm
    · exact h.live hlive abort hmem
  · rw [note_abort, hlive] at hended
    contradiction
  · rcases List.mem_cons.1 hmem with heq | hmem
    · exact hplain.recursion slot offset heq.symm
    · exact h.recursion slot offset hmem

/-- The error that ends a run is the last thing that is told of it. -/
theorem raise (h : st.Chronicled env) (abort : Abort) : (st.raise abort).Chronicled env := by
  cases hended : st.isAborted with
  | true =>
      rw [raise_of_isAborted hended]
      exact h
  | false =>
      have hlive : st.abort = none := abort_eq_none hended
      rw [raise_of_not_isAborted hended]
      refine ⟨?_, nofun, fun other hother => ?_, fun slot offset hmem => ?_⟩
      · have hmoves : State.moves { st with abort := some abort, trace := .aborted abort :: st.trace } =
            st.moves := by
          simp [State.moves, Event.move?]
        rw [hmoves]
        exact h.moves
      · obtain rfl := Option.some.inj hother
        exact ⟨st.trace, rfl, h.live hlive⟩
      · rcases List.mem_cons.1 hmem with heq | hmem
        · contradiction
        · exact h.recursion slot offset hmem

/-- The deepest failure moves from where it is to somewhere deeper, or stays. -/
theorem moveTo (h : st.Chronicled env) (hlive : st.abort = none) (offset : Nat) :
    (st.moveTo offset).Chronicled env := by
  by_cases hdeeper : st.deepest < offset
  · rw [State.moveTo, if_pos hdeeper]
    refine ⟨?_, fun _ abort hmem => ?_, fun abort hended => ?_, fun slot offset' hmem => ?_⟩
    · have hmoves : State.moves ({ st with deepest := offset, expected := [] }.note
          (.moved st.deepest offset)) = st.moves ++ [(st.deepest, offset)] := by
        simp [State.moves, Event.move?]
      rw [hmoves]
      exact h.moves.snoc hdeeper
    · rcases List.mem_cons.1 hmem with heq | hmem
      · contradiction
      · exact h.live hlive abort hmem
    · have hnone : some abort = st.abort := hended.symm
      rw [hlive] at hnone
      contradiction
    · rcases List.mem_cons.1 hmem with heq | hmem
      · contradiction
      · exact h.recursion slot offset' hmem
  · rw [State.moveTo, if_neg hdeeper]
    exact h

theorem expect (h : st.Chronicled env) (offset : Nat) (name : Option String) :
    (st.expect offset name).Chronicled env := by
  unfold State.expect
  split
  · exact h
  · split
    · exact h.of_eq rfl rfl rfl
    · exact h

/-- A failure is told of in a run that goes on. -/
theorem recordFailure (h : st.Chronicled env) (hlive : st.abort = none) (slot : SlotId)
    (offset : Nat) (name : Option String) :
    (st.recordFailure slot offset name).Chronicled env := by
  have hfailed : (st.note (.failed slot offset)).Chronicled env :=
    h.note hlive ⟨rfl, nofun, nofun⟩
  exact (hfailed.moveTo hlive offset).expect offset name

theorem enter (h : st.Chronicled env) (hlive : st.abort = none) (slot : SlotId) (offset : Nat) :
    (st.enter slot offset).Chronicled env :=
  h.note hlive ⟨rfl, nofun, nofun⟩

theorem begin (h : st.Chronicled env) (hlive : st.abort = none) (slot : SlotId) (offset : Nat) :
    (st.begin slot offset).Chronicled env := by
  have hdeeper : State.Chronicled env { st with depth := st.depth + 1 } := h.of_eq rfl rfl rfl
  exact hdeeper.note hlive ⟨rfl, nofun, nofun⟩

/-- A body comes back with its failure, or without a word. -/
theorem finish (h : st.Chronicled env) (slot : SlotId) (offset : Nat) (name : Option String)
    (result : Option Match) : (st.finish slot offset name result).Chronicled env := by
  have hback : State.Chronicled env { st with depth := st.depth - 1 } := h.of_eq rfl rfl rfl
  by_cases hquiet : result.isSome = true ∨ st.isAborted = true
  · rw [finish_of_not_failed hquiet]
    exact hback
  · obtain ⟨hnone, hlive⟩ := not_or.1 hquiet
    obtain rfl : result = none := by simpa using hnone
    have hgoes : st.isAborted = false := by simpa using hlive
    rw [finish_none hgoes]
    exact hback.recordFailure (abort_eq_none hgoes) slot offset name

theorem settle (h : st.Chronicled env) (slot : SlotId) (offset : Nat) (result : Option Match) :
    (st.settle slot offset result).Chronicled env := by
  refine h.of_eq (settle_trace ..) ?_ (settle_abort ..)
  exact (Stands.settle st slot offset result).deepest

end Chronicled

end State

namespace Env

variable {env : Env}

theorem AtOnce.chronicled {slot : SlotId} {offset : Nat} {st st' : State}
    {answer : Option Match} (h : env.AtOnce slot offset st answer st')
    (hst : st.Chronicled env) : st'.Chronicled env := by
  cases h with
  | stopped => exact hst
  | refused hlive => exact (hst.enter (State.abort_eq_none hlive) slot offset).raise _
  | recursive hlive _ hmode =>
      have hgoes := State.abort_eq_none hlive
      exact (hst.enter hgoes slot offset).note hgoes ⟨rfl, nofun, fun _ _ _ => hmode⟩
  | knownFailure hlive | knownMatch hlive =>
      exact (hst.enter (State.abort_eq_none hlive) slot offset).of_eq rfl rfl rfl

theorem Begins.chronicled {slot : SlotId} {offset : Nat} {st first : State}
    (h : env.Begins slot offset st first) (hlive : st.isAborted = false)
    (hst : st.Chronicled env) : first.Chronicled env := by
  have hgoes := State.abort_eq_none hlive
  have hentered : (st.enter slot offset).Chronicled env := hst.enter hgoes slot offset
  cases h with
  | ran => exact hentered.begin hgoes slot offset
  | missed =>
      have hreserved : ((st.enter slot offset).reserve slot offset).Chronicled env :=
        hentered.of_eq rfl rfl rfl
      exact hreserved.begin hgoes slot offset

theorem Leaves.chronicled {slot : SlotId} {offset : Nat} {result answer : Option Match}
    {st st' : State} (h : env.Leaves slot offset result st answer st')
    (hst : st.Chronicled env) : st'.Chronicled env := by
  cases h with
  | ran => exact hst.finish slot offset _ result
  | missed => exact (hst.finish slot offset _ result).settle slot offset result

/-- A step keeps that the trace tells the truth. -/
theorem Next.chronicled {m m' : Moment} (h : env.Next m m') (hm : m.state.Chronicled env) :
    m'.state.Chronicled env := by
  cases h with
  | atOnce hanswer => exact hanswer.chronicled hm
  | begin hlive _ hbegins => exact hbegins.chronicled hlive hm
  | abort => exact hm.raise _
  | leave hleaves => exact hleaves.chronicled hm
  | start | ask | look | ended | apply | resume | outside => exact hm

/-- At all moments of a run on a fresh state the trace tells the truth. -/
theorem Passes.chronicled {asked : List (SlotId × Nat)} {passed : List Moment} {m : Moment}
    (h : env.Passes (.first asked {}) passed m) : m.state.Chronicled env :=
  (h.keeps (I := fun x => x.state.Chronicled env) (fun hstep => hstep.chronicled)
    (.fresh env)).1

end Env

/-! ## Records by their texts -/

namespace LogRecord

/-- The record that the deepest failure has moved. -/
def ofMove (move : Nat × Nat) : LogRecord :=
  ⟨.trace, "deepest failure moved " ++ toString move.1 ++ " -> " ++ toString move.2⟩

/-- Whether a record is a warning that begins with a text. -/
def warns (start : String) (record : LogRecord) : Bool :=
  record.level == .warn && start.toList.isPrefixOf record.message.toList

/-- Whether a record warns that the run has ended early. -/
def tellsEnd (record : LogRecord) : Bool :=
  record.warns "parse aborted at offset " || record.warns "recursion limit of "

/-- Whether a record warns of a left recursion. -/
def tellsRecursion (record : LogRecord) : Bool := record.warns "left recursion in "

/-- The warning about the error that a run is reported with, if it was ended by it. -/
def ofOutcome? : Except ParseError Value → Option LogRecord
  | .error (.transform position error) =>
    some ⟨.warn, "parse aborted at offset " ++ toString position ++ ": " ++ error.message⟩
  | .error (.recursionLimit limit position) =>
    some ⟨.warn, "recursion limit of " ++ toString limit ++ " reached at offset " ++
      toString position⟩
  | _ => none

/-- Only warnings warn. -/
theorem warns_of_level_ne {record : LogRecord} (h : record.level ≠ .warn) (start : String) :
    record.warns start = false := by
  rw [warns, beq_eq_false_iff_ne.2 h, Bool.false_and]

theorem level_of_warns {record : LogRecord} {start : String} (h : record.warns start = true) :
    record.level = .warn :=
  eq_of_beq (Bool.and_eq_true_iff.1 h).1

theorem tellsEnd_of_level_ne {record : LogRecord} (h : record.level ≠ .warn) :
    record.tellsEnd = false := by
  rw [tellsEnd, warns_of_level_ne h, warns_of_level_ne h, Bool.false_or]

theorem warns_append (start text : String) : warns start ⟨.warn, start ++ text⟩ = true := by
  rw [warns, String.toList_append]
  exact List.isPrefixOf_iff_prefix.2 (List.prefix_append _ _)

/-- Whatever has ended a run is told as that. -/
theorem tellsEnd_abort (abort : Abort) : tellsEnd ⟨.warn, abort.logMessage⟩ = true := by
  unfold tellsEnd Abort.logMessage
  cases abort with
  | transform position error =>
      simp only [String.append_assoc, warns_append, Bool.true_or]
  | recursionLimit limit position =>
      simp only [String.append_assoc, warns_append, Bool.or_true]

/-- A warning of a left recursion does not warn of the end. -/
theorem tellsEnd_recursion (text : String) :
    tellsEnd ⟨.warn, "left recursion in " ++ text⟩ = false := by
  rw [tellsEnd, warns, warns, String.toList_append]
  rfl

/-- A warning of the end does not warn of a left recursion. -/
theorem tellsRecursion_abort (abort : Abort) :
    tellsRecursion ⟨.warn, abort.logMessage⟩ = false := by
  unfold tellsRecursion warns Abort.logMessage
  cases abort <;>
    · simp only [String.append_assoc]
      rw [String.toList_append]
      rfl

/-- The error that has ended a run is the one that is told. -/
theorem ofOutcome?_outcome (env : Env) (answer : Option Match) (st : State) :
    ofOutcome? (env.outcome answer st) = st.abort.map fun abort => ⟨.warn, abort.logMessage⟩ := by
  cases hended : st.abort with
  | some abort =>
      rw [Env.outcome_of_abort hended]
      cases abort <;> rfl
  | none =>
      simp only [Env.outcome, hended]
      cases answer with
      | none => rfl
      | some m =>
          by_cases hstop : m.stop = env.source.size
          · simp only [if_pos hstop]
            rfl
          · simp only [if_neg hstop]
            rfl

end LogRecord

/-! ## From traces to logs -/

/-- The error that an event is, if it is one. -/
def Event.abort? : Event → Option Abort
  | .aborted abort => some abort
  | _ => none

namespace Event

variable {g : Grammar}

theorem level_ne_debug {event : Event} {record : LogRecord}
    (h : event.logRecord? g = some record) : record.level ≠ .debug := by
  cases event with
  | entered | started | failed => contradiction
  | moved | leftRecursion | aborted =>
      rw [← Option.some.inj h]
      exact nofun

/-- The events that are told at level trace are the moves. -/
theorem logRecord?_filter_trace (g : Grammar) (event : Event) :
    (event.logRecord? g).filter (·.level == .trace) = event.move?.map .ofMove := by
  cases event <;> rfl

/-- The events that are told as the end of a run are the errors. -/
theorem logRecord?_filter_tellsEnd (g : Grammar) (event : Event) :
    (event.logRecord? g).filter (·.tellsEnd) =
      event.abort?.map fun abort => ⟨.warn, abort.logMessage⟩ := by
  cases event with
  | entered | started | failed => rfl
  | moved earlier later => exact Option.filter_some_neg (LogRecord.tellsEnd_of_level_ne nofun)
  | leftRecursion slot offset =>
      refine Option.filter_some_neg ?_
      simp only [String.append_assoc, LogRecord.tellsEnd_recursion]
  | aborted abort => exact Option.filter_some_pos (LogRecord.tellsEnd_abort abort)

/-- An event that is told as a left recursion is one. -/
theorem eq_leftRecursion {event : Event} {record : LogRecord}
    (h : event.logRecord? g = some record) (hrecursion : record.tellsRecursion = true) :
    ∃ slot offset, event = .leftRecursion slot offset := by
  cases event with
  | entered | started | failed => contradiction
  | moved earlier later =>
      obtain rfl := Option.some.inj h
      have htrace : LogLevel.trace ≠ .warn := nofun
      exact absurd hrecursion (Bool.eq_false_iff.1 (LogRecord.warns_of_level_ne htrace _))
  | leftRecursion slot offset => exact ⟨slot, offset, rfl⟩
  | aborted abort =>
      obtain rfl := Option.some.inj h
      exact absurd hrecursion (Bool.eq_false_iff.1 (LogRecord.tellsRecursion_abort abort))

end Event

/-- What a report's log holds besides the first record and the last is in its trace. -/
theorem Report.filter_log {env : Env} {wanted : LogRecord → Bool}
    (hdebug : ∀ record, record.level = .debug → wanted record = false) (report : Report) :
    (report.log env).filter wanted = (report.final.log env.grammar).filter wanted := by
  rw [Report.log, List.filter_append, List.filter_cons_of_neg, List.filter_cons_of_neg,
    List.filter_nil, List.append_nil]
  · rw [hdebug report.closingRecord rfl]
    exact Bool.false_ne_true
  · rw [hdebug env.openingRecord rfl]
    exact Bool.false_ne_true

namespace State

variable {env : Env} {st : State}

theorem filter_trace_log (g : Grammar) (st : State) :
    (st.log g).filter (·.level == .trace) = st.moves.map .ofMove := by
  simp only [log, moves, List.filter_filterMap, List.map_filterMap,
    Event.logRecord?_filter_trace]

/-- In a trace that tells the truth the only error is the one that has ended the run. -/
theorem Chronicled.abort_eq (h : st.Chronicled env) :
    st.trace.reverse.filterMap Event.abort? = st.abort.toList := by
  have hquiet {events : List Event} (hevents : ∀ abort, Event.aborted abort ∉ events) :
      events.reverse.filterMap Event.abort? = [] := by
    refine List.filterMap_eq_nil_iff.2 fun event hmem => ?_
    cases event with
    | entered | started | failed | moved | leftRecursion => rfl
    | aborted abort => exact absurd (List.mem_reverse.1 hmem) (hevents abort)
  cases hended : st.abort with
  | none => exact hquiet (h.live hended)
  | some abort =>
      obtain ⟨earlier, htrace, hearlier⟩ := h.ended abort hended
      rw [htrace, List.reverse_cons, List.filterMap_append, hquiet hearlier]
      rfl

theorem Chronicled.filter_tellsEnd_log (h : st.Chronicled env) (g : Grammar) :
    (st.log g).filter (·.tellsEnd) =
      (st.abort.map fun abort => (⟨.warn, abort.logMessage⟩ : LogRecord)).toList := by
  have hfilter : (st.log g).filter (·.tellsEnd) =
      (st.trace.reverse.filterMap Event.abort?).map fun abort => ⟨.warn, abort.logMessage⟩ := by
    simp only [log, List.filter_filterMap, List.map_filterMap, Event.logRecord?_filter_tellsEnd]
  rw [hfilter, h.abort_eq]
  cases st.abort <;> rfl

/-- The log up to the end of a run ends with the warning about it. -/
theorem Chronicled.log_of_abort (h : st.Chronicled env) (g : Grammar) {abort : Abort}
    (hended : st.abort = some abort) :
    ∃ before, st.log g = before ++ [⟨.warn, abort.logMessage⟩] := by
  obtain ⟨earlier, htrace, -⟩ := h.ended abort hended
  refine ⟨earlier.reverse.filterMap (·.logRecord? g), ?_⟩
  rw [log, htrace, List.reverse_cons, List.filterMap_append]
  rfl

end State

/-! ## Logs of whole runs -/

/-- What the log of a run tells. -/
structure Report.TruthfulLog (env : Env) (report : Report) : Prop where
  /-- It opens and closes with a record at level debug, and there are no others. -/
  framed : ∃ opening closing records, report.log env = opening :: records ++ [closing] ∧
    opening.level = .debug ∧ (∃ text, opening.message = "parsing " ++ text) ∧
    closing.level = .debug ∧ (∃ text, closing.message = "parse finished: " ++ text) ∧
    ∀ record ∈ records, record.level ≠ .debug
  /-- The records at level trace are the moves of the deepest failure, which chain up from
  the start of the source to the offset that the closing record tells. -/
  moves : ∃ moves last before after, Climbs 0 moves last ∧
    (report.log env).filter (·.level == .trace) = moves.map .ofMove ∧
    (report.log env).getLast? = some ⟨.debug, "parse finished: matched=" ++ before ++
      ", deepest failure at " ++ toString last ++ ", " ++ after⟩
  /-- It is told that the run has ended early just when its outcome says so: once, and of
  the error that is reported. -/
  ended : (report.log env).filter (·.tellsEnd) = (LogRecord.ofOutcome? report.outcome).toList
  /-- Nothing is told after that but that the run is finished. -/
  endedLast : ∀ record, LogRecord.ofOutcome? report.outcome = some record →
    ∃ before closing, report.log env = before ++ [record, closing] ∧ closing.level = .debug
  /-- It tells of left recursions only if the run remembers. -/
  recursion : ∀ record ∈ report.log env, record.tellsRecursion = true →
    env.options.memoize = true

/-- The log of a report whose trace tells the truth tells it too. -/
theorem State.Chronicled.truthfulLog {env : Env} {st : State} (h : st.Chronicled env)
    (answer : Option Match) :
    Report.TruthfulLog env ⟨env.outcome answer st, answer.isSome, st⟩ := by
  refine
    { framed := ?_
      moves := ?_
      ended := ?_
      endedLast := ?_
      recursion := ?_ }
  · refine ⟨env.openingRecord, _, st.log env.grammar, rfl, rfl,
      ⟨toString env.source.size ++ (" bytes (memoization: " ++ (toString env.options.memoize ++
        ")")), ?_⟩, rfl,
      ⟨"matched=" ++ (toString answer.isSome ++ (", deepest failure at " ++
        (toString st.deepest ++ (", cache hits=" ++ (toString st.hits ++ (" misses=" ++
          (toString st.misses ++ (" entries=" ++ toString st.entries)))))))), ?_⟩,
      fun record hmem => ?_⟩
    · simp only [Env.openingRecord, String.append_assoc]
    · simp only [Report.closingRecord, String.append_assoc]
      rfl
    · obtain ⟨event, -, hevent⟩ := List.mem_filterMap.1 hmem
      exact Event.level_ne_debug hevent
  · refine ⟨st.moves, st.deepest, toString answer.isSome, "cache hits=" ++ (toString st.hits ++
      (" misses=" ++ (toString st.misses ++ (" entries=" ++ toString st.entries)))), h.moves, ?_,
      ?_⟩
    · refine (Report.filter_log (fun record hdebug => ?_) _).trans (st.filter_trace_log _)
      rw [hdebug]
      rfl
    · rw [Report.log, List.getLast?_concat, Report.closingRecord]
      simp only [String.append_assoc]
      rfl
  · rw [LogRecord.ofOutcome?_outcome]
    refine (Report.filter_log (fun record hdebug => ?_) _).trans (h.filter_tellsEnd_log _)
    refine LogRecord.tellsEnd_of_level_ne ?_
    rw [hdebug]
    exact nofun
  · intro record hrecord
    rw [LogRecord.ofOutcome?_outcome, Option.map_eq_some_iff] at hrecord
    obtain ⟨abort, hended, rfl⟩ := hrecord
    obtain ⟨before, hlog⟩ := h.log_of_abort env.grammar hended
    refine ⟨env.openingRecord :: before,
      Report.closingRecord ⟨env.outcome answer st, answer.isSome, st⟩, ?_, rfl⟩
    rw [Report.log, hlog]
    simp only [List.cons_append, List.append_assoc, List.nil_append]
  · intro record hmem hrecursion
    have hwarn : record.level = .warn := LogRecord.level_of_warns hrecursion
    rcases List.mem_append.1 hmem with hmem | hmem
    · rcases List.mem_cons.1 hmem with rfl | hmem
      · contradiction
      · obtain ⟨event, hmem, hevent⟩ := List.mem_filterMap.1 hmem
        obtain ⟨slot, offset, rfl⟩ := Event.eq_leftRecursion hevent hrecursion
        exact h.recursion slot offset (List.mem_reverse.1 hmem)
    · obtain rfl := List.mem_singleton.1 hmem
      contradiction

namespace Env

/-- The log of a run tells the truth, for every grammar, source and options for which the
call of a parser is answered. Whatever `Env.parseAll` reports is this run, and in a closed
grammar, as all that are laid out from rules are, it does report it. -/
theorem log_truthful {env : Env} {fuel : Nat} {slot : SlotId} {answer : Option Match}
    {last : State} (h : env.call fuel slot 0 {} = some (answer, last)) :
    Report.TruthfulLog env ⟨env.outcome answer last, answer.isSome, last⟩ ∧
      (∀ report, env.parseAll slot = some report →
        report = ⟨env.outcome answer last, answer.isSome, last⟩) ∧
      (env.grammar.Closed → slot < env.grammar.size →
        (env.options.memoize = true ∨ env.options.maxDepth.isSome = true ∨
          env.grammar.StateFree) →
        env.parseAll slot = some ⟨env.outcome answer last, answer.isSome, last⟩) := by
  obtain ⟨passed, hpassed⟩ := call_passes env fuel h [] []
  have hrun : env.Passes (.first [(slot, 0)] {})
      (.first [(slot, 0)] {} :: passed ++ [⟨.answer slot 0 answer, [], [], last⟩]) (.last last) :=
    .cons .start (hpassed.append (.single .outside))
  refine ⟨hrun.chronicled.truthfulLog answer, fun report hreport => ?_,
    fun hclosed hslot hmode => parseAll_of_call hclosed hslot hmode h⟩
  obtain ⟨answer', last', h', rfl⟩ := parseAll_eq_some_iff.1 hreport
  obtain ⟨rfl, rfl⟩ := Prod.mk.inj (call_unique h h')
  rfl

/-- An `a` and a `b` behind a parser that begins with itself, or any character, which is
refused. -/
def telling : Env where
  grammar := ⟨#[.choice 1 2, .sequence 0 3, .sequence 3 4, .primitive (.char 'a'), .choice 5 6,
    .primitive (.char 'b'), .tryMap (fun _ => .error (.refusal "no")) 7, .primitive .any],
    [("telling", 0)]⟩
  source := .ofString "ac"
  options := {}

theorem log_truthful_refusing :
    ∃ answer last, telling.call 6 0 0 {} = some (answer, last) ∧
      Report.TruthfulLog telling ⟨telling.outcome answer last, answer.isSome, last⟩ ∧
      telling.parseAll 0 = some ⟨telling.outcome answer last, answer.isSome, last⟩ ∧
      (Report.log telling ⟨telling.outcome answer last, answer.isSome, last⟩).map (·.level) =
        [.debug, .warn, .trace, .warn, .debug] := by
  have hcall : ∃ last, telling.call 6 0 0 {} = some (none, last) ∧
      (last.log telling.grammar).map (·.level) = [.warn, .trace, .warn] := ⟨_, rfl, rfl⟩
  obtain ⟨last, hcall, hlevels⟩ := hcall
  obtain ⟨hlog, -, hreports⟩ := log_truthful hcall
  refine ⟨none, last, hcall, hlog, hreports (by decide) (by decide) (.inl rfl), ?_⟩
  rw [Report.log, List.map_append, List.map_cons, hlevels]
  rfl

end Env

end Packrat
