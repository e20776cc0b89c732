import Packrat.Engine.Memo
/-!
# The state of a run

What a run knows between two parser calls: the memo table, the deepest failure
with the names expected there, how many parsers are running, the error that
ended the run, and a trace of what happened.

The trace holds the events of the run, the latest first. The log of a run and
the question whether a reference has been resolved are read off it.
-/

namespace Packrat

/-- Why a run ended early. -/
inductive Abort where
  /-- A parser refused what it was given. -/
  | transform (position : Nat) (error : TransformError)
  /-- A parser would have run deeper than the limit. -/
  | recursionLimit (limit position : Nat)
deriving Repr, DecidableEq

/-- Something that happened in a run. -/
inductive Event where
  /-- A parser was asked for while `depth` parsers were running. -/
  | entered (slot : SlotId) (offset depth : Nat)
  /-- The body of a parser began to run. -/
  | started (slot : SlotId) (offset : Nat)
  /-- The body of a parser ended without a match. -/
  | failed (slot : SlotId) (offset : Nat)
  /-- The deepest failure moved. -/
  | moved (earlier later : Nat)
  /-- A parser was asked for by itself at the same offset. -/
  | leftRecursion (slot : SlotId) (offset : Nat)
  /-- The run ended early. -/
  | aborted (abort : Abort)
deriving Repr, DecidableEq

/-- The state of a run between two parser calls. -/
structure State where
  memo : MemoTable := .empty
  /-- The deepest offset at which a parser has failed. -/
  deepest : Nat := 0
  /-- The names of the parsers that failed there, in the order of their first
  failure, each once. -/
  expected : List String := []
  /-- How many parsers are running. -/
  depth : Nat := 0
  /-- The error that ended the run. -/
  abort : Option Abort := none
  /-- How many questions the memo table has answered. -/
  hits : Nat := 0
  /-- How many it has not. -/
  misses : Nat := 0
  /-- What has happened, the latest first. -/
  trace : List Event := []

namespace State

/-- A fresh state remembers nothing. -/
theorem find?_fresh (slot : SlotId) (offset : Nat) :
    ({} : State).memo.find? slot offset = none :=
  MemoTable.find?_empty slot offset

/-- Whether the run has ended early. -/
def isAborted (st : State) : Bool := st.abort.isSome

/-- The number of entries in the memo table. -/
def entries (st : State) : Nat := st.memo.size

/-- Adds an event to the trace. -/
def note (st : State) (event : Event) : State := { st with trace := event :: st.trace }

/-- Ends the run early; the first error is kept. -/
def raise (st : State) (abort : Abort) : State :=
  if st.isAborted then st else { st with abort := some abort }.note (.aborted abort)

/-- Goes to a deeper failure, where nothing is expected yet. -/
def moveTo (st : State) (offset : Nat) : State :=
  if st.deepest < offset then
    { st with deepest := offset, expected := [] }.note (.moved st.deepest offset)
  else st

/-- Expects a parser at an offset, if that is the deepest failure. -/
def expect (st : State) (offset : Nat) (name : Option String) : State :=
  match name with
  | none => st
  | some name =>
    if offset = st.deepest ∧ name ∉ st.expected then
      { st with expected := st.expected ++ [name] }
    else st

/-- Records that a parser did not match at an offset. -/
def recordFailure (st : State) (slot : SlotId) (offset : Nat) (name : Option String) : State :=
  ((st.note (.failed slot offset)).moveTo offset).expect offset name

/-! ## What changes and what stays -/

@[simp] theorem note_memo (st : State) (event : Event) : (st.note event).memo = st.memo := rfl

@[simp] theorem note_deepest (st : State) (event : Event) :
    (st.note event).deepest = st.deepest := rfl

@[simp] theorem note_expected (st : State) (event : Event) :
    (st.note event).expected = st.expected := rfl

@[simp] theorem note_depth (st : State) (event : Event) : (st.note event).depth = st.depth := rfl

@[simp] theorem note_abort (st : State) (event : Event) : (st.note event).abort = st.abort := rfl

@[simp] theorem note_isAborted (st : State) (event : Event) :
    (st.note event).isAborted = st.isAborted := rfl

@[simp] theorem note_misses (st : State) (event : Event) :
    (st.note event).misses = st.misses := rfl

@[simp] theorem note_trace (st : State) (event : Event) :
    (st.note event).trace = event :: st.trace := rfl

/-- A run that has ended early has ended for good. -/
theorem raise_of_isAborted {st : State} (h : st.isAborted = true) (abort : Abort) :
    st.raise abort = st := by
  rw [raise, if_pos h]

/-- A run that goes on is ended by the first error. -/
theorem raise_of_not_isAborted {st : State} (h : st.isAborted = false) (abort : Abort) :
    st.raise abort = { st with abort := some abort, trace := .aborted abort :: st.trace } := by
  rw [raise, if_neg (by simp [h])]
  rfl

@[simp] theorem raise_isAborted (st : State) (abort : Abort) :
    (st.raise abort).isAborted = true := by
  unfold raise
  split
  · assumption
  · rfl

@[simp] theorem raise_memo (st : State) (abort : Abort) : (st.raise abort).memo = st.memo := by
  unfold raise
  split <;> rfl

@[simp] theorem raise_deepest (st : State) (abort : Abort) :
    (st.raise abort).deepest = st.deepest := by
  unfold raise
  split <;> rfl

@[simp] theorem raise_expected (st : State) (abort : Abort) :
    (st.raise abort).expected = st.expected := by
  unfold raise
  split <;> rfl

@[simp] theorem raise_depth (st : State) (abort : Abort) :
    (st.raise abort).depth = st.depth := by
  unfold raise
  split <;> rfl

@[simp] theorem raise_misses (st : State) (abort : Abort) :
    (st.raise abort).misses = st.misses := by
  unfold raise
  split <;> rfl

/-! ## Steps of a call

What a call does to the state before and after the body of its parser runs.
-/

/-- Notes that a parser is asked for. -/
def enter (st : State) (slot : SlotId) (offset : Nat) : State :=
  st.note (.entered slot offset st.depth)

/-- Takes an answer from the memo table. -/
def hit (st : State) : State := { st with hits := st.hits + 1 }

/-- Makes the entry of a parser that is about to run. -/
def reserve (st : State) (slot : SlotId) (offset : Nat) : State :=
  { st with misses := st.misses + 1, memo := st.memo.insert slot offset .inProgress }

/-- Goes one level deeper, where the body of a parser begins to run. -/
def begin (st : State) (slot : SlotId) (offset : Nat) : State :=
  { st with depth := st.depth + 1 }.note (.started slot offset)

/-- Comes back from the body of a parser, and records its failure if it did
not match in a run that goes on. -/
def finish (st : State) (slot : SlotId) (offset : Nat) (name : Option String)
    (result : Option Match) : State :=
  let st := { st with depth := st.depth - 1 }
  if result.isNone && !st.isAborted then st.recordFailure slot offset name else st

/-- Fills in the entry of a parser that has run. An answer that the end of the
run cut short is forgotten. -/
def settle (st : State) (slot : SlotId) (offset : Nat) (result : Option Match) : State :=
  if st.isAborted then { st with memo := st.memo.erase slot offset }
  else { st with memo := st.memo.insert slot offset (.ofResult result) }

/-- What a parser body may see of the state. -/
def snapshot (st : State) (options : Options) : Snapshot where
  options
  deepest := st.deepest
  expected := st.expected
  hits := st.hits
  misses := st.misses
  entries := st.entries

/-- Whether a parser has been asked for. -/
def wasEntered (st : State) (slot : SlotId) : Bool :=
  st.trace.any fun
    | .entered other _ _ => other == slot
    | _ => false

end State

end Packrat
