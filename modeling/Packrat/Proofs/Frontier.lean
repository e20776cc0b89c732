import Packrat.Engine.State
/-!
# The deepest failure

Of all failures of a run only the deepest ones are kept: their offset and the
names that were expected there. `Frontier` is that part of a state, and
`Frontier.record` is what one more failure does to it.

A failure that has been recorded is *absorbed*: recording it again changes
nothing, now and after any further failures. This is why a parser whose
failures are all known need not run again to keep the diagnostics right.

## Main results

* `recordFailure_eq` — recording a failure changes the frontier and the trace
  and nothing else.
* `Frontier.Absorbs.recordAll` — an absorbed failure stays absorbed.
* `Frontier.recordAll_of_absorbs` — absorbed failures change nothing.
-/

namespace Packrat

/-- The failure of a parser at an offset. -/
structure Failure where
  /-- The name of the parser, if it has one. -/
  name : Option String
  offset : Nat
deriving Repr, DecidableEq

/-- The deepest offset of a failure and the names that were expected there. -/
structure Frontier where
  deepest : Nat
  expected : List String
deriving Repr, DecidableEq

namespace Frontier

/-- Adds a name unless it is there. -/
def addName (names : List String) : Option String → List String
  | none => names
  | some name => if name ∈ names then names else names ++ [name]

/-- Takes note of a failure: a deeper one replaces what was known, a shallower
one is dropped. -/
def record (fr : Frontier) (failure : Failure) : Frontier :=
  if fr.deepest < failure.offset then ⟨failure.offset, addName [] failure.name⟩
  else if failure.offset = fr.deepest then ⟨fr.deepest, addName fr.expected failure.name⟩
  else fr

theorem record_of_lt {fr : Frontier} {failure : Failure} (h : fr.deepest < failure.offset) :
    fr.record failure = ⟨failure.offset, addName [] failure.name⟩ := if_pos h

theorem record_of_eq {fr : Frontier} {failure : Failure} (h : failure.offset = fr.deepest) :
    fr.record failure = ⟨fr.deepest, addName fr.expected failure.name⟩ := by
  rw [record, if_neg (by omega), if_pos h]

theorem record_of_gt {fr : Frontier} {failure : Failure} (h : failure.offset < fr.deepest) :
    fr.record failure = fr := by
  rw [record, if_neg (by omega), if_neg (by omega)]

/-- A failure leaves the deepest offset alone or becomes the deepest one. -/
theorem record_deepest (fr : Frontier) (failure : Failure) :
    (fr.record failure).deepest = fr.deepest ∨ (fr.record failure).deepest = failure.offset := by
  rcases Nat.lt_trichotomy fr.deepest failure.offset with hlt | heq | hgt
  · rw [record_of_lt hlt]
    exact .inr rfl
  · rw [record_of_eq heq.symm]
    exact .inl rfl
  · rw [record_of_gt hgt]
    exact .inl rfl

/-- Takes note of failures in order. -/
def recordAll (fr : Frontier) (failures : List Failure) : Frontier := failures.foldl record fr

@[simp] theorem recordAll_nil (fr : Frontier) : fr.recordAll [] = fr := rfl

@[simp] theorem recordAll_cons (fr : Frontier) (failure : Failure) (rest : List Failure) :
    fr.recordAll (failure :: rest) = (fr.record failure).recordAll rest := rfl

theorem recordAll_append (fr : Frontier) (left right : List Failure) :
    fr.recordAll (left ++ right) = (fr.recordAll left).recordAll right :=
  List.foldl_append

/-! ## Absorption -/

/-- The frontier already knows a failure. -/
def Absorbs (fr : Frontier) (failure : Failure) : Prop :=
  failure.offset < fr.deepest ∨
    (failure.offset = fr.deepest ∧ ∀ name, failure.name = some name → name ∈ fr.expected)

/-- A failure that is known changes nothing. -/
theorem Absorbs.record_eq {fr : Frontier} {failure : Failure} (h : fr.Absorbs failure) :
    fr.record failure = fr := by
  rcases h with hlt | ⟨heq, hname⟩
  · exact record_of_gt hlt
  · rw [record_of_eq heq]
    cases hcase : failure.name with
    | none => rfl
    | some name => rw [addName, if_pos (hname name hcase)]

private theorem mem_addName_of_mem {names : List String} {name : String} (h : name ∈ names)
    (added : Option String) : name ∈ addName names added := by
  cases added with
  | none => exact h
  | some other =>
      simp only [addName]
      split
      · exact h
      · exact List.mem_append_left _ h

private theorem mem_addName_self (names : List String) (name : String) :
    name ∈ addName names (some name) := by
  simp only [addName]
  split
  · assumption
  · exact List.mem_append_right _ (List.mem_singleton.2 rfl)

/-- A failure is known once it has been recorded. -/
theorem absorbs_record (fr : Frontier) (failure : Failure) :
    (fr.record failure).Absorbs failure := by
  rw [record]
  split
  case isTrue hlt =>
    refine .inr ⟨rfl, fun name hname => ?_⟩
    rw [hname]
    exact mem_addName_self [] name
  case isFalse hle =>
    split
    case isTrue heq =>
      refine .inr ⟨heq, fun name hname => ?_⟩
      rw [hname]
      exact mem_addName_self fr.expected name
    case isFalse hne => exact .inl (by omega)

/-- A known failure stays known when another one is recorded. -/
theorem Absorbs.record {fr : Frontier} {failure : Failure} (h : fr.Absorbs failure)
    (other : Failure) : (fr.record other).Absorbs failure := by
  rw [Frontier.record]
  split
  case isTrue hlt =>
    have hle : failure.offset ≤ fr.deepest := by
      rcases h with h | ⟨h, -⟩ <;> omega
    exact .inl (Nat.lt_of_le_of_lt hle hlt)
  case isFalse =>
    split
    case isTrue =>
      rcases h with hlt | ⟨heq, hname⟩
      · exact .inl hlt
      · exact .inr ⟨heq, fun name h => mem_addName_of_mem (hname name h) _⟩
    case isFalse => exact h

/-- A known failure stays known whatever happens next. -/
theorem Absorbs.recordAll {fr : Frontier} {failure : Failure} (h : fr.Absorbs failure)
    (others : List Failure) : (fr.recordAll others).Absorbs failure := by
  induction others generalizing fr with
  | nil => exact h
  | cons other rest ih => exact ih (h.record other)

/-- Recorded failures are known. -/
theorem absorbs_recordAll (fr : Frontier) (failures : List Failure) :
    ∀ failure ∈ failures, (fr.recordAll failures).Absorbs failure := by
  induction failures generalizing fr with
  | nil => simp
  | cons first rest ih =>
      intro failure hmem
      rcases List.mem_cons.1 hmem with rfl | hmem
      · exact (absorbs_record fr failure).recordAll rest
      · exact ih _ failure hmem

/-- Known failures change nothing. -/
theorem recordAll_of_absorbs {fr : Frontier} {failures : List Failure}
    (h : ∀ failure ∈ failures, fr.Absorbs failure) : fr.recordAll failures = fr := by
  induction failures with
  | nil => rfl
  | cons first rest ih =>
      rw [recordAll_cons, (h first (by simp)).record_eq]
      exact ih fun failure hmem => h failure (by simp [hmem])

end Frontier

namespace State

/-- The deepest failure of a run so far. -/
def frontier (st : State) : Frontier := ⟨st.deepest, st.expected⟩

/-- What a failure adds to the trace. -/
def failureEvents (st : State) (slot : SlotId) (offset : Nat) : List Event :=
  if st.deepest < offset then [.moved st.deepest offset, .failed slot offset]
  else [.failed slot offset]

/-- Recording a failure changes the frontier and the trace and nothing else. -/
theorem recordFailure_eq (st : State) (slot : SlotId) (offset : Nat) (name : Option String) :
    st.recordFailure slot offset name =
      { st with
          deepest := (st.frontier.record ⟨name, offset⟩).deepest
          expected := (st.frontier.record ⟨name, offset⟩).expected
          trace := st.failureEvents slot offset ++ st.trace } := by
  rcases Nat.lt_trichotomy st.deepest offset with hlt | heq | hgt
  · have hmove : (st.note (.failed slot offset)).moveTo offset =
        { st with
            deepest := offset
            expected := []
            trace := [.moved st.deepest offset, .failed slot offset] ++ st.trace } :=
      if_pos hlt
    have hrecord : st.frontier.record ⟨name, offset⟩ = ⟨offset, Frontier.addName [] name⟩ :=
      Frontier.record_of_lt hlt
    rw [recordFailure, hmove, hrecord, failureEvents, if_pos hlt]
    cases name with
    | none => rfl
    | some name => simp [expect, Frontier.addName]
  · have hstay : (st.note (.failed slot offset)).moveTo offset = st.note (.failed slot offset) :=
      if_neg (by simp [heq])
    have hrecord : st.frontier.record ⟨name, offset⟩ =
        ⟨st.deepest, Frontier.addName st.expected name⟩ :=
      Frontier.record_of_eq heq.symm
    rw [recordFailure, hstay, hrecord, failureEvents, if_neg (by omega)]
    cases name with
    | none => rfl
    | some name =>
        by_cases hmem : name ∈ st.expected <;>
          simp [expect, Frontier.addName, note, heq, hmem]
  · have hstay : (st.note (.failed slot offset)).moveTo offset = st.note (.failed slot offset) :=
      if_neg (by simp; omega)
    have hrecord : st.frontier.record ⟨name, offset⟩ = st.frontier := Frontier.record_of_gt hgt
    rw [recordFailure, hstay, hrecord, failureEvents, if_neg (by omega)]
    cases name with
    | none => rfl
    | some name => simp [expect, frontier, note, Nat.ne_of_lt hgt]

theorem recordFailure_frontier (st : State) (slot : SlotId) (offset : Nat)
    (name : Option String) :
    (st.recordFailure slot offset name).frontier = st.frontier.record ⟨name, offset⟩ := by
  rw [recordFailure_eq]
  rfl

end State

end Packrat
