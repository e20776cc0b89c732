import Packrat.Engine
import Packrat.Proofs.Frontier
/-!
# The ways a call is answered

`Env.Answered` lists every way in which a call can be answered, with the state
that it leaves behind; `Env.answer_eq_some_iff` says that these are all of them.
Whatever is shown of calls is shown by going through the list, so that no
proof has to follow the engine's decisions again.

## Main results

* `Env.answer_eq_some_iff` — the ways in which a call is answered.
* `Env.call_mono` — more fuel does not change an answer.
-/

namespace Packrat

namespace State

@[simp] theorem enter_isAborted (st : State) (slot : SlotId) (offset : Nat) :
    (st.enter slot offset).isAborted = st.isAborted := rfl

@[simp] theorem begin_isAborted (st : State) (slot : SlotId) (offset : Nat) :
    (st.begin slot offset).isAborted = st.isAborted := rfl

@[simp] theorem reserve_isAborted (st : State) (slot : SlotId) (offset : Nat) :
    (st.reserve slot offset).isAborted = st.isAborted := rfl

/-- A result that is there, or that comes too late, is no failure. -/
theorem finish_of_not_failed {st : State} {slot : SlotId} {offset : Nat} {name : Option String}
    {result : Option Match} (h : result.isSome = true ∨ st.isAborted = true) :
    st.finish slot offset name result = { st with depth := st.depth - 1 } := by
  unfold finish
  refine if_neg ?_
  have hended : State.isAborted { st with depth := st.depth - 1 } = st.isAborted := rfl
  rw [hended]
  rcases h with h | h
  · obtain ⟨m, rfl⟩ := Option.isSome_iff_exists.1 h
    simp
  · simp [h]

/-- A result that is missing in a run that goes on is a failure. -/
theorem finish_none {st : State} (h : st.isAborted = false) (slot : SlotId) (offset : Nat)
    (name : Option String) :
    st.finish slot offset name none =
      { st with depth := st.depth - 1 }.recordFailure slot offset name := by
  unfold finish
  refine if_pos ?_
  have hended : State.isAborted { st with depth := st.depth - 1 } = st.isAborted := rfl
  rw [hended, h]
  rfl

/-! What a body leaves behind is changed by its failure only in the trace and in
what is expected at the deepest failure. -/

@[simp] theorem finish_depth (st : State) (slot : SlotId) (offset : Nat) (name : Option String)
    (result : Option Match) : (st.finish slot offset name result).depth = st.depth - 1 := by
  unfold finish
  simp only
  split
  · rw [recordFailure_eq]
  · rfl

@[simp] theorem finish_memo (st : State) (slot : SlotId) (offset : Nat) (name : Option String)
    (result : Option Match) : (st.finish slot offset name result).memo = st.memo := by
  unfold finish
  simp only
  split
  · rw [recordFailure_eq]
  · rfl

@[simp] theorem finish_abort (st : State) (slot : SlotId) (offset : Nat) (name : Option String)
    (result : Option Match) : (st.finish slot offset name result).abort = st.abort := by
  unfold finish
  simp only
  split
  · rw [recordFailure_eq]
  · rfl

@[simp] theorem finish_misses (st : State) (slot : SlotId) (offset : Nat) (name : Option String)
    (result : Option Match) : (st.finish slot offset name result).misses = st.misses := by
  unfold finish
  simp only
  split
  · rw [recordFailure_eq]
  · rfl

@[simp] theorem finish_isAborted (st : State) (slot : SlotId) (offset : Nat)
    (name : Option String) (result : Option Match) :
    (st.finish slot offset name result).isAborted = st.isAborted := by
  unfold isAborted
  rw [finish_abort]

theorem settle_of_isAborted {st : State} (h : st.isAborted = true) (slot : SlotId)
    (offset : Nat) (result : Option Match) :
    st.settle slot offset result = { st with memo := st.memo.erase slot offset } := if_pos h

theorem settle_of_not_isAborted {st : State} (h : st.isAborted = false) (slot : SlotId)
    (offset : Nat) (result : Option Match) :
    st.settle slot offset result =
      { st with memo := st.memo.insert slot offset (.ofResult result) } :=
  if_neg (by simp [h])

@[simp] theorem settle_depth (st : State) (slot : SlotId) (offset : Nat)
    (result : Option Match) : (st.settle slot offset result).depth = st.depth := by
  unfold settle
  split <;> rfl

@[simp] theorem settle_abort (st : State) (slot : SlotId) (offset : Nat)
    (result : Option Match) : (st.settle slot offset result).abort = st.abort := by
  unfold settle
  split <;> rfl

@[simp] theorem settle_isAborted (st : State) (slot : SlotId) (offset : Nat)
    (result : Option Match) : (st.settle slot offset result).isAborted = st.isAborted := by
  unfold isAborted
  rw [settle_abort]

@[simp] theorem settle_misses (st : State) (slot : SlotId) (offset : Nat)
    (result : Option Match) : (st.settle slot offset result).misses = st.misses := by
  unfold settle
  split <;> rfl

@[simp] theorem settle_trace (st : State) (slot : SlotId) (offset : Nat)
    (result : Option Match) : (st.settle slot offset result).trace = st.trace := by
  unfold settle
  split <;> rfl

end State

namespace Env

/-- How a call of a parser at an offset is answered from a state, and the state
after it. -/
inductive Answered (env : Env) (call : Call) (slot : SlotId) (offset : Nat) (st : State) :
    Option Match → State → Prop
  /-- The run has ended early. -/
  | stopped (hended : st.isAborted = true) : env.Answered call slot offset st none st
  /-- One more parser would run deeper than the limit. -/
  | refused {limit : Nat} (hlive : st.isAborted = false) (hlimit : env.atLimit st = some limit) :
    env.Answered call slot offset st none
      ((st.enter slot offset).raise (.recursionLimit limit offset))
  /-- The parser has come back to itself without taking anything. -/
  | recursive (hlive : st.isAborted = false) (hroom : env.atLimit st = none)
      (hmemo : env.options.memoize = true)
      (hentry : st.memo.find? slot offset = some .inProgress) :
    env.Answered call slot offset st none ((st.enter slot offset).note (.leftRecursion slot offset))
  /-- The parser is known not to match. -/
  | knownFailure (hlive : st.isAborted = false) (hroom : env.atLimit st = none)
      (hmemo : env.options.memoize = true)
      (hentry : st.memo.find? slot offset = some .failed) :
    env.Answered call slot offset st none (st.enter slot offset).hit
  /-- The match of the parser is known. -/
  | knownMatch {m : Match} (hlive : st.isAborted = false) (hroom : env.atLimit st = none)
      (hmemo : env.options.memoize = true)
      (hentry : st.memo.find? slot offset = some (.matched m)) :
    env.Answered call slot offset st (some m) (st.enter slot offset).hit
  /-- The body of the parser has run, and nothing is remembered. -/
  | ran {result : Option Match} {st' : State} (hlive : st.isAborted = false)
      (hroom : env.atLimit st = none) (hmemo : env.options.memoize = false)
      (hexec : (env.planOf slot offset).exec env.options call
        ((st.enter slot offset).begin slot offset) = some (result, st')) :
    env.Answered call slot offset st result
      (st'.finish slot offset (env.grammar.name? slot) result)
  /-- The body of the parser has run, and its answer is remembered. -/
  | missed {result : Option Match} {st' : State} (hlive : st.isAborted = false)
      (hroom : env.atLimit st = none) (hmemo : env.options.memoize = true)
      (hentry : st.memo.find? slot offset = none)
      (hexec : (env.planOf slot offset).exec env.options call
        (((st.enter slot offset).reserve slot offset).begin slot offset) = some (result, st')) :
    env.Answered call slot offset st
      (if (st'.finish slot offset (env.grammar.name? slot) result).isAborted then none else result)
      ((st'.finish slot offset (env.grammar.name? slot) result).settle slot offset result)

/-- Calls are answered in these ways and in no other. -/
theorem answer_eq_some_iff {env : Env} {call : Call} {slot : SlotId} {offset : Nat}
    {st : State} {result : Option Match} {st' : State} :
    env.answer call slot offset st = some (result, st') ↔
      env.Answered call slot offset st result st' := by
  have hlimit_enter : env.atLimit (st.enter slot offset) = env.atLimit st := rfl
  have hentry_enter : (st.enter slot offset).memo = st.memo := rfl
  constructor
  · intro h
    simp only [answer, hlimit_enter, hentry_enter] at h
    split at h
    case isTrue hended =>
      obtain ⟨rfl, rfl⟩ := Prod.mk.inj (Option.some.inj h)
      exact .stopped hended
    case isFalse hlive =>
      rw [Bool.not_eq_true] at hlive
      split at h
      case h_1 limit hlimit =>
        obtain ⟨rfl, rfl⟩ := Prod.mk.inj (Option.some.inj h)
        exact .refused hlive hlimit
      case h_2 hroom =>
        split at h
        case isTrue hmemo =>
          rw [Bool.not_eq_true'] at hmemo
          simp only [invoke] at h
          split at h
          · simp at h
          case h_2 hexec =>
            obtain ⟨rfl, rfl⟩ := Prod.mk.inj (Option.some.inj h)
            exact .ran hlive hroom hmemo hexec
        case isFalse hmemo =>
          rw [Bool.not_eq_true', Bool.not_eq_false] at hmemo
          split at h
          case h_1 hentry =>
            obtain ⟨rfl, rfl⟩ := Prod.mk.inj (Option.some.inj h)
            exact .recursive hlive hroom hmemo hentry
          case h_2 hentry =>
            obtain ⟨rfl, rfl⟩ := Prod.mk.inj (Option.some.inj h)
            exact .knownFailure hlive hroom hmemo hentry
          case h_3 hentry =>
            obtain ⟨rfl, rfl⟩ := Prod.mk.inj (Option.some.inj h)
            exact .knownMatch hlive hroom hmemo hentry
          case h_4 hentry =>
            simp only [remember, invoke] at h
            split at h
            · simp at h
            case h_2 hinvoke =>
              split at hinvoke
              · simp at hinvoke
              case h_2 hexec =>
                obtain ⟨rfl, rfl⟩ := Prod.mk.inj (Option.some.inj hinvoke)
                obtain ⟨rfl, rfl⟩ := Prod.mk.inj (Option.some.inj h)
                exact .missed hlive hroom hmemo hentry hexec
  · intro h
    cases h with
    | stopped hended => simp [answer, hended]
    | refused hlive hlimit => simp [answer, hlive, hlimit_enter, hlimit]
    | recursive hlive hroom hmemo hentry =>
        simp [answer, hlive, hlimit_enter, hroom, hmemo, hentry_enter, hentry]
    | knownFailure hlive hroom hmemo hentry =>
        simp [answer, hlive, hlimit_enter, hroom, hmemo, hentry_enter, hentry]
    | knownMatch hlive hroom hmemo hentry =>
        simp [answer, hlive, hlimit_enter, hroom, hmemo, hentry_enter, hentry]
    | ran hlive hroom hmemo hexec =>
        simp [answer, hlive, hlimit_enter, hroom, hmemo, invoke, hexec]
    | missed hlive hroom hmemo hentry hexec =>
        simp [answer, hlive, hlimit_enter, hroom, hmemo, hentry_enter, hentry, remember, invoke,
          hexec]

end Env

/-- There is room for one more parser as long as the depth is below the limit. -/
theorem Env.atLimit_eq_none_iff {env : Env} {st : State} :
    env.atLimit st = none ↔ ∀ limit, env.options.maxDepth = some limit → st.depth < limit := by
  simp only [atLimit, Option.filter_eq_none_iff, decide_eq_true_eq, Nat.not_le]

/-! ## Fuel -/

/-- Whatever one way of answering calls answers, the other answers in the same
way. -/
def Call.Agrees (call call' : Call) : Prop :=
  ∀ ⦃slot offset st result⦄, call slot offset st = some result →
    call' slot offset st = some result

/-- A plan that can be carried out is carried out in the same way when more
calls are answered. -/
theorem Plan.exec_mono {α : Type} {options : Options} {call call' : Call}
    (hcall : call.Agrees call') (plan : Plan α) {st : State} {result : α × State}
    (h : plan.exec options call st = some result) :
    plan.exec options call' st = some result := by
  induction plan generalizing st with
  | done answer => exact h
  | abort position error plan ih => exact ih h
  | ask slot offset resume ih =>
      simp only [Plan.exec] at h
      split at h
      · contradiction
      case h_2 answer st₁ hanswer =>
        simp only [Plan.exec, hcall hanswer]
        exact ih answer h
  | look resume ih => exact ih _ h
  | ended resume ih => exact ih _ h

namespace Env

theorem answer_mono {env : Env} {call call' : Call} (hcall : call.Agrees call') :
    (env.answer call).Agrees (env.answer call') := by
  intro slot offset st result h
  obtain ⟨answer, st'⟩ := result
  rw [answer_eq_some_iff] at h ⊢
  cases h with
  | stopped hended => exact .stopped hended
  | refused hlive hlimit => exact .refused hlive hlimit
  | recursive hlive hroom hmemo hentry => exact .recursive hlive hroom hmemo hentry
  | knownFailure hlive hroom hmemo hentry => exact .knownFailure hlive hroom hmemo hentry
  | knownMatch hlive hroom hmemo hentry => exact .knownMatch hlive hroom hmemo hentry
  | ran hlive hroom hmemo hexec =>
      exact .ran hlive hroom hmemo (Plan.exec_mono hcall _ hexec)
  | missed hlive hroom hmemo hentry hexec =>
      exact .missed hlive hroom hmemo hentry (Plan.exec_mono hcall _ hexec)

/-- A call that ends is answered in the same way with more fuel. -/
theorem call_mono (env : Env) {fuel fuel' : Nat} (hle : fuel ≤ fuel') :
    (env.call fuel).Agrees (env.call fuel') := by
  induction fuel generalizing fuel' with
  | zero =>
      intro slot offset st result h
      contradiction
  | succ fuel ih =>
      cases fuel' with
      | zero => omega
      | succ fuel' => exact answer_mono (ih (by omega))

/-- However much fuel two calls have, they do not differ if both end. -/
theorem call_unique {env : Env} {fuel fuel' : Nat} {slot : SlotId} {offset : Nat} {st : State}
    {result result' : Option Match × State} (h : env.call fuel slot offset st = some result)
    (h' : env.call fuel' slot offset st = some result') : result = result' := by
  rcases Nat.le_total fuel fuel' with hle | hle
  · rw [call_mono env hle h] at h'
    exact Option.some.inj h'
  · rw [call_mono env hle h'] at h
    exact (Option.some.inj h).symm

end Env

end Packrat
