import Packrat.Action
import Packrat.Proofs.Balance
import Packrat.Proofs.Height
import Packrat.Proofs.Shift
/-!
# Runs do not see what stands in front

A run that begins behind some text goes as the run that begins at the start of what stands
there, step by step, whether or not it ends. The states of the two are kept in step by
`State.Shifted`: the entries of the one table are those of the other further along, as many
parsers are running, and the deepest failure is further along too.

The last of these takes care. The deepest failure is at the start of the source until there
is one, and that is not further along. Nothing is expected there then, so the first failure
makes up for it: whatever offset it is at, it leaves just its own name.

## Main definitions

* `State.Shifted` — two states of which one is further along a source.

## Main results

* `Env.call_shifted` — calls go alike further along, from states that are further along.
* `Grammar.front_unseen` — what stands in front of a source is not seen by a run behind it.
-/

namespace Packrat

open Text (byteLength)

/-! ## Memo tables -/

/-- What is remembered of a parser, further along. -/
def Memo.shift (n : Nat) : Memo → Memo
  | .inProgress => .inProgress
  | .failed => .failed
  | .matched m => .matched (m.shift n)

theorem Memo.ofResult_shift (n : Nat) (result : Option Match) :
    ofResult (result.map (·.shift n)) = (ofResult result).shift n := by
  cases result <;> rfl

namespace MemoTable

/-- An entry that is removed no longer counts if there was one. -/
theorem size_erase (table : MemoTable) (slot : SlotId) (offset : Nat) :
    (table.erase slot offset).size =
      if (table.find? slot offset).isSome then table.size - 1 else table.size := by
  simp only [size, erase, ← contains_eq]
  exact Std.TreeMap.size_erase

/-- A table has the entries of another one, further along. -/
structure Shifted (n : Nat) (table table' : MemoTable) : Prop where
  find? : ∀ slot offset, table'.find? slot (n + offset) =
    (table.find? slot offset).map (Memo.shift n)
  size : table'.size = table.size

namespace Shifted

variable {n : Nat} {table table' : MemoTable}

theorem isSome_find? (h : table.Shifted n table') (slot : SlotId) (offset : Nat) :
    (table'.find? slot (n + offset)).isSome = (table.find? slot offset).isSome := by
  rw [h.find?, Option.isSome_map]

theorem insert (h : table.Shifted n table') (slot : SlotId) (offset : Nat) (memo : Memo) :
    (table.insert slot offset memo).Shifted n
      (table'.insert slot (n + offset) (memo.shift n)) := by
  refine ⟨fun slot' offset' => ?_, ?_⟩
  · simp only [find?_insert, h.find?, Nat.add_left_cancel_iff]
    split <;> rfl
  · rw [size_insert, size_insert, h.isSome_find?, h.size]

theorem erase (h : table.Shifted n table') (slot : SlotId) (offset : Nat) :
    (table.erase slot offset).Shifted n (table'.erase slot (n + offset)) := by
  refine ⟨fun slot' offset' => ?_, ?_⟩
  · simp only [find?_erase, h.find?, Nat.add_left_cancel_iff]
    split <;> rfl
  · rw [size_erase, size_erase, h.isSome_find?, h.size]

end Shifted

end MemoTable

/-! ## Failures -/

/-- The same is expected at the deepest failure, and that is further along, unless there has
been no failure yet. -/
structure Frontier.Shifted (n : Nat) (fr fr' : Frontier) : Prop where
  expected : fr'.expected = fr.expected
  deepest : fr'.deepest = n + fr.deepest ∨ (fr = ⟨0, []⟩ ∧ fr'.deepest = 0)

/-- A failure that is further along keeps deepest failures in step. -/
theorem Frontier.Shifted.record {n : Nat} {fr fr' : Frontier} (h : fr.Shifted n fr')
    (name : Option String) (offset : Nat) :
    (fr.record ⟨name, offset⟩).Shifted n (fr'.record ⟨name, n + offset⟩) := by
  obtain ⟨deepest, expected⟩ := fr
  obtain ⟨deepest', expected'⟩ := fr'
  obtain ⟨hexpected, hdeepest⟩ := h
  obtain rfl : expected' = expected := hexpected
  obtain rfl | ⟨hfresh, rfl⟩ :
      deepest' = n + deepest ∨ (Frontier.mk deepest expected' = ⟨0, []⟩ ∧ deepest' = 0) := hdeepest
  · rcases Nat.lt_trichotomy deepest offset with hlt | rfl | hgt
    · rw [record_of_lt hlt, record_of_lt (Nat.add_lt_add_left hlt n)]
      exact ⟨rfl, .inl rfl⟩
    · rw [record_of_eq rfl, record_of_eq rfl]
      exact ⟨rfl, .inl rfl⟩
    · rw [record_of_gt hgt, record_of_gt (Nat.add_lt_add_left hgt n)]
      exact ⟨rfl, .inl rfl⟩
  · obtain ⟨rfl, rfl⟩ := Frontier.mk.inj hfresh
    -- Whichever of the two is the first to go deeper, it leaves what it expects by itself.
    have hfirst (last : Nat) :
        Frontier.record ⟨0, []⟩ ⟨name, last⟩ = ⟨last, addName [] name⟩ := by
      rcases Nat.eq_zero_or_pos last with rfl | hpos
      · exact record_of_eq rfl
      · exact record_of_lt hpos
    rw [hfirst, hfirst]
    exact ⟨rfl, .inl rfl⟩

/-! ## States -/

/-- Why a run ended early, further along. -/
def Abort.shift (n : Nat) : Abort → Abort
  | .transform position error => .transform (n + position) error
  | .recursionLimit limit position => .recursionLimit limit (n + position)

namespace State

/-- A state is that of a run further along a source. -/
structure Shifted (n : Nat) (st st' : State) : Prop where
  memo : st.memo.Shifted n st'.memo
  frontier : st.frontier.Shifted n st'.frontier
  depth : st'.depth = st.depth
  abort : st'.abort = st.abort.map (·.shift n)
  hits : st'.hits = st.hits
  misses : st'.misses = st.misses

namespace Shifted

variable {n : Nat} {st st' : State}

/-- A fresh state is that of a run at any place along a source. -/
theorem fresh (n : Nat) : Shifted n {} {} := by
  refine ⟨⟨fun slot offset => ?_, rfl⟩, ⟨rfl, .inr ⟨rfl, rfl⟩⟩, rfl, rfl, rfl, rfl⟩
  rw [State.find?_fresh, State.find?_fresh]
  rfl

theorem isAborted (h : st.Shifted n st') : st'.isAborted = st.isAborted := by
  rw [State.isAborted, h.abort, Option.isSome_map, State.isAborted]

theorem note (h : st.Shifted n st') (event event' : Event) :
    (st.note event).Shifted n (st'.note event') :=
  ⟨h.memo, h.frontier, h.depth, h.abort, h.hits, h.misses⟩

theorem raise (h : st.Shifted n st') (abort : Abort) :
    (st.raise abort).Shifted n (st'.raise (abort.shift n)) := by
  unfold State.raise
  rw [h.isAborted]
  split
  · exact h
  · have hended : Shifted n { st with abort := some abort }
        { st' with abort := some (abort.shift n) } :=
      ⟨h.memo, h.frontier, h.depth, rfl, h.hits, h.misses⟩
    exact hended.note _ _

theorem enter (h : st.Shifted n st') (slot : SlotId) (offset : Nat) :
    (st.enter slot offset).Shifted n (st'.enter slot (n + offset)) := h.note _ _

theorem hit (h : st.Shifted n st') : st.hit.Shifted n st'.hit :=
  ⟨h.memo, h.frontier, h.depth, h.abort, congrArg (· + 1) h.hits, h.misses⟩

theorem reserve (h : st.Shifted n st') (slot : SlotId) (offset : Nat) :
    (st.reserve slot offset).Shifted n (st'.reserve slot (n + offset)) :=
  ⟨h.memo.insert slot offset .inProgress, h.frontier, h.depth, h.abort, h.hits,
    congrArg (· + 1) h.misses⟩

theorem begin (h : st.Shifted n st') (slot : SlotId) (offset : Nat) :
    (st.begin slot offset).Shifted n (st'.begin slot (n + offset)) := by
  have hdeeper : Shifted n { st with depth := st.depth + 1 }
      { st' with depth := st'.depth + 1 } :=
    ⟨h.memo, h.frontier, congrArg (· + 1) h.depth, h.abort, h.hits, h.misses⟩
  exact hdeeper.note _ _

theorem recordFailure (h : st.Shifted n st') (slot : SlotId) (offset : Nat)
    (name : Option String) :
    (st.recordFailure slot offset name).Shifted n
      (st'.recordFailure slot (n + offset) name) := by
  rw [recordFailure_eq, recordFailure_eq]
  exact ⟨h.memo, h.frontier.record name offset, h.depth, h.abort, h.hits, h.misses⟩

theorem finish (h : st.Shifted n st') (slot : SlotId) (offset : Nat) (name : Option String)
    (result : Option Match) :
    (st.finish slot offset name result).Shifted n
      (st'.finish slot (n + offset) name (result.map (·.shift n))) := by
  have hback : Shifted n { st with depth := st.depth - 1 } { st' with depth := st'.depth - 1 } :=
    ⟨h.memo, h.frontier, congrArg (· - 1) h.depth, h.abort, h.hits, h.misses⟩
  unfold State.finish
  simp only [Option.isNone_map, hback.isAborted]
  split
  · exact hback.recordFailure slot offset name
  · exact hback

theorem settle (h : st.Shifted n st') (slot : SlotId) (offset : Nat) (result : Option Match) :
    (st.settle slot offset result).Shifted n
      (st'.settle slot (n + offset) (result.map (·.shift n))) := by
  unfold State.settle
  rw [h.isAborted, Memo.ofResult_shift]
  split
  · exact ⟨h.memo.erase slot offset, h.frontier, h.depth, h.abort, h.hits, h.misses⟩
  · exact ⟨h.memo.insert slot offset _, h.frontier, h.depth, h.abort, h.hits, h.misses⟩

end Shifted

end State

/-! ## Calls -/

/-- A result is another one further along, and so is the state after it. -/
structure RunShifted (n : Nat) {α : Type} (shift : α → α) (run run' : α × State) : Prop where
  result : run'.1 = shift run.1
  state : run.2.Shifted n run'.2

/-- An answer is another one further along, and so is the state after it. -/
abbrev AnswerShifted (n : Nat) : Option Match × State → Option Match × State → Prop :=
  RunShifted n (Option.map (Match.shift n))

/-- Calls from states that are further along go alike further along. -/
def Call.Shifted (n : Nat) (call call' : Call) : Prop :=
  ∀ slot offset {st st'}, st.Shifted n st' →
    Option.Rel (AnswerShifted n) (call slot offset st) (call' slot (n + offset) st')

/-- Plans that do the same further along are carried out alike, if calls go alike. -/
theorem Plan.Shifted.exec {n : Nat} (options : Options) {call call' : Call}
    (hcall : call.Shifted n call') {α : Type} {shift : α → α} {plan plan' : Plan α}
    (hplan : Shifted n shift plan plan') {st st' : State} (hst : st.Shifted n st') :
    Option.Rel (RunShifted n shift) (plan.exec options call st)
      (plan'.exec options call' st') := by
  induction hplan generalizing st st' with
  | done result => exact .some ⟨rfl, hst⟩
  | abort _ ih => exact ih (hst.raise _)
  | @ask slot offset resume resume' _ ih =>
      have hanswer := hcall slot offset hst
      simp only [Plan.exec]
      cases hrun : call slot offset st with
      | none =>
          rw [hrun] at hanswer
          generalize call' slot (n + offset) st' = run' at hanswer
          cases hanswer
          exact .none
      | some run =>
          rw [hrun] at hanswer
          generalize call' slot (n + offset) st' = run' at hanswer
          cases hanswer with
          | some hrun =>
              simp only [hrun.result]
              exact ih _ hrun.state
  | ended _ ih =>
      simp only [Plan.exec, hst.isAborted]
      exact ih _ hst

/-- All parsers of a grammar look at nothing but the text from their offset on. -/
def Grammar.Shiftable (g : Grammar) : Prop := ∀ body ∈ g.bodies, body.Shiftable

namespace Env

/-- An environment with another source. -/
def withSource (env : Env) (src : Source) : Env := { env with source := src }

variable {env : Env} {n : Nat} {whole : Source}

/-- What a parser does is the same further along. -/
theorem planOf_shifted (hshift : env.grammar.Shiftable) (h : env.source.Tail n whole)
    (slot : SlotId) (offset : Nat) :
    Plan.Shifted n (Option.map (Match.shift n)) (env.planOf slot offset)
      ((env.withSource whole).planOf slot (n + offset)) := by
  simp only [planOf, withSource]
  cases hbody : env.grammar.bodies[slot]? with
  | none => exact .done none
  | some body => exact Body.plan_shifted (hshift body (Array.mem_of_getElem? hbody)) h offset

section Steps

variable {call call' : Call} (hshift : env.grammar.Shiftable) (h : env.source.Tail n whole)
  (hcall : call.Shifted n call')

include hshift h hcall

theorem invoke_shifted : (env.invoke call).Shifted n ((env.withSource whole).invoke call') := by
  intro slot offset st st' hst
  have hexec := (planOf_shifted hshift h slot offset).exec env.options hcall
    (hst.begin slot offset)
  simp only [invoke, show (env.withSource whole).options = env.options from rfl,
    show (env.withSource whole).grammar = env.grammar from rfl]
  generalize (env.planOf slot offset).exec env.options call (st.begin slot offset) = run at hexec
  generalize ((env.withSource whole).planOf slot (n + offset)).exec env.options call'
    (st'.begin slot (n + offset)) = run' at hexec
  cases hexec with
  | none => exact .none
  | @some run run' hrun =>
      simp only [hrun.result]
      exact .some ⟨rfl, hrun.state.finish slot offset _ run.1⟩

theorem remember_shifted :
    (env.remember call).Shifted n ((env.withSource whole).remember call') := by
  intro slot offset st st' hst
  have hinvoke := invoke_shifted hshift h hcall slot offset (hst.reserve slot offset)
  simp only [remember]
  generalize env.invoke call slot offset (st.reserve slot offset) = run at hinvoke
  generalize (env.withSource whole).invoke call' slot (n + offset)
    (st'.reserve slot (n + offset)) = run' at hinvoke
  cases hinvoke with
  | none => exact .none
  | @some run run' hrun =>
      simp only [hrun.result, hrun.state.isAborted]
      refine .some ⟨?_, hrun.state.settle slot offset run.1⟩
      split <;> rfl

theorem answer_shifted : (env.answer call).Shifted n ((env.withSource whole).answer call') := by
  intro slot offset st st' hst
  have hlimit : (env.withSource whole).atLimit (st'.enter slot (n + offset)) =
      env.atLimit (st.enter slot offset) := by
    show env.options.maxDepth.filter (· ≤ st'.depth) = env.options.maxDepth.filter (· ≤ st.depth)
    rw [hst.depth]
  have hoptions : (env.withSource whole).options = env.options := rfl
  have henter := hst.enter slot offset
  have hentry := henter.memo.find? slot offset
  simp only [answer, hst.isAborted, hlimit, hoptions, hentry]
  split
  · exact .some ⟨rfl, hst⟩
  · split
    · exact .some ⟨rfl, henter.raise _⟩
    · split
      · exact invoke_shifted hshift h hcall slot offset henter
      · cases (st.enter slot offset).memo.find? slot offset with
        | none => exact remember_shifted hshift h hcall slot offset henter
        | some memo =>
            cases memo with
            | inProgress => exact .some ⟨rfl, henter.note _ _⟩
            | failed => exact .some ⟨rfl, henter.hit⟩
            | matched m => exact .some ⟨rfl, henter.hit⟩

end Steps

/-- Calls go alike further along, from states that are further along. -/
theorem call_shifted (hshift : env.grammar.Shiftable) (h : env.source.Tail n whole)
    (fuel : Nat) : (env.call fuel).Shifted n ((env.withSource whole).call fuel) := by
  induction fuel with
  | zero => exact fun _ _ _ _ _ => .none
  | succ fuel ih => exact answer_shifted hshift h ih

end Env

/-! ## Runs on fresh states -/

/-- What can be seen of a run behind some text is what can be seen of a run without it: the
same value, the same names that are expected and the same counters, and all offsets are so
many bytes further along. -/
structure SeenBehind (n : Nat) (run run' : Option Match × State) : Prop where
  answer : run'.1 = run.1.map (·.shift n)
  abort : run'.2.abort = run.2.abort.map (·.shift n)
  expected : run'.2.expected = run.2.expected
  /-- Where nothing has failed, there is no deepest failure to be further along. -/
  deepest : run'.2.deepest = n + run.2.deepest ∨
    (run.2.expected = [] ∧ run.2.deepest = 0 ∧ run'.2.deepest = 0)
  hits : run'.2.hits = run.2.hits
  misses : run'.2.misses = run.2.misses
  entries : run'.2.entries = run.2.entries

/-- What is further along is seen to be. -/
theorem AnswerShifted.seen {n : Nat} {run run' : Option Match × State}
    (h : AnswerShifted n run run') : SeenBehind n run run' where
  answer := h.result
  abort := h.state.abort
  expected := h.state.frontier.expected
  deepest := by
    refine h.state.frontier.deepest.imp_right fun ⟨hfresh, hdeepest⟩ => ?_
    obtain ⟨hzero, hnothing⟩ := Frontier.mk.inj hfresh
    exact ⟨hnothing, hzero, hdeepest⟩
  hits := h.state.hits
  misses := h.state.misses
  entries := h.state.memo.size

/-- Runs of which one is further along are seen to be. -/
theorem SeenBehind.of_shifted {n : Nat} {run run' : Option (Option Match × State)}
    (h : Option.Rel (AnswerShifted n) run run') : Option.Rel (SeenBehind n) run run' := by
  cases h with
  | none => exact .none
  | some h => exact .some h.seen

/-- More fuel than enough makes no difference to a call of a parser of a closed grammar, if
no value looks at the state. -/
theorem Env.call_eq_parse {env : Env} (hclosed : env.grammar.Closed)
    (hfree : env.grammar.StateFree) {slot : SlotId} (hslot : slot < env.grammar.size)
    (start : Nat) {st : State} (hst : env.Reachable st) {fuel : Nat} (hfuel : env.fuel ≤ fuel) :
    env.call fuel slot start st = env.parse slot start st := by
  cases hends : env.call fuel slot start st with
  | some run => exact (parse_of_call hclosed (.inr (.inr hfree)) hslot hst.memoSound hends).symm
  | none =>
      cases hparse : env.parse slot start st with
      | none => rfl
      | some run => rw [← hends, call_mono env hfuel hparse]

namespace Grammar

variable {g : Grammar}

theorem Shiftable.stateFree (h : g.Shiftable) : g.StateFree := by
  intro body hbody
  have hshift := h body hbody
  cases body with
  | mapInRun make inner => exact hshift.elim
  | _ => exact True.intro

/-- A run on a fresh state does not see what stands in front of the place where it begins.
With any fuel, and so with enough of it, the run behind the text ends if the run without it
does and only then, and the two are seen to be the same but for the place. -/
theorem front_unseen (hshift : g.Shiftable) (options : Options) (front text : List Char)
    (slot : SlotId) :
    (∀ fuel, Option.Rel (SeenBehind (byteLength front))
      ((Env.mk g (.ofList text) options).call fuel slot 0 {})
      ((Env.mk g (.ofList (front ++ text)) options).call fuel slot (byteLength front) {})) ∧
    (g.Closed → slot < g.size → Option.Rel (SeenBehind (byteLength front))
      ((Env.mk g (.ofList text) options).parse slot 0 {})
      ((Env.mk g (.ofList (front ++ text)) options).parse slot (byteLength front) {})) := by
  let env : Env := ⟨g, .ofList text, options⟩
  let whole : Env := ⟨g, .ofList (front ++ text), options⟩
  have hcall (fuel : Nat) : Option.Rel (SeenBehind (byteLength front))
      (env.call fuel slot 0 {}) (whole.call fuel slot (byteLength front) {}) := by
    have hrun : Option.Rel (AnswerShifted (byteLength front)) (env.call fuel slot 0 {})
        (whole.call fuel slot (byteLength front + 0) {}) :=
      Env.call_shifted hshift (Source.tail_append front text) fuel slot 0 (.fresh _)
    exact SeenBehind.of_shifted hrun
  refine ⟨hcall, fun hclosed hslot => ?_⟩
  -- With the greater of the two amounts of fuel both runs do what they do with their own.
  have hboth := hcall (max env.fuel whole.fuel)
  rwa [Env.call_eq_parse hclosed hshift.stateFree hslot 0 .fresh (Nat.le_max_left ..),
    Env.call_eq_parse hclosed hshift.stateFree hslot _ .fresh (Nat.le_max_right ..)] at hboth

/-- The text of some digits, each of them an item. An item that begins with itself is tried
first. -/
def digitsText : Grammar :=
  ⟨#[.map Action.text 1, .oneOrMore 2, .named "item" 3, .choice 4 5, .sequence 2 5,
    .primitive .digit], [("digits", 0)]⟩

theorem digitsText_shiftable : digitsText.Shiftable := by
  intro body hbody
  simp only [digitsText, List.mem_toArray, List.mem_cons, List.not_mem_nil, or_false] at hbody
  rcases hbody with rfl | rfl | rfl | rfl | rfl | rfl
  · exact .text fun text => .str (String.ofList (Text.normalizeChars text))
  all_goals exact True.intro

theorem digitsText_closed : digitsText.Closed := by decide

/-- Behind a letter of two bytes and a digit the same two digits are found three bytes
further along. -/
theorem front_unseen_digits :
    digitsText.Shiftable ∧ digitsText.Closed ∧ 0 < digitsText.size ∧ ∃ run run',
      (Env.mk digitsText (.ofList "12;".toList) {}).parse 0 0 {} = some run ∧
      (Env.mk digitsText (.ofList ("é7".toList ++ "12;".toList)) {}).parse 0 3 {} = some run' ∧
      run'.1 = some ⟨.str "12", 3, 5⟩ ∧ SeenBehind 3 run run' := by
  have hslot : 0 < digitsText.size := by decide
  have hanswer : ((Env.mk digitsText (.ofList "12;".toList) {}).call 7 0 0 {}).map (·.1) =
      some (some ⟨.str "12", 0, 2⟩) := rfl
  obtain ⟨run, hcall, hanswer⟩ := Option.map_eq_some_iff.1 hanswer
  have hparse : (Env.mk digitsText (.ofList "12;".toList) {}).parse 0 0 {} = some run :=
    Env.call_mono _ (by decide) hcall
  have hboth :=
    (front_unseen digitsText_shiftable {} "é7".toList "12;".toList 0).2 digitsText_closed hslot
  rw [hparse, show byteLength "é7".toList = 3 from rfl] at hboth
  generalize Env.parse _ 0 3 {} = run' at hboth ⊢
  cases hboth with
  | @some _ run' hseen =>
      refine ⟨digitsText_shiftable, digitsText_closed, hslot, run, run', hparse, rfl, ?_, hseen⟩
      rw [hseen.answer, hanswer]
      rfl

end Grammar

end Packrat
