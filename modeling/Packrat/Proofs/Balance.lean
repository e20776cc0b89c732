import Mathlib.Data.List.Perm.Basic
import Mathlib.Data.List.Nodup
import Packrat.Proofs.FinalEnd
/-!
# The memo table keeps pace

With memoization each body that runs has an entry in progress. An entry that were
left in progress would turn a later call into one of a parser by itself, and a depth
that were not taken back would end a run that is not deep. Both are undone on every
path by which a body comes back, and while the run unwinds after an early end too.

So at all moments of a run the entries in progress are those of the bodies that are
running, `Moment.running`, and the depth is their number. All other entries are
finished; each of them was a question that the table could not answer, and none of
them is ever changed.

## Main results

* `Env.call_running_iff` — a call leaves the entries in progress as they were.
* `Env.Next.balanced` — every step keeps the state balanced.
* `Env.Next.keepsFinished` — finished entries stay.
* `Env.run_balanced` — what holds at all moments of all runs.
-/

namespace Packrat

/-- Whether a parser is still running. -/
def Memo.isInProgress : Memo → Bool
  | .inProgress => true
  | _ => false

namespace MemoTable

/-- The number of parsers that are still running. -/
def inProgress (table : MemoTable) : Nat :=
  table.entries.toList.countP fun entry => entry.2.isInProgress

theorem contains_eq (table : MemoTable) (slot : SlotId) (offset : Nat) :
    table.entries.contains ⟨slot, offset⟩ = (table.find? slot offset).isSome :=
  Std.TreeMap.contains_eq_isSome_getElem?

/-- An entry that is set counts if there was none. -/
theorem size_insert (table : MemoTable) (slot : SlotId) (offset : Nat) (memo : Memo) :
    (table.insert slot offset memo).size =
      if (table.find? slot offset).isSome then table.size else table.size + 1 := by
  simp only [size, insert, ← contains_eq]
  exact Std.TreeMap.size_insert

/-- An entry that is removed no longer counts. -/
theorem size_erase_of_some {table : MemoTable} {slot : SlotId} {offset : Nat} {memo : Memo}
    (h : table.find? slot offset = some memo) :
    (table.erase slot offset).size + 1 = table.size := by
  have hentry : table.entries.contains ⟨slot, offset⟩ = true := by
    rw [contains_eq, h]
    rfl
  have hpos : 0 < table.size := by
    rw [size, ← Std.TreeMap.length_keys]
    exact List.length_pos_of_mem (Std.TreeMap.mem_keys.2 (Std.TreeMap.mem_iff_contains.2 hentry))
  have hsize : (table.erase slot offset).size = table.size - 1 :=
    Std.TreeMap.size_erase.trans (if_pos hentry)
  omega

/-- If some places are those with an entry in progress, there are as many of them as
such entries. -/
theorem inProgress_eq_length {table : MemoTable} {places : List (SlotId × Nat)}
    (hnodup : places.Nodup)
    (h : ∀ slot offset, table.find? slot offset = some .inProgress ↔ (slot, offset) ∈ places) :
    table.inProgress = places.length := by
  let place (entry : MemoKey × Memo) : SlotId × Nat := (entry.1.slot, entry.1.offset)
  let marked := table.entries.toList.filter fun entry => entry.2.isInProgress
  have hdistinct : (marked.map place).Nodup := by
    have hkeys := table.entries.distinct_keys_toList.sublist
      (List.filter_sublist (p := fun entry => entry.2.isInProgress))
    refine List.pairwise_map.2 (hkeys.imp fun {entry other} hne hsame => hne ?_)
    obtain ⟨hslot, hoffset⟩ := Prod.mk.inj hsame
    rw [Std.LawfulEqCmp.compare_eq_iff_eq]
    exact MemoKey.mk.injEq .. ▸ ⟨hslot, hoffset⟩
  have hmem (x : SlotId × Nat) : x ∈ marked.map place ↔ x ∈ places := by
    obtain ⟨slot, offset⟩ := x
    rw [← h, List.mem_map]
    constructor
    · rintro ⟨⟨key, memo⟩, hentry, hsame⟩
      obtain ⟨rfl, rfl⟩ := Prod.mk.inj hsame
      obtain ⟨hentry, hmemo⟩ := List.mem_filter.1 hentry
      cases memo with
      | inProgress => exact Std.TreeMap.mem_toList_iff_getElem?_eq_some.1 hentry
      | failed | matched => contradiction
    · intro hentry
      exact ⟨(⟨slot, offset⟩, .inProgress), List.mem_filter.2
        ⟨Std.TreeMap.mem_toList_iff_getElem?_eq_some.2 hentry, rfl⟩, rfl⟩
  have hperm : (marked.map place).Perm places :=
    (List.perm_ext_iff_of_nodup hdistinct hnodup).2 hmem
  calc table.inProgress
      = marked.length := List.countP_eq_length_filter
    _ = (marked.map place).length := (List.length_map ..).symm
    _ = places.length := hperm.length_eq

end MemoTable

namespace State

variable {st st' st'' : State}

@[simp] theorem raise_hits (st : State) (abort : Abort) : (st.raise abort).hits = st.hits := by
  unfold raise
  split <;> rfl

@[simp] theorem finish_hits (st : State) (slot : SlotId) (offset : Nat) (name : Option String)
    (result : Option Match) : (st.finish slot offset name result).hits = st.hits := by
  unfold finish
  simp only
  split
  · rw [recordFailure_eq]
  · rfl

theorem running_reserve_iff {slot slot' : SlotId} {offset offset' : Nat} :
    (st.reserve slot offset).Running slot' offset' ↔
      (slot = slot' ∧ offset = offset') ∨ st.Running slot' offset' := by
  have hinsert : (st.reserve slot offset).Running slot' offset' ↔
      (st.memo.insert slot offset .inProgress).find? slot' offset' = some .inProgress := .rfl
  rw [hinsert, MemoTable.find?_insert]
  split
  case isTrue hsame => simp [hsame]
  case isFalse hother => simp [hother, Running]

/-- When a body has come back its entry is gone or finished, and the others stay. -/
theorem find?_settle (st : State) (slot slot' : SlotId) (offset offset' : Nat)
    (result : Option Match) :
    (st.settle slot offset result).memo.find? slot' offset' =
      if slot = slot' ∧ offset = offset' then
        if st.isAborted then none else some (.ofResult result)
      else st.memo.find? slot' offset' := by
  cases hended : st.isAborted with
  | true =>
      rw [settle_of_isAborted hended]
      exact MemoTable.find?_erase ..
  | false =>
      rw [settle_of_not_isAborted hended]
      exact MemoTable.find?_insert ..

theorem running_settle_iff {slot slot' : SlotId} {offset offset' : Nat}
    {result : Option Match} :
    (st.settle slot offset result).Running slot' offset' ↔
      ¬(slot = slot' ∧ offset = offset') ∧ st.Running slot' offset' := by
  rw [Running, find?_settle]
  by_cases hsame : slot = slot' ∧ offset = offset'
  · have hdone := Memo.ofResult_ne_inProgress result
    rw [if_pos hsame]
    split <;> simp [hsame, hdone]
  · rw [if_neg hsame]
    exact ⟨fun hrun => ⟨hsame, hrun⟩, fun hrun => hrun.2⟩

/-- A state keeps pace with the bodies that are running, the innermost first. -/
structure Balanced (env : Env) (running : List (SlotId × Nat)) (st : State) : Prop where
  depth : st.depth = running.length
  nodup : env.options.memoize = true → running.Nodup
  running : env.options.memoize = true →
    ∀ slot offset, st.Running slot offset ↔ (slot, offset) ∈ running
  /-- While the run goes on each entry is a question that the table has not answered. -/
  entries : st.isAborted = false → st.entries = st.misses
  unused : env.options.memoize = false → st.memo = .empty ∧ st.hits = 0 ∧ st.misses = 0

namespace Balanced

variable {env : Env} {running : List (SlotId × Nat)}

theorem fresh (env : Env) : Balanced env [] {} := by
  refine ⟨rfl, fun _ => .nil, fun _ slot offset => ?_, fun _ => rfl, fun _ => ⟨rfl, rfl, rfl⟩⟩
  simp [Running]

/-- What changes neither the table nor the depth keeps a state balanced. -/
theorem of_eq (h : st.Balanced env running) (hdepth : st'.depth = st.depth)
    (hmemo : st'.memo = st.memo) (hmisses : st'.misses = st.misses)
    (hhits : env.options.memoize = false → st'.hits = st.hits)
    (hended : st'.isAborted = false → st.isAborted = false) : st'.Balanced env running := by
  refine ⟨hdepth.trans h.depth, h.nodup, fun hmode slot offset => ?_, fun hlive => ?_,
    fun hmode => ?_⟩
  · rw [Running, hmemo]
    exact h.running hmode slot offset
  · rw [State.entries, hmemo, hmisses]
    exact h.entries (hended hlive)
  · rw [hmemo, hhits hmode, hmisses]
    exact h.unused hmode

/-- With memoization the entries in progress are counted by the depth. -/
theorem inProgress_eq (h : st.Balanced env running) (hmode : env.options.memoize = true) :
    st.memo.inProgress = st.depth :=
  (MemoTable.inProgress_eq_length (h.nodup hmode) (h.running hmode)).trans h.depth.symm

theorem raise (h : st.Balanced env running) (abort : Abort) :
    (st.raise abort).Balanced env running :=
  h.of_eq (raise_depth _ _) (raise_memo _ _) (raise_misses _ _) (fun _ => raise_hits _ _)
    fun hlive => by simp at hlive

end Balanced

end State

namespace Env

variable {env : Env}

/-- A call leaves the entries in progress as they were, on every path and from every
state. -/
theorem call_running_iff (fuel : Nat) {slot : SlotId} {offset : Nat} {st st' : State}
    {answer : Option Match} (h : env.call fuel slot offset st = some (answer, st'))
    (slot' : SlotId) (offset' : Nat) : st'.Running slot' offset' ↔ st.Running slot' offset' := by
  induction fuel generalizing slot offset st answer st' with
  | zero => contradiction
  | succ fuel ih =>
      have hbody {first last : State} {result : Option Match}
          (hexec : (env.planOf slot offset).exec env.options (env.call fuel) first =
            some (result, last)) : last.Running slot' offset' ↔ first.Running slot' offset' :=
        (Plan.Meets.exec (I := fun st => st.Running slot' offset' ↔ first.Running slot' offset')
          (fun _ hst hcall => ⟨(ih hcall).trans hst, fun _ _ => trivial⟩)
          (fun _ hst => by rwa [State.Running, State.raise_memo]) (Plan.meets_any _) .rfl hexec).1
      cases answer_eq_some_iff.1 h with
      | stopped | recursive | knownFailure | knownMatch => exact .rfl
      | refused =>
          rw [State.Running, State.raise_memo]
          exact .rfl
      | ran _ _ _ hexec =>
          have hrun := hbody hexec
          rw [State.Running, State.finish_memo]
          exact hrun
      | @missed _ last _ _ _ hentry hexec =>
          have hlast : last.Running slot' offset' ↔
              (slot = slot' ∧ offset = offset') ∨ st.Running slot' offset' :=
            (hbody hexec).trans State.running_reserve_iff
          have hfree : st.Running slot' offset' → ¬(slot = slot' ∧ offset = offset') := by
            rintro hrunning ⟨rfl, rfl⟩
            rw [State.Running, hentry] at hrunning
            contradiction
          rw [State.running_settle_iff, State.Running, State.finish_memo]
          change _ ∧ last.Running slot' offset' ↔ _
          rw [hlast]
          constructor
          · rintro ⟨hother, hrunning⟩
            exact hrunning.resolve_left hother
          · intro hrunning
            exact ⟨hfree hrunning, .inr hrunning⟩

/-! ## Moments -/

theorem AtOnce.balanced {slot : SlotId} {offset : Nat} {st st' : State} {answer : Option Match}
    {running : List (SlotId × Nat)} (h : env.AtOnce slot offset st answer st')
    (hst : st.Balanced env running) : st'.Balanced env running := by
  cases h with
  | stopped => exact hst
  | refused =>
      have hentered : (st.enter slot offset).Balanced env running :=
        hst.of_eq rfl rfl rfl (fun _ => rfl) id
      exact hentered.raise _
  | recursive => exact hst.of_eq rfl rfl rfl (fun _ => rfl) id
  | knownFailure _ _ hmode | knownMatch _ _ hmode =>
      exact hst.of_eq rfl rfl rfl (fun hoff => by simp [hmode] at hoff) id

theorem Begins.balanced {slot : SlotId} {offset : Nat} {st first : State}
    {running : List (SlotId × Nat)} (h : env.Begins slot offset st first)
    (hst : st.Balanced env running) : first.Balanced env ((slot, offset) :: running) := by
  have hdepth : first.depth = ((slot, offset) :: running).length := by
    rw [h.depth, hst.depth, List.length_cons]
  cases h with
  | ran hmode =>
      exact ⟨hdepth, fun hon => by simp [hmode] at hon, fun hon => by simp [hmode] at hon,
        hst.entries, hst.unused⟩
  | missed hmode hentry =>
      have hnew : (slot, offset) ∉ running := by
        rw [← hst.running hmode, State.Running, hentry]
        simp
      refine ⟨hdepth, fun hon => List.nodup_cons.2 ⟨hnew, hst.nodup hon⟩,
        fun _ slot' offset' => ?_, fun hlive => ?_, fun hoff => by simp [hmode] at hoff⟩
      · have hreserved : (st.reserve slot offset).Running slot' offset' ↔
            (slot = slot' ∧ offset = offset') ∨ st.Running slot' offset' :=
          State.running_reserve_iff
        rw [List.mem_cons, Prod.mk.injEq, ← hst.running hmode, eq_comm (a := slot'),
          eq_comm (a := offset')]
        exact hreserved
      · have hsize := MemoTable.size_insert st.memo slot offset .inProgress
        rw [hentry] at hsize
        have hbefore : st.memo.size = st.misses := hst.entries hlive
        show (st.memo.insert slot offset .inProgress).size = st.misses + 1
        rw [hsize, ← hbefore]
        rfl

theorem Leaves.balanced {slot : SlotId} {offset : Nat} {result answer : Option Match}
    {st st' : State} {running : List (SlotId × Nat)}
    (h : env.Leaves slot offset result st answer st')
    (hst : st.Balanced env ((slot, offset) :: running)) : st'.Balanced env running := by
  have hdepth : st.depth = running.length + 1 := hst.depth
  cases h with
  | ran hmode =>
      refine ⟨by rw [State.finish_depth]; omega, fun hon => by simp [hmode] at hon,
        fun hon => by simp [hmode] at hon, fun hlive => ?_, fun hoff => ?_⟩
      · rw [State.entries, State.finish_memo, State.finish_misses]
        exact hst.entries (State.finish_isAborted _ _ _ _ _ ▸ hlive)
      · rw [State.finish_memo, State.finish_misses, State.finish_hits]
        exact hst.unused hoff
  | missed hmode =>
      obtain ⟨hnew, hnodup⟩ := List.nodup_cons.1 (hst.nodup hmode)
      have hentry : st.Running slot offset := (hst.running hmode _ _).2 (List.mem_cons_self ..)
      refine ⟨by rw [State.settle_depth, State.finish_depth]; omega, fun _ => hnodup,
        fun _ slot' offset' => ?_, fun hlive => ?_, fun hoff => by simp [hmode] at hoff⟩
      · have hfinish : (st.finish slot offset (env.grammar.name? slot) result).Running slot' offset'
            ↔ (slot', offset') = (slot, offset) ∨ (slot', offset') ∈ running := by
          rw [State.Running, State.finish_memo, ← List.mem_cons]
          exact hst.running hmode slot' offset'
        rw [State.running_settle_iff, hfinish, Prod.mk.injEq, eq_comm (a := slot'),
          eq_comm (a := offset')]
        constructor
        · rintro ⟨hother, hmem⟩
          exact hmem.resolve_left hother
        · intro hmem
          refine ⟨?_, .inr hmem⟩
          rintro ⟨rfl, rfl⟩
          exact hnew hmem
      · rw [State.settle_isAborted] at hlive
        rw [State.settle_of_not_isAborted hlive]
        rw [State.finish_isAborted] at hlive
        have hbefore : st.memo.size = st.misses := hst.entries hlive
        simp only [State.entries, State.finish_memo, State.finish_misses, MemoTable.size_insert,
          ← hbefore]
        rw [State.Running] at hentry
        simp [hentry]

/-- Every step keeps the state balanced. -/
theorem Next.balanced {m m' : Moment} (h : env.Next m m')
    (hm : m.state.Balanced env m.running) : m'.state.Balanced env m'.running := by
  cases h with
  | atOnce hanswer => exact hanswer.balanced hm
  | begin _ _ hbegins => exact hbegins.balanced hm
  | abort => exact hm.raise _
  | leave hleaves => exact hleaves.balanced hm
  | start | ask | look | ended | apply | resume | outside => exact hm

theorem Passes.balanced {m m' : Moment} {passed : List Moment} (h : env.Passes m passed m')
    (hm : m.state.Balanced env m.running) :
    m'.state.Balanced env m'.running ∧ ∀ x ∈ passed, x.state.Balanced env x.running :=
  h.keeps (I := fun m => m.state.Balanced env m.running) (fun hstep => hstep.balanced) hm

/-! ## Finished entries -/

/-- A step leaves a finished entry alone: a body fills in its own entry, which is in
progress until then. -/
theorem Next.keepsFinished {m m' : Moment} (h : env.Next m m')
    (hm : m.state.Balanced env m.running) {slot : SlotId} {offset : Nat} {memo : Memo}
    (hentry : m.state.memo.find? slot offset = some memo) (hdone : memo ≠ .inProgress) :
    m'.state.memo.find? slot offset = some memo := by
  cases h with
  | atOnce hanswer =>
      cases hanswer with
      | stopped | recursive | knownFailure | knownMatch => exact hentry
      | refused =>
          rw [State.raise_memo]
          exact hentry
  | @begin slot' offset' _ _ st _ _ _ hbegins =>
      cases hbegins with
      | ran => exact hentry
      | missed _ hfree =>
          have hother : ¬(slot' = slot ∧ offset' = offset) := by
            rintro ⟨rfl, rfl⟩
            exact absurd (hfree.symm.trans hentry) nofun
          show (st.memo.insert slot' offset' .inProgress).find? slot offset = some memo
          rw [MemoTable.find?_insert, if_neg hother]
          exact hentry
  | abort =>
      rw [State.raise_memo]
      exact hentry
  | @leave slot' offset' result _ _ _ st _ hleaves =>
      cases hleaves with
      | ran =>
          rw [State.finish_memo]
          exact hentry
      | missed hmode =>
          have hother : ¬(slot' = slot ∧ offset' = offset) := by
            rintro ⟨rfl, rfl⟩
            have hrunning : st.Running slot' offset' :=
              (hm.running hmode _ _).2 (List.mem_cons_self ..)
            exact hdone (Option.some.inj (hentry.symm.trans hrunning))
          rw [State.find?_settle, if_neg hother, State.finish_memo]
          exact hentry
  | start | ask | look | ended | apply | resume | outside => exact hentry

theorem Passes.keepsFinished {m m' : Moment} {passed : List Moment} (h : env.Passes m passed m')
    (hm : m.state.Balanced env m.running) {slot : SlotId} {offset : Nat} {memo : Memo}
    (hentry : m.state.memo.find? slot offset = some memo) (hdone : memo ≠ .inProgress) :
    m'.state.memo.find? slot offset = some memo := by
  induction h with
  | nil => exact hentry
  | cons hstep _ ih => exact ih (hstep.balanced hm) (hstep.keepsFinished hm hentry hdone)

/-! ## After an early end -/

/-- The step in which a run ends neither makes nor removes an entry. -/
theorem Next.of_ending {m m' : Moment} (h : env.Next m m') (hlive : m.state.isAborted = false)
    (hended : m'.state.isAborted = true) :
    m'.state.memo = m.state.memo ∧ m'.state.misses = m.state.misses ∧
      m'.running.length = m.running.length := by
  cases h with
  | atOnce hanswer =>
      cases hanswer with
      | refused => exact ⟨State.raise_memo _ _, State.raise_misses _ _, rfl⟩
      | stopped | recursive | knownFailure | knownMatch => exact ⟨rfl, rfl, rfl⟩
  | begin _ _ hbegins =>
      exact absurd ((hbegins.isAborted_eq.trans hlive).symm.trans hended) nofun
  | abort => exact ⟨State.raise_memo _ _, State.raise_misses _ _, rfl⟩
  | leave hleaves =>
      exact absurd ((hleaves.isAborted_eq.trans hlive).symm.trans hended) nofun
  | start | ask | look | ended | apply | resume | outside => exact ⟨rfl, rfl, rfl⟩

/-- After the end of a run each body that comes back takes its entry with it. -/
theorem Next.unwinds {m m' : Moment} (h : env.Next m m') (hmode : env.options.memoize = true)
    (hm : m.state.Balanced env m.running) (hended : m.state.isAborted = true) :
    m'.state.entries + m.running.length = m.state.entries + m'.running.length := by
  cases h with
  | atOnce hanswer =>
      rw [(hanswer.of_isAborted hended).2]
      rfl
  | begin hlive =>
      rw [hlive] at hended
      contradiction
  | abort =>
      rw [State.raise_of_isAborted hended]
      rfl
  | @leave slot offset result answer callers todo st st' hleaves =>
      cases hleaves with
      | ran hoff => simp [hmode] at hoff
      | missed =>
          have hentry : st.Running slot offset := (hm.running hmode _ _).2 (List.mem_cons_self ..)
          have hover : (st.finish slot offset (env.grammar.name? slot) result).isAborted = true :=
            (State.finish_isAborted _ _ _ _ _).trans hended
          have hsize : (st.memo.erase slot offset).size + 1 = st.memo.size :=
            MemoTable.size_erase_of_some hentry
          rw [State.settle_of_isAborted hover]
          simp only [State.entries, State.finish_memo, Moment.running, List.length_cons]
          omega
  | start | ask | look | ended | apply | resume | outside => rfl

/-- After the end of a run the entries and the bodies that still run become fewer
together. -/
theorem Passes.unwinds {m m' : Moment} {passed : List Moment} (h : env.Passes m passed m')
    (hmode : env.options.memoize = true) (hm : m.state.Balanced env m.running)
    (hended : m.state.isAborted = true) :
    m'.state.entries + m.running.length = m.state.entries + m'.running.length := by
  induction h with
  | nil => rfl
  | cons hstep _ ih =>
      have hfirst := hstep.unwinds hmode hm hended
      have hrest := ih (hstep.balanced hm) ((hstep.stands hended).isAborted_eq.trans hended)
      omega

/-- When a run has ended there was a moment at which it did. For each body that was
running then and has come back, there is a question that has no entry. -/
theorem Passes.ended {m m' : Moment} {passed : List Moment} (h : env.Passes m passed m')
    (hmode : env.options.memoize = true) (hm : m.state.Balanced env m.running)
    (hlive : m.state.isAborted = false) (hended : m'.state.isAborted = true) :
    ∃ ending ∈ passed, ending.state.isAborted = false ∧ ending.raised env = m'.state.abort ∧
      m'.state.entries + ending.running.length = m'.state.misses + m'.running.length := by
  induction h with
  | nil =>
      rw [hlive] at hended
      contradiction
  | @cons m next m' passed hstep hrest ih =>
      have hnext := hstep.balanced hm
      cases hover : next.state.isAborted with
      | false =>
          obtain ⟨ending, hmem, hending⟩ := ih hnext hover hended
          exact ⟨ending, List.mem_cons_of_mem _ hmem, hending⟩
      | true =>
          have hstands := hrest.stands hover
          refine ⟨m, List.mem_cons_self .., hlive,
            (hstep.abort_eq hlive).symm.trans hstands.abort.symm, ?_⟩
          obtain ⟨hmemo, hmisses, hlength⟩ := hstep.of_ending hlive hover
          have hunwinds := hrest.unwinds hmode hnext hover
          have hentries : next.state.entries = m.state.entries := congrArg MemoTable.size hmemo
          have hpace := hm.entries hlive
          have hkept := hstands.misses
          omega

/-! ## Whole runs -/

/-- What holds of the table and the depth at a moment of a run on a fresh state that has
passed some moments. -/
structure Paced (env : Env) (passed : List Moment) (m : Moment) : Prop where
  depth : m.state.depth = m.running.length
  inProgress : env.options.memoize = true → m.state.memo.inProgress = m.state.depth
  running : env.options.memoize = true →
    ∀ slot offset, m.state.Running slot offset ↔ (slot, offset) ∈ m.running
  /-- An entry that has been finished is never changed or removed. -/
  finished : ∀ earlier ∈ passed, ∀ slot offset memo,
    earlier.state.memo.find? slot offset = some memo → memo ≠ .inProgress →
      m.state.memo.find? slot offset = some memo
  entries : m.state.isAborted = false → m.state.entries = m.state.misses
  /-- If the run has ended, then in `ending`, and as many bodies were running as have
  come back without an entry or are still running. -/
  ended : env.options.memoize = true → m.state.isAborted = true →
    ∃ ending ∈ passed, ending.state.isAborted = false ∧ ending.raised env = m.state.abort ∧
      m.state.entries + ending.running.length = m.state.misses + m.running.length
  unused : env.options.memoize = false →
    m.state.memo = .empty ∧ m.state.hits = 0 ∧ m.state.misses = 0

/-- What holds of a state after a call from outside in a run that has passed some
moments. -/
structure Settled (env : Env) (passed : List Moment) (st : State) : Prop where
  depth : st.depth = 0
  idle : ∀ slot offset, ¬st.Running slot offset
  entries : st.isAborted = false → st.entries = st.misses
  /-- If the run has ended, then in `ending`, and each body that was running there is a
  question without an entry. -/
  ended : env.options.memoize = true → st.isAborted = true →
    ∃ ending ∈ passed, ending.state.isAborted = false ∧ ending.raised env = st.abort ∧
      st.entries + ending.running.length = st.misses

theorem Passes.paced {asked : List (SlotId × Nat)} {passed : List Moment} {m : Moment}
    (h : env.Passes (.first asked {}) passed m) : env.Paced passed m := by
  obtain ⟨hm, hpassed⟩ := h.balanced (.fresh env)
  refine ⟨hm.depth, hm.inProgress_eq, hm.running, ?_, hm.entries, fun hmode hended => ?_, hm.unused⟩
  · intro earlier hmem slot offset memo hentry hdone
    obtain ⟨before, after, -, -, hafter⟩ := h.of_mem hmem
    exact hafter.keepsFinished (hpassed earlier hmem) hentry hdone
  · exact h.ended hmode (.fresh env) rfl hended

/-- No body is running when a call from outside has been answered. -/
theorem Paced.settled {slot : SlotId} {offset : Nat} {answer : Option Match}
    {todo : List (SlotId × Nat)} {st : State} {before passed : List Moment}
    (h : env.Paced before ⟨.answer slot offset answer, [], todo, st⟩) (hsub : before ⊆ passed) :
    env.Settled passed st := by
  refine ⟨h.depth, fun slot' offset' hrunning => ?_, h.entries, fun hmode hended => ?_⟩
  · cases hmode : env.options.memoize with
    | true => exact absurd ((h.running hmode _ _).1 hrunning) List.not_mem_nil
    | false =>
        have hempty : st.memo = .empty := (h.unused hmode).1
        rw [State.Running, hempty, MemoTable.find?_empty] at hrunning
        contradiction
  · obtain ⟨ending, hmem, hlive, hraised, hpace⟩ := h.ended hmode hended
    exact ⟨ending, hsub hmem, hlive, hraised, hpace⟩

/-- The memo table and the depth keep pace with the bodies that are running. A call
leaves the depth and the entries in progress as they were, from any state and on any
path. At all moments of all runs on a fresh state, whether or not they end, `Paced`
holds. Calls one after another that end are such a run, and after each of them the
state is settled. -/
theorem run_balanced (env : Env) :
    (∀ fuel slot offset st answer st', env.call fuel slot offset st = some (answer, st') →
      st'.depth = st.depth ∧
        ∀ slot' offset', st'.Running slot' offset' ↔ st.Running slot' offset') ∧
    (∀ asked passed m, env.Passes (.first asked {}) passed m → env.Paced passed m) ∧
    ∀ fuel asked runs, env.calls fuel asked {} = some runs →
      ∃ passed, env.Passes (.first asked {}) passed (.last (stateAfter {} runs)) ∧
        List.Forall₂ (fun _ run => env.Settled passed run.2) asked runs := by
  refine ⟨fun fuel slot offset st answer st' h =>
    ⟨(call_precedes fuel h).depth, call_running_iff fuel h⟩, fun asked passed m h => h.paced,
    fun fuel asked runs h => ?_⟩
  obtain ⟨passed, hpassed, hruns⟩ := calls_passes h
  refine ⟨passed, hpassed, hruns.imp fun place run hrun => ?_⟩
  obtain ⟨rest, hmem⟩ := hrun
  obtain ⟨before, after, rfl, hbefore, -⟩ := hpassed.of_mem hmem
  exact hbefore.paced.settled (List.subset_append_left ..)

/-- Itself and an `x`, or an `x` that is refused. -/
def recursing : Env where
  grammar := ⟨#[.choice 1 2, .sequence 0 3, .tryMap (fun _ => .error (.refusal "no")) 3,
    .primitive (.char 'x')], [("recursing", 0)]⟩
  source := .ofString "x"
  options := {}

/-- The choice and the refusal are running when the run ends: four questions leave two
entries. -/
theorem run_balanced_recursing :
    ∃ run passed, recursing.calls 3 [(0, 0)] {} = some [run] ∧
      recursing.Passes (.first [(0, 0)] {}) passed (.last run.2) ∧
      run.2.entries = 2 ∧ run.2.misses = 4 ∧ ∃ ending ∈ passed, ending.running.length = 2 := by
  obtain ⟨run, hcalls, hended, hentries, hmisses⟩ :
      ∃ run, recursing.calls 3 [(0, 0)] {} = some [run] ∧ run.2.isAborted = true ∧
        run.2.entries = 2 ∧ run.2.misses = 4 := ⟨_, rfl, rfl, rfl, rfl⟩
  obtain ⟨passed, hpassed, hsettled⟩ := (run_balanced recursing).2.2 3 _ [run] hcalls
  obtain ⟨hfirst, -⟩ := List.forall₂_cons.1 hsettled
  obtain ⟨ending, hmem, -, -, hpace⟩ := hfirst.ended rfl hended
  exact ⟨run, passed, hcalls, hpassed, hentries, hmisses, ending, hmem, by omega⟩

end Env

end Packrat
