import Mathlib.Data.List.MinMax
import Mathlib.Order.Nat
import Packrat.Proofs.Balance
/-!
# How deep calls are nested

A call is made at a depth, the number of bodies that are running. A run comes down one
level at a time: before a call is made at some depth there has been one at each smaller
depth. So the calls of a run take up all depths below its nesting, `Moment.nesting`.

After an early end calls are still made, while the bodies that wait are given their
answers. None of them is deeper than the calls before: a body that calls a parser does
so before anything else, and a body that ends the run calls none.

## Main results

* `Body.work_opens` — a body calls a parser before anything else, or never.
* `Env.Next.descends` — a run comes down one level at a time.
* `Env.Passes.first_entrance` — the first call at a depth is made in a run that goes on,
  and all calls before it are less deep.
-/

namespace Packrat

/-! ## What bodies do first -/

namespace Work

variable {α β : Type}

/-- Work in which no parser is called. -/
def NoAsk : Work α → Prop
  | .done _ => True
  | .abort _ _ next => next.NoAsk
  | .ask _ _ _ => False
  | .look resume => ∀ snapshot, (resume snapshot).NoAsk
  | .ended resume => ∀ ended, (resume ended).NoAsk
  | .apply _ next => next.NoAsk

/-- Work that begins with a call. -/
def Opens : Work α → Prop
  | .ask _ _ _ => True
  | _ => False

end Work

/-- A body calls a parser before anything else, or never. -/
theorem Body.work_opens (body : Body) (src : Source) (start : Nat) :
    (body.work src start).NoAsk ∨ (body.work src start).Opens := by
  cases body with
  | primitive p =>
      refine .inl ?_
      simp only [work, plan]
      split <;> exact True.intro
  | _ => exact .inr True.intro

/-! ## Calls and their depths -/

/-- A call as it is made: how many bodies are running then, and the offset. -/
structure Entrance where
  depth : Nat
  offset : Nat
deriving Repr, DecidableEq

namespace Moment

/-- The call that is made at a moment. -/
def entrance? (m : Moment) : Option Entrance :=
  match m.doing with
  | .call _ offset => some ⟨m.state.depth, offset⟩
  | _ => none

/-- The calls that are made at some moments, in order. -/
def entrances (moments : List Moment) : List Entrance := moments.filterMap entrance?

/-- The greatest nesting of the calls that are made at some moments. -/
def nesting (moments : List Moment) : Nat :=
  ((entrances moments).map (·.depth + 1)).foldr max 0

theorem depth_lt_nesting {moments : List Moment} {entrance : Entrance}
    (h : entrance ∈ entrances moments) : entrance.depth < nesting moments := by
  have hmem : entrance.depth + 1 ∈ (entrances moments).map (·.depth + 1) :=
    List.mem_map_of_mem h
  exact List.le_max_of_le hmem (Nat.le_refl _)

theorem exists_of_lt_nesting {moments : List Moment} {depth : Nat}
    (h : depth < nesting moments) : ∃ entrance ∈ entrances moments, depth ≤ entrance.depth := by
  by_contra hnone
  have hle : nesting moments ≤ depth := by
    refine List.max_le_of_forall_le _ _ fun n hn => ?_
    obtain ⟨entrance, hmem, rfl⟩ := List.mem_map.1 hn
    exact Nat.lt_of_not_le fun hge => hnone ⟨entrance, hmem, hge⟩
  omega

/-- How many calls are waiting for an answer or have just been answered. -/
def level (m : Moment) : Nat :=
  match m.doing with
  | .idle | .call _ _ => m.callers.length
  | .body _ _ _ | .answer _ _ _ => m.callers.length + 1

/-- A call has been made at a depth. -/
def Seen (passed : List Moment) (depth : Nat) : Prop :=
  ∃ entrance ∈ entrances passed, entrance.depth = depth

theorem Seen.mono {passed : List Moment} {depth : Nat} (h : Seen passed depth)
    (later : List Moment) : Seen (passed ++ later) depth := by
  obtain ⟨entrance, hmem, hdepth⟩ := h
  refine ⟨entrance, ?_, hdepth⟩
  rw [entrances, List.filterMap_append]
  exact List.mem_append_left _ hmem

theorem seen_of_entrance {passed : List Moment} {m : Moment} {entrance : Entrance}
    (h : m.entrance? = some entrance) : Seen (passed ++ [m]) entrance.depth := by
  refine ⟨entrance, ?_, rfl⟩
  simp [entrances, h]

/-- What may come next at a moment: where the next call has no depth that is new, it does
not matter whether the run goes on. -/
def Continues (passed : List Moment) (m : Moment) : Prop :=
  match m.doing with
  | .idle | .call _ _ => m.state.isAborted = false ∨ Seen passed m.callers.length
  | .body _ _ work =>
    work.NoAsk ∨ (m.state.isAborted = false ∧ work.Opens) ∨ Seen passed (m.callers.length + 1)
  | .answer _ _ _ => True

/-- A run has come down to a moment one level at a time. -/
structure Descends (passed : List Moment) (m : Moment) : Prop where
  seen : ∀ depth < m.level, Seen passed depth
  continues : m.Continues passed

/-- Where a call is made there has been one at each depth down to it. -/
theorem Descends.seen_call {passed : List Moment} {m : Moment} (h : m.Descends passed)
    {slot : SlotId} {offset : Nat} (hdoing : m.doing = .call slot offset)
    (hdepth : m.state.depth = m.running.length) (depth : Nat)
    (hlt : depth < m.callers.length + 1) : Seen (passed ++ [m]) depth := by
  have hlevel : m.level = m.callers.length := by simp only [level, hdoing]
  have hrunning : m.running.length = m.callers.length := by
    simp only [running, hdoing, List.length_map]
  rcases Nat.lt_or_eq_of_le (Nat.le_of_lt_succ hlt) with hlt | heq
  · exact (h.seen depth (by omega)).mono _
  · have hentrance : m.entrance? = some ⟨m.state.depth, offset⟩ := by
      simp only [entrance?, hdoing]
    have hself : Seen (passed ++ [m]) m.state.depth := seen_of_entrance hentrance
    rwa [hdepth, hrunning, ← heq] at hself

end Moment

namespace Env

variable {env : Env}

theorem workOf_opens (slot : SlotId) (offset : Nat) :
    (env.workOf slot offset).NoAsk ∨ (env.workOf slot offset).Opens := by
  unfold workOf
  split
  · exact Body.work_opens _ _ _
  · exact .inl True.intro

/-- A run comes down one level at a time. -/
theorem Next.descends {m m' : Moment} {passed : List Moment} (h : env.Next m m')
    (hdepth : m.state.depth = m.running.length) (hm : m.Descends passed) :
    m'.Descends (passed ++ [m]) := by
  have hcontinues := hm.continues
  have hstill (depth : Nat) (hlt : depth < m.level) : Moment.Seen (passed ++ [m]) depth :=
    (hm.seen depth hlt).mono _
  -- Work that goes on without a call is not at its beginning any more.
  have hgoes {work next : Work (Option Match)} {live live' : Prop} {depth : Nat}
      (h : work.NoAsk ∨ (live ∧ work.Opens) ∨ Moment.Seen passed depth)
      (hopens : ¬work.Opens) (hnext : work.NoAsk → next.NoAsk) :
      next.NoAsk ∨ (live' ∧ next.Opens) ∨ Moment.Seen (passed ++ [m]) depth := by
    rcases h with hnone | ⟨-, hwork⟩ | hseen
    · exact .inl (hnext hnone)
    · exact absurd hwork hopens
    · exact .inr (.inr (hseen.mono _))
  cases h with
  | start => exact ⟨hstill, hcontinues.imp_right (·.mono _)⟩
  | atOnce => exact ⟨hm.seen_call rfl hdepth, True.intro⟩
  | @begin slot offset _ _ st first hlive _ hbegins =>
      refine ⟨hm.seen_call rfl hdepth, ?_⟩
      have hfirst : first.isAborted = false := hbegins.isAborted_eq.trans hlive
      exact (workOf_opens slot offset).imp_right fun hopens => .inl ⟨hfirst, hopens⟩
  | abort => exact ⟨hstill, hgoes hcontinues id id⟩
  | ask =>
      refine ⟨hstill, ?_⟩
      rcases hcontinues with hnone | ⟨hlive, -⟩ | hseen
      · exact hnone.elim
      · exact .inl hlive
      · exact .inr (hseen.mono _)
  | look => exact ⟨hstill, hgoes hcontinues id fun hnone => hnone _⟩
  | ended => exact ⟨hstill, hgoes hcontinues id fun hnone => hnone _⟩
  | apply => exact ⟨hstill, hgoes hcontinues id id⟩
  | leave => exact ⟨hstill, True.intro⟩
  | resume =>
      have hbelow := hstill
      simp only [Moment.level, List.length_cons] at hbelow
      exact ⟨fun depth hlt => hbelow depth (Nat.lt_succ_of_lt hlt),
        .inr (.inr (hbelow _ (Nat.lt_succ_self _)))⟩
  | outside => exact ⟨nofun, .inr (hstill 0 (Nat.lt_succ_self _))⟩

theorem Passes.descends {m m' : Moment} {before passed : List Moment}
    (h : env.Passes m passed m') (hbalanced : m.state.Balanced env m.running)
    (hm : m.Descends before) : m'.Descends (before ++ passed) := by
  induction h generalizing before with
  | nil => simpa using hm
  | cons hstep _ ih =>
      have hnext := ih (hstep.balanced hbalanced) (hstep.descends hbalanced.depth hm)
      rwa [List.append_assoc] at hnext

/-- If a run on a fresh state comes to calls as deep as some depth, the first of them is
made at that depth, and in a run that goes on. -/
theorem Passes.first_entrance {slot : SlotId} {offset depth : Nat} {passed : List Moment}
    {m : Moment} (h : env.Passes ⟨.call slot offset, [], [], {}⟩ passed m)
    (hdepth : depth < Moment.nesting passed) :
    ∃ before x after slot' offset', passed = before ++ x :: after ∧
      env.Passes ⟨.call slot offset, [], [], {}⟩ before x ∧
      x.doing = .call slot' offset' ∧ x.state.depth = depth ∧ x.state.isAborted = false ∧
      ∀ entrance ∈ Moment.entrances before, entrance.depth < depth := by
  let deep (x : Moment) : Bool := x.entrance?.any (depth ≤ ·.depth)
  obtain ⟨x, hfind⟩ : ∃ x, passed.find? deep = some x := by
    obtain ⟨entrance, hmem, hle⟩ := Moment.exists_of_lt_nesting hdepth
    obtain ⟨y, hy, hentrance⟩ := List.mem_filterMap.1 hmem
    exact Option.isSome_iff_exists.1 (List.find?_isSome.2 ⟨y, hy, by simp [deep, hentrance, hle]⟩)
  obtain ⟨hdeep, before, after, rfl, hbefore⟩ := List.find?_eq_some_iff_append.1 hfind
  obtain ⟨hpassed, -⟩ := h.split
  have hshallow (entrance : Entrance) (hmem : entrance ∈ Moment.entrances before) :
      entrance.depth < depth := by
    obtain ⟨y, hy, hentrance⟩ := List.mem_filterMap.1 hmem
    simpa [deep, hentrance] using hbefore y hy
  have hstart : Moment.Descends [] ⟨.call slot offset, [], [], {}⟩ := ⟨nofun, .inl rfl⟩
  have hx := hpassed.descends (.fresh env) hstart
  have hbalanced := (hpassed.balanced (.fresh env)).1
  obtain ⟨doing, callers, todo, st⟩ := x
  cases doing with
  | call slot' offset' =>
      refine ⟨before, _, after, slot', offset', rfl, hpassed, rfl, ?_⟩
      have hlevel : st.depth = callers.length := hbalanced.depth.trans (List.length_map _)
      have hle : depth ≤ st.depth := by simpa [deep, Moment.entrance?] using hdeep
      have hunseen (n : Nat) (hge : depth ≤ n) : ¬Moment.Seen before n := by
        rintro ⟨entrance, hmem, rfl⟩
        exact Nat.not_le.2 (hshallow entrance hmem) hge
      refine ⟨?_, ?_, hshallow⟩
      · by_contra hne
        have hlt : depth < callers.length := hlevel ▸ Nat.lt_of_le_of_ne hle (Ne.symm hne)
        exact hunseen depth (Nat.le_refl _) (hx.seen depth hlt)
      · rcases hx.continues with hlive | hseen
        · exact hlive
        · exact absurd hseen (hunseen _ (hlevel ▸ hle))
  | idle | body | answer => contradiction

end Env

end Packrat
