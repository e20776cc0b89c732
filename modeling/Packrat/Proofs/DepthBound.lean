import Packrat.Proofs.Nesting
/-!
# Runs with a depth limit come to an end

Without memoization a left-recursive parser calls itself again and again at the offset
where it is, and nothing but the depth limit stops it. Two things bound a run then. Each
body that begins to run is one level deeper than its caller, and none begins at the limit.
And loops come to an end by themselves (`Env.iterate_exec_budget`).

## Main results

* `Env.Passes.depth_le` — no more bodies are running than the limit allows.
* `Env.depth_bounded` — what holds of all runs without memoization and with a limit.
-/

namespace Packrat

namespace Env

variable {env : Env}

/-! ## Depths -/

theorem AtOnce.depth_eq {slot : SlotId} {offset : Nat} {st st' : State}
    {answer : Option Match} (h : env.AtOnce slot offset st answer st') :
    st'.depth = st.depth := by
  cases h with
  | refused => exact State.raise_depth _ _
  | stopped | recursive | knownFailure | knownMatch => rfl

theorem Leaves.depth_eq {slot : SlotId} {offset : Nat} {result answer : Option Match}
    {st st' : State} (h : env.Leaves slot offset result st answer st') :
    st'.depth = st.depth - 1 := by
  cases h <;> simp

/-- A call at the limit is told so. -/
theorem atLimit_eq_some {st : State} {bound limit : Nat}
    (hlimit : env.options.maxDepth = some limit) (h : env.atLimit st = some bound) :
    bound = limit ∧ limit ≤ st.depth := by
  obtain ⟨hsome, hle⟩ := Option.filter_eq_some_iff.1 h
  obtain rfl := Option.some.inj (hlimit.symm.trans hsome)
  exact ⟨rfl, of_decide_eq_true hle⟩

/-- The depth is the number of bodies that are running, and none begins to run at the
limit. -/
theorem Next.depth_le {limit : Nat} (hlimit : env.options.maxDepth = some limit) {m m' : Moment}
    (h : env.Next m m') (hm : m.state.depth = m.running.length ∧ m.running.length ≤ limit) :
    m'.state.depth = m'.running.length ∧ m'.running.length ≤ limit := by
  obtain ⟨hdepth, hle⟩ := hm
  cases h with
  | atOnce hanswer => exact ⟨hanswer.depth_eq.trans hdepth, hle⟩
  | @begin _ _ callers _ st _ _ hroom hbegins =>
      have hcallers : st.depth = (callers.map fun c => (c.slot, c.offset)).length := hdepth
      have hbelow : st.depth < limit := atLimit_eq_none_iff.1 hroom limit hlimit
      have hfirst := hbegins.depth
      simp only [Moment.running, List.length_cons]
      omega
  | abort => exact ⟨(State.raise_depth _ _).trans hdepth, hle⟩
  | @leave _ _ _ _ callers _ st _ hleaves =>
      have hbody : st.depth = (callers.map fun c => (c.slot, c.offset)).length + 1 := hdepth
      have hback := hleaves.depth_eq
      simp only [Moment.running, List.length_cons] at hle ⊢
      omega
  | start | ask | look | ended | apply | resume | outside => exact ⟨hdepth, hle⟩

/-- At all moments of a run the depth is the number of bodies that are running, and no
more than the limit. -/
theorem Passes.depth_le {limit : Nat} (hlimit : env.options.maxDepth = some limit)
    {asked : List (SlotId × Nat)} {st : State} {passed : List Moment} {m : Moment}
    (h : env.Passes (.first asked st) passed m) (hidle : st.depth = 0) :
    (m.state.depth = m.running.length ∧ m.running.length ≤ limit) ∧
      ∀ x ∈ passed, x.state.depth = x.running.length ∧ x.running.length ≤ limit :=
  h.keeps (I := fun m => m.state.depth = m.running.length ∧ m.running.length ≤ limit)
    (fun hstep => hstep.depth_le hlimit) ⟨hidle, Nat.zero_le limit⟩

/-- If a run has ended at the limit, a call was refused while as many bodies were running
as the limit allows. -/
theorem Passes.refused {limit : Nat} (hlimit : env.options.maxDepth = some limit)
    {asked : List (SlotId × Nat)} {st : State} {passed : List Moment} {m : Moment}
    (h : env.Passes (.first asked st) passed m) (hidle : st.depth = 0)
    (hlive : st.isAborted = false) {bound position : Nat}
    (habort : m.state.abort = some (.recursionLimit bound position)) :
    bound = limit ∧ ∃ refused ∈ passed, refused.state.isAborted = false ∧
      (∃ slot, refused.doing = .call slot position) ∧ refused.running.length = limit := by
  rw [h.abort_eq hlive] at habort
  obtain ⟨refused, hmem, hraised⟩ := List.mem_filterMap.1 (List.mem_of_mem_head? habort)
  obtain ⟨hdepth, hle⟩ := (h.depth_le hlimit hidle).2 refused hmem
  obtain ⟨doing, callers, todo, st'⟩ := refused
  cases doing with
  | idle => contradiction
  | answer => contradiction
  | body slot offset work =>
      cases work with
      | abort => exact absurd (Option.some.inj hraised) nofun
      | _ => contradiction
  | call slot offset =>
      cases hended : st'.isAborted with
      | true => simp [Moment.raised, hended] at hraised
      | false =>
          rw [Moment.raised_call hended] at hraised
          obtain ⟨bound', hroom, herror⟩ := Option.map_eq_some_iff.1 hraised
          obtain ⟨rfl, rfl⟩ := Abort.recursionLimit.inj herror
          obtain ⟨rfl, hge⟩ := atLimit_eq_some hlimit hroom
          exact ⟨rfl, _, hmem, hended, ⟨slot, rfl⟩, Nat.le_antisymm hle (hdepth ▸ hge)⟩

/-! ## All runs -/

/-- What holds at a moment of a run that has passed some moments, with a depth limit. -/
structure DepthBounded (limit : Nat) (passed : List Moment) (m : Moment) : Prop where
  depth : m.state.depth = m.running.length
  le : m.state.depth ≤ limit
  /-- If the run has ended at a limit it is this one, and it ended in `refused`. -/
  refused : ∀ bound position, m.state.abort = some (.recursionLimit bound position) →
    bound = limit ∧ ∃ refused ∈ passed, refused.state.isAborted = false ∧
      (∃ slot, refused.doing = .call slot position) ∧ refused.running.length = limit

/-- Without memoization and with a depth limit every call is answered, whatever the grammar,
the offset and the state. -/
theorem parse_ends_of_limit {limit : Nat} (hmode : env.options.memoize = false)
    (hlimit : env.options.maxDepth = some limit) (slot : SlotId) (start : Nat) (st : State) :
    ∃ answer st', env.parse slot start st = some (answer, st') := by
  have hfuel : env.fuel = limit + 1 := by
    simp only [fuel, hlimit, hmode]
    rfl
  exact call_ends_of_limit hlimit env.fuel slot start st env.fuel_pos (by omega)

/-- Calls one after another come to an end if each of them does. -/
theorem calls_end {fuel : Nat}
    (hcall : ∀ slot start st, ∃ answer st', env.call fuel slot start st = some (answer, st'))
    (asked : List (SlotId × Nat)) (st : State) : ∃ runs, env.calls fuel asked st = some runs := by
  induction asked generalizing st with
  | nil => exact ⟨[], rfl⟩
  | cons place rest ih =>
      obtain ⟨slot, start⟩ := place
      obtain ⟨answer, st', hanswer⟩ := hcall slot start st
      obtain ⟨runs, hruns⟩ := ih st'
      exact ⟨(answer, st') :: runs, by simp only [calls, hanswer, hruns, Option.map_some]⟩

/-- Without memoization and with a depth limit all runs come to an end, those of
left-recursive parsers too. Every call is answered, from any state and at any offset, and
calls one after another come to rest after finitely many steps. At all moments of such a
run `DepthBounded` holds. And no loop is cut short by the number of rounds that it is given:
with more of them it does the same. -/
theorem depth_bounded {limit : Nat} (hmode : env.options.memoize = false)
    (hlimit : env.options.maxDepth = some limit) :
    (∀ slot start st, ∃ answer st', env.parse slot start st = some (answer, st')) ∧
    (∀ asked st, ∃ passed last, env.Passes (.first asked st) passed (.last last)) ∧
    (∀ asked st passed m, st.depth = 0 → st.isAborted = false →
      env.Passes (.first asked st) passed m → DepthBounded limit passed m) ∧
    ∀ {α β : Type} {round : Nat → Plan (Option (β × Nat))}, Body.Round round →
      ∀ (add : α → β → α) (fuel more : Nat) (total : α) (offset : Nat) (st : State),
        st.MemoSound env.source →
        (Plan.iterate round add (Body.budget env.source offset + more) total offset).exec
            env.options (env.call fuel) st =
          (Plan.iterate round add (Body.budget env.source offset) total offset).exec
            env.options (env.call fuel) st := by
  have hends := parse_ends_of_limit hmode hlimit
  refine ⟨hends, fun asked st => ?_, fun asked st passed m hidle hlive h => ?_, ?_⟩
  · obtain ⟨runs, hruns⟩ := calls_end hends asked st
    obtain ⟨passed, hpassed, -⟩ := calls_passes hruns
    exact ⟨passed, _, hpassed⟩
  · obtain ⟨⟨hdepth, hle⟩, -⟩ := h.depth_le hlimit hidle
    exact ⟨hdepth, hdepth ▸ hle, fun _ _ habort => h.refused hlimit hidle hlive habort⟩
  · intro α β round hround add fuel more total offset st hmemo
    exact iterate_exec_budget hround add fuel more hmemo (Nat.lt_succ_self _)

/-- Itself and an `x`, or an `x`: without end but for the limit. -/
def descending : Env where
  grammar := ⟨#[.choice 1 2, .sequence 0 2, .primitive (.char 'x')], [("descending", 0)]⟩
  source := .ofString "xx"
  options := { memoize := false, maxDepth := some 5 }

/-- The parser is refused at the start of the source, when five bodies are running. -/
theorem depth_bounded_descending :
    descending.options.memoize = false ∧ descending.options.maxDepth = some 5 ∧
      ∃ passed last, descending.Passes (.first [(0, 0)] {}) passed (.last last) ∧
        last.abort = some (.recursionLimit 5 0) ∧
        ∃ refused ∈ passed, (∃ slot, refused.doing = .call slot 0) ∧
          refused.running.length = 5 := by
  obtain ⟨-, -, hbounded, -⟩ := @depth_bounded descending 5 rfl rfl
  obtain ⟨run, hrun, habort⟩ : ∃ run, descending.calls 6 [(0, 0)] {} = some [run] ∧
      run.2.abort = some (.recursionLimit 5 0) := ⟨_, rfl, rfl⟩
  obtain ⟨passed, hpassed, -⟩ := calls_passes hrun
  have hlast := hbounded [(0, 0)] {} passed _ rfl rfl hpassed
  obtain ⟨-, refused, hmem, -, hdoing, hrunning⟩ := hlast.refused 5 0 habort
  exact ⟨rfl, rfl, passed, run.2, hpassed, habort, refused, hmem, hdoing, hrunning⟩

end Env

end Packrat
