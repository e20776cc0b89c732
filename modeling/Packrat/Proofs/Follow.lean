import Mathlib.Data.Finset.Card
import Mathlib.Data.Finset.Range
import Packrat.Proofs.Closed
import Packrat.Proofs.Parallel
/-!
# Grammars that follow one another

Two grammars may do the same with different tables. A parser of the one may have its body
under other names of its parts in the other, and on either side there may be parsers in
between that only pass on what another one gives: references, and, if names are not looked
at, parsers that give a name.

`Grammar.Matches` says this of two slots, given which slots below them correspond. If all
slots that correspond match, then whatever is evaluated in the one grammar is so in the
other, with the same end and with failures to the same effect. A parser that passes on a
failure records it a second time, under the same name and at the same offset, so that
nothing is changed by it.

That the names are the same takes a fact about chains of references: one that comes to an
end has no slot twice, so it is shorter than the table, and the name at its end is found.

## Main definitions

* `Grammar.Resolves` — a chain of references that comes to an end.
* `Grammar.Matches` — how slots of two grammars do the same.

## Main results

* `Grammar.name?_reference` — a reference has the name of the rule that it refers to.
* `Env.eval_follows` — evaluation carries over from one grammar to the other.
-/

namespace Packrat

/-- The name that a body has by itself. -/
def Body.ownName : Body → Option String
  | .named name _ => some name
  | _ => none

namespace Grammar

variable {g : Grammar}

/-! ## Chains of references -/

/-- A slot holds a parser that is no reference behind a number of references. -/
inductive Resolves (g : Grammar) : Nat → SlotId → Prop
  | here {slot : SlotId} (h : ∀ cell, g.bodies[slot]? ≠ some (.reference cell)) :
    g.Resolves 0 slot
  | next {n : Nat} {slot cell : SlotId} (h : g.bodies[slot]? = some (.reference cell))
      (hcell : g.Resolves n cell) : g.Resolves (n + 1) slot

theorem Resolves.unique {n m : Nat} {slot : SlotId} (h : g.Resolves n slot)
    (h' : g.Resolves m slot) : n = m := by
  induction h generalizing m with
  | here hother =>
      cases h' with
      | here => rfl
      | next hbody => exact absurd hbody (hother _)
  | next hbody _ ih =>
      cases h' with
      | here hother => exact absurd hbody (hother _)
      | next hbody' hcell =>
          obtain rfl := Body.reference.inj (Option.some.inj (hbody.symm.trans hbody'))
          rw [ih hcell]

/-- The slots of a chain are all different. -/
private theorem Resolves.slots (hclosed : g.Closed) {n : Nat} {slot : SlotId}
    (h : g.Resolves n slot) (hslot : slot < g.size) :
    ∃ slots ⊆ Finset.range g.size, slots.card = n + 1 ∧
      ∀ other ∈ slots, ∃ i ≤ n, g.Resolves i other := by
  induction h with
  | @here slot hother =>
      refine ⟨{slot}, by simpa using hslot, rfl, fun other hmem => ?_⟩
      rw [Finset.mem_singleton.1 hmem]
      exact ⟨0, Nat.le_refl 0, .here hother⟩
  | @next n slot cell hbody hcell ih =>
      have hin : cell < g.size :=
        hclosed.bodies _ (Array.mem_of_getElem? hbody) cell (by simp [Body.parts])
      obtain ⟨slots, hsub, hcard, hresolves⟩ := ih hin
      have hnew : slot ∉ slots := by
        intro hmem
        obtain ⟨i, hle, hi⟩ := hresolves slot hmem
        have hsame := hi.unique (.next hbody hcell)
        omega
      refine ⟨insert slot slots, ?_, by rw [Finset.card_insert_of_notMem hnew, hcard],
        fun other hmem => ?_⟩
      · exact Finset.insert_subset (Finset.mem_range.2 hslot) hsub
      · rcases Finset.mem_insert.1 hmem with rfl | hmem
        · exact ⟨n + 1, Nat.le_refl _, .next hbody hcell⟩
        · obtain ⟨i, hle, hi⟩ := hresolves other hmem
          exact ⟨i, Nat.le_succ_of_le hle, hi⟩

/-- A chain is shorter than the table. -/
theorem Resolves.lt_size (hclosed : g.Closed) {n : Nat} {slot : SlotId}
    (h : g.Resolves n slot) (hslot : slot < g.size) : n < g.size := by
  obtain ⟨slots, hsub, hcard, -⟩ := h.slots hclosed hslot
  have hle := Finset.card_le_card hsub
  rw [Finset.card_range] at hle
  omega

/-- A parser that is no reference has the name that its body has by itself. -/
theorem nameVia_of_not_reference {slot : SlotId}
    (hother : ∀ cell, g.bodies[slot]? ≠ some (.reference cell)) (fuel : Nat) :
    g.nameVia (fun _ => true) (fuel + 1) slot = (g.bodies[slot]?).bind Body.ownName := by
  rw [nameVia]
  cases hbody : g.bodies[slot]? with
  | none => rfl
  | some body =>
      cases body with
      | reference cell => exact absurd hbody (hother cell)
      | _ => rfl

/-- The name at the end of a chain is found with any fuel that is more than the length of
the chain. -/
private theorem nameVia_of_resolves {n : Nat} {slot : SlotId} (h : g.Resolves n slot)
    {fuel fuel' : Nat} (hfuel : n < fuel) (hfuel' : n < fuel') :
    g.nameVia (fun _ => true) fuel slot = g.nameVia (fun _ => true) fuel' slot := by
  induction h generalizing fuel fuel' with
  | here hother =>
      obtain ⟨fuel, rfl⟩ := Nat.exists_eq_succ_of_ne_zero (Nat.ne_zero_of_lt hfuel)
      obtain ⟨fuel', rfl⟩ := Nat.exists_eq_succ_of_ne_zero (Nat.ne_zero_of_lt hfuel')
      rw [nameVia_of_not_reference hother, nameVia_of_not_reference hother]
  | next hbody hcell ih =>
      obtain ⟨fuel, rfl⟩ := Nat.exists_eq_succ_of_ne_zero (Nat.ne_zero_of_lt hfuel)
      obtain ⟨fuel', rfl⟩ := Nat.exists_eq_succ_of_ne_zero (Nat.ne_zero_of_lt hfuel')
      simp only [nameVia, hbody, if_true]
      exact ih (Nat.lt_of_succ_lt_succ hfuel) (Nat.lt_of_succ_lt_succ hfuel')

theorem lt_size_of_getElem? {slot : SlotId} {body : Body} (h : g.bodies[slot]? = some body) :
    slot < g.size :=
  (Array.getElem?_eq_some_iff.1 h).1

/-- A reference has the name of the rule that it refers to. -/
theorem name?_reference (hclosed : g.Closed) {slot cell : SlotId}
    (hbody : g.bodies[slot]? = some (.reference cell)) {n : Nat} (hcell : g.Resolves n cell) :
    g.name? slot = g.name? cell := by
  have hslot := lt_size_of_getElem? hbody
  have hlt := (Resolves.next hbody hcell).lt_size hclosed hslot
  obtain ⟨fuel, hsize⟩ := Nat.exists_eq_succ_of_ne_zero (Nat.ne_zero_of_lt hslot)
  have hstep : g.name? slot = g.nameVia (fun _ => true) fuel cell := by
    simp only [name?, hsize, Nat.succ_eq_add_one, nameVia, hbody, if_true]
  rw [hstep, name?]
  exact nameVia_of_resolves hcell (by omega) (by omega)

/-- A parser that is no reference has the name that its body has by itself. -/
theorem name?_of_body {slot : SlotId} {body : Body} (hbody : g.bodies[slot]? = some body)
    (hother : ∀ cell, body ≠ .reference cell) : g.name? slot = body.ownName := by
  have hslot := lt_size_of_getElem? hbody
  obtain ⟨fuel, hsize⟩ := Nat.exists_eq_succ_of_ne_zero (Nat.ne_zero_of_lt hslot)
  have hno (cell : SlotId) : g.bodies[slot]? ≠ some (.reference cell) :=
    fun h => hother cell (Option.some.inj (hbody.symm.trans h))
  rw [name?, hsize, nameVia_of_not_reference hno, hbody, Option.bind_some]

/-! ## Parsers in between -/

/-- A parser only passes on what another one gives: a reference, or, if names are not looked
at, a parser that gives a name. -/
inductive PassesOn (g : Grammar) (see : Option String → Option String)
    (slot inner : SlotId) : Prop
  | reference (h : g.bodies[slot]? = some (.reference inner))
  | named {name : String} (h : g.bodies[slot]? = some (.named name inner))
      (hblind : ∀ name, see name = none)

end Grammar

/-- A question by itself is evaluated as it is answered. -/
theorem Plan.eval_run (oracle : Oracle) (slot : SlotId) (offset : Nat) :
    (Plan.run slot offset).eval oracle = oracle slot offset := by
  simp only [Plan.run, Plan.eval]
  split
  case h_1 h => exact h.symm
  case h_2 h => exact h.symm
  case h_3 answer before h => rw [h, List.append_nil]

namespace Env

variable {env env' : Env} {see : Option String → Option String}

/-- Where a parser has been evaluated, its references come to an end. -/
theorem resolves_of_eval {height : Nat} {slot : SlotId} {offset : Nat}
    {outcome : Ending (Option Match) × List Failure}
    (h : env.eval height slot offset = some outcome) : ∃ n, env.grammar.Resolves n slot := by
  induction height generalizing slot outcome with
  | zero => contradiction
  | succ height ih =>
      by_cases hbody : ∃ cell, env.grammar.bodies[slot]? = some (.reference cell)
      · obtain ⟨cell, hbody⟩ := hbody
        obtain ⟨before, hplan, -⟩ := eval_succ_eq_some_iff.1 h
        have hrun : env.planOf slot offset = Plan.run cell offset := by
          simp only [planOf, hbody, Body.plan]
        rw [hrun, Plan.eval_run] at hplan
        obtain ⟨n, hcell⟩ := ih hplan
        exact ⟨n + 1, .next hbody hcell⟩
      · exact ⟨0, .here fun cell h => hbody ⟨cell, h⟩⟩

/-- A parser that only passes on what another one gives ends as that one does, and adds
nothing but its own failure. -/
theorem eval_passesOn {slot inner : SlotId} (hpass : env.grammar.PassesOn see slot inner)
    {height offset : Nat} {ending : Ending (Option Match)} {all : List Failure} :
    env.eval (height + 1) slot offset = some (ending, all) ↔
      ∃ before, env.eval height inner offset = some (ending, before) ∧
        all = before ++ env.failures slot offset ending := by
  have hrun : env.planOf slot offset = Plan.run inner offset := by
    cases hpass with
    | reference hbody | named hbody => simp only [planOf, hbody, Body.plan]
  rw [eval_succ_eq_some_iff, hrun, Plan.eval_run]

/-- As far as names are looked at, a parser that only passes on what another one gives has
the name of that one. -/
theorem name?_passesOn (hclosed : env.grammar.Closed) {slot inner : SlotId}
    (hpass : env.grammar.PassesOn see slot inner) {height offset : Nat}
    {outcome : Ending (Option Match) × List Failure}
    (h : env.eval height inner offset = some outcome) :
    see (env.grammar.name? slot) = see (env.grammar.name? inner) := by
  cases hpass with
  | reference hbody =>
      obtain ⟨n, hinner⟩ := resolves_of_eval h
      rw [Grammar.name?_reference hclosed hbody hinner]
  | named _ hblind => rw [hblind, hblind]

/-- The failures of parsers with the same names are the same. -/
theorem same_failures {slot slot' : SlotId} {offset : Nat} {ending : Ending (Option Match)}
    (hname : see (env.grammar.name? slot) = see (env'.grammar.name? slot')) :
    Failure.Same see (env.failures slot offset ending) (env'.failures slot' offset ending) := by
  intro fr
  cases ending with
  | abort => rfl
  | done result =>
      cases result with
      | some m => rfl
      | none => simp only [failures, List.map_cons, List.map_nil, Failure.seen, hname]

/-- The failure of a parser that passes on a failure changes nothing. -/
theorem same_passesOn (hclosed : env.grammar.Closed) {slot inner : SlotId}
    (hpass : env.grammar.PassesOn see slot inner) {height offset : Nat}
    {ending : Ending (Option Match)} {before : List Failure}
    (h : env.eval height inner offset = some (ending, before)) :
    Failure.Same see (before ++ env.failures slot offset ending) before := by
  have hname := name?_passesOn hclosed hpass h
  cases ending with
  | abort => rw [failures, List.append_nil]; exact .refl _ _
  | done result =>
      cases result with
      | some m => rw [failures, List.append_nil]; exact .refl _ _
      | none =>
          cases height with
          | zero => contradiction
          | succ height =>
              obtain ⟨earlier, -, rfl⟩ := eval_succ_eq_some_iff.1 h
              have hlast : Failure.seen see ⟨env.grammar.name? slot, offset⟩ =
                  Failure.seen see ⟨env.grammar.name? inner, offset⟩ :=
                congrArg (Failure.mk · offset) hname
              exact .again hlast earlier

end Env

/-! ## Grammars side by side -/

/-- A slot of one grammar does the same as one of another: both have the same body with
parts that correspond, or on either side there is a parser in between. -/
inductive Grammar.Matches (g g' : Grammar) (see : Option String → Option String)
    (R : SlotId → SlotId → Prop) : SlotId → SlotId → Prop
  | bodies {slot slot' : SlotId} {body : Body} {f f' : SlotId → SlotId}
      (h : g.bodies[slot]? = some (body.rename f)) (h' : g'.bodies[slot']? = some (body.rename f'))
      (hparts : ∀ part ∈ body.parts, R (f part) (f' part)) : g.Matches g' see R slot slot'
  | left {slot slot' inner : SlotId} (hpass : g.PassesOn see slot inner)
      (hinner : R inner slot') : g.Matches g' see R slot slot'
  | right {slot slot' inner : SlotId} (hpass : g'.PassesOn see slot' inner)
      (hinner : g.Matches g' see R slot inner) : g.Matches g' see R slot slot'

namespace Env

variable {env env' : Env} {see : Option String → Option String}

/-- Whatever is evaluated at a height for a slot of one environment is so for a slot of
another, and the two have the same name. -/
def Follows (env env' : Env) (see : Option String → Option String) (height : Nat)
    (slot slot' : SlotId) : Prop :=
  ∀ offset ending failures, env.eval height slot offset = some (ending, failures) →
    (∃ height' failures', env'.eval height' slot' offset = some (ending, failures') ∧
      Failure.Same see failures failures') ∧
    see (env.grammar.name? slot) = see (env'.grammar.name? slot')

/-- Slots with the same body have the same name if their parts do. -/
private theorem name?_of_bodies (hclosed : env.grammar.Closed)
    (hclosed' : env'.grammar.Closed) {slot slot' : SlotId} {body : Body}
    {f f' : SlotId → SlotId} (hbody : env.grammar.bodies[slot]? = some (body.rename f))
    (hbody' : env'.grammar.bodies[slot']? = some (body.rename f')) {height : Nat}
    (hparts : ∀ part ∈ body.parts, env.Follows env' see height (f part) (f' part))
    {offset : Nat} {outcome : Ending (Option Match) × List Failure}
    (h : env.eval (height + 1) slot offset = some outcome) :
    see (env.grammar.name? slot) = see (env'.grammar.name? slot') := by
  obtain ⟨ending, all⟩ := outcome
  cases body with
  | reference cell =>
      have hpass : env.grammar.PassesOn see slot (f cell) := .reference hbody
      have hpass' : env'.grammar.PassesOn see slot' (f' cell) := .reference hbody'
      obtain ⟨before, hcell, -⟩ := (eval_passesOn hpass).1 h
      obtain ⟨⟨height', before', hcell', -⟩, hname⟩ :=
        hparts cell (by simp [Body.parts]) offset ending before hcell
      rw [name?_passesOn hclosed hpass hcell, name?_passesOn hclosed' hpass' hcell', hname]
  | _ =>
      rw [Grammar.name?_of_body hbody (by simp [Body.rename]),
        Grammar.name?_of_body hbody' (by simp [Body.rename])]
      rfl

/-- Slots with the same body follow one another if their parts do. -/
theorem follows_of_bodies (hsource : env'.source = env.source) (hclosed : env.grammar.Closed)
    (hclosed' : env'.grammar.Closed) {slot slot' : SlotId} {body : Body}
    {f f' : SlotId → SlotId} (hbody : env.grammar.bodies[slot]? = some (body.rename f))
    (hbody' : env'.grammar.bodies[slot']? = some (body.rename f')) {height : Nat}
    (hparts : ∀ part ∈ body.parts, env.Follows env' see height (f part) (f' part)) :
    env.Follows env' see (height + 1) slot slot' := by
  intro offset ending all h
  have hname := name?_of_bodies hclosed hclosed' hbody hbody' hparts h
  obtain ⟨before, hplan, rfl⟩ := eval_succ_eq_some_iff.1 h
  have hparallel : Plan.Parallel (env.Follows env' see height) (env.planOf slot offset)
      (env'.planOf slot' offset) := by
    simp only [planOf, hbody, hbody', hsource]
    exact body.plan_parallel hparts env.source offset
  obtain ⟨height', before', hplan', hsame⟩ :=
    hparallel.eval (fun hle => eval_mono env' hle) (fun hfollows hanswer =>
      (hfollows _ _ _ hanswer).1) hplan
  exact ⟨⟨height' + 1, _, eval_succ_eq_some_iff.2 ⟨before', hplan', rfl⟩,
    hsame.append (same_failures hname)⟩, hname⟩

/-- A parser that only passes on what another one gives follows what that one follows. -/
theorem follows_of_left (hclosed : env.grammar.Closed) {slot slot' inner : SlotId}
    (hpass : env.grammar.PassesOn see slot inner) {height : Nat}
    (hinner : env.Follows env' see height inner slot') :
    env.Follows env' see (height + 1) slot slot' := by
  intro offset ending all h
  obtain ⟨before, heval, rfl⟩ := (eval_passesOn hpass).1 h
  obtain ⟨⟨height', failures', heval', hsame⟩, hname⟩ := hinner offset ending before heval
  have hbefore := same_passesOn hclosed hpass heval
  exact ⟨⟨height', failures', heval', hbefore.trans hsame⟩,
    (name?_passesOn hclosed hpass heval).trans hname⟩

/-- Whatever another parser follows, a parser that only passes on what that one gives
follows too. -/
theorem follows_of_right (hclosed' : env'.grammar.Closed) {slot slot' inner : SlotId}
    (hpass : env'.grammar.PassesOn see slot' inner) {height : Nat}
    (hinner : env.Follows env' see height slot inner) :
    env.Follows env' see height slot slot' := by
  intro offset ending all h
  obtain ⟨⟨height', failures', heval', hsame⟩, hname⟩ := hinner offset ending all h
  have hbefore := same_passesOn hclosed' hpass heval'
  exact ⟨⟨height' + 1, _, (eval_passesOn hpass).2 ⟨failures', heval', rfl⟩,
    hsame.trans hbefore.symm⟩, hname.trans (name?_passesOn hclosed' hpass heval').symm⟩

/-- If all slots that correspond match, they follow one another at every height. -/
theorem eval_follows (hsource : env'.source = env.source) (hclosed : env.grammar.Closed)
    (hclosed' : env'.grammar.Closed) {R : SlotId → SlotId → Prop}
    (hmatches : ∀ slot slot', R slot slot' →
      env.grammar.Matches env'.grammar see R slot slot')
    (height : Nat) {slot slot' : SlotId} (h : R slot slot') :
    env.Follows env' see height slot slot' := by
  induction height generalizing slot slot' with
  | zero => exact fun _ _ _ heval => absurd heval nofun
  | succ height ih =>
      -- Slots below are evaluated at a smaller height, except behind parsers in between in
      -- the other grammar, of which there are finitely many.
      have hmatch := hmatches slot slot' h
      clear h
      induction hmatch with
      | bodies hbody hbody' hparts =>
          exact follows_of_bodies hsource hclosed hclosed' hbody hbody'
            fun part hpart => ih (hparts part hpart)
      | left hpass hinner => exact follows_of_left hclosed hpass (ih hinner)
      | right hpass _ ihinner => exact follows_of_right hclosed' hpass ihinner

end Env

end Packrat
