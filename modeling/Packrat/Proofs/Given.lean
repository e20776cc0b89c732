import Packrat.Proofs.Recast
/-!
# Grammars that are given the options of a run

A value may depend on the options of the run, which stay the same all through it. Once the
options are given, the functions that look at them can be written out, and what is left is a
grammar in which no value depends on the run. The two do the same in every run with these
options: each call of the one is a call of the other.

So what holds of grammars in which no value depends on the run carries over to those in
which values depend on the options, but for one thing. What a run without memoization tells
of one with memoization it tells only where values are the same in both, that is, if values
are made in both as the options of the second run say.

## Main definitions

* `View.OfOptions` — functions that look at nothing but the options.
* `Grammar.given`, `Expr.given` — grammars and expressions that are given the options.
* `Grammar.EndsUncached` — a run ends without memoization, with values as in either mode.

## Main results

* `Env.call_given` — a grammar that is given the options of its run does the same.
* `Grammar.endsUncached_false_iff`, `Grammar.endsUncached_iff_of_stateFree` — where a run that
  ends without memoization is one of the grammar itself.
* `Grammar.Recasting.parse_given` — runs of grammars that are recast go alike, where values
  may depend on the options.
-/

namespace Packrat

/-- A view of a run of which nothing but the options is known. -/
def Snapshot.ofOptions (options : Options) : Snapshot := { Snapshot.blank with options }

/-- A function that looks at nothing but the options of the run. -/
def View.OfOptions (view : View) : Prop :=
  ∀ snapshot, view snapshot = view (.ofOptions snapshot.options)

/-- A function that makes in a run with some options what it makes if others are given. -/
def View.Takes (options given : Options) (view : View) : Prop :=
  ∀ snapshot, snapshot.options = options → view snapshot = view (.ofOptions given)

theorem View.OfOptions.takes {view : View} (h : view.OfOptions) (options : Options) :
    view.Takes options options :=
  fun snapshot hoptions => hoptions ▸ h snapshot

theorem View.Blind.takes {view : View} (h : view.Blind) (options given : Options) :
    view.Takes options given :=
  fun snapshot _ => (h snapshot).trans (h (.ofOptions given)).symm

/-! ## Grammars -/

/-- A body that is given the options of the run, and does not look at it any more. -/
def Body.given (options : Options) : Body → Body
  | .mapInRun make inner => .map (make (.ofOptions options)) inner
  | body => body

namespace Body

variable {options : Options}

theorem parts_given (body : Body) : (body.given options).parts = body.parts := by
  cases body <;> rfl

theorem inSlots_given (body : Body) (slots : List SlotId) :
    (body.inSlots slots).given options = (body.given options).inSlots slots := by
  cases body <;> rfl

theorem stateFree_given (body : Body) : (body.given options).StateFree := by
  cases body <;> exact True.intro

end Body

namespace Grammar

/-- A grammar all of whose bodies are given the options of the run. -/
def given (options : Options) (g : Grammar) : Grammar :=
  { g with bodies := g.bodies.map (Body.given options) }

variable {options : Options} {g : Grammar}

theorem bodies_given (slot : SlotId) :
    (g.given options).bodies[slot]? = (g.bodies[slot]?).map (Body.given options) :=
  Array.getElem?_map

@[simp] theorem size_given : (g.given options).size = g.size := Array.size_map

theorem stateFree_given : (g.given options).StateFree := by
  intro body hbody
  obtain ⟨body, -, rfl⟩ := Array.mem_map.1 hbody
  exact body.stateFree_given

theorem Closed.given (h : g.Closed) : (g.given options).Closed := by
  refine ⟨fun body hbody part hpart => ?_, fun rule hrule => ?_⟩
  · obtain ⟨body, hmem, rfl⟩ := Array.mem_map.1 hbody
    rw [body.parts_given] at hpart
    rw [size_given]
    exact h.bodies body hmem part hpart
  · rw [size_given]
    exact h.rules rule hrule

theorem nameVia_given (resolved : SlotId → Bool) (fuel : Nat) (slot : SlotId) :
    (g.given options).nameVia resolved fuel slot = g.nameVia resolved fuel slot := by
  induction fuel generalizing slot with
  | zero => rfl
  | succ fuel ih =>
      rw [nameVia, nameVia, bodies_given]
      cases g.bodies[slot]? with
      | none => rfl
      | some body =>
          cases body with
          | reference cell => simp only [Option.map_some, Body.given, ih]
          | _ => rfl

theorem name?_given (slot : SlotId) : (g.given options).name? slot = g.name? slot := by
  rw [name?, size_given, nameVia_given, name?]

end Grammar

/-! ## Runs -/

namespace Env

/-- An environment whose grammar is given the options of a run. -/
def given (options : Options) (env : Env) : Env :=
  { env with grammar := env.grammar.given options }

variable {env : Env} {options : Options}
  (hviews : ∀ body ∈ env.grammar.bodies, body.Views (View.Takes env.options options))

include hviews

/-- What a parser does is carried out in the same way if it is given the options. -/
theorem exec_given (call : Call) (slot : SlotId) (offset : Nat) (st : State) :
    ((env.given options).planOf slot offset).exec env.options call st =
      (env.planOf slot offset).exec env.options call st := by
  rw [planOf, planOf, given, Grammar.bodies_given]
  cases hbody : env.grammar.bodies[slot]? with
  | none => rfl
  | some body =>
      have hview := hviews body (Array.mem_of_getElem? hbody)
      -- No other body is changed by being given the options.
      cases body with
      | mapInRun make inner =>
          simp only [Option.map_some, Body.given, Body.plan, Plan.attempt, Plan.exec]
          cases call inner offset st with
          | none => rfl
          | some answered =>
              obtain ⟨answer, st'⟩ := answered
              cases answer with
              | none => rfl
              | some m =>
                  simp only [Plan.exec]
                  rw [hview (st'.snapshot env.options) rfl]
      | _ => rfl

theorem invoke_given (call : Call) : (env.given options).invoke call = env.invoke call := by
  funext slot offset st
  have hname : (env.given options).grammar.name? slot = env.grammar.name? slot :=
    Grammar.name?_given slot
  have hoptions : (env.given options).options = env.options := rfl
  simp only [invoke, hname, hoptions, exec_given hviews]

/-- A grammar does the same if it is given options with which it makes the values that it
makes in the run. -/
theorem call_given (fuel : Nat) : (env.given options).call fuel = env.call fuel := by
  induction fuel with
  | zero => rfl
  | succ fuel ih =>
      funext slot offset st
      simp only [call, answer, remember, ih, invoke_given hviews]
      rfl

theorem parse_given : (env.given options).parse = env.parse := by
  have hfuel : (env.given options).fuel = env.fuel := by
    simp only [fuel, given, Grammar.size_given]
  funext slot offset st
  rw [parse, parse, hfuel, call_given hviews]

end Env

namespace Grammar

/-- A run of a parser on a fresh state ends without memoization and without a depth limit,
where values are made as they are in the one mode or the other. -/
def EndsUncached (g : Grammar) (src : Source) (memoize : Bool) (slot : SlotId) (start : Nat) :
    Prop :=
  ∃ fuel run, (Env.unlimited (g.given ⟨memoize, none⟩) src false).call fuel slot start {} = some run

variable {g : Grammar} {src : Source} {slot : SlotId} {start : Nat}

private theorem endsUncached_iff {memoize : Bool}
    (hviews : ∀ body ∈ g.bodies, body.Views (View.Takes ⟨false, none⟩ ⟨memoize, none⟩)) :
    g.EndsUncached src memoize slot start ↔
      ∃ fuel run, (Env.unlimited g src false).call fuel slot start {} = some run := by
  have hcall (fuel : Nat) : (Env.unlimited (g.given ⟨memoize, none⟩) src false).call fuel =
      (Env.unlimited g src false).call fuel :=
    Env.call_given (show ∀ body ∈ (Env.unlimited g src false).grammar.bodies, _ from hviews) fuel
  simp only [EndsUncached, hcall]

/-- A grammar that is given the options of its run does the same. -/
theorem parse_given_unlimited (hviews : ∀ body ∈ g.bodies, body.Views View.OfOptions)
    (memoize : Bool) :
    (Env.unlimited (g.given ⟨memoize, none⟩) src memoize).parse =
      (Env.unlimited g src memoize).parse :=
  Env.parse_given (show ∀ body ∈ (Env.unlimited g src memoize).grammar.bodies, _ from
    fun body hbody => (hviews body hbody).imp fun h => h.takes _)

/-- Values are made as they are without memoization just in runs of the grammar itself. -/
theorem endsUncached_false_iff (hviews : ∀ body ∈ g.bodies, body.Views View.OfOptions) :
    g.EndsUncached src false slot start ↔
      ∃ fuel run, (Env.unlimited g src false).call fuel slot start {} = some run :=
  endsUncached_iff fun body hbody => (hviews body hbody).imp fun h => h.takes _

/-- Values are made in one way in both modes if none depends on the run. -/
theorem endsUncached_iff_of_stateFree (hfree : g.StateFree) {memoize : Bool} :
    g.EndsUncached src memoize slot start ↔
      ∃ fuel run, (Env.unlimited g src false).call fuel slot start {} = some run :=
  endsUncached_iff fun body hbody =>
    (Body.stateFree_iff_views.1 (hfree body hbody)).imp fun h => h.takes _ _

end Grammar

/-! ## Expressions -/

namespace Expr

/-- An expression that is given the options of the run. -/
def given (options : Options) : Expr → Expr
  | .primitive p => .primitive p
  | .regex text flags mode => .regex text flags mode
  | .sequence first second => .sequence (first.given options) (second.given options)
  | .choice first second => .choice (first.given options) (second.given options)
  | .capture inner => .capture (inner.given options)
  | .ignore inner => .ignore (inner.given options)
  | .lookahead inner => .lookahead (inner.given options)
  | .negation inner => .negation (inner.given options)
  | .optional inner => .optional (inner.given options)
  | .zeroOrMore inner => .zeroOrMore (inner.given options)
  | .oneOrMore inner => .oneOrMore (inner.given options)
  | .map make inner => .map make (inner.given options)
  | .mapInRun make inner => .map (make (.ofOptions options)) (inner.given options)
  | .tryMap make inner => .tryMap make (inner.given options)
  | .filter accepts description inner => .filter accepts description (inner.given options)
  | .named name inner => .named name (inner.given options)
  | .reference rule => .reference rule
  | .shared rule => .shared rule
  | .leftAssociative combine term operator =>
    .leftAssociative combine (term.given options) (operator.given options)
  | .foldLeft apply term operation =>
    .foldLeft apply (term.given options) (operation.given options)
  | .between opening content closing =>
    .between (opening.given options) (content.given options) (closing.given options)
  | .separated item separator => .separated (item.given options) (separator.given options)
  | .wrapped inner => .wrapped (inner.given options)
  | .malformed => .malformed
  | .malformedAfter part => .malformedAfter (part.given options)

theorem node?_given {e : Expr} {body : Body} {parts : List Expr} (options : Options)
    (hnode : e.node? = some (body, parts)) :
    (e.given options).node? = some (body.given options, parts.map (given options)) := by
  cases e with
  | regex text flags mode =>
      have hparts := hnode
      simp only [node?] at hparts
      split at hparts
      · obtain ⟨rfl, rfl⟩ := Prod.mk.inj (Option.some.inj hparts)
        exact hnode
      · contradiction
  | reference | shared | wrapped | malformed | malformedAfter => contradiction
  | _ =>
      obtain ⟨rfl, rfl⟩ := Prod.mk.inj (Option.some.inj hnode)
      rfl

end Expr

/-- Rules that are given the options of the run. -/
def rulesGiven (options : Options) (rules : List (String × Expr)) : List (String × Expr) :=
  rules.map fun rule => (rule.1, rule.2.given options)

theorem Latest.given {rule : String} {e : Expr} {earlier done : List (String × Expr)}
    (options : Options) (h : Latest rule e earlier done) :
    Latest rule (e.given options) (rulesGiven options earlier) (rulesGiven options done) := by
  induction h with
  | here => exact .here
  | later hne _ ih => exact .later hne ih

/-- An expression that is given the options is laid out where the expression is, in the
grammar that is given the options. -/
theorem Expr.LaidOut.given {g : Grammar} {cells : List (SlotId × String)}
    {done : List (String × Expr)} {e : Expr} {slot : SlotId} (options : Options)
    (h : e.LaidOut (g.places cells) done slot) :
    (e.given options).LaidOut ((g.given options).places cells) (rulesGiven options done) slot := by
  induction h with
  | @node done e slot body parts slots hnode hbody hlength _ ih =>
      have hgiven : (g.given options).bodies[slot]? =
          some ((body.given options).inSlots slots) := by
        rw [Grammar.bodies_given, show g.bodies[slot]? = _ from hbody, Option.map_some,
          Body.inSlots_given]
      refine .node (Expr.node?_given options hnode) hgiven (by rw [hlength, List.length_map])
        fun i part inner hpart hinner => ?_
      rw [List.getElem?_map] at hpart
      obtain ⟨part, hwritten, rfl⟩ := Option.map_eq_some_iff.1 hpart
      exact ih i part inner hwritten hinner
  | @reference done rule slot cell hbody hcell =>
      refine .reference ?_ hcell
      show (g.given options).bodies[slot]? = _
      rw [Grammar.bodies_given, show g.bodies[slot]? = _ from hbody]
      rfl
  | shared hrule _ ih => exact .shared (hrule.given options) ih
  | wrapped _ ih => exact .wrapped ih

theorem Grammar.Placed.given {g : Grammar} {written : List (String × Expr)}
    {cells : List (SlotId × String)} (options : Options) (h : g.Placed written cells) :
    (g.given options).Placed (rulesGiven options written) cells := by
  have hreverse : (rulesGiven options written).reverse = rulesGiven options written.reverse :=
    List.map_reverse.symm
  refine ⟨fun name slot hrule => ?_, fun rule hrule => ?_, fun cell rule hcell => ?_⟩
  · rw [hreverse]
    exact (h.rules name slot hrule).given options
  · obtain ⟨rule, hmem, rfl⟩ := List.mem_map.1 hrule
    exact h.defined rule hmem
  · rw [hreverse]
    exact (h.cells cell rule hcell).given options

/-! ## Laws -/

/-- A law that holds of expressions that are given the options if it holds of the
expressions. -/
def Law.Given (law : Law) : Prop :=
  ∀ (options : Options) {e e' pairs}, law e e' pairs → law (e.given options) (e'.given options)
    (pairs.map fun pair => (pair.1.given options, pair.2.given options))

theorem Expr.Recast.given {law : Law} (hlaw : law.Given) (options : Options) {e e' : Expr}
    (h : e.Recast law e') : (e.given options).Recast law (e'.given options) := by
  induction h with
  | parts hnode hnode' hlength _ ih =>
      refine .parts (node?_given options hnode) (node?_given options hnode')
        (by rw [List.length_map, List.length_map, hlength]) fun i part part' hpart hpart' => ?_
      rw [List.getElem?_map] at hpart hpart'
      obtain ⟨part, hwritten, rfl⟩ := Option.map_eq_some_iff.1 hpart
      obtain ⟨part', hwritten', rfl⟩ := Option.map_eq_some_iff.1 hpart'
      exact ih i part part' hwritten hwritten'
  | reference rule => exact .reference rule
  | shared rule => exact .shared rule
  | behind _ ih => exact .behind ih
  | forth holds _ ih =>
      refine .forth (hlaw options holds) fun pair hpair => ?_
      obtain ⟨pair, hmem, rfl⟩ := List.mem_map.1 hpair
      exact ih pair hmem
  | back holds _ ih =>
      refine .back (hlaw options holds) fun pair hpair => ?_
      obtain ⟨pair, hmem, rfl⟩ := List.mem_map.1 hpair
      exact ih pair hmem

namespace Grammar.Recasting

variable {law : Law} {g g' : Grammar}

/-- Grammars that are given the options are recast if the grammars are. -/
def given (recasting : Recasting law g g') (hlaw : law.Given) (options : Options) :
    Recasting law (g.given options) (g'.given options) where
  sound := recasting.sound
  written := rulesGiven options recasting.written
  written' := rulesGiven options recasting.written'
  recast := List.forall₂_map_left_iff.2 (List.forall₂_map_right_iff.2
    (recasting.recast.imp fun _ _ h => ⟨h.1, h.2.given hlaw options⟩))
  cells := recasting.cells
  cells' := recasting.cells'
  placed := recasting.placed.given options
  placed' := recasting.placed'.given options

/-- Runs of grammars that are recast go alike, where values may depend on the options of the
run. If a run of a rule ends without memoization, with values as in a mode, then runs of the
rule of this name end in both grammars in this mode, with the same answer, the same end and
the same deepest failure. -/
theorem parse_given (recasting : Recasting law g g') (hlaw : law.Given)
    (hviews : ∀ body ∈ g.bodies, body.Views View.OfOptions)
    (hviews' : ∀ body ∈ g'.bodies, body.Views View.OfOptions) (hclosed : g.Closed)
    (hclosed' : g'.Closed) {name : String} {slot : SlotId} (hrule : g.rule? name = some slot)
    {src : Source} {memoize : Bool} {start : Nat}
    (hends : g.EndsUncached src memoize slot start) :
    ∃ slot', g'.rule? name = some slot' ∧ ∃ run run',
      (Env.unlimited g src memoize).parse slot start {} = some run ∧
      (Env.unlimited g' src memoize).parse slot' start {} = some run' ∧
      SameAsSeen id run run' := by
  obtain ⟨fuel, run, hends⟩ := hends
  obtain ⟨slot', hrule', hruns⟩ := (recasting.given hlaw ⟨memoize, none⟩).parse stateFree_given
    stateFree_given hclosed.given hclosed'.given hrule src hends
  obtain ⟨run, run', hparse, hparse', hsame⟩ := hruns memoize memoize
  rw [parse_given_unlimited hviews] at hparse
  rw [parse_given_unlimited hviews'] at hparse'
  exact ⟨slot', hrule', run, run', hparse, hparse', hsame⟩

end Grammar.Recasting

end Packrat
