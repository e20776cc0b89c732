import Packrat.Proofs.Alike
import Packrat.Proofs.Weave
/-!
# Expressions recast by laws

A law says of two expressions that they do the same if certain parts of them do. A grammar is
recast when laws are applied in its expressions, at any places and in either direction. If a
law is sound for any slots where its two sides are laid out, then recasting a grammar by it
changes nothing of what its rules do.

## Main definitions

* `Law`, `Law.Sound` — laws, and what it takes for a law to hold.
* `Expr.Recast` — expressions in which a law has been applied.

## Main results

* `Grammar.Recasting.agrees` — slots of expressions that are recast do the same.
* `Grammar.Recasting.parse` — runs of grammars that are recast go alike.
* `Grammar.parseAll_recast` — so they give the same outcomes.
-/

namespace Packrat

/-- Pairs of expressions that are to do the same, if pairs of parts of them do. -/
abbrev Law := Expr → Expr → List (Expr × Expr) → Prop

/-- Slots of two environments that do the same, given which slots below them correspond. They
hold the same body, or what they do is the same with silent parsers written out. -/
inductive Env.Agrees (env env' : Env) (R : SlotId → SlotId → Prop) : SlotId → SlotId → Prop
  | bodies {slot slot' : SlotId} {body : Body} {f f' : SlotId → SlotId}
      (h : env.grammar.bodies[slot]? = some (body.rename f))
      (h' : env'.grammar.bodies[slot']? = some (body.rename f'))
      (hparts : ∀ part ∈ body.parts, R (f part) (f' part)) : env.Agrees env' R slot slot'
  | weaves {slot slot' : SlotId} (h : env.Weaves env' R slot slot') : env.Agrees env' R slot slot'

/-- If all slots that correspond do the same, they follow one another at every height. -/
theorem Env.follows_of_agrees {env env' : Env} (hsource : env'.source = env.source)
    (hclosed : env.grammar.Closed) (hclosed' : env'.grammar.Closed) {R : SlotId → SlotId → Prop}
    (hagrees : ∀ slot slot', R slot slot' → env.Agrees env' R slot slot') (height : Nat)
    {slot slot' : SlotId} (h : R slot slot') : env.Follows env' id height slot slot' := by
  induction height generalizing slot slot' with
  | zero => exact fun _ _ _ heval => absurd heval nofun
  | succ height ih =>
      cases hagrees slot slot' h with
      | bodies hbody hbody' hparts =>
          exact follows_of_bodies hsource hclosed hclosed' hbody hbody'
            fun part hpart => ih (hparts part hpart)
      | weaves hweaves => exact follows_of_weaves hweaves fun _ _ => ih

namespace Expr

/-- An expression in which a law has been applied, at any places and in either direction. -/
inductive Recast (law : Law) : Expr → Expr → Prop
  | parts {e e' : Expr} {body : Body} {parts parts' : List Expr}
      (hnode : e.node? = some (body, parts)) (hnode' : e'.node? = some (body, parts'))
      (hlength : parts.length = parts'.length)
      (hparts : ∀ (i : Nat) part part', parts[i]? = some part → parts'[i]? = some part' →
        Recast law part part') : Recast law e e'
  | reference (rule : String) : Recast law (.reference rule) (.reference rule)
  | shared (rule : String) : Recast law (.shared rule) (.shared rule)
  | behind {e e' : Expr} (h : Recast law e e') : Recast law (.wrapped e) (.wrapped e')
  | forth {e e' : Expr} {pairs : List (Expr × Expr)} (hlaw : law e e' pairs)
      (hpairs : ∀ pair ∈ pairs, Recast law pair.1 pair.2) : Recast law e e'
  | back {e e' : Expr} {pairs : List (Expr × Expr)} (hlaw : law e' e pairs)
      (hpairs : ∀ pair ∈ pairs, Recast law pair.2 pair.1) : Recast law e e'

end Expr

/-- A law that holds wherever its two sides are laid out, and that keeps all parts. -/
structure Law.Sound (law : Law) : Prop where
  views : ∀ {e e' pairs}, law e e' pairs → ∀ P, e.Views P ↔ ∀ pair ∈ pairs, pair.1.Views P
  views' : ∀ {e e' pairs}, law e e' pairs → ∀ P, e'.Views P ↔ ∀ pair ∈ pairs, pair.2.Views P
  weaves : ∀ {e e' pairs}, law e e' pairs → ∀ {env env' : Env}, env'.source = env.source →
    ∀ {cells cells' done done' slot slot'},
      e.LaidOut (env.grammar.places cells) done slot →
      e'.LaidOut (env'.grammar.places cells') done' slot' →
      ∀ {R : SlotId → SlotId → Prop},
        (∀ pair ∈ pairs, ∀ part part', pair.1.LaidOut (env.grammar.places cells) done part →
          pair.2.LaidOut (env'.grammar.places cells') done' part' → R part part') →
        env.Weaves env' R slot slot'

namespace Expr.Recast

variable {law : Law} {P : View → Prop} {e e' : Expr}

theorem refl (h : e.Views P) : e.Recast law e := by
  induction h with
  | node hnode _ _ ih =>
      refine .parts hnode hnode rfl fun i part part' hpart hpart' => ?_
      obtain rfl := Option.some.inj (hpart.symm.trans hpart')
      exact ih part (List.mem_of_getElem? hpart)
  | reference rule => exact .reference rule
  | shared rule => exact .shared rule
  | wrapped _ ih => exact .behind ih

theorem ofParts {body : Body} {parts parts' : List Expr} (hnode : e.node? = some (body, parts))
    (hnode' : e'.node? = some (body, parts')) (hparts : List.Forall₂ (Recast law) parts parts') :
    e.Recast law e' :=
  .parts hnode hnode' hparts.length_eq (related_of_forall₂ hparts)

/-- The functions in an expression stay such when it is recast. -/
theorem views (hlaw : law.Sound) (h : e.Recast law e') (hviews : e.Views P) : e'.Views P := by
  induction h with
  | @parts e e' body parts parts' hnode hnode' hlength _ ih =>
      obtain ⟨hbody, hparts⟩ := (views_iff_of_node hnode).1 hviews
      exact .node hnode' hbody (forall_mem_of_related hlength ih hparts)
  | reference | shared => exact hviews
  | behind _ ih => exact .wrapped (ih (views_wrapped.1 hviews))
  | forth holds _ ih =>
      exact (hlaw.views' holds P).2 fun pair hmem =>
        ih pair hmem ((hlaw.views holds P).1 hviews pair hmem)
  | back holds _ ih =>
      exact (hlaw.views holds P).2 fun pair hmem =>
        ih pair hmem ((hlaw.views' holds P).1 hviews pair hmem)

end Expr.Recast

namespace Grammar

/-! ## Grammars from rules that are recast -/

/-- Two grammars from rules that are recast by a law. -/
structure Recasting (law : Law) (g g' : Grammar) where
  sound : law.Sound
  written : List (String × Expr)
  written' : List (String × Expr)
  recast : Rulewise (Expr.Recast law) written written'
  cells : List (SlotId × String)
  cells' : List (SlotId × String)
  placed : g.Placed written cells
  placed' : g'.Placed written' cells'

namespace Recasting

variable {law : Law} {g g' : Grammar} (recasting : Recasting law g g')

/-- Slots where an expression, and the one that it has been recast as, are laid out, each
after as many rules. -/
def Corresponds (slot slot' : SlotId) : Prop :=
  ∃ done done', ∃ e e' : Expr, Rulewise (Expr.Recast law) done done' ∧
    e.LaidOut (g.places recasting.cells) done slot ∧
    e'.LaidOut (g'.places recasting.cells') done' slot' ∧ e.Recast law e'

/-- The slot of an expression does the same as all slots where the expression is laid out
that it has been recast as. -/
def Settled (src : Source) (memoize memoize' : Bool) (done : List (String × Expr)) (e : Expr)
    (slot : SlotId) : Prop :=
  ∀ slot' done' e', Rulewise (Expr.Recast law) done done' →
    e'.LaidOut (g'.places recasting.cells') done' slot' → e.Recast law e' →
    (Env.unlimited g src memoize).Agrees (Env.unlimited g' src memoize') recasting.Corresponds
      slot slot'

variable {recasting} {src : Source} {memoize memoize' : Bool}
  {done done' : List (String × Expr)} {e e' : Expr} {slot slot' : SlotId}

private theorem agrees_of_parts {body : Body} {parts parts' : List Expr}
    (hdone : Rulewise (Expr.Recast law) done done')
    (hlaid : e.LaidOut (g.places recasting.cells) done slot)
    (hlaid' : e'.LaidOut (g'.places recasting.cells') done' slot')
    (hnode : e.node? = some (body, parts)) (hnode' : e'.node? = some (body, parts'))
    (hlength : parts.length = parts'.length)
    (hparts : ∀ (i : Nat) part part', parts[i]? = some part → parts'[i]? = some part' →
      part.Recast law part') :
    (Env.unlimited g src memoize).Agrees (Env.unlimited g' src memoize') recasting.Corresponds
      slot slot' := by
  obtain ⟨f, f', hbody, hbody', hinner⟩ := hlaid.side_by_side hlaid' hnode hnode' hlength
  refine .bodies hbody hbody' fun i hi => ?_
  obtain ⟨part, part', hpart, hpart', hlaid, hlaid'⟩ := hinner i hi
  exact ⟨done, done', part, part', hdone, hlaid, hlaid', hparts i part part' hpart hpart'⟩

/-- An expression is settled if the one that it stands for without a slot of its own is. -/
private theorem settled_of_below (hlaid : e.LaidOut (g.places recasting.cells) done slot)
    (hwrapped : ∀ inner, e = .wrapped inner →
      recasting.Settled src memoize memoize' done inner slot)
    (hshared : ∀ rule inner earlier, e = .shared rule → Latest rule inner earlier done →
      recasting.Settled src memoize memoize' earlier inner slot) :
    recasting.Settled src memoize memoize' done e slot := by
  intro slot' done' e' hdone hlaid' hrecast
  cases hrecast with
  | parts hnode hnode' hlength hparts =>
      exact agrees_of_parts hdone hlaid hlaid' hnode hnode' hlength hparts
  | reference rule =>
      obtain ⟨cell, hbody, hcell⟩ := hlaid.of_reference
      obtain ⟨cell', hbody', hcell'⟩ := hlaid'.of_reference
      have hholds : g.bodies[slot]? = some ((Body.reference 0).inSlots [cell]) := hbody
      have hholds' : g'.bodies[slot']? = some ((Body.reference 0).inSlots [cell']) := hbody'
      refine .bodies hholds hholds' fun i hi => ?_
      obtain rfl := List.mem_singleton.1 hi
      exact ⟨_, _, _, _, recasting.recast.reverse, recasting.placed.cells cell rule hcell,
        recasting.placed'.cells cell' rule hcell', .shared rule⟩
  | shared rule =>
      obtain ⟨e, earlier, hlatest, -⟩ := hlaid.of_shared
      obtain ⟨e', earlier', hlatest', hlaid'⟩ := hlaid'.of_shared
      obtain ⟨hrecast, hearlier⟩ := hdone.latest hlatest hlatest'
      exact hshared rule e earlier rfl hlatest slot' earlier' e' hearlier hlaid' hrecast
  | @behind e e' hrecast => exact hwrapped e rfl slot' done' e' hdone hlaid'.of_wrapped hrecast
  -- Where a law is applied, it says itself what the two slots do, down to the parts.
  | forth hlaw hpairs =>
      have hsource : (Env.unlimited g' src memoize').source =
          (Env.unlimited g src memoize).source := rfl
      exact .weaves (recasting.sound.weaves hlaw hsource hlaid hlaid'
        fun pair hmem part part' hpart hpart' =>
          ⟨done, done', pair.1, pair.2, hdone, hpart, hpart', hpairs pair hmem⟩)
  | back hlaw hpairs =>
      have hsource : (Env.unlimited g src memoize).source =
          (Env.unlimited g' src memoize').source := rfl
      have hweaves : (Env.unlimited g' src memoize').Weaves (Env.unlimited g src memoize)
          (flip recasting.Corresponds) slot' slot :=
        recasting.sound.weaves hlaw hsource hlaid' hlaid fun pair hmem part part' hpart hpart' =>
          ⟨done, done', pair.2, pair.1, hdone, hpart', hpart, hpairs pair hmem⟩
      exact .weaves hweaves.symm

/-- Slots of expressions that are recast do the same. -/
theorem agrees (h : recasting.Corresponds slot slot') :
    (Env.unlimited g src memoize).Agrees (Env.unlimited g' src memoize') recasting.Corresponds
      slot slot' := by
  obtain ⟨done, done', e, e', hdone, hlaid, hlaid', hrecast⟩ := h
  have hsettled : recasting.Settled src memoize memoize' done e slot :=
    hlaid.through fun _ _ _ => settled_of_below
  exact hsettled slot' done' e' hdone hlaid' hrecast

/-- A rule of the one grammar is one of the other, and the two correspond. -/
theorem exists_rule {name : String} (hrule : g.rule? name = some slot) :
    ∃ slot', g'.rule? name = some slot' ∧ recasting.Corresponds slot slot' := by
  obtain ⟨slot', hrule', hlaid, hlaid'⟩ :=
    recasting.placed.exists_rule recasting.placed' recasting.recast.names_eq hrule
  exact ⟨slot', hrule', _, _, _, _, recasting.recast.reverse, hlaid, hlaid', .shared name⟩

/-- If a run of a rule of the one grammar ends without memoization, runs of the rule of this
name end in both grammars and in either mode, with the same answer, the same end and the same
deepest failure. -/
theorem parse (recasting : Recasting law g g') (hfree : g.StateFree) (hfree' : g'.StateFree)
    (hclosed : g.Closed) (hclosed' : g'.Closed) {name : String}
    (hrule : g.rule? name = some slot) (src : Source) {start fuel : Nat}
    {run : Option Match × State}
    (hends : (Env.unlimited g src false).call fuel slot start {} = some run) :
    ∃ slot', g'.rule? name = some slot' ∧ ∀ memoize memoize', ∃ run run',
      (Env.unlimited g src memoize).parse slot start {} = some run ∧
      (Env.unlimited g' src memoize').parse slot' start {} = some run' ∧
      SameAsSeen id run run' := by
  obtain ⟨slot', hrule', hroot⟩ := recasting.exists_rule hrule
  refine ⟨slot', hrule', fun memoize memoize' => ?_⟩
  have hends' : ((Env.unlimited g src memoize).withMemo false).call fuel slot start {} =
      some run := hends
  obtain ⟨height, ending, failures, heval⟩ := Env.eval_of_run hfree rfl hends'
  have hslot : slot < g.size := recasting.placed.lt_size_of_rule hrule
  have hslot' : slot' < g'.size := recasting.placed'.lt_size_of_rule hrule'
  have hsource : (Env.unlimited g' src memoize').source = (Env.unlimited g src memoize).source :=
    rfl
  have hfollows := Env.follows_of_agrees hsource hclosed hclosed' (fun _ _ => recasting.agrees)
    height hroot
  exact Env.parse_of_follows hfree hfree' hclosed hclosed' rfl rfl hslot hslot' hfollows heval

end Recasting

/-- Grammars from rules that are recast give the same outcomes, if no value in the rules
depends on the run. -/
theorem parseAll_recast {law : Law} {g g' : Grammar} {rules rules' : List (String × Expr)}
    (hlaw : law.Sound) (hfree : ∀ rule ∈ rules, rule.2.StateFree)
    (hrules : Rulewise (Expr.Recast law) rules rules') (hbuild : build rules = .ok g)
    (hbuild' : build rules' = .ok g') {name : String} {slot : SlotId}
    (hrule : g.rule? name = some slot) (src : Source) {fuel : Nat} {run : Option Match × State}
    (hends : (Env.unlimited g src false).call fuel slot 0 {} = some run) :
    ∃ slot', g'.rule? name = some slot' ∧ ∀ memoize memoize', ∃ report report',
      (Env.unlimited g src memoize).parseAll slot = some report ∧
      (Env.unlimited g' src memoize').parseAll slot' = some report' ∧
      report'.outcome = report.outcome := by
  have hfree' : ∀ rule ∈ rules', rule.2.StateFree := by
    intro rule hmem
    obtain ⟨e, hin, hrecast⟩ := hrules.of_mem_right hmem
    have hviews := Expr.stateFree_iff_views.1 (hfree _ hin)
    exact Expr.stateFree_iff_views.2 (hrecast.views hlaw hviews)
  obtain ⟨cells, hplaced⟩ := build_placed hbuild
  obtain ⟨cells', hplaced'⟩ := build_placed hbuild'
  let recasting : Recasting law g g' :=
    ⟨hlaw, rules, rules', hrules, cells, cells', hplaced, hplaced'⟩
  obtain ⟨slot', hrule', hruns⟩ := recasting.parse (build_stateFree hfree hbuild)
    (build_stateFree hfree' hbuild') (build_closed hbuild) (build_closed hbuild') hrule src hends
  refine ⟨slot', hrule', fun memoize memoize' => ?_⟩
  obtain ⟨run, run', hparse, hparse', hsame⟩ := hruns memoize memoize'
  exact ⟨_, _, by rw [Env.parseAll, hparse], by rw [Env.parseAll, hparse'],
    Env.outcome_of_seen rfl hsame⟩

end Grammar

end Packrat
