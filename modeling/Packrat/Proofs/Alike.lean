import Packrat.Proofs.FollowRun
import Packrat.Proofs.Views
/-!
# Expressions that are alike

Two grammars may be written differently and do the same. `Expr.Alike` relates expressions
that have the same body and parts that are alike, where on either side an expression may
stand for another one: one behind a pointer, one under a name if names are not looked at,
and on the left a rule that has been copied on the right.

Slots where alike expressions are laid out match in the sense of `Grammar.Matches`. A
reference is a parser in between there. A pointer, or a rule that is shared, is none, since
it has no slot of its own; these are followed until a body is reached. That comes to an end
because a rule shares only rules before it.

## Main definitions

* `Expr.Alike` — expressions that do the same.
* `Grammar.Pairing` — two grammars from rules that are alike.

## Main results

* `Grammar.Pairing.corresponds_matches` — slots of alike expressions match.
* `Grammar.parse_of_alike` — runs of the two grammars go alike.
-/

namespace Packrat

/-- Lists that are related entry by entry are so at each index. -/
theorem related_of_forall₂ {α : Type} {R : α → α → Prop} {entries entries' : List α}
    (h : List.Forall₂ R entries entries') (i : Nat) (entry entry' : α)
    (hentry : entries[i]? = some entry) (hentry' : entries'[i]? = some entry') :
    R entry entry' := by
  obtain ⟨hlt, rfl⟩ := List.getElem?_eq_some_iff.1 hentry
  obtain ⟨hlt', rfl⟩ := List.getElem?_eq_some_iff.1 hentry'
  exact h.get hlt hlt'

/-- What is so of all entries carries over to another list if it does at each index. -/
theorem forall_mem_of_related {α : Type} {P : α → Prop} {entries entries' : List α}
    (hlength : entries.length = entries'.length)
    (himp : ∀ (i : Nat) entry entry', entries[i]? = some entry → entries'[i]? = some entry' →
      P entry → P entry') (h : ∀ entry ∈ entries, P entry) : ∀ entry' ∈ entries', P entry' := by
  intro entry' hmem
  obtain ⟨i, hentry'⟩ := List.mem_iff_getElem?.1 hmem
  have hlt : i < entries.length := hlength ▸ (List.getElem?_eq_some_iff.1 hentry').1
  exact himp i _ entry' (List.getElem?_eq_getElem hlt) hentry' (h _ (List.getElem_mem hlt))

namespace Expr

/-- An expression stands for another one and does nothing of its own, apart from names
that are not looked at. A rule may be opened if it has been copied. -/
inductive Opens (see : Option String → Option String) (copied : List (String × Expr)) :
    Expr → Expr → Prop
  | wrapped (inner : Expr) : Opens see copied (.wrapped inner) inner
  | named (name : String) (inner : Expr) (hblind : ∀ name, see name = none) :
    Opens see copied (.named name inner) inner
  | reference {rule : String} {e : Expr} (hrule : (rule, e) ∈ copied) :
    Opens see copied (.reference rule) e
  | shared {rule : String} {e : Expr} (hrule : (rule, e) ∈ copied) :
    Opens see copied (.shared rule) e

/-- Expressions that do the same: they have the same body with parts that are alike, or
refer to the same rule, or one of them stands for an expression that is alike. -/
inductive Alike (see : Option String → Option String) (copied : List (String × Expr)) :
    Expr → Expr → Prop
  | parts {e e' : Expr} {body : Body} {parts parts' : List Expr}
      (hnode : e.node? = some (body, parts)) (hnode' : e'.node? = some (body, parts'))
      (hlength : parts.length = parts'.length)
      (hparts : ∀ (i : Nat) part part', parts[i]? = some part → parts'[i]? = some part' →
        Alike see copied part part') : Alike see copied e e'
  | reference (rule : String) : Alike see copied (.reference rule) (.reference rule)
  | shared (rule : String) : Alike see copied (.shared rule) (.shared rule)
  | share {rule : String} {e : Expr} (hrule : (rule, e) ∈ copied) :
    Alike see copied (.reference rule) (.shared rule)
  | left {e e' inner : Expr} (hopens : e.Opens see copied inner)
      (h : Alike see copied inner e') : Alike see copied e e'
  | right {e e' inner : Expr} (hopens : e'.Opens see [] inner)
      (h : Alike see copied e inner) : Alike see copied e e'

variable {see : Option String → Option String} {copied : List (String × Expr)}

/-- Expressions behind pointers are alike if the expressions are. -/
theorem Alike.wrapped {e e' : Expr} (h : e.Alike see copied e') :
    (Expr.wrapped e).Alike see copied (.wrapped e') :=
  .left (.wrapped e) (.right (.wrapped e') h)

theorem Alike.refl {e : Expr} (h : e.StateFree) : e.Alike see copied e := by
  induction h with
  | node hnode _ _ ih =>
      refine .parts hnode hnode rfl fun i part part' hpart hpart' => ?_
      obtain rfl := Option.some.inj (hpart.symm.trans hpart')
      exact ih part (List.mem_of_getElem? hpart)
  | reference rule => exact .reference rule
  | shared rule => exact .shared rule
  | wrapped _ ih => exact ih.wrapped

/-- If no value depends on the run in an expression and in the rules that are copied, none
does in an expression that is alike. -/
theorem Alike.stateFree (hcopied : ∀ rule ∈ copied, rule.2.StateFree) {e e' : Expr}
    (h : e.Alike see copied e') (hfree : e.StateFree) : e'.StateFree := by
  induction h with
  | @parts e e' body parts parts' hnode hnode' hlength _ ih =>
      obtain ⟨hbody, hparts⟩ := hfree.of_node hnode
      exact .node hnode' hbody (forall_mem_of_related hlength ih hparts)
  | reference | shared => exact hfree
  | share => exact .shared _
  | left hopens _ ih =>
      refine ih ?_
      cases hopens with
      | wrapped => exact hfree.of_wrapped
      | named => exact (hfree.of_node rfl).2 _ (List.mem_singleton_self _)
      | reference hrule | shared hrule => exact hcopied _ hrule
  | right hopens _ ih =>
      cases hopens with
      | wrapped inner => exact .wrapped (ih hfree)
      | named name inner =>
          refine .node rfl True.intro fun part hpart => ?_
          rw [List.mem_singleton.1 hpart]
          exact ih hfree
      | reference hrule | shared hrule => contradiction

end Expr

/-! ## Grammars from rules that are alike -/

/-- Rules of the same names, in the same order, with expressions that are related. -/
def Rulewise (R : Expr → Expr → Prop) (rules rules' : List (String × Expr)) : Prop :=
  List.Forall₂ (fun rule rule' => rule.1 = rule'.1 ∧ R rule.2 rule'.2) rules rules'

namespace Rulewise

variable {R : Expr → Expr → Prop} {rules rules' : List (String × Expr)}

theorem names_eq (h : Rulewise R rules rules') : rules.map (·.1) = rules'.map (·.1) := by
  induction h with
  | nil => rfl
  | cons hrule _ ih => rw [List.map_cons, List.map_cons, hrule.1, ih]

theorem of_mem_right (h : Rulewise R rules rules') {rule : String} {e' : Expr}
    (hmem : (rule, e') ∈ rules') : ∃ e, (rule, e) ∈ rules ∧ R e e' := by
  induction h with
  | nil => contradiction
  | @cons first first' rest rest' hrule _ ih =>
      rcases List.mem_cons.1 hmem with rfl | hmem
      · obtain ⟨name, e⟩ := first
        obtain ⟨rfl, hrelated⟩ := hrule
        exact ⟨e, List.mem_cons_self .., hrelated⟩
      · obtain ⟨e, hin, hrelated⟩ := ih hmem
        exact ⟨e, List.mem_cons_of_mem _ hin, hrelated⟩

theorem imp_of_mem {R' : Expr → Expr → Prop} (h : Rulewise R rules rules')
    (himp : ∀ name e e', (name, e) ∈ rules → R e e' → R' e e') : Rulewise R' rules rules' := by
  induction h with
  | nil => exact .nil
  | @cons first first' rest rest' hrule _ ih =>
      obtain ⟨name, e⟩ := first
      obtain ⟨hname, hrelated⟩ := hrule
      exact .cons ⟨hname, himp name e first'.2 (List.mem_cons_self ..) hrelated⟩
        (ih fun name e e' hin => himp name e e' (List.mem_cons_of_mem _ hin))

/-- If no value depends on the run in rules and in those that are copied, none does in rules
that are alike. -/
theorem stateFree {see : Option String → Option String} {copied : List (String × Expr)}
    (h : Rulewise (Expr.Alike see copied) rules rules')
    (hcopied : ∀ rule ∈ copied, rule.2.StateFree) (hfree : ∀ rule ∈ rules, rule.2.StateFree) :
    ∀ rule ∈ rules', rule.2.StateFree := by
  intro rule hmem
  obtain ⟨e, hin, halike⟩ := h.of_mem_right hmem
  exact halike.stateFree hcopied (hfree _ hin)

theorem reverse (h : Rulewise R rules rules') : Rulewise R rules.reverse rules'.reverse :=
  List.forall₂_reverse_iff.2 h

/-- Rules that a name stands for are related, and so are those before them. -/
theorem latest (h : Rulewise R rules rules') {rule : String} {e e' : Expr}
    {earlier earlier' : List (String × Expr)} (hlatest : Latest rule e earlier rules)
    (hlatest' : Latest rule e' earlier' rules') : R e e' ∧ Rulewise R earlier earlier' := by
  induction hlatest generalizing rules' with
  | here =>
      cases h with
      | cons hrule hrest =>
          cases hlatest' with
          | here => exact ⟨hrule.2, hrest⟩
          | later hne => exact absurd hrule.1.symm hne
  | later hne _ ih =>
      cases h with
      | cons hrule hrest =>
          cases hlatest' with
          | here => exact absurd hrule.1 hne
          | later _ hlatest' => exact ih hrest hlatest'

end Rulewise

/-- A grammar on a source, without a depth limit. -/
def Env.unlimited (g : Grammar) (src : Source) (memoize : Bool) : Env :=
  ⟨g, src, ⟨memoize, none⟩⟩

namespace Grammar

/-- Rules that are found to make a grammar make one. -/
theorem exists_build {rules : List (String × Expr)}
    (h : (build rules).toOption.isSome = true) : ∃ g, build rules = .ok g := by
  cases hbuild : build rules with
  | error error =>
      rw [hbuild] at h
      contradiction
  | ok g => exact ⟨g, rfl⟩

/-- What is found of a rule is so of its slot in the grammar. -/
theorem exists_found {α : Type} {rules : List (String × Expr)} {name : String}
    {f : Grammar → SlotId → Option α}
    (h : ((build rules).toOption.bind fun g => (g.rule? name).bind (f g)).isSome = true) :
    ∃ g slot a, build rules = .ok g ∧ g.rule? name = some slot ∧ f g slot = some a := by
  obtain ⟨a, ha⟩ := Option.isSome_iff_exists.1 h
  obtain ⟨g, hg, ha⟩ := Option.bind_eq_some_iff.1 ha
  obtain ⟨slot, hrule, ha⟩ := Option.bind_eq_some_iff.1 ha
  obtain ⟨g', hbuild⟩ := exists_build (Option.isSome_iff_exists.2 ⟨g, hg⟩)
  rw [hbuild] at hg
  obtain rfl := Option.some.inj hg
  exact ⟨g', slot, a, hbuild, hrule, ha⟩

/-- A run of a rule that is found to end ends. -/
theorem exists_run {rules : List (String × Expr)} {name : String} {src : Source} {fuel : Nat}
    (h : ((build rules).toOption.bind fun g => (g.rule? name).bind fun slot =>
      (Env.unlimited g src false).call fuel slot 0 {}).isSome = true) :
    ∃ g slot run, build rules = .ok g ∧ g.rule? name = some slot ∧
      (Env.unlimited g src false).call fuel slot 0 {} = some run :=
  exists_found h

/-- Two grammars from rules that are alike, when names are seen in a certain way.
`Before` says which rules may have been laid out before expressions that are compared: it
goes over to the rules before two that a name stands for, and on the left, if there are
rules to be opened, to those before such a rule. -/
structure Pairing (see : Option String → Option String) (g g' : Grammar) where
  written : List (String × Expr)
  written' : List (String × Expr)
  names : written.map (·.1) = written'.map (·.1)
  cells : List (SlotId × String)
  cells' : List (SlotId × String)
  placed : g.Placed written cells
  placed' : g'.Placed written' cells'
  copied : List (String × Expr)
  Before : List (String × Expr) → List (String × Expr) → Prop
  whole : Before written.reverse written'.reverse
  alike : ∀ {done done' earlier earlier' : List (String × Expr)} {rule : String} {e e' : Expr},
    Before done done' → Latest rule e earlier done → Latest rule e' earlier' done' →
    e.Alike see copied e' ∧ Before earlier earlier'
  opened : ∀ {done done' earlier : List (String × Expr)} {rule : String} {e e' : Expr},
    Before done done' → (rule, e) ∈ copied → Latest rule e' earlier done →
    e' = e ∧ Before earlier done'
  anew : ∀ {done done' : List (String × Expr)} {entry : String × Expr},
    Before done done' → entry ∈ copied → Before written.reverse done'

namespace Pairing

variable {see : Option String → Option String} {g g' : Grammar} (pairing : Pairing see g g')

/-- Slots where expressions that are alike are laid out. -/
def Corresponds (slot slot' : SlotId) : Prop :=
  ∃ done done', ∃ e e' : Expr, pairing.Before done done' ∧
    e.LaidOut (g.places pairing.cells) done slot ∧
    e'.LaidOut (g'.places pairing.cells') done' slot' ∧ e.Alike see pairing.copied e'

/-- The slot of an expression matches all slots where alike expressions are laid out. -/
def Settled (done : List (String × Expr)) (e : Expr) (slot : SlotId) : Prop :=
  ∀ slot' done' e', pairing.Before done done' →
    e'.LaidOut (g'.places pairing.cells') done' slot' → e.Alike see pairing.copied e' →
    g.Matches g' see pairing.Corresponds slot slot'

variable {pairing} {done done' : List (String × Expr)} {e e' : Expr} {slot slot' : SlotId}

/-- Slots of expressions with the same body match if the parts are alike. -/
private theorem matches_of_parts {body : Body} {parts parts' : List Expr}
    (hbefore : pairing.Before done done')
    (hlaid : e.LaidOut (g.places pairing.cells) done slot)
    (hlaid' : e'.LaidOut (g'.places pairing.cells') done' slot')
    (hnode : e.node? = some (body, parts)) (hnode' : e'.node? = some (body, parts'))
    (hlength : parts.length = parts'.length)
    (hparts : ∀ (i : Nat) part part', parts[i]? = some part → parts'[i]? = some part' →
      part.Alike see pairing.copied part') :
    g.Matches g' see pairing.Corresponds slot slot' := by
  obtain ⟨f, f', hbody, hbody', hinner⟩ := hlaid.side_by_side hlaid' hnode hnode' hlength
  refine .bodies hbody hbody' fun i hi => ?_
  obtain ⟨part, part', hpart, hpart', hlaid, hlaid'⟩ := hinner i hi
  exact ⟨done, done', part, part', hbefore, hlaid, hlaid', hparts i part part' hpart hpart'⟩

/-- Cells of one rule correspond. -/
private theorem corresponds_of_cells {cell cell' : SlotId} {rule : String}
    (hcell : (g.places pairing.cells).refers cell rule)
    (hcell' : (g'.places pairing.cells').refers cell' rule) :
    pairing.Corresponds cell cell' :=
  ⟨_, _, _, _, pairing.whole, pairing.placed.cells cell rule hcell,
    pairing.placed'.cells cell' rule hcell', .shared rule⟩

/-- An expression that stands for another one matches what that one matches. -/
private theorem matches_of_left {inner : Expr} (hbefore : pairing.Before done done')
    (hlaid : e.LaidOut (g.places pairing.cells) done slot)
    (hlaid' : e'.LaidOut (g'.places pairing.cells') done' slot')
    (hwrapped : ∀ inner, e = .wrapped inner → pairing.Settled done inner slot)
    (hshared : ∀ rule inner earlier, e = .shared rule → Latest rule inner earlier done →
      pairing.Settled earlier inner slot)
    (hopens : e.Opens see pairing.copied inner) (halike : inner.Alike see pairing.copied e') :
    g.Matches g' see pairing.Corresponds slot slot' := by
  cases hopens with
  | wrapped inner => exact hwrapped inner rfl slot' done' e' hbefore hlaid' halike
  | named name inner hblind =>
      obtain ⟨innerSlot, hbody, hinner⟩ := hlaid.of_named
      exact .left (.named hbody hblind) ⟨done, done', inner, e', hbefore, hinner, hlaid', halike⟩
  | @reference rule inner hrule =>
      obtain ⟨cell, hbody, hcell⟩ := hlaid.of_reference
      obtain ⟨e₁, earlier, hlatest, hinner⟩ := (pairing.placed.cells cell rule hcell).of_shared
      obtain ⟨rfl, hbefore'⟩ := pairing.opened (pairing.anew hbefore hrule) hrule hlatest
      exact .left (.reference hbody) ⟨earlier, done', e₁, e', hbefore', hinner, hlaid', halike⟩
  | @shared rule inner hrule =>
      obtain ⟨e₁, earlier, hlatest, -⟩ := hlaid.of_shared
      obtain ⟨rfl, hbefore'⟩ := pairing.opened hbefore hrule hlatest
      exact hshared rule e₁ earlier rfl hlatest slot' done' e' hbefore' hlaid' halike

/-- An expression is settled if the one that it stands for without a slot of its own is. -/
private theorem settled_of_below (hlaid : e.LaidOut (g.places pairing.cells) done slot)
    (hwrapped : ∀ inner, e = .wrapped inner → pairing.Settled done inner slot)
    (hshared : ∀ rule inner earlier, e = .shared rule → Latest rule inner earlier done →
      pairing.Settled earlier inner slot) : pairing.Settled done e slot := by
  intro slot' done' e' hbefore hlaid' halike
  -- The slot on the left stays. On the right there may be any number of expressions in
  -- between before one is reached that has a body, so the induction is on the relation.
  induction halike generalizing slot' done' with
  | parts hnode hnode' hlength hparts _ =>
      exact matches_of_parts hbefore hlaid hlaid' hnode hnode' hlength hparts
  | reference rule =>
      obtain ⟨cell, hbody, hcell⟩ := hlaid.of_reference
      obtain ⟨cell', hbody', hcell'⟩ := hlaid'.of_reference
      have hholds : g.bodies[slot]? = some ((Body.reference 0).inSlots [cell]) := hbody
      have hholds' : g'.bodies[slot']? = some ((Body.reference 0).inSlots [cell']) := hbody'
      refine .bodies hholds hholds' fun i hi => ?_
      obtain rfl := List.mem_singleton.1 hi
      exact corresponds_of_cells hcell hcell'
  | shared rule =>
      -- What the rule says need not be part of the relation of the two expressions.
      obtain ⟨e, earlier, hlatest, -⟩ := hlaid.of_shared
      obtain ⟨e', earlier', hlatest', hlaid'⟩ := hlaid'.of_shared
      obtain ⟨halike, hbefore'⟩ := pairing.alike hbefore hlatest hlatest'
      exact hshared rule e earlier rfl hlatest slot' earlier' e' hbefore' hlaid' halike
  | @share rule e hrule =>
      obtain ⟨cell, hbody, hcell⟩ := hlaid.of_reference
      exact .left (.reference hbody) ⟨_, done', _, _, pairing.anew hbefore hrule,
        pairing.placed.cells cell rule hcell, hlaid', .shared rule⟩
  | left hopens halike _ =>
      exact matches_of_left hbefore hlaid hlaid' hwrapped hshared hopens halike
  | right hopens _ ih =>
      cases hopens with
      | wrapped inner => exact ih hlaid hwrapped hshared slot' done' hbefore hlaid'.of_wrapped
      | named name inner hblind =>
          obtain ⟨innerSlot, hbody, hinner⟩ := hlaid'.of_named
          exact .right (.named hbody hblind)
            (ih hlaid hwrapped hshared innerSlot done' hbefore hinner)
      | reference hrule | shared hrule => contradiction

/-- Slots of alike expressions match. -/
theorem corresponds_matches (h : pairing.Corresponds slot slot') :
    g.Matches g' see pairing.Corresponds slot slot' := by
  obtain ⟨done, done', e, e', hbefore, hlaid, hlaid', halike⟩ := h
  have hsettled : pairing.Settled done e slot := hlaid.through fun _ _ _ => settled_of_below
  exact hsettled slot' done' e' hbefore hlaid' halike

/-- A rule of the one grammar is one of the other, and the two correspond. -/
theorem exists_rule {name : String} (hrule : g.rule? name = some slot) :
    ∃ slot', g'.rule? name = some slot' ∧ pairing.Corresponds slot slot' := by
  obtain ⟨slot', hrule', hlaid, hlaid'⟩ :=
    pairing.placed.exists_rule pairing.placed' pairing.names hrule
  exact ⟨slot', hrule', _, _, _, _, pairing.whole, hlaid, hlaid', .shared name⟩

/-- If a run of a rule of the one grammar ends without memoization, runs of the rule of
this name end in both grammars and in either mode, and they are the same as far as names are
looked at. -/
theorem parse_follows (pairing : Pairing see g g') (hfree : g.StateFree)
    (hfree' : g'.StateFree) (hclosed : g.Closed) (hclosed' : g'.Closed) {name : String}
    (hrule : g.rule? name = some slot) (src : Source) {fuel : Nat} {run : Option Match × State}
    (hends : (Env.unlimited g src false).call fuel slot 0 {} = some run) :
    ∃ slot', g'.rule? name = some slot' ∧ ∀ memoize memoize', ∃ run run',
      (Env.unlimited g src memoize).parse slot 0 {} = some run ∧
      (Env.unlimited g' src memoize').parse slot' 0 {} = some run' ∧ SameAsSeen see run run' := by
  obtain ⟨slot', hrule', hroot⟩ := pairing.exists_rule hrule
  refine ⟨slot', hrule', fun memoize memoize' => ?_⟩
  have hends' : ((Env.unlimited g src memoize).withMemo false).call fuel slot 0 {} = some run :=
    hends
  obtain ⟨height, ending, failures, heval⟩ := Env.eval_of_run hfree rfl hends'
  have hsource : (Env.unlimited g' src memoize').source = (Env.unlimited g src memoize).source :=
    rfl
  exact Env.parse_follows hsource hfree hfree' hclosed hclosed' rfl rfl
    (fun _ _ => corresponds_matches) hroot (pairing.placed.lt_size_of_rule hrule)
    (pairing.placed'.lt_size_of_rule hrule') heval

end Pairing

/-- Runs go alike in grammars from rules that are alike, if these make a pairing. -/
theorem parse_of_alike {see : Option String → Option String} {g g' : Grammar}
    {rules rules' copied : List (String × Expr)} (hfree : ∀ rule ∈ rules, rule.2.StateFree)
    (hcopied : ∀ rule ∈ copied, rule.2.StateFree)
    (halike : Rulewise (Expr.Alike see copied) rules rules')
    (pair : ∀ cells cells', g.Placed rules cells → g'.Placed rules' cells' → Pairing see g g')
    (hbuild : build rules = .ok g) (hbuild' : build rules' = .ok g') {name : String}
    {slot : SlotId} (hrule : g.rule? name = some slot) (src : Source) {fuel : Nat}
    {run : Option Match × State}
    (hends : (Env.unlimited g src false).call fuel slot 0 {} = some run) :
    ∃ slot', g'.rule? name = some slot' ∧ ∀ memoize memoize', ∃ run run',
      (Env.unlimited g src memoize).parse slot 0 {} = some run ∧
      (Env.unlimited g' src memoize').parse slot' 0 {} = some run' ∧ SameAsSeen see run run' := by
  have hg := build_stateFree hfree hbuild
  have hg' := build_stateFree (halike.stateFree hcopied hfree) hbuild'
  obtain ⟨cells, hplaced⟩ := build_placed hbuild
  obtain ⟨cells', hplaced'⟩ := build_placed hbuild'
  exact (pair cells cells' hplaced hplaced').parse_follows hg hg' (build_closed hbuild)
    (build_closed hbuild') hrule src hends

end Grammar

end Packrat
