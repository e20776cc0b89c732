import Packrat.Proofs.LaidOut
/-!
# What values may depend on

A parser may make a value from a view of the run that it is part of. How much of the view a
value depends on is a property of the functions that are written in the rules: of those in
an expression, and so of those in the table that the rules are laid out in.

## Main definitions

* `View`, `Expr.Views` — functions that make values in a run, and those in an expression.

## Main results

* `Grammar.build_views` — the functions in a grammar are those in its rules.
* `Grammar.build_stateFree` — so no value in it depends on the run if none in the rules does.
-/

namespace Packrat

/-- A function that makes a value of a match from a view of the run. -/
abbrev View := Snapshot → Source → Match → Value

/-- A function that makes the same value whatever it sees. -/
def View.Blind (view : View) : Prop := ∀ snapshot, view snapshot = view .blank

/-- The function of a body, if it makes a value from a view of the run, has a property. -/
def Body.Views (P : View → Prop) : Body → Prop
  | .mapInRun make _ => P make
  | _ => True

theorem Body.stateFree_iff_views {body : Body} : body.StateFree ↔ body.Views View.Blind := by
  cases body <;> exact Iff.rfl

theorem Body.Views.imp {P Q : View → Prop} {body : Body} (h : body.Views P)
    (himp : ∀ {view}, P view → Q view) : body.Views Q := by
  cases body with
  | mapInRun make inner => exact himp h
  | _ => exact True.intro

/-- Where the parts are makes no difference to the function of a body. -/
theorem Body.Views.inSlots {P : View → Prop} {body : Body} (h : body.Views P)
    (slots : List SlotId) : (body.inSlots slots).Views P := by
  cases body <;> exact h

namespace Expr

/-- All functions in an expression that make values from a view of the run have a
property. -/
inductive Views (P : View → Prop) : Expr → Prop
  | node {e : Expr} {body : Body} {parts : List Expr} (hnode : e.node? = some (body, parts))
      (hbody : body.Views P) (hparts : ∀ part ∈ parts, part.Views P) : Views P e
  | reference (rule : String) : Views P (.reference rule)
  | shared (rule : String) : Views P (.shared rule)
  | wrapped {inner : Expr} (h : inner.Views P) : Views P (.wrapped inner)

variable {P : View → Prop} {e : Expr}

theorem views_iff_of_node {body : Body} {parts : List Expr}
    (hnode : e.node? = some (body, parts)) :
    e.Views P ↔ body.Views P ∧ ∀ part ∈ parts, part.Views P := by
  refine ⟨fun h => ?_, fun h => .node hnode h.1 h.2⟩
  cases h with
  | node hnode' hbody hparts =>
      obtain ⟨rfl, rfl⟩ := Prod.mk.inj (Option.some.inj (hnode'.symm.trans hnode))
      exact ⟨hbody, hparts⟩
  | reference | shared | wrapped => contradiction

theorem views_wrapped : (wrapped e).Views P ↔ e.Views P := by
  refine ⟨fun h => ?_, .wrapped⟩
  cases h with
  | node hnode => contradiction
  | wrapped h => exact h

/-- No value in an expression depends on the run if all functions in it are blind. -/
theorem stateFree_iff_views : e.StateFree ↔ e.Views View.Blind := by
  constructor
  · intro h
    induction h with
    | node hnode hbody _ ih => exact .node hnode (Body.stateFree_iff_views.1 hbody) ih
    | reference rule => exact .reference rule
    | shared rule => exact .shared rule
    | wrapped _ ih => exact .wrapped ih
  · intro h
    induction h with
    | node hnode hbody _ ih => exact .node hnode (Body.stateFree_iff_views.2 hbody) ih
    | reference rule => exact .reference rule
    | shared rule => exact .shared rule
    | wrapped _ ih => exact .wrapped ih

/-- All functions in an expression with one part are those in the part, if its body has
none. -/
theorem views_iff_of_one {a : Expr} {body : Body} (hnode : e.node? = some (body, [a]))
    (hbody : body.Views P) : e.Views P ↔ a.Views P := by
  rw [views_iff_of_node hnode, List.forall_mem_singleton, and_iff_right hbody]

theorem views_iff_of_two {a b : Expr} {body : Body} (hnode : e.node? = some (body, [a, b]))
    (hbody : body.Views P) : e.Views P ↔ a.Views P ∧ b.Views P := by
  rw [views_iff_of_node hnode, List.forall_mem_cons, List.forall_mem_singleton,
    and_iff_right hbody]

theorem views_iff_of_three {a b c : Expr} {body : Body}
    (hnode : e.node? = some (body, [a, b, c])) (hbody : body.Views P) :
    e.Views P ↔ a.Views P ∧ b.Views P ∧ c.Views P := by
  rw [views_iff_of_node hnode, List.forall_mem_cons, List.forall_mem_cons,
    List.forall_mem_singleton, and_iff_right hbody]

section Forms

variable {a b c : Expr}

@[simp] theorem views_sequence : (sequence a b).Views P ↔ a.Views P ∧ b.Views P :=
  views_iff_of_two rfl True.intro

@[simp] theorem views_choice : (choice a b).Views P ↔ a.Views P ∧ b.Views P :=
  views_iff_of_two rfl True.intro

@[simp] theorem views_capture : (capture a).Views P ↔ a.Views P :=
  views_iff_of_one rfl True.intro

@[simp] theorem views_ignore : (ignore a).Views P ↔ a.Views P :=
  views_iff_of_one rfl True.intro

@[simp] theorem views_zeroOrMore : (zeroOrMore a).Views P ↔ a.Views P :=
  views_iff_of_one rfl True.intro

@[simp] theorem views_map {make : Source → Match → Value} : (map make a).Views P ↔ a.Views P :=
  views_iff_of_one rfl True.intro

@[simp] theorem views_leftAssociative {combine : Value → Value → Value → Value} :
    (leftAssociative combine a b).Views P ↔ a.Views P ∧ b.Views P :=
  views_iff_of_two rfl True.intro

@[simp] theorem views_foldLeft {apply : Value → Value → Value} :
    (foldLeft apply a b).Views P ↔ a.Views P ∧ b.Views P :=
  views_iff_of_two rfl True.intro

@[simp] theorem views_between : (between a b c).Views P ↔ a.Views P ∧ b.Views P ∧ c.Views P :=
  views_iff_of_three rfl True.intro

@[simp] theorem views_separated : (separated a b).Views P ↔ a.Views P ∧ b.Views P :=
  views_iff_of_two rfl True.intro

end Forms

end Expr

/-! ## Grammars -/

namespace Build

variable {P : View → Prop}

private theorem views_push {bodies : Array Body} {body : Body}
    (h : ∀ other ∈ bodies, other.Views P) (hbody : body.Views P) :
    ∀ other ∈ bodies.push body, other.Views P := by
  intro other hother
  rcases Array.mem_push.1 hother with hother | rfl
  · exact h other hother
  · exact hbody

/-- Each way to lay out an expression adds no functions but those in the expression. -/
theorem viewsScheme (P : View → Prop) (names : List String) :
    Scheme names (fun layout => ∀ body ∈ layout.bodies, body.Views P)
      (fun _ (_ : Unit) => True) (fun _ _ => ()) (Expr.Views P) where
  parts hviews hnode := ((Expr.views_iff_of_node hnode).1 hviews).2
  inner := Expr.views_wrapped.1
  node slots _ _ hexpr hnode _ _ := by
    intro layout a layout' hviews _ hrun
    obtain ⟨-, rfl⟩ := Prod.mk.inj (Except.ok.inj hrun)
    have hbody := ((Expr.views_iff_of_node hnode).1 hexpr).1
    exact ⟨views_push hviews (hbody.inSlots slots), fun _ _ => True.intro⟩
  reference _ := by
    intro layout a layout' hviews _ hrun
    obtain ⟨-, rfl⟩ := Prod.mk.inj (Except.ok.inj hrun)
    have hcell := views_push hviews (show (Body.primitive .any).Views P from True.intro)
    exact ⟨views_push hcell True.intro, fun _ _ => True.intro⟩
  shared := by
    intro rule known layout a layout' hviews _ hrun
    obtain ⟨slot, body, -, hbody, -, rfl⟩ := run_shared hrun
    exact ⟨views_push hviews (hviews body (Array.mem_of_getElem? hbody)), fun _ _ => True.intro⟩
  wrapped := id

end Build

namespace Grammar

variable {P : View → Prop} {rules : List (String × Expr)} {g : Grammar}

/-- Laying out rules adds no functions but those in the rules. -/
theorem buildRules_views {names : List String} (hrules : ∀ rule ∈ rules, rule.2.Views P)
    (known : List Unit) :
    Build.Carries (fun layout => ∀ body ∈ layout.bodies, body.Views P) (fun _ _ => True) known
      (buildRules names rules) fun _ => [] := by
  induction rules generalizing known with
  | nil => exact .pure nofun
  | cons rule rest ih =>
      obtain ⟨name, expr⟩ := rule
      have hexpr : expr.Views P := hrules (name, expr) (List.mem_cons_self ..)
      refine (expr.build_carries (Build.viewsScheme P names) hexpr known).bind fun laid => ?_
      have hadd : Build.Carries (fun layout => ∀ body ∈ layout.bodies, body.Views P)
          (fun _ (_ : Unit) => True) ([()] ++ known)
          (modify fun layout => { layout with rules := (name, laid.1) :: layout.rules } :
            Build PUnit) fun _ => [] := by
        intro layout a layout' hviews hknown hrun
        obtain ⟨-, rfl⟩ := Prod.mk.inj (Except.ok.inj hrun)
        exact ⟨hviews, hknown⟩
      exact hadd.bind fun _ => ih (fun rule hmem => hrules rule (List.mem_cons_of_mem _ hmem)) _

/-- All functions in a grammar that make values from a view of the run are in its rules. -/
theorem build_views (hrules : ∀ rule ∈ rules, rule.2.Views P) (hbuild : build rules = .ok g) :
    ∀ body ∈ g.bodies, body.Views P := by
  obtain ⟨layout, hrun, rfl⟩ := exists_layout hbuild
  have hempty : ∀ body ∈ ({} : Layout).bodies, body.Views P := by simp
  have hviews := (buildRules_views hrules [] {} () layout hempty nofun hrun).1
  exact fun body hbody => hviews body (mem_fillCells hbody)

/-- No value in a grammar depends on the run if none in its rules does. -/
theorem build_stateFree (hrules : ∀ rule ∈ rules, rule.2.StateFree)
    (hbuild : build rules = .ok g) : g.StateFree := by
  have hviews := build_views (fun rule hmem => Expr.stateFree_iff_views.1 (hrules rule hmem)) hbuild
  exact fun body hbody => Body.stateFree_iff_views.2 (hviews body hbody)

end Grammar

end Packrat
