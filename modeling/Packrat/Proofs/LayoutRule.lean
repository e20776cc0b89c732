import Packrat.Grammar.Build
import Packrat.Proofs.Span
/-!
# Rules for layouts

A grammar is laid out by steps that add bodies to a table. A step is shown to keep an
invariant of layouts by rules for each way of putting steps together. It is given a list of
facts that are known of the layout, keeps them, and adds those that it yields.

Expressions are laid out by a walk that adds a body after its parts. So whatever is to hold
of laying out an expression has to be shown only where its parts have been laid out: for an
expression with a body of its own, a reference, a parser that shares a rule, and one behind
a pointer.

## Main definitions

* `Expr.node?` — the body of an expression and its parts.
* `Build.Carries` — a step keeps an invariant and carries facts on.
* `Build.Scheme` — what is to be shown of each way to lay out an expression.

## Main results

* `Expr.build_carries` — so it holds of laying out any expression.
-/

namespace Packrat

/-! ## Bodies and their parts -/

namespace Body

/-- A body with its parts in other slots. -/
def rename (f : SlotId → SlotId) : Body → Body
  | .primitive p => .primitive p
  | .sequence first second => .sequence (f first) (f second)
  | .choice first second => .choice (f first) (f second)
  | .lookahead inner => .lookahead (f inner)
  | .negation inner => .negation (f inner)
  | .optional inner => .optional (f inner)
  | .zeroOrMore inner => .zeroOrMore (f inner)
  | .oneOrMore inner => .oneOrMore (f inner)
  | .map make inner => .map make (f inner)
  | .mapInRun make inner => .mapInRun make (f inner)
  | .tryMap make inner => .tryMap make (f inner)
  | .filter accepts description inner => .filter accepts description (f inner)
  | .named name inner => .named name (f inner)
  | .reference cell => .reference (f cell)
  | .leftAssociative combine term operator => .leftAssociative combine (f term) (f operator)
  | .foldLeft apply term operation => .foldLeft apply (f term) (f operation)
  | .between opening content closing => .between (f opening) (f content) (f closing)
  | .separated item separator => .separated (f item) (f separator)

theorem parts_rename (f : SlotId → SlotId) (body : Body) :
    (body.rename f).parts = body.parts.map f := by
  cases body <;> rfl

/-- A body whose parts are numbered, with its parts in the slots of a list. -/
def inSlots (body : Body) (slots : List SlotId) : Body := body.rename fun i => slots.getD i 0

end Body

/-! ## Expressions and their bodies -/

namespace Expr

/-- The body of an expression with its parts numbered, and the parts. Expressions that
stand for others have none. -/
def node? : Expr → Option (Body × List Expr)
  | .primitive p => some (.primitive p, [])
  | .regex text flags mode =>
    match Regex.compile text flags with
    | .ok expr => some (.primitive (.regex expr mode), [])
    | .error _ => none
  | .sequence first second => some (.sequence 0 1, [first, second])
  | .choice first second => some (.choice 0 1, [first, second])
  | .capture inner => some (.capture 0, [inner])
  | .ignore inner => some (.ignore 0, [inner])
  | .lookahead inner => some (.lookahead 0, [inner])
  | .negation inner => some (.negation 0, [inner])
  | .optional inner => some (.optional 0, [inner])
  | .zeroOrMore inner => some (.zeroOrMore 0, [inner])
  | .oneOrMore inner => some (.oneOrMore 0, [inner])
  | .map make inner => some (.map make 0, [inner])
  | .mapInRun make inner => some (.mapInRun make 0, [inner])
  | .tryMap make inner => some (.tryMap make 0, [inner])
  | .filter accepts description inner => some (.filter accepts description 0, [inner])
  | .named name inner => some (.named name 0, [inner])
  | .leftAssociative combine term operator =>
    some (.leftAssociative combine 0 1, [term, operator])
  | .foldLeft apply term operation => some (.foldLeft apply 0 1, [term, operation])
  | .between opening content closing => some (.between 0 1 2, [opening, content, closing])
  | .separated item separator => some (.separated 0 1, [item, separator])
  | .reference _ | .shared _ | .wrapped _ | .malformed | .malformedAfter _ => none

/-- The parts that a body names are there. -/
theorem lt_length_of_node? {e : Expr} {body : Body} {parts : List Expr}
    (h : e.node? = some (body, parts)) : ∀ part ∈ body.parts, part < parts.length := by
  cases e with
  | regex text flags mode =>
      simp only [node?] at h
      split at h
      · obtain ⟨rfl, rfl⟩ := Prod.mk.inj (Option.some.inj h)
        exact nofun
      · contradiction
  | reference | shared | wrapped | malformed | malformedAfter => contradiction
  | _ =>
      obtain ⟨rfl, rfl⟩ := Prod.mk.inj (Option.some.inj h)
      simp [Body.parts, Body.capture, Body.ignore]

end Expr

/-! ## Steps -/

namespace Build

variable {α β κ : Type} {Inv : Layout → Prop} {Fact : Layout → κ → Prop} {known : List κ}

/-- A step keeps an invariant of layouts and carries facts on: those that were known before
it and those that it yields hold after it. -/
def Carries (Inv : Layout → Prop) (Fact : Layout → κ → Prop) (known : List κ)
    (step : Build α) (yields : α → List κ) : Prop :=
  ∀ layout a layout', Inv layout → (∀ fact ∈ known, Fact layout fact) →
    step.run layout = .ok (a, layout') →
    Inv layout' ∧ ∀ fact ∈ yields a ++ known, Fact layout' fact

namespace Carries

theorem pure {a : α} {yields : α → List κ} (h : ∀ fact ∈ yields a, fact ∈ known) :
    Carries Inv Fact known (Pure.pure a : Build α) yields := by
  intro layout b layout' hinv hknown hrun
  obtain ⟨rfl, rfl⟩ := Prod.mk.inj (Except.ok.inj hrun)
  refine ⟨hinv, fun fact hfact => ?_⟩
  rcases List.mem_append.1 hfact with hfact | hfact
  · exact hknown fact (h fact hfact)
  · exact hknown fact hfact

theorem bind {step : Build α} {next : α → Build β} {mid : α → List κ} {yields : β → List κ}
    (hstep : Carries Inv Fact known step mid)
    (hnext : ∀ a, Carries Inv Fact (mid a ++ known) (next a) yields) :
    Carries Inv Fact known (step >>= next) yields := by
  intro layout b layout' hinv hknown hrun
  rw [StateT.run_bind] at hrun
  cases hfirst : step.run layout with
  | error error =>
      rw [hfirst] at hrun
      cases hrun
  | ok result =>
      obtain ⟨a, layout₁⟩ := result
      rw [hfirst] at hrun
      obtain ⟨hinv₁, hknown₁⟩ := hstep layout a layout₁ hinv hknown hfirst
      obtain ⟨hinv', hknown'⟩ := hnext a layout₁ b layout' hinv₁ hknown₁ hrun
      refine ⟨hinv', fun fact hfact => hknown' fact ?_⟩
      rcases List.mem_append.1 hfact with hfact | hfact
      · exact List.mem_append_left _ hfact
      · exact List.mem_append_right _ (List.mem_append_right _ hfact)

theorem throw {error : BuildError} {yields : α → List κ} :
    Carries Inv Fact known (MonadExcept.throw error : Build α) yields := by
  intro layout a layout' _ _ hrun
  cases hrun

/-- Nothing is left to show of a step that throws in the end. -/
theorem bind_throw {step : Build α} {error : BuildError} {yields : β → List κ} :
    Carries Inv Fact known (step >>= fun _ => (MonadExcept.throw error : Build β)) yields := by
  intro layout b layout' _ _ hrun
  rw [StateT.run_bind] at hrun
  cases hfirst : step.run layout with
  | error error =>
      rw [hfirst] at hrun
      cases hrun
  | ok result =>
      rw [hfirst] at hrun
      cases hrun

/-- Where a value must be there, the rest may rely on it. -/
theorem require {value : Option α} {next : α → Build β} {yields : β → List κ}
    (h : ∀ a, value = some a → Carries Inv Fact known (next a) yields) :
    Carries Inv Fact known (Build.require value >>= next) yields := by
  cases value with
  | none =>
      intro layout a layout' _ _ hrun
      cases hrun
  | some a => exact h a rfl

/-- A step yields what follows from the facts that it yields. -/
theorem yields {step : Build α} {fact fact' : α → κ}
    (h : Carries Inv Fact known step fun a => [fact a])
    (himp : ∀ layout a, Fact layout (fact a) → Fact layout (fact' a)) :
    Carries Inv Fact known step fun a => [fact' a] := by
  intro layout a layout' hinv hknown hrun
  obtain ⟨hinv', hknown'⟩ := h layout a layout' hinv hknown hrun
  refine ⟨hinv', fun other hother => ?_⟩
  rcases List.mem_cons.1 hother with rfl | hother
  · exact himp layout' a (hknown' _ (List.mem_cons_self ..))
  · exact hknown' other (List.mem_cons_of_mem _ hother)

end Carries

/-! ## Expressions -/

/-- What is to be shown to see that laying out an expression keeps an invariant and yields a
fact about the expression and its slot. It may be known that the expression fits, if its
parts do so then. -/
structure Scheme (names : List String) (Inv : Layout → Prop) (Fact : Layout → κ → Prop)
    (fact : Expr → SlotId → κ) (Fits : Expr → Prop) : Prop where
  parts : ∀ {e : Expr} {body : Body} {parts : List Expr}, Fits e →
    e.node? = some (body, parts) → ∀ part ∈ parts, Fits part
  inner : ∀ {e : Expr}, Fits (.wrapped e) → Fits e
  node : ∀ {e : Expr} {body : Body} {parts : List Expr} (slots : List SlotId) {shape : Shape}
    {known : List κ}, Fits e → e.node? = some (body, parts) → slots.length = parts.length →
    (∀ entry ∈ parts.zip slots, fact entry.1 entry.2 ∈ known) →
    Carries Inv Fact known (addShaped (body.inSlots slots) shape) fun result => [fact e result.1]
  reference : ∀ {rule : String} {known : List κ}, rule ∈ names →
    Carries Inv Fact known (do addShaped (.reference (← addCell rule)) .plain)
      fun result => [fact (.reference rule) result.1]
  shared : ∀ {rule : String} {known : List κ},
    Carries Inv Fact known (do
      let layout ← get
      let slot ← require (layout.rules.lookup rule)
      addShaped (← require layout.bodies[slot]?) .plain)
      fun result => [fact (.shared rule) result.1]
  wrapped : ∀ {e : Expr} {layout : Layout} {slot : SlotId},
    Fact layout (fact e slot) → Fact layout (fact (.wrapped e) slot)

/-- A parser that shares a rule is one more body that the slot of the rule holds. -/
theorem run_shared {rule : String} {layout layout' : Layout} {result : SlotId × Shape}
    (h : (do
      let layout ← get
      let slot ← require (layout.rules.lookup rule)
      addShaped (← require layout.bodies[slot]?) .plain : Build (SlotId × Shape)).run layout =
        .ok (result, layout')) :
    ∃ slot body, layout.rules.lookup rule = some slot ∧ layout.bodies[slot]? = some body ∧
      result.1 = layout.bodies.size ∧
      layout' = { layout with bodies := layout.bodies.push body } := by
  change (do
    let slot ← require (layout.rules.lookup rule)
    addShaped (← require layout.bodies[slot]?) .plain : Build (SlotId × Shape)).run layout =
      .ok (result, layout') at h
  cases hlookup : layout.rules.lookup rule with
  | none =>
      rw [hlookup] at h
      cases h
  | some slot =>
      rw [hlookup] at h
      change (do addShaped (← require layout.bodies[slot]?) .plain :
        Build (SlotId × Shape)).run layout = .ok (result, layout') at h
      cases hbody : layout.bodies[slot]? with
      | none =>
          rw [hbody] at h
          cases h
      | some body =>
          rw [hbody] at h
          obtain ⟨rfl, rfl⟩ := Prod.mk.inj (Except.ok.inj h)
          exact ⟨slot, body, rfl, hbody, rfl, rfl⟩

end Build

open Build in
/-- Laying out an expression that fits keeps the invariant and yields the fact about the
expression and its slot. -/
theorem Expr.build_carries {κ : Type} {names : List String} {Inv : Layout → Prop}
    {Fact : Layout → κ → Prop} {fact : Expr → SlotId → κ} {Fits : Expr → Prop}
    (scheme : Scheme names Inv Fact fact Fits) (expr : Expr) (hfits : Fits expr)
    (known : List κ) :
    Carries Inv Fact known (expr.build names) fun result => [fact expr result.1] := by
  induction expr generalizing known with
  | primitive p => exact scheme.node [] hfits rfl rfl (by simp)
  | regex text flags mode =>
      simp only [Expr.build]
      split
      case h_1 expr hexpr =>
        have hnode : (Expr.regex text flags mode).node? =
            some (.primitive (.regex expr mode), []) := by
          simp only [node?, hexpr]
        exact scheme.node [] hfits hnode rfl (by simp)
      case h_2 => exact .throw
  | sequence first second ihFirst ihSecond =>
      have hparts := scheme.parts hfits rfl
      exact (ihFirst (hparts first (by simp)) _).bind fun a =>
        (ihSecond (hparts second (by simp)) _).bind fun b => .require fun shape _ =>
          scheme.node [a.1, b.1] hfits rfl rfl (by simp)
  | choice first second ihFirst ihSecond =>
      have hparts := scheme.parts hfits rfl
      exact (ihFirst (hparts first (by simp)) _).bind fun a =>
        (ihSecond (hparts second (by simp)) _).bind fun b =>
          scheme.node [a.1, b.1] hfits rfl rfl (by simp)
  | reference rule =>
      simp only [Expr.build]
      split
      case isTrue hrule => exact scheme.reference (List.contains_iff_mem.1 hrule)
      case isFalse => exact .throw
  | shared rule => exact scheme.shared
  | leftAssociative combine term operator ihTerm ihOperator =>
      have hparts := scheme.parts hfits rfl
      exact (ihTerm (hparts term (by simp)) _).bind fun a =>
        (ihOperator (hparts operator (by simp)) _).bind fun b =>
          scheme.node [a.1, b.1] hfits rfl rfl (by simp)
  | foldLeft apply term operation ihTerm ihOperation =>
      have hparts := scheme.parts hfits rfl
      exact (ihTerm (hparts term (by simp)) _).bind fun a =>
        (ihOperation (hparts operation (by simp)) _).bind fun b =>
          scheme.node [a.1, b.1] hfits rfl rfl (by simp)
  | between opening content closing ihOpening ihContent ihClosing =>
      have hparts := scheme.parts hfits rfl
      exact (ihOpening (hparts opening (by simp)) _).bind fun a =>
        (ihContent (hparts content (by simp)) _).bind fun b =>
          (ihClosing (hparts closing (by simp)) _).bind fun c =>
            scheme.node [a.1, b.1, c.1] hfits rfl rfl (by simp)
  | separated item separator ihItem ihSeparator =>
      have hparts := scheme.parts hfits rfl
      exact (ihItem (hparts item (by simp)) _).bind fun a =>
        (ihSeparator (hparts separator (by simp)) _).bind fun b =>
          scheme.node [a.1, b.1] hfits rfl rfl (by simp)
  | wrapped inner ih =>
      exact (ih (scheme.inner hfits) known).yields fun _ _ => scheme.wrapped
  | malformed => exact .throw
  | malformedAfter part => exact .bind_throw
  | capture inner ih | ignore inner ih | lookahead inner ih | negation inner ih
  | optional inner ih | zeroOrMore inner ih | oneOrMore inner ih | map make inner ih
  | mapInRun make inner ih | tryMap make inner ih | filter accepts description inner ih
  | named name inner ih =>
      have hinner := scheme.parts hfits rfl inner (by simp)
      exact (ih hinner known).bind fun a => scheme.node [a.1] hfits rfl rfl (by simp)

end Packrat
