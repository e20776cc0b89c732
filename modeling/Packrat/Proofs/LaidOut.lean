import Packrat.Proofs.Closed
import Packrat.Proofs.Stateless
/-!
# Where expressions are

Laying out a grammar puts every occurrence of an expression in a slot. Here the slots are
tied to the expressions again: `Expr.LaidOut` says that a slot does what an expression
says, given what the table holds and which rules its cells are to be filled with.

An expression with a body of its own is in a slot that holds this body, with its parts in
the slots that the body names. A reference is in a slot that names a cell; what the cell
does is not a part of the expression, since it may contain the reference. An expression
that shares the body of a rule is where the rule's expression is, and one behind a pointer
is where the expression itself is.

A rule that is shared is the latest of its name among the rules before, and what it shares
in turn comes from before itself. So it is said of each expression which rules were laid
out before it, and a name may be given more than once.

While a grammar is being laid out, cells hold nothing yet that counts. They are filled at
the end, and then each cell does what its rule says, as a parser would that shares the rule
after all of them.

## Main definitions

* `Expr.StateFree` — no value in an expression depends on the run.
* `Latest` — the rule that a name stands for.
* `Expr.LaidOut` — an expression is laid out in a slot.

## Main results

* `Expr.build_lays` — the slot that an expression is given is one where it is laid out.
* `Grammar.build_placed` — so it is for the rules and cells of a finished grammar.
-/

namespace Packrat

/-! ## Values that do not depend on the run -/

namespace Expr

/-- No value in an expression depends on the run. -/
inductive StateFree : Expr → Prop
  | node {e : Expr} {body : Body} {parts : List Expr} (hnode : e.node? = some (body, parts))
      (hbody : body.StateFree) (hparts : ∀ part ∈ parts, part.StateFree) : e.StateFree
  | reference (rule : String) : StateFree (.reference rule)
  | shared (rule : String) : StateFree (.shared rule)
  | wrapped {inner : Expr} (h : inner.StateFree) : StateFree (.wrapped inner)

theorem StateFree.of_node {e : Expr} (h : e.StateFree) {body : Body} {parts : List Expr}
    (hnode : e.node? = some (body, parts)) :
    body.StateFree ∧ ∀ part ∈ parts, part.StateFree := by
  cases h with
  | node hnode' hbody hparts =>
      obtain ⟨rfl, rfl⟩ := Prod.mk.inj (Option.some.inj (hnode'.symm.trans hnode))
      exact ⟨hbody, hparts⟩
  | reference | shared | wrapped => contradiction

theorem StateFree.of_wrapped {e : Expr} (h : (Expr.wrapped e).StateFree) : e.StateFree := by
  cases h with
  | node hnode => contradiction
  | wrapped h => exact h

end Expr

/-! ## Rules by name -/

/-- Among rules, the latest first, the one of a name that comes first, and those after
it. -/
inductive Latest (rule : String) (e : Expr) (earlier : List (String × Expr)) :
    List (String × Expr) → Prop
  | here : Latest rule e earlier ((rule, e) :: earlier)
  | later {name : String} {other : Expr} {rest : List (String × Expr)} (hne : name ≠ rule)
      (h : Latest rule e earlier rest) : Latest rule e earlier ((name, other) :: rest)

namespace Latest

variable {rule : String} {e e' : Expr} {earlier earlier' done : List (String × Expr)}

theorem unique (h : Latest rule e earlier done) (h' : Latest rule e' earlier' done) :
    e = e' ∧ earlier = earlier' := by
  induction h with
  | here =>
      cases h' with
      | here => exact ⟨rfl, rfl⟩
      | later hne => exact absurd rfl hne
  | later hne _ ih =>
      cases h' with
      | here => exact absurd rfl hne
      | later _ h' => exact ih h'

theorem suffix (h : Latest rule e earlier done) : (rule, e) :: earlier <:+ done := by
  induction h with
  | here => exact List.suffix_refl _
  | later _ _ ih => exact ih.trans (List.suffix_cons ..)

theorem mem (h : Latest rule e earlier done) : (rule, e) ∈ done :=
  h.suffix.subset (List.mem_cons_self ..)

theorem earlier_suffix (h : Latest rule e earlier done) : earlier <:+ done :=
  (List.suffix_cons ..).trans h.suffix

end Latest

/-! ## Slots of expressions -/

/-- What is known of slots: the bodies that they hold, and the rules that cells refer
to. -/
structure Places where
  holds : SlotId → Body → Prop
  refers : SlotId → String → Prop

/-- All that is known of slots is still so. -/
structure Places.Le (places places' : Places) : Prop where
  holds : ∀ slot body, places.holds slot body → places'.holds slot body
  refers : ∀ cell rule, places.refers cell rule → places'.refers cell rule

theorem Places.Le.trans {places places' places'' : Places} (h : places.Le places')
    (h' : places'.Le places'') : places.Le places'' :=
  ⟨fun slot body => h'.holds slot body ∘ h.holds slot body,
    fun cell rule => h'.refers cell rule ∘ h.refers cell rule⟩

namespace Expr

/-- A slot does what an expression says that was laid out after some rules, the latest
first. -/
inductive LaidOut (places : Places) : List (String × Expr) → Expr → SlotId → Prop
  /-- The slot holds the body of the expression, and the parts are in the slots that it
  names. -/
  | node {done : List (String × Expr)} {e : Expr} {slot : SlotId} {body : Body}
      {parts : List Expr} {slots : List SlotId} (hnode : e.node? = some (body, parts))
      (hbody : places.holds slot (body.inSlots slots)) (hlength : slots.length = parts.length)
      (hparts : ∀ (i : Nat) part inner, parts[i]? = some part → slots[i]? = some inner →
        LaidOut places done part inner) : LaidOut places done e slot
  | reference {done : List (String × Expr)} {rule : String} {slot cell : SlotId}
      (hbody : places.holds slot (.reference cell)) (hcell : places.refers cell rule) :
      LaidOut places done (.reference rule) slot
  | shared {done earlier : List (String × Expr)} {rule : String} {e : Expr} {slot : SlotId}
      (hrule : Latest rule e earlier done) (h : LaidOut places earlier e slot) :
      LaidOut places done (.shared rule) slot
  | wrapped {done : List (String × Expr)} {inner : Expr} {slot : SlotId}
      (h : LaidOut places done inner slot) : LaidOut places done (.wrapped inner) slot

namespace LaidOut

variable {places places' : Places} {done : List (String × Expr)} {e : Expr} {slot : SlotId}

theorem mono (h : LaidOut places done e slot) (hle : places.Le places') :
    LaidOut places' done e slot := by
  induction h with
  | node hnode hbody hlength _ ih => exact .node hnode (hle.holds _ _ hbody) hlength ih
  | reference hbody hcell => exact .reference (hle.holds _ _ hbody) (hle.refers _ _ hcell)
  | shared hrule _ ih => exact .shared hrule ih
  | wrapped _ ih => exact .wrapped ih

/-- A slot with the same body does the same. -/
theorem copy {slot' : SlotId} (hsame : ∀ body, places.holds slot body → places.holds slot' body)
    (h : LaidOut places done e slot) : LaidOut places done e slot' := by
  induction h with
  | node hnode hbody hlength hparts _ => exact .node hnode (hsame _ hbody) hlength hparts
  | reference hbody hcell => exact .reference (hsame _ hbody) hcell
  | shared hrule _ ih => exact .shared hrule (ih hsame)
  | wrapped _ ih => exact .wrapped (ih hsame)

theorem of_node (h : LaidOut places done e slot) {body : Body} {parts : List Expr}
    (hnode : e.node? = some (body, parts)) :
    ∃ slots : List SlotId, places.holds slot (body.inSlots slots) ∧
      slots.length = parts.length ∧
      ∀ (i : Nat) part inner, parts[i]? = some part → slots[i]? = some inner →
        LaidOut places done part inner := by
  cases h with
  | node hnode' hbody hlength hparts =>
      obtain ⟨rfl, rfl⟩ := Prod.mk.inj (Option.some.inj (hnode'.symm.trans hnode))
      exact ⟨_, hbody, hlength, hparts⟩
  | reference | shared | wrapped => contradiction

/-- An expression with one part is laid out with the part in the one slot that its body
names. -/
theorem of_one (h : LaidOut places done e slot) {body : Body} {part : Expr}
    (hnode : e.node? = some (body, [part])) :
    ∃ inner, places.holds slot (body.inSlots [inner]) ∧ LaidOut places done part inner := by
  obtain ⟨slots, hbody, hlength, hparts⟩ := h.of_node hnode
  obtain ⟨inner, rfl⟩ := List.length_eq_one_iff.1 hlength
  exact ⟨inner, hbody, hparts 0 part inner rfl rfl⟩

theorem of_two (h : LaidOut places done e slot) {body : Body} {first second : Expr}
    (hnode : e.node? = some (body, [first, second])) :
    ∃ a b, places.holds slot (body.inSlots [a, b]) ∧ LaidOut places done first a ∧
      LaidOut places done second b := by
  obtain ⟨slots, hbody, hlength, hparts⟩ := h.of_node hnode
  match slots, hlength with
  | [a, b], _ => exact ⟨a, b, hbody, hparts 0 first a rfl rfl, hparts 1 second b rfl rfl⟩

theorem of_three (h : LaidOut places done e slot) {body : Body} {first second third : Expr}
    (hnode : e.node? = some (body, [first, second, third])) :
    ∃ a b c, places.holds slot (body.inSlots [a, b, c]) ∧ LaidOut places done first a ∧
      LaidOut places done second b ∧ LaidOut places done third c := by
  obtain ⟨slots, hbody, hlength, hparts⟩ := h.of_node hnode
  match slots, hlength with
  | [a, b, c], _ =>
      exact ⟨a, b, c, hbody, hparts 0 first a rfl rfl, hparts 1 second b rfl rfl,
        hparts 2 third c rfl rfl⟩

theorem of_named {name : String} {inner : Expr}
    (h : LaidOut places done (.named name inner) slot) :
    ∃ innerSlot, places.holds slot (.named name innerSlot) ∧
      LaidOut places done inner innerSlot :=
  h.of_one rfl

theorem of_reference {rule : String} (h : LaidOut places done (.reference rule) slot) :
    ∃ cell, places.holds slot (.reference cell) ∧ places.refers cell rule := by
  cases h with
  | node hnode => contradiction
  | reference hbody hcell => exact ⟨_, hbody, hcell⟩

theorem of_shared {rule : String} (h : LaidOut places done (.shared rule) slot) :
    ∃ e earlier, Latest rule e earlier done ∧ LaidOut places earlier e slot := by
  cases h with
  | node hnode => contradiction
  | shared hrule h => exact ⟨_, _, hrule, h⟩

theorem of_wrapped {inner : Expr} (h : LaidOut places done (.wrapped inner) slot) :
    LaidOut places done inner slot := by
  cases h with
  | node hnode => contradiction
  | wrapped h => exact h

/-- Two expressions with the same body are laid out side by side: their slots hold this body,
and in the slots that it names their parts are laid out. -/
theorem side_by_side {done' : List (String × Expr)} {e' : Expr} {slot' : SlotId} {body : Body}
    {parts parts' : List Expr} (h : LaidOut places done e slot)
    (h' : LaidOut places' done' e' slot') (hnode : e.node? = some (body, parts))
    (hnode' : e'.node? = some (body, parts')) (hlength : parts.length = parts'.length) :
    ∃ f f' : SlotId → SlotId, places.holds slot (body.rename f) ∧
      places'.holds slot' (body.rename f') ∧
      ∀ i ∈ body.parts, ∃ part part', parts[i]? = some part ∧ parts'[i]? = some part' ∧
        LaidOut places done part (f i) ∧ LaidOut places' done' part' (f' i) := by
  obtain ⟨slots, hbody, hslots, hinner⟩ := h.of_node hnode
  obtain ⟨slots', hbody', hslots', hinner'⟩ := h'.of_node hnode'
  refine ⟨_, _, hbody, hbody', fun i hi => ?_⟩
  have hlt : i < parts.length := Expr.lt_length_of_node? hnode i hi
  have hlt' : i < parts'.length := hlength ▸ hlt
  have hpart := List.getElem?_eq_getElem hlt
  have hpart' := List.getElem?_eq_getElem hlt'
  have hslot := List.getElem?_eq_getElem (hslots ▸ hlt : i < slots.length)
  have hslot' := List.getElem?_eq_getElem (hslots' ▸ hlt' : i < slots'.length)
  refine ⟨_, _, hpart, hpart', ?_, ?_⟩
  · rw [List.getD_eq_getElem?_getD, hslot]
    exact hinner i _ _ hpart hslot
  · rw [List.getD_eq_getElem?_getD, hslot']
    exact hinner' i _ _ hpart' hslot'

/-- What is behind a pointer, or in a rule that is shared, is laid out in the same slot by a
part of the layout. So a statement on all layouts may rely on being so there. -/
theorem through {P : List (String × Expr) → Expr → SlotId → Prop}
    (hbelow : ∀ done e slot, LaidOut places done e slot →
      (∀ inner, e = .wrapped inner → P done inner slot) →
      (∀ rule inner earlier, e = .shared rule → Latest rule inner earlier done →
        P earlier inner slot) → P done e slot)
    (h : LaidOut places done e slot) : P done e slot := by
  have hlaid := h
  induction h with
  | node hnode =>
      refine hbelow _ _ _ hlaid (fun inner he => ?_) fun rule inner earlier he => ?_
      · rw [he] at hnode
        contradiction
      · rw [he] at hnode
        contradiction
  | reference => exact hbelow _ _ _ hlaid nofun nofun
  | shared hrule h ih =>
      refine hbelow _ _ _ hlaid nofun fun rule' inner earlier' he hlatest => ?_
      obtain rfl := Expr.shared.inj he
      obtain ⟨rfl, rfl⟩ := hrule.unique hlatest
      exact ih h
  | wrapped h ih =>
      refine hbelow _ _ _ hlaid (fun inner he => ?_) nofun
      obtain rfl := Expr.wrapped.inj he
      exact ih h

theorem exists_holds (h : LaidOut places done e slot) : ∃ body, places.holds slot body := by
  induction h with
  | node _ hbody => exact ⟨_, hbody⟩
  | reference hbody => exact ⟨_, hbody⟩
  | shared _ _ ih => exact ih
  | wrapped _ ih => exact ih

end LaidOut

end Expr

/-- Slots of rules where the rules are laid out, each after those before it; the latest
first. -/
inductive RulesLaidOut (places : Places) :
    List (String × SlotId) → List (String × Expr) → Prop
  | nil : RulesLaidOut places [] []
  | cons {slots : List (String × SlotId)} {done : List (String × Expr)} {name : String}
      {e : Expr} {slot : SlotId} (h : e.LaidOut places done slot)
      (hrest : RulesLaidOut places slots done) :
      RulesLaidOut places ((name, slot) :: slots) ((name, e) :: done)

namespace RulesLaidOut

variable {places places' : Places} {slots : List (String × SlotId)}
  {done : List (String × Expr)}

theorem mono (h : RulesLaidOut places slots done) (hle : places.Le places') :
    RulesLaidOut places' slots done := by
  induction h with
  | nil => exact .nil
  | cons hlaid _ ih => exact .cons (hlaid.mono hle) ih

theorem names_eq (h : RulesLaidOut places slots done) :
    slots.map (·.1) = done.map (·.1) := by
  induction h with
  | nil => rfl
  | cons _ _ ih => rw [List.map_cons, List.map_cons, ih]

/-- The slot that is found under a name does what a parser would that shares the rule. -/
theorem shared (h : RulesLaidOut places slots done) {rule : String} {slot : SlotId}
    (hslot : slots.lookup rule = some slot) : (Expr.shared rule).LaidOut places done slot := by
  induction h with
  | nil => contradiction
  | @cons slots done name e first hlaid _ ih =>
      by_cases hname : rule = name
      · subst hname
        rw [List.lookup_cons_self] at hslot
        exact .shared .here (Option.some.inj hslot ▸ hlaid)
      · rw [List.lookup_cons, beq_eq_false_iff_ne.2 hname] at hslot
        obtain ⟨e, earlier, hrule, h⟩ := (ih hslot).of_shared
        exact .shared (.later (Ne.symm hname) hrule) h

end RulesLaidOut

/-! ## Layouts in progress -/

namespace Layout

/-- What a layout in progress tells of slots. Cells hold nothing yet that counts. -/
def places (layout : Layout) : Places where
  holds slot body := layout.bodies[slot]? = some body ∧ slot ∉ layout.cells.map (·.1)
  refers cell rule := (cell, rule) ∈ layout.cells

/-- All that has been laid out is sound: cells are in the table, each once, and refer to
rules that there are; rules are laid out in their slots. -/
structure Sound (names : List String) (done : List (String × Expr)) (layout : Layout) :
    Prop where
  cells : ∀ entry ∈ layout.cells, entry.1 < layout.bodies.size ∧ entry.2 ∈ names
  nodup : (layout.cells.map (·.1)).Nodup
  rules : RulesLaidOut layout.places layout.rules done

/-- A layout with one more body. -/
def push (layout : Layout) (body : Body) : Layout :=
  { layout with bodies := layout.bodies.push body }

/-- A layout with one more cell. -/
def pushCell (layout : Layout) (rule : String) : Layout :=
  { layout.push (.primitive .any) with cells := (layout.bodies.size, rule) :: layout.cells }

variable {names : List String} {done : List (String × Expr)} {layout : Layout}

theorem lt_size_of_holds {slot : SlotId} {body : Body} (h : layout.places.holds slot body) :
    slot < layout.bodies.size :=
  (Array.getElem?_eq_some_iff.1 h.1).1

theorem getElem?_push_of_some {slot : SlotId} {body : Body}
    (h : layout.bodies[slot]? = some body) (other : Body) :
    (layout.push other).bodies[slot]? = some body := by
  have hlt := (Array.getElem?_eq_some_iff.1 h).1
  show (layout.bodies.push other)[slot]? = some body
  rw [Array.getElem?_push_lt hlt, ← Array.getElem?_eq_getElem hlt, h]

theorem places_le_push (layout : Layout) (body : Body) :
    layout.places.Le (layout.push body).places :=
  ⟨fun _ _ h => ⟨getElem?_push_of_some h.1 body, h.2⟩, fun _ _ => id⟩

theorem places_le_pushCell (layout : Layout) (rule : String) :
    layout.places.Le (layout.pushCell rule).places := by
  refine ⟨fun slot body h => ⟨getElem?_push_of_some h.1 _, ?_⟩,
    fun _ _ => List.mem_cons_of_mem _⟩
  have hlt := lt_size_of_holds h
  intro hmem
  rcases List.mem_cons.1 hmem with rfl | hmem
  · exact Nat.lt_irrefl _ hlt
  · exact h.2 hmem

/-- The next slot is no cell yet. -/
theorem Sound.size_not_mem (h : layout.Sound names done) :
    layout.bodies.size ∉ layout.cells.map (·.1) := by
  intro hmem
  obtain ⟨entry, hentry, heq⟩ := List.mem_map.1 hmem
  exact absurd heq (Nat.ne_of_lt (h.cells entry hentry).1)

/-- A body is held by the slot that it is added in. -/
theorem Sound.holds_push (h : layout.Sound names done) (body : Body) :
    (layout.push body).places.holds layout.bodies.size body :=
  ⟨Array.getElem?_push_size, h.size_not_mem⟩

theorem Sound.push (h : layout.Sound names done) (body : Body) :
    (layout.push body).Sound names done := by
  refine ⟨fun entry hentry => ?_, h.nodup, h.rules.mono (places_le_push layout body)⟩
  obtain ⟨hlt, hrule⟩ := h.cells entry hentry
  have hsize : (layout.push body).bodies.size = layout.bodies.size + 1 := Array.size_push ..
  exact ⟨hsize ▸ Nat.lt_succ_of_lt hlt, hrule⟩

theorem Sound.pushCell (h : layout.Sound names done) {rule : String}
    (hrule : rule ∈ names) : (layout.pushCell rule).Sound names done := by
  have hpush : (layout.push (.primitive .any)).Sound names done := h.push _
  refine ⟨fun entry hentry => ?_, List.nodup_cons.2 ⟨h.size_not_mem, h.nodup⟩,
    h.rules.mono (places_le_pushCell layout rule)⟩
  rcases List.mem_cons.1 hentry with rfl | hentry
  · exact ⟨by simp [Layout.pushCell, Layout.push], hrule⟩
  · exact hpush.cells entry hentry

end Layout

namespace Build

variable {α β : Type} {names : List String} {done : List (String × Expr)}
  {known : List (Expr × SlotId)}

/-- A step keeps a layout sound, and lays out the expressions that it yields. Those that
were known to be laid out before are so after it. -/
def Lays (names : List String) (done : List (String × Expr)) (known : List (Expr × SlotId))
    (step : Build α) (yields : α → List (Expr × SlotId)) : Prop :=
  Carries (Layout.Sound names done) (fun layout entry => entry.1.LaidOut layout.places done entry.2)
    known step yields

/-- An expression is laid out when its body is added after its parts. -/
theorem Lays.addShaped {e : Expr} {body : Body} {parts : List Expr} {shape : Shape}
    (slots : List SlotId) (hnode : e.node? = some (body, parts))
    (hlength : slots.length = parts.length)
    (hparts : ∀ entry ∈ parts.zip slots, entry ∈ known) :
    Lays names done known (Build.addShaped (body.inSlots slots) shape)
      fun result => [(e, result.1)] := by
  intro layout a layout' hsound hknown hrun
  obtain ⟨rfl, rfl⟩ := Prod.mk.inj (Except.ok.inj hrun)
  have hle := layout.places_le_push (body.inSlots slots)
  refine ⟨hsound.push _, fun entry hentry => ?_⟩
  rcases List.mem_cons.1 hentry with rfl | hentry
  · refine .node hnode (hsound.holds_push _) hlength fun i part inner hpart hinner => ?_
    have hmem : (part, inner) ∈ parts.zip slots :=
      List.mem_of_getElem? (List.getElem?_zip_eq_some.2 ⟨hpart, hinner⟩)
    exact (hknown _ (hparts _ hmem)).mono hle
  · exact (hknown entry hentry).mono hle

/-- A reference is laid out with a cell of its own. -/
theorem Lays.reference {rule : String} (hrule : rule ∈ names) :
    Lays names done known (do Build.addShaped (.reference (← Build.addCell rule)) .plain)
      fun result => [(.reference rule, result.1)] := by
  intro layout a layout' hsound hknown hrun
  obtain ⟨rfl, rfl⟩ := Prod.mk.inj (Except.ok.inj hrun)
  have hcell := hsound.pushCell hrule
  have hle := (layout.places_le_pushCell rule).trans
    ((layout.pushCell rule).places_le_push (.reference layout.bodies.size))
  refine ⟨hcell.push _, fun entry hentry => ?_⟩
  rcases List.mem_cons.1 hentry with rfl | hentry
  · exact .reference (hcell.holds_push _) (List.mem_cons_self ..)
  · exact (hknown entry hentry).mono hle

/-- A rule that is shared has been laid out before. -/
theorem Lays.shared {rule : String} :
    Lays names done known (do
      let layout ← get
      let slot ← Build.require (layout.rules.lookup rule)
      Build.addShaped (← Build.require layout.bodies[slot]?) .plain)
      fun result => [(.shared rule, result.1)] := by
  intro layout a layout' hsound hknown hrun
  obtain ⟨slot, body, hlookup, hbody, hslot, rfl⟩ := run_shared hrun
  have hlaid := hsound.rules.shared hlookup
  have hle := layout.places_le_push body
  refine ⟨hsound.push body, fun entry hentry => ?_⟩
  rcases List.mem_cons.1 hentry with rfl | hentry
  · rw [hslot]
    refine (hlaid.mono hle).copy fun other hother => ?_
    have hsame := (Layout.getElem?_push_of_some hbody body).symm.trans hother.1
    rw [← Option.some.inj hsame]
    exact hsound.holds_push body
  · exact (hknown entry hentry).mono hle

end Build

/-! ## Expressions are laid out -/

/-- Each way to lay out an expression keeps a layout sound. -/
theorem Build.laidOutScheme (names : List String) (done : List (String × Expr)) :
    Scheme names (Layout.Sound names done)
      (fun layout (entry : Expr × SlotId) => entry.1.LaidOut layout.places done entry.2) Prod.mk
      fun _ => True where
  parts _ _ _ _ := True.intro
  inner _ := True.intro
  node slots _ _ _ hnode hlength hparts := Lays.addShaped slots hnode hlength hparts
  reference := Lays.reference
  shared := Lays.shared
  wrapped := .wrapped

/-- The slot that an expression is given is one where it is laid out. -/
theorem Expr.build_lays (names : List String) (done : List (String × Expr)) (expr : Expr)
    (known : List (Expr × SlotId)) :
    Build.Lays names done known (expr.build names) fun result => [(expr, result.1)] :=
  expr.build_carries (Build.laidOutScheme names done) True.intro known

/-! ## Finished grammars -/

/-- A rule may be given a slot where its expression is laid out. -/
theorem Layout.Sound.addRule {names : List String} {done : List (String × Expr)}
    {layout : Layout} (h : layout.Sound names done) {e : Expr} {slot : SlotId} (name : String)
    (hlaid : e.LaidOut layout.places done slot) :
    Sound names ((name, e) :: done) { layout with rules := (name, slot) :: layout.rules } :=
  ⟨h.cells, h.nodup, .cons hlaid h.rules⟩

namespace Grammar

/-- Laying out rules keeps a layout sound, with these rules added to those before. -/
theorem buildRules_lays {names : List String} {rules done : List (String × Expr)}
    {layout layout' : Layout} {result : Unit} (hsound : layout.Sound names done)
    (hrun : (buildRules names rules).run layout = .ok (result, layout')) :
    layout'.Sound names (rules.reverse ++ done) := by
  induction rules generalizing layout done with
  | nil =>
      obtain ⟨-, rfl⟩ := Prod.mk.inj (Except.ok.inj hrun)
      exact hsound
  | cons rule rest ih =>
      obtain ⟨name, e⟩ := rule
      rw [buildRules, StateT.run_bind] at hrun
      cases hfirst : (e.build names).run layout with
      | error error =>
          rw [hfirst] at hrun
          cases hrun
      | ok built =>
          obtain ⟨⟨slot, shape⟩, layout₁⟩ := built
          rw [hfirst] at hrun
          obtain ⟨hsound₁, hlaid⟩ :=
            e.build_lays names done [] layout _ layout₁ hsound nofun hfirst
          have hadded := hsound₁.addRule name (hlaid _ (List.mem_cons_self ..))
          rw [List.reverse_cons, List.append_assoc]
          exact ih hadded hrun

/-- Filling a cell changes no other slot. -/
theorem getElem?_fillCell_of_ne {rules : List (String × SlotId)} {bodies : Array Body}
    {cell : SlotId × String} {slot : SlotId} (hne : slot ≠ cell.1) :
    (fillCell rules bodies cell)[slot]? = bodies[slot]? := by
  unfold fillCell
  split
  · exact Array.getElem?_setIfInBounds_ne hne.symm
  · rfl

/-- Filling cells changes no other slots. -/
theorem getElem?_fillCells_of_not_mem {rules : List (String × SlotId)}
    {cells : List (SlotId × String)} {bodies : Array Body} {slot : SlotId}
    (h : slot ∉ cells.map (·.1)) :
    (cells.foldl (fillCell rules) bodies)[slot]? = bodies[slot]? := by
  induction cells generalizing bodies with
  | nil => rfl
  | cons cell rest ih =>
      obtain ⟨hne, hrest⟩ := not_or.1 (mt List.mem_cons.2 h)
      rw [List.foldl_cons, ih hrest, getElem?_fillCell_of_ne hne]

/-- A cell is filled with the body of its rule. -/
theorem getElem?_fillCells_of_mem {rules : List (String × SlotId)}
    {cells : List (SlotId × String)} {bodies : Array Body} (hnodup : (cells.map (·.1)).Nodup)
    {cell slot : SlotId} {rule : String} {body : Body} (hmem : (cell, rule) ∈ cells)
    (hcell : cell < bodies.size) (hrule : rules.lookup rule = some slot)
    (hslot : slot ∉ cells.map (·.1)) (hbody : bodies[slot]? = some body) :
    (cells.foldl (fillCell rules) bodies)[cell]? = some body := by
  induction cells generalizing bodies with
  | nil => contradiction
  | cons first rest ih =>
      obtain ⟨hnew, hnodup⟩ := List.nodup_cons.1 hnodup
      obtain ⟨hne, hslot⟩ := not_or.1 (mt List.mem_cons.2 hslot)
      rcases List.mem_cons.1 hmem with rfl | hmem
      · have hfill : fillCell rules bodies (cell, rule) = bodies.setIfInBounds cell body := by
          simp only [fillCell, hrule, Option.bind_some, hbody]
        rw [List.foldl_cons, getElem?_fillCells_of_not_mem hnew, hfill,
          Array.getElem?_setIfInBounds_self_of_lt hcell]
      · exact ih hnodup hmem (by rwa [size_fillCell]) hslot
          ((getElem?_fillCell_of_ne hne).trans hbody)

/-- What a finished grammar tells of slots, given the rules that its cells refer to. -/
def places (g : Grammar) (cells : List (SlotId × String)) : Places where
  holds slot body := g.bodies[slot]? = some body
  refers cell rule := (cell, rule) ∈ cells

/-- The slots of rules, and cells, do what parsers would that share the rules after all
of them. -/
structure Placed (g : Grammar) (written : List (String × Expr))
    (cells : List (SlotId × String)) : Prop where
  rules : ∀ name slot, g.rule? name = some slot →
    (Expr.shared name).LaidOut (g.places cells) written.reverse slot
  defined : ∀ rule ∈ written, ∃ slot, g.rule? rule.1 = some slot
  cells : ∀ cell rule, (cell, rule) ∈ cells →
    (Expr.shared rule).LaidOut (g.places cells) written.reverse cell

/-- A rule of one grammar is a rule of another that has rules of the same names. -/
theorem Placed.exists_rule {g g' : Grammar} {written written' : List (String × Expr)}
    {cells cells' : List (SlotId × String)} (h : g.Placed written cells)
    (h' : g'.Placed written' cells') (hnames : written.map (·.1) = written'.map (·.1))
    {name : String} {slot : SlotId} (hrule : g.rule? name = some slot) :
    ∃ slot', g'.rule? name = some slot' ∧
      (Expr.shared name).LaidOut (g.places cells) written.reverse slot ∧
      (Expr.shared name).LaidOut (g'.places cells') written'.reverse slot' := by
  have hlaid := h.rules name slot hrule
  obtain ⟨e, earlier, hlatest, -⟩ := hlaid.of_shared
  have hname : name ∈ written'.map (·.1) :=
    hnames ▸ List.mem_map_of_mem (List.mem_reverse.1 hlatest.mem)
  obtain ⟨entry, hentry, rfl⟩ := List.mem_map.1 hname
  obtain ⟨slot', hrule'⟩ := h'.defined entry hentry
  exact ⟨slot', hrule', hlaid, h'.rules entry.1 slot' hrule'⟩

/-- The slot of a rule does what the expression does that was written for it last. -/
theorem Placed.of_latest {g : Grammar} {written earlier : List (String × Expr)}
    {cells : List (SlotId × String)} (h : g.Placed written cells) {name : String} {e : Expr}
    (hlatest : Latest name e earlier written.reverse) :
    ∃ slot, g.rule? name = some slot ∧ e.LaidOut (g.places cells) earlier slot := by
  obtain ⟨slot, hrule⟩ := h.defined (name, e) (List.mem_reverse.1 hlatest.mem)
  obtain ⟨e', earlier', hlatest', hlaid⟩ := (h.rules name slot hrule).of_shared
  obtain ⟨rfl, rfl⟩ := hlatest.unique hlatest'
  exact ⟨slot, hrule, hlaid⟩

/-- The slots of rules are in the table. -/
theorem Placed.lt_size_of_rule {g : Grammar} {written : List (String × Expr)}
    {cells : List (SlotId × String)} (h : g.Placed written cells) {name : String}
    {slot : SlotId} (hrule : g.rule? name = some slot) : slot < g.size := by
  obtain ⟨body, hbody⟩ := (h.rules name slot hrule).exists_holds
  exact (Array.getElem?_eq_some_iff.1 hbody).1

theorem rule?_ofLayout (layout : Layout) (name : String) :
    (ofLayout layout).rule? name = layout.rules.lookup name := by
  rw [rule?, ofLayout, List.reverse_reverse]

/-- What a layout in progress tells of slots is so in the finished grammar. -/
theorem places_le_ofLayout (layout : Layout) :
    layout.places.Le ((ofLayout layout).places layout.cells) :=
  ⟨fun _ _ h => (getElem?_fillCells_of_not_mem h.2).trans h.1, fun _ _ => id⟩

/-- Every rule that was laid out has a slot. -/
private theorem exists_slot {written : List (String × Expr)} {layout : Layout}
    (h : layout.Sound (written.map (·.1)) written.reverse) {name : String}
    (hname : name ∈ written.map (·.1)) : ∃ slot, layout.rules.lookup name = some slot := by
  have hmem : name ∈ layout.rules.map (·.1) := by
    rw [h.rules.names_eq, List.map_reverse]
    exact List.mem_reverse.2 hname
  obtain ⟨entry, hentry, rfl⟩ := List.mem_map.1 hmem
  exact Option.isSome_iff_exists.1 (List.lookup_isSome_iff.2 ⟨entry, hentry, beq_self_eq_true _⟩)

/-- A cell of a finished grammar holds what the slot of its rule holds. -/
theorem ofLayout_cell {written : List (String × Expr)} {layout : Layout}
    (h : layout.Sound (written.map (·.1)) written.reverse) {cell : SlotId} {rule : String}
    (hcell : (cell, rule) ∈ layout.cells) :
    ∃ slot body, (ofLayout layout).rule? rule = some slot ∧
      (ofLayout layout).bodies[slot]? = some body ∧
      (ofLayout layout).bodies[cell]? = some body := by
  obtain ⟨hlt, hrule⟩ := h.cells _ hcell
  obtain ⟨slot, hslot⟩ := exists_slot h hrule
  obtain ⟨body, hbody⟩ := (h.rules.shared hslot).exists_holds
  refine ⟨slot, body, ?_, (places_le_ofLayout layout).holds _ _ hbody,
    getElem?_fillCells_of_mem h.nodup hcell hlt hslot hbody.2 hbody.1⟩
  rw [rule?_ofLayout]
  exact hslot

/-- The grammar of a sound layout is placed. -/
theorem ofLayout_placed {written : List (String × Expr)} {layout : Layout}
    (h : layout.Sound (written.map (·.1)) written.reverse) :
    (ofLayout layout).Placed written layout.cells := by
  have hrules (name : String) (slot : SlotId) (hslot : (ofLayout layout).rule? name = some slot) :
      (Expr.shared name).LaidOut ((ofLayout layout).places layout.cells) written.reverse slot := by
    rw [rule?_ofLayout] at hslot
    exact (h.rules.shared hslot).mono (places_le_ofLayout layout)
  refine ⟨hrules, fun rule hrule => ?_, fun cell rule hcell => ?_⟩
  · rw [rule?_ofLayout]
    exact exists_slot h (List.mem_map_of_mem hrule)
  · obtain ⟨slot, body, hslot, hbody, hfilled⟩ := ofLayout_cell h hcell
    refine (hrules rule slot hslot).copy fun other hother => ?_
    obtain rfl := Option.some.inj (hbody.symm.trans hother)
    exact hfilled

/-- The rules and cells of a grammar that is laid out from rules do what the rules say, and
each cell holds what the slot of its rule holds. -/
theorem build_cells {rules : List (String × Expr)} {g : Grammar} (h : build rules = .ok g) :
    ∃ cells, g.Placed rules cells ∧ ∀ cell rule, (cell, rule) ∈ cells →
      ∃ slot body, g.rule? rule = some slot ∧ g.bodies[slot]? = some body ∧
        g.bodies[cell]? = some body := by
  obtain ⟨layout, hrun, rfl⟩ := exists_layout h
  have hempty : ({} : Layout).Sound (rules.map (·.1)) [] := ⟨nofun, .nil, .nil⟩
  have hsound := buildRules_lays hempty hrun
  rw [List.append_nil] at hsound
  exact ⟨layout.cells, ofLayout_placed hsound, fun _ _ => ofLayout_cell hsound⟩

/-- The rules and cells of a grammar that is laid out from rules do what the rules say. -/
theorem build_placed {rules : List (String × Expr)} {g : Grammar} (h : build rules = .ok g) :
    ∃ cells, g.Placed rules cells := by
  obtain ⟨cells, hplaced, -⟩ := build_cells h
  exact ⟨cells, hplaced⟩

end Grammar

end Packrat
