import Packrat.Proofs.LayoutRule
/-!
# Closed grammars

A grammar is closed if its parsers ask only for parsers that it has. Layouts
keep to this at every step: a body is added after its parts, and a cell is
filled with a body that is already there.

Steps of a layout are shown to keep slots in bounds by the rules for layouts. What
is known of a layout is a list of slots that are in bounds.

## Main results

* `Expr.build_keeps` — laying out an expression keeps a layout closed.
* `Grammar.build_closed` — a grammar that is laid out from rules is closed.
-/

namespace Packrat

/-- All parsers that a body asks for are in a table of a given size. -/
def Body.InBounds (size : Nat) (body : Body) : Prop := ∀ part ∈ body.parts, part < size

theorem Body.InBounds.mono {size size' : Nat} {body : Body} (h : body.InBounds size)
    (hle : size ≤ size') : body.InBounds size' :=
  fun part hpart => Nat.lt_of_lt_of_le (h part hpart) hle

/-- All parsers of a grammar, and all of its rules, are in its table. -/
structure Grammar.Closed (g : Grammar) : Prop where
  bodies : ∀ body ∈ g.bodies, body.InBounds g.size
  rules : ∀ rule ∈ g.rules, rule.2 < g.size

instance (size : Nat) (body : Body) : Decidable (body.InBounds size) :=
  inferInstanceAs (Decidable (∀ part ∈ body.parts, part < size))

instance (g : Grammar) : Decidable g.Closed :=
  decidable_of_iff ((∀ body ∈ g.bodies.toList, body.InBounds g.size) ∧
      ∀ rule ∈ g.rules, rule.2 < g.size)
    ⟨fun h => ⟨fun body hbody => h.1 body (Array.mem_toList_iff.2 hbody), h.2⟩,
      fun h => ⟨fun body hbody => h.bodies body (Array.mem_toList_iff.1 hbody), h.rules⟩⟩

/-- What a parser may ask for is in the table. -/
theorem Grammar.Closed.parts {g : Grammar} (h : g.Closed) (slot : SlotId) :
    ∀ part ∈ g.partsOf slot, part < g.size := by
  intro part hpart
  unfold Grammar.partsOf at hpart
  split at hpart
  case h_1 body hbody => exact h.bodies body (Array.mem_of_getElem? hbody) part hpart
  case h_2 => simp at hpart

/-! ## Layouts -/

/-- All parsers of a layout, and all of its rules, are in its table. -/
structure Layout.Closed (layout : Layout) : Prop where
  bodies : ∀ body ∈ layout.bodies, body.InBounds layout.bodies.size
  rules : ∀ rule ∈ layout.rules, rule.2 < layout.bodies.size

namespace Build

variable {α β : Type} {known : List SlotId}

/-- A step keeps a layout closed and slots in bounds: those that were known
before it and those that it yields. -/
def Keeps (known : List SlotId) (step : Build α) (yields : α → List SlotId) : Prop :=
  ∀ layout a layout', layout.Closed → (∀ slot ∈ known, slot < layout.bodies.size) →
    step.run layout = .ok (a, layout') →
    layout'.Closed ∧ ∀ slot ∈ yields a ++ known, slot < layout'.bodies.size

theorem Keeps.pure {a : α} {yields : α → List SlotId} (h : ∀ slot ∈ yields a, slot ∈ known) :
    Keeps known (Pure.pure a : Build α) yields :=
  Carries.pure h

theorem Keeps.bind {step : Build α} {next : α → Build β} {mid : α → List SlotId}
    {yields : β → List SlotId} (hstep : Keeps known step mid)
    (hnext : ∀ a, Keeps (mid a ++ known) (next a) yields) :
    Keeps known (step >>= next) yields :=
  Carries.bind hstep hnext

/-- Where a value must be there, the rest may rely on it. -/
theorem Keeps.require {value : Option α} {next : α → Build β} {yields : β → List SlotId}
    (h : ∀ a, value = some a → Keeps known (next a) yields) :
    Keeps known (Build.require value >>= next) yields :=
  Carries.require h

/-- A body may be added when its parts are in bounds. -/
theorem Keeps.add {body : Body} (h : ∀ part ∈ body.parts, part ∈ known) :
    Keeps known (Build.add body) fun slot => [slot] := by
  intro layout a layout' hclosed hknown hrun
  obtain ⟨rfl, rfl⟩ := Prod.mk.inj (Except.ok.inj hrun)
  have hsize : (layout.bodies.push body).size = layout.bodies.size + 1 := Array.size_push ..
  have hle : layout.bodies.size ≤ (layout.bodies.push body).size := by omega
  refine ⟨⟨?_, ?_⟩, ?_⟩
  · intro other hother
    rcases Array.mem_push.1 hother with hother | rfl
    · exact (hclosed.bodies other hother).mono hle
    · exact fun part hpart => Nat.lt_of_lt_of_le (hknown part (h part hpart)) hle
  · exact fun rule hrule => Nat.lt_of_lt_of_le (hclosed.rules rule hrule) hle
  · intro slot hslot
    rcases List.mem_append.1 hslot with hslot | hslot
    · rw [List.mem_singleton.1 hslot]
      show layout.bodies.size < (layout.bodies.push body).size
      omega
    · exact Nat.lt_of_lt_of_le (hknown slot hslot) hle

theorem Keeps.addShaped {body : Body} {shape : Shape} (h : ∀ part ∈ body.parts, part ∈ known) :
    Keeps known (Build.addShaped body shape) fun result => [result.1] :=
  .bind (.add h) fun slot => .pure (by simp)

/-- A cell holds no parts until it is filled in. -/
theorem Keeps.addCell {rule : String} :
    Keeps known (Build.addCell rule) fun slot => [slot] := by
  refine .bind (.add (by simp [Body.parts])) fun cell => ?_
  have hmodify : Keeps ([cell] ++ known)
      (modify fun layout => { layout with cells := (cell, rule) :: layout.cells } : Build PUnit)
      fun _ => [] := by
    intro layout a layout' hclosed hknown hrun
    obtain ⟨rfl, rfl⟩ := Prod.mk.inj (Except.ok.inj hrun)
    exact ⟨⟨hclosed.bodies, hclosed.rules⟩, hknown⟩
  exact hmodify.bind fun _ => .pure (by simp)

/-- A new rule may be given when its slot is in bounds. -/
theorem Keeps.addRule {name : String} {slot : SlotId} (h : slot ∈ known) :
    Keeps known
      (modify fun layout => { layout with rules := (name, slot) :: layout.rules } : Build PUnit)
      fun _ => [] := by
  intro layout a layout' hclosed hknown hrun
  obtain ⟨rfl, rfl⟩ := Prod.mk.inj (Except.ok.inj hrun)
  refine ⟨⟨hclosed.bodies, fun rule hrule => ?_⟩, hknown⟩
  rcases List.mem_cons.1 hrule with rfl | hrule
  · exact hknown slot h
  · exact hclosed.rules rule hrule

/-- The parts of all bodies of a layout are in bounds. -/
theorem Keeps.get :
    Keeps known (MonadState.get : Build Layout) fun layout =>
      layout.bodies.toList.flatMap Body.parts := by
  intro layout a layout' hclosed hknown hrun
  obtain ⟨rfl, rfl⟩ := Prod.mk.inj (Except.ok.inj hrun)
  refine ⟨hclosed, fun slot hslot => ?_⟩
  rcases List.mem_append.1 hslot with hslot | hslot
  · obtain ⟨body, hbody, hpart⟩ := List.mem_flatMap.1 hslot
    exact hclosed.bodies body (Array.mem_toList_iff.1 hbody) slot hpart
  · exact hknown slot hslot

end Build

/-! ## Expressions -/

namespace Build

/-- The parts of a body in given slots are among them. -/
private theorem mem_known_of_parts {e : Expr} {body : Body} {parts : List Expr}
    {slots known : List SlotId} (hnode : e.node? = some (body, parts))
    (hlength : slots.length = parts.length)
    (hslots : ∀ entry ∈ parts.zip slots, entry.2 ∈ known) :
    ∀ part ∈ (body.inSlots slots).parts, part ∈ known := by
  intro part hpart
  rw [Body.inSlots, Body.parts_rename] at hpart
  obtain ⟨i, hi, rfl⟩ := List.mem_map.1 hpart
  have hlt : i < parts.length := Expr.lt_length_of_node? hnode i hi
  have hlt' : i < slots.length := hlength ▸ hlt
  have hmem : (parts[i], slots[i]) ∈ parts.zip slots := List.mem_of_getElem?
    (List.getElem?_zip_eq_some.2 ⟨List.getElem?_eq_getElem hlt, List.getElem?_eq_getElem hlt'⟩)
  rw [List.getD_eq_getElem?_getD, List.getElem?_eq_getElem hlt']
  exact hslots _ hmem

/-- Each way to lay out an expression keeps a layout closed. -/
theorem closedScheme (names : List String) :
    Scheme names Layout.Closed (fun layout slot => slot < layout.bodies.size)
      (fun _ slot => slot) fun _ => True where
  parts _ _ _ _ := True.intro
  inner _ := True.intro
  node _ _ _ _ hnode hlength hslots := Keeps.addShaped (mem_known_of_parts hnode hlength hslots)
  reference _ := Keeps.addCell.bind fun cell => .addShaped (by simp [Body.parts])
  shared := by
    intro rule known
    refine Keeps.get.bind fun layout => .require fun slot _ => .require fun body hbody => ?_
    refine .addShaped fun part hpart =>
      List.mem_append_left _ (List.mem_flatMap.2 ⟨body, ?_, hpart⟩)
    exact Array.mem_toList_iff.2 (Array.mem_of_getElem? hbody)
  wrapped h := h

end Build

/-- Laying out an expression keeps a layout closed. -/
theorem Expr.build_keeps (names : List String) (expr : Expr) (known : List SlotId) :
    Build.Keeps known (expr.build names) fun result => [result.1] :=
  expr.build_carries (Build.closedScheme names) True.intro known

namespace Grammar

/-! ## Grammars -/

/-- Laying out rules keeps a layout closed. -/
theorem buildRules_keeps (names : List String) (rules : List (String × Expr))
    (known : List SlotId) : Build.Keeps known (buildRules names rules) fun _ => [] := by
  induction rules generalizing known with
  | nil => exact .pure (by simp)
  | cons rule rest ih =>
      obtain ⟨name, expr⟩ := rule
      refine (expr.build_keeps names known).bind fun laid => ?_
      exact (Build.Keeps.addRule (by simp)).bind fun _ => ih _

/-- Filling in a cell changes no size. -/
theorem size_fillCell (rules : List (String × SlotId)) (bodies : Array Body)
    (cell : SlotId × String) : (fillCell rules bodies cell).size = bodies.size := by
  unfold fillCell
  split
  · exact Array.size_setIfInBounds
  · rfl

theorem size_fillCells (rules : List (String × SlotId)) (cells : List (SlotId × String))
    (bodies : Array Body) : (cells.foldl (fillCell rules) bodies).size = bodies.size := by
  induction cells generalizing bodies with
  | nil => rfl
  | cons cell rest ih => rw [List.foldl_cons, ih, size_fillCell]

/-- Cells are filled with bodies that are there already. -/
theorem mem_fillCells {rules : List (String × SlotId)} {cells : List (SlotId × String)}
    {bodies : Array Body} {body : Body} (h : body ∈ cells.foldl (fillCell rules) bodies) :
    body ∈ bodies := by
  induction cells generalizing bodies with
  | nil => exact h
  | cons cell rest ih =>
      have hmem := ih h
      unfold fillCell at hmem
      split at hmem
      case h_1 filling hfilling =>
        obtain ⟨slot, -, hslot⟩ := Option.bind_eq_some_iff.1 hfilling
        rcases Array.mem_or_eq_of_mem_setIfInBounds hmem with hmem | rfl
        · exact hmem
        · exact Array.mem_of_getElem? hslot
      case h_2 => exact hmem

/-- The grammar of a closed layout is closed. -/
theorem ofLayout_closed {layout : Layout} (h : layout.Closed) : (ofLayout layout).Closed := by
  have hsize : (ofLayout layout).size = layout.bodies.size := size_fillCells ..
  refine ⟨fun body hbody => ?_, fun rule hrule => ?_⟩
  · rw [hsize]
    exact h.bodies body (mem_fillCells hbody)
  · rw [hsize]
    exact h.rules rule (List.mem_reverse.1 hrule)

/-- A grammar comes from a layout of its rules. -/
theorem exists_layout {rules : List (String × Expr)} {g : Grammar} (h : build rules = .ok g) :
    ∃ layout, (buildRules (rules.map (·.1)) rules).run {} = .ok ((), layout) ∧
      g = ofLayout layout := by
  unfold build at h
  cases hrun : (buildRules (rules.map (·.1)) rules).run {} with
  | error error =>
      rw [hrun] at h
      cases h
  | ok result =>
      obtain ⟨_, layout⟩ := result
      rw [hrun] at h
      exact ⟨layout, rfl, (Except.ok.inj h).symm⟩

/-- A grammar that is laid out from rules is closed. -/
theorem build_closed {rules : List (String × Expr)} {g : Grammar} (h : build rules = .ok g) :
    g.Closed := by
  obtain ⟨layout, hrun, rfl⟩ := exists_layout h
  have hempty : ({} : Layout).Closed := ⟨by simp, by simp⟩
  exact ofLayout_closed (buildRules_keeps _ _ [] _ _ _ hempty (by simp) hrun).1

end Grammar

end Packrat
