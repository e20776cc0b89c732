import Packrat.Expr
/-!
# Laying out grammars

Turns the rules of a grammar, written as expressions, into a table of bodies.
Each occurrence of an expression has a slot of its own, and its parts come
before it. A reference has a second slot, its cell, which holds the body of
the rule; cells are filled in when all rules have been laid out, so that a rule
may be referred to before it is defined.

A sequence joins tuples of results, so what kind of result an expression has is
checked here: a tuple of a known number of results, or any other value.

The first problem ends the layout, where rules are taken in order and the parts
of an expression before the expression itself.

## Main definitions

* `BuildError` — why rules are no grammar.
* `Grammar.build` — the grammar of a list of rules.
-/

namespace Packrat

/-- Why rules are no grammar. -/
inductive BuildError where
  /-- Something is no parser, a rule is missing, or tuples do not fit. -/
  | malformed
  /-- A regular expression is not well formed. -/
  | badRegex (mode : Regex.Mode) (error : Regex.PatternError)
deriving Repr, DecidableEq

/-- The kind of result of a parser. -/
inductive Shape where
  /-- A tuple of a number of results. -/
  | tuple (arity : Nat)
  | plain
deriving Repr, DecidableEq

/-- The greatest number of results in a tuple. -/
def maxArity : Nat := 8

/-- The number of results of two tuples together, when it is not too great. -/
def joinArity? (first second : Nat) : Option Nat :=
  if first + second ≤ maxArity then some (first + second) else none

namespace Shape

/-- The shape of a sequence. -/
def sequence? : Shape → Shape → Option Shape
  | .tuple a, .tuple b => (joinArity? a b).map .tuple
  | _, _ => none

/-- The shape of a choice. -/
def choice (a b : Shape) : Shape := if a = b then a else .plain

end Shape

/-- A layout in progress. -/
structure Layout where
  bodies : Array Body := #[]
  /-- The cells to be filled in, with the rules that they refer to. -/
  cells : List (SlotId × String) := []
  /-- The rules that have been laid out, the latest first. -/
  rules : List (String × SlotId) := []

/-- A step of a layout. -/
abbrev Build (α : Type) := StateT Layout (Except BuildError) α

namespace Build

/-- Adds a body to the table. -/
def add (body : Body) : Build SlotId :=
  modifyGet fun layout => (layout.bodies.size, { layout with bodies := layout.bodies.push body })

/-- Adds a cell for a rule. -/
def addCell (rule : String) : Build SlotId := do
  let cell ← add (.primitive .any)
  modify fun layout => { layout with cells := (cell, rule) :: layout.cells }
  return cell

/-- Adds a body, and gives its slot and its shape. -/
def addShaped (body : Body) (shape : Shape) : Build (SlotId × Shape) :=
  return (← add body, shape)

/-- A value that must be there. -/
def require {α : Type} : Option α → Build α
  | some a => return a
  | none => throw .malformed

end Build

open Build in
/-- Lays out an expression. `names` are the names of all rules. -/
def Expr.build (names : List String) : Expr → Build (SlotId × Shape)
  | .primitive p =>
    addShaped (.primitive p) (match p with
      | .startOfInput => .tuple 0
      | .endOfInput => .tuple 0
      | _ => .plain)
  | .regex text flags mode =>
    match Regex.compile text flags with
    | .ok expr => addShaped (.primitive (.regex expr mode)) .plain
    | .error error => throw (.badRegex mode error)
  | .sequence first second => do
    let (a, left) ← first.build names
    let (b, right) ← second.build names
    addShaped (.sequence a b) (← require (left.sequence? right))
  | .choice first second => do
    let (a, left) ← first.build names
    let (b, right) ← second.build names
    addShaped (.choice a b) (left.choice right)
  | .capture inner => do addShaped (.capture (← inner.build names).1) (.tuple 1)
  | .ignore inner => do addShaped (.ignore (← inner.build names).1) (.tuple 0)
  | .lookahead inner => do
    let (a, shape) ← inner.build names
    addShaped (.lookahead a) shape
  | .negation inner => do addShaped (.negation (← inner.build names).1) (.tuple 0)
  | .optional inner => do addShaped (.optional (← inner.build names).1) .plain
  | .zeroOrMore inner => do addShaped (.zeroOrMore (← inner.build names).1) .plain
  | .oneOrMore inner => do addShaped (.oneOrMore (← inner.build names).1) .plain
  | .map make inner => do addShaped (.map make (← inner.build names).1) .plain
  | .mapInRun make inner => do addShaped (.mapInRun make (← inner.build names).1) .plain
  | .tryMap make inner => do addShaped (.tryMap make (← inner.build names).1) .plain
  | .filter accepts description inner => do
    let (a, shape) ← inner.build names
    addShaped (.filter accepts description a) shape
  | .named name inner => do
    let (a, shape) ← inner.build names
    addShaped (.named name a) shape
  | .reference rule => do
    if names.contains rule then
      addShaped (.reference (← addCell rule)) .plain
    else throw .malformed
  | .shared rule => do
    let layout ← get
    let slot ← require (layout.rules.lookup rule)
    addShaped (← require layout.bodies[slot]?) .plain
  | .leftAssociative combine term operator => do
    let (a, _) ← term.build names
    let (b, _) ← operator.build names
    addShaped (.leftAssociative combine a b) .plain
  | .foldLeft apply term operation => do
    let (a, _) ← term.build names
    let (b, _) ← operation.build names
    addShaped (.foldLeft apply a b) .plain
  | .between opening content closing => do
    let (a, _) ← opening.build names
    let (b, shape) ← content.build names
    let (c, _) ← closing.build names
    addShaped (.between a b c) shape
  | .separated item separator => do
    let (a, _) ← item.build names
    let (b, _) ← separator.build names
    addShaped (.separated a b) .plain
  | .wrapped inner => inner.build names
  | .malformed => throw .malformed
  | .malformedAfter part => do
    let _ ← part.build names
    throw .malformed

namespace Grammar

/-- Lays out rules in order. -/
def buildRules (names : List String) : List (String × Expr) → Build Unit
  | [] => return
  | (name, expr) :: rest => do
    let (slot, _) ← expr.build names
    modify fun layout => { layout with rules := (name, slot) :: layout.rules }
    buildRules names rest

/-- Fills in a cell with the body of its rule. -/
def fillCell (rules : List (String × SlotId)) (bodies : Array Body) (cell : SlotId × String) :
    Array Body :=
  match (rules.lookup cell.2).bind (bodies[·]?) with
  | some body => bodies.setIfInBounds cell.1 body
  | none => bodies

/-- The grammar of a finished layout. -/
def ofLayout (layout : Layout) : Grammar where
  bodies := layout.cells.foldl (fillCell layout.rules) layout.bodies
  rules := layout.rules.reverse

/-- The grammar of a list of rules. -/
def build (rules : List (String × Expr)) : Except BuildError Grammar := do
  let (_, layout) ← (buildRules (rules.map (·.1)) rules).run {}
  return ofLayout layout

end Grammar

end Packrat
