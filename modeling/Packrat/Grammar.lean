import Packrat.Plan
import Packrat.Text.Newline
/-!
# Grammars

A grammar is a table of parser bodies. A body names the parsers that it runs
by their slots in the table, so a grammar may refer to itself in any way, and
two parsers may share the parsers below them.

The table is open: a slot that the grammar does not have belongs to a parser
that never matches.

## Main definitions

* `Body` — parsers over the slots of other parsers.
* `Grammar` — a table of bodies and the names of its rules.
* `Body.plan` — what a body does at an offset.
-/

namespace Packrat

/-- A parser, with the parsers that it is made of given by their slots. -/
inductive Body where
  | primitive (p : Primitive)
  /-- Both parsers, one after the other; their tuples are joined. -/
  | sequence (first second : SlotId)
  /-- The second parser only where the first does not match. -/
  | choice (first second : SlotId)
  /-- The value of a parser, without taking anything. -/
  | lookahead (inner : SlotId)
  /-- Matches, without taking anything, where a parser does not. -/
  | negation (inner : SlotId)
  | optional (inner : SlotId)
  /-- The list of all matches in a row, possibly none. -/
  | zeroOrMore (inner : SlotId)
  /-- The list of all matches in a row, at least one. -/
  | oneOrMore (inner : SlotId)
  /-- The value of a match replaced by one made from the match. -/
  | map (make : Source → Match → Value) (inner : SlotId)
  /-- The value of a match replaced by one that may depend on the run. -/
  | mapInRun (make : Snapshot → Source → Match → Value) (inner : SlotId)
  /-- The value replaced by another, or the whole parse aborted. -/
  | tryMap (make : Value → Except TransformError Value) (inner : SlotId)
  /-- Only the matches whose value is accepted. -/
  | filter (accepts : Value → Bool) (description : String) (inner : SlotId)
  /-- The same parser under a name. -/
  | named (name : String) (inner : SlotId)
  /-- Another rule, by the slot that holds its body. -/
  | reference (cell : SlotId)
  /-- Terms with operators between them, combined from the left. -/
  | leftAssociative (combine : Value → Value → Value → Value) (term operator : SlotId)
  /-- A term followed by operations that are applied to it in turn. -/
  | foldLeft (apply : Value → Value → Value) (term operation : SlotId)
  /-- The value of the middle one of three parsers in a row. -/
  | between (opening content closing : SlotId)
  /-- The list of items with separators between them, at least one item. -/
  | separated (item separator : SlotId)

/-- A table of parsers. -/
structure Grammar where
  bodies : Array Body
  /-- The rules by name, in the order of their definition. -/
  rules : List (String × SlotId)

namespace Grammar

/-- The number of slots. -/
def size (g : Grammar) : Nat := g.bodies.size

/-- The slot of a rule; of several with one name it is the last. -/
def rule? (g : Grammar) (name : String) : Option SlotId := g.rules.reverse.lookup name

/-- The slot of the last rule. -/
def lastRule? (g : Grammar) : Option SlotId := g.rules.getLast?.map (·.2)

end Grammar

/-- The source from the start of a match to its end. -/
def Match.rawText (src : Source) (m : Match) : List Char := src.slice m.start m.stop

namespace Body

/-! ## Kinds of mapped parsers -/

/-- The value of a parser as a tuple of one. -/
def capture (inner : SlotId) : Body := .map (fun _ m => .tuple [m.value]) inner

/-- A parser whose value is dropped. -/
def ignore (inner : SlotId) : Body := .map (fun _ _ => .unit) inner

/-! ## What bodies do -/

/-- How often a repetition that begins at an offset may go round: each round
but the last takes at least one byte. -/
def budget (src : Source) (start : Nat) : Nat := src.size - start + 1

/-- A parser by itself: its value, and where it ends. -/
def single (inner : SlotId) (offset : Nat) : Plan (Option (Value × Nat)) :=
  Plan.attempt inner offset fun m => .done (some (m.value, m.stop))

/-- All matches of a parser in a row: their values, the last first, and the
offset where they end. -/
def repetition (src : Source) (start : Nat) (inner : SlotId) : Plan (List Value × Nat) :=
  Plan.iterate (single inner) (fun values value => value :: values) (budget src start) [] start

/-- A parser behind another one: the values of both, and where they end. -/
def pair (first second : SlotId) (offset : Nat) : Plan (Option ((Value × Value) × Nat)) :=
  Plan.attempt first offset fun a =>
    Plan.attempt second a.stop fun b => .done (some ((a.value, b.value), b.stop))

/-- What a body does at an offset of a source. -/
def plan (src : Source) (start : Nat) : Body → Plan (Option Match)
  | .primitive p =>
    match p.scan src start with
    | .noMatch => .done none
    | .found value stop => .done (some ⟨value, start, stop⟩)
    | .overflow error => .abort start (.number error) (.done none)
  | .sequence first second =>
    Plan.attempt first start fun a =>
      Plan.attempt second a.stop fun b => .done (some ⟨a.value.concat b.value, start, b.stop⟩)
  | .choice first second =>
    .ask first start fun
      | some m => .done (some m)
      | none => Plan.run second start
  | .lookahead inner => Plan.attempt inner start fun m => .done (some ⟨m.value, start, start⟩)
  | .negation inner =>
    .ask inner start fun
      | some _ => .done none
      | none => Plan.unlessEnded (some ⟨.unit, start, start⟩)
  | .optional inner =>
    .ask inner start fun
      | some m => .done (some { m with value := .some m.value })
      | none => Plan.unlessEnded (some ⟨.none, start, start⟩)
  | .zeroOrMore inner =>
    (repetition src start inner).bind fun (values, stop) =>
      Plan.unlessEnded (some ⟨.list values.reverse, start, stop⟩)
  | .oneOrMore inner =>
    (repetition src start inner).bind fun (values, stop) =>
      if values.isEmpty then .done none
      else Plan.unlessEnded (some ⟨.list values.reverse, start, stop⟩)
  | .map make inner => Plan.attempt inner start fun m => .done (some { m with value := make src m })
  | .mapInRun make inner =>
    Plan.attempt inner start fun m =>
      .look fun snapshot => .done (some { m with value := make snapshot src m })
  | .tryMap make inner =>
    Plan.attempt inner start fun m =>
      match make m.value with
      | .ok value => .done (some { m with value })
      | .error error => .abort m.start error (.done none)
  | .filter accepts _ inner =>
    Plan.attempt inner start fun m => .done (if accepts m.value then some m else none)
  | .named _ inner => Plan.run inner start
  | .reference cell => Plan.run cell start
  | .leftAssociative combine term operator =>
    Plan.attempt term start fun first =>
      (Plan.iterate (pair operator term)
        (fun left (op, right) => combine left op right)
        (budget src first.stop) first.value first.stop).bind fun (value, stop) =>
        Plan.unlessEnded (some ⟨value, start, stop⟩)
  | .foldLeft apply term operation =>
    Plan.attempt term start fun first =>
      (Plan.iterate (single operation) apply (budget src first.stop)
        first.value first.stop).bind fun (value, stop) =>
        Plan.unlessEnded (some ⟨value, start, stop⟩)
  | .between opening content closing =>
    Plan.attempt opening start fun a =>
      Plan.attempt content a.stop fun b =>
        Plan.attempt closing b.stop fun c => .done (some ⟨b.value, start, c.stop⟩)
  | .separated item separator =>
    Plan.attempt item start fun first =>
      (Plan.iterate (pair separator item) (fun values (_, value) => value :: values)
        (budget src first.stop) [first.value] first.stop).bind fun (values, stop) =>
        Plan.unlessEnded (some ⟨.list values.reverse, start, stop⟩)

end Body

end Packrat
