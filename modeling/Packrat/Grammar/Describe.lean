import Packrat.Grammar
/-!
# Names and descriptions

A parser has a name when it was given one, and a description in any case. A
reference has the name of the rule that it refers to once it has been
resolved; its description never looks at the rule, which may contain the
reference.

Both follow slots through the table. No path through the parts of a parser is
longer than the table, so the number of slots is fuel enough.
-/

namespace Packrat

namespace Grammar

/-- The name of a parser, following references that are `resolved`. -/
def nameVia (g : Grammar) (resolved : SlotId → Bool) : Nat → SlotId → Option String
  | 0, _ => none
  | fuel + 1, slot =>
    match g.bodies[slot]? with
    | some (.named name _) => some name
    | some (.reference cell) => if resolved cell then g.nameVia resolved fuel cell else none
    | _ => none

/-- The name of a parser whose references have all been resolved. -/
def name? (g : Grammar) (slot : SlotId) : Option String := g.nameVia (fun _ => true) g.size slot

/-- The description of a parser. -/
def describeWith (g : Grammar) : Nat → SlotId → String
  | 0, _ => ""
  | fuel + 1, slot =>
    let part := g.describeWith fuel
    match g.bodies[slot]? with
    | none => ""
    | some body =>
      match body with
      | .primitive p => p.describe
      | .sequence a b => "(" ++ part a ++ " " ++ part b ++ ")"
      | .choice a b => "(" ++ part a ++ " / " ++ part b ++ ")"
      | .lookahead a => "&" ++ part a
      | .negation a => "!" ++ part a
      | .optional a => part a ++ "?"
      | .zeroOrMore a => part a ++ "*"
      | .oneOrMore a => part a ++ "+"
      | .map _ a => part a
      | .mapInRun _ a => part a
      | .tryMap _ a => part a
      | .filter _ description a => part a ++ " <" ++ description ++ ">"
      | .named name _ => name
      | .reference _ => "<lazy>"
      | .leftAssociative _ term operator =>
        "(" ++ part term ++ " (" ++ part operator ++ " " ++ part term ++ ")*)"
      | .foldLeft _ term operation => "(" ++ part term ++ " " ++ part operation ++ "*)"
      | .between a b c => "(" ++ part a ++ " " ++ part b ++ " " ++ part c ++ ")"
      | .separated item separator =>
        "(" ++ part item ++ " (" ++ part separator ++ " " ++ part item ++ ")*)"

/-- The description of a parser. -/
def describe (g : Grammar) (slot : SlotId) : String := g.describeWith g.size slot

/-- What a parser is called: its name, or its description if it has none. -/
structure Label where
  description : String
  name : Option String

/-- How a label is shown. -/
def Label.display (label : Label) : String := label.name.getD label.description

/-- The label of a parser, given which references have been resolved. -/
def label (g : Grammar) (resolved : SlotId → Bool) (slot : SlotId) : Label :=
  { description := g.describe slot, name := g.nameVia resolved g.size slot }

end Grammar

end Packrat
