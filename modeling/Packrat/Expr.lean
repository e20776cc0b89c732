import Packrat.Grammar
import Packrat.Regex.Engine
/-!
# Parser expressions

The written form of a grammar: expressions that contain their parts, and refer
to rules by name. `Grammar.build` lays expressions out in a table.

Some parsers are abbreviations for others and need no form of their own.
-/

namespace Packrat

/-- A parser as it is written. -/
inductive Expr where
  | primitive (p : Primitive)
  /-- A regular expression, by the text that writes it. -/
  | regex (text : String) (flags : Regex.Flags) (mode : Regex.Mode)
  | sequence (first second : Expr)
  | choice (first second : Expr)
  | capture (inner : Expr)
  | ignore (inner : Expr)
  | lookahead (inner : Expr)
  | negation (inner : Expr)
  | optional (inner : Expr)
  | zeroOrMore (inner : Expr)
  | oneOrMore (inner : Expr)
  | map (make : Source → Match → Value) (inner : Expr)
  | mapInRun (make : Snapshot → Source → Match → Value) (inner : Expr)
  | tryMap (make : Value → Except TransformError Value) (inner : Expr)
  | filter (accepts : Value → Bool) (description : String) (inner : Expr)
  | named (name : String) (inner : Expr)
  /-- Another rule, defined anywhere, which is looked up when it is needed. -/
  | reference (rule : String)
  /-- A parser that shares the body of a rule that was defined earlier. -/
  | shared (rule : String)
  | leftAssociative (combine : Value → Value → Value → Value) (term operator : Expr)
  | foldLeft (apply : Value → Value → Value) (term operation : Expr)
  | between (opening content closing : Expr)
  | separated (item separator : Expr)
  /-- A parser behind a pointer, which is the parser itself. -/
  | wrapped (inner : Expr)
  /-- Something that is no parser. -/
  | malformed
  /-- Something that is no parser, after a part that is one. -/
  | malformedAfter (part : Expr)

instance : Inhabited Expr := ⟨.malformed⟩

namespace Expr

/-- A parser, and another one whose value joins its tuple. -/
def thenCapture (first second : Expr) : Expr := .sequence first (.capture second)

/-- A parser, and another one whose value is dropped. -/
def thenIgnore (first second : Expr) : Expr := .sequence first (.ignore second)

/-- A fraction, or else a signed integer. -/
def number : Expr :=
  .choice
    (.map
      (fun _ m => match m.value with
        | .float x => .number (.float x)
        | value => value)
      (.primitive .fraction))
    (.map
      (fun _ m => match m.value with
        | .int n => .number (.int n)
        | value => value)
      (.primitive .signed))

/-- Any number of blanks, without a value. -/
def whitespaces : Expr := .ignore (.zeroOrMore (.primitive .whitespace))

end Expr

end Packrat
