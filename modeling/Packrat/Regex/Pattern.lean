import Packrat.Regex.Look
/-!
# Patterns

The form of a regular expression after its flags have been applied: what is
left is how characters, assertions, repetitions and groups are put together.

## Normal form

Patterns are put together by functions that simplify. A row has no rows and no
empty patterns as its parts, and a choice has no choices as its branches. A
choice between characters, or between classes, is a class. What all branches of
a choice begin with is moved in front of it: `.*b|.*c` is read as `.*[bc]`. This
settles which branch is taken: the part in front is matched for all branches
together, so that here the longest way to a `b` or a `c` is preferred, and not
the longest way to a `b`.

Two branches begin alike when their first parts are equal. Characters that stand
side by side are one part, so `ab` and `ac` have nothing in common; and a branch
that is a single part keeps it.

## Main definitions

* `Pattern` — regular expressions with capturing groups.
* `Pattern.ofClass`, `Pattern.repeated`, `Pattern.row`, `Pattern.choice` — how
  patterns are put together.
* `Pattern.groupNames` — the groups that a match of the pattern reports.
-/

namespace Packrat.Regex

/-- A regular expression. -/
inductive Pattern where
  | empty
  /-- One character of a class, which was read with or without the flag for
  Unicode. -/
  | one (set : CharClass) (unicode : Bool)
  | look (look : Look)
  | seq (first second : Pattern)
  /-- The first alternative is preferred. -/
  | alt (first second : Pattern)
  /-- At least `least` and at most `most` copies; more copies are preferred
  when `greedy`, and fewer otherwise. -/
  | rep (least : Nat) (most : Option Nat) (greedy : Bool) (body : Pattern)
  /-- A capturing group. -/
  | group (index : Nat) (name : Option String) (body : Pattern)
deriving Repr, DecidableEq

namespace Pattern

/-- Whether every match takes at least one character. -/
def consumes : Pattern → Bool
  | .empty => false
  | .one _ _ => true
  | .look _ => false
  | .seq a b => a.consumes || b.consumes
  | .alt a b => a.consumes && b.consumes
  | .rep least _ _ body => 0 < least && body.consumes
  | .group _ _ body => body.consumes

/-- Whether no match takes a character. -/
def isWidthless : Pattern → Bool
  | .empty => true
  | .one _ _ => false
  | .look _ => true
  | .seq a b => a.isWidthless && b.isWidthless
  | .alt a b => a.isWidthless && b.isWidthless
  | .rep _ most _ body => most == some 0 || body.isWidthless
  | .group _ _ body => body.isWidthless

/-! ## Classes and repetitions -/

/-- One character of a class. Where the class has at most one character, the
flag for Unicode makes no difference. -/
def ofClass (unicode : Bool) (set : CharClass) : Pattern :=
  let set : CharClass := set.normal
  .one set (unicode || set.isEmpty || set.isSingle)

/-- The class of a pattern for one character of several. -/
def class? : Pattern → Option CharClass
  | .one set _ => if set.isSingle then none else some set
  | _ => none

/-- The class of a pattern for a certain character. -/
def letter? : Pattern → Option CharClass
  | .one set _ => if set.isSingle then some set else none
  | _ => none

/-- A repetition. A second copy of a body that takes no character adds
nothing, so such a body is taken at most once; no copies at all are the empty
pattern, with no groups, and one copy is the body itself. -/
def repeated (least : Nat) (most : Option Nat) (greedy : Bool) (body : Pattern) : Pattern :=
  let (least, most) :=
    if body.isWidthless then (min least 1, some (min (most.getD 1) 1)) else (least, most)
  if most = some 0 then .empty
  else if least = 1 ∧ most = some 1 then body
  else .rep least most greedy body

/-! ## Rows -/

/-- The parts of a row. -/
def parts : Pattern → List Pattern
  | .empty => []
  | .seq a b => a.parts ++ b.parts
  | p => [p]

/-- The row of some parts. -/
def ofParts : List Pattern → Pattern
  | [] => .empty
  | [p] => p
  | p :: rest => .seq p (ofParts rest)

/-- Patterns one after the other. -/
def row (patterns : List Pattern) : Pattern := ofParts (patterns.flatMap parts)

/-- The parts of a row, with characters that stand side by side together. -/
def units (p : Pattern) : List (List Pattern) :=
  p.parts.splitBy fun a b => a.letter?.isSome && b.letter?.isSome

/-! ## Choices -/

/-- The branches of a choice. -/
def branches : Pattern → List Pattern
  | .alt a b => a.branches ++ b.branches
  | p => [p]

/-- The choice of some branches. -/
def ofBranches : List Pattern → Pattern
  | [] => .empty
  | [p] => p
  | p :: rest => .alt p (ofBranches rest)

/-- The choice of some branches, which is a class where all are characters or
all are classes. -/
def firstOf (branches : List Pattern) : Pattern :=
  match branches with
  | [] => .empty
  | [p] => p
  | _ =>
    match branches.mapM letter? <|> branches.mapM class? with
    | some sets => ofClass true (.unionAll sets)
    | none => ofBranches branches

/-- What two lists begin with alike. -/
def sharedStart (a b : List (List Pattern)) : List (List Pattern) :=
  ((a.zip b).takeWhile fun (x, y) => x = y).map (·.1)

/-- What all of some rows begin with, given as lists of units. A row of a single
unit shares nothing. -/
def sharedUnits : List (List (List Pattern)) → List (List Pattern)
  | [] => []
  | first :: others =>
    if (first :: others).all (2 ≤ ·.length) then others.foldl sharedStart first else []

/-- A choice of patterns, the first preferred, after what all of them begin
with. -/
def choice (patterns : List Pattern) : Pattern :=
  let branches := patterns.flatMap branches
  match firstOf branches with
  | .alt a b =>
    let rows := branches.map units
    let shared := sharedUnits rows
    if shared.isEmpty then .alt a b
    else
      let rests := rows.map fun units => ofParts (units.drop shared.length).flatten
      row [ofParts shared.flatten, firstOf (rests.flatMap Pattern.branches)]
  | p => p

/-! ## Groups -/

/-- The capturing groups of a pattern with their names. -/
def groups : Pattern → List (Nat × Option String)
  | .empty => []
  | .one _ _ => []
  | .look _ => []
  | .seq a b => a.groups ++ b.groups
  | .alt a b => a.groups ++ b.groups
  | .rep _ _ _ body => body.groups
  | .group index name body => (index, name) :: body.groups

/-- The names of the groups that a match reports, by index. Group 0 is the
whole match. Indices up to the greatest that the pattern still has are
reported; those that it lost with an empty repetition have no name. -/
def groupNames (p : Pattern) : List (Option String) :=
  let groups := p.groups
  let last := groups.foldl (fun n group => max n group.1) 0
  none :: (List.range last).map fun i => ((groups.find? (·.1 == i + 1)).bind (·.2))

end Pattern

end Packrat.Regex
