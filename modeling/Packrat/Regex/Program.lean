import Packrat.Regex.Pattern
/-!
# Programs

A pattern is matched by running a program: instructions that name the
instructions to go on with. A choice names two, the preferred one first.

## Repetitions that may take nothing

A loop whose body takes at least one character is one choice between the body
and what follows. A loop whose body may take nothing is compiled as an optional
loop of at least one round: the choice after a round then differs from the one
before the first, so that a round that took nothing can leave the loop without
entering the same choice twice.

## Main definitions

* `Instr`, `Program` — instructions and their table.
* `Program.ofPattern` — the program of a pattern.
-/

namespace Packrat.Regex

/-- The index of an instruction. -/
abbrev Label := Nat

/-- An instruction. -/
inductive Instr where
  /-- Takes one character of a class. -/
  | one (set : CharClass) (next : Label)
  | look (look : Look) (next : Label)
  /-- Goes on at `first`, and at `second` should that fail. -/
  | choice (first second : Label)
  /-- A capturing group begins. -/
  | openGroup (next : Label)
  /-- The capturing group that began last ends, and counts as `index`. -/
  | closeGroup (index : Nat) (next : Label)
  /-- The pattern has matched. -/
  | accept
  /-- No match this way. -/
  | stuck

/-- Instructions by index, and where to begin. -/
structure Program where
  instrs : Array Instr
  entry : Label

namespace Program

/-- A step of building a program. -/
abbrev Build (α : Type) := StateM (Array Instr) α

/-- Adds an instruction. -/
def emit (instr : Instr) : Build Label :=
  modifyGet fun instrs => (instrs.size, instrs.push instr)

/-- Fills in an instruction that was added before it was known. -/
def fill (label : Label) (instr : Instr) : Build Unit :=
  modify fun instrs => instrs.setIfInBounds label instr

/-- A choice between another round and going on. -/
def roundOr (greedy : Bool) (round next : Label) : Instr :=
  if greedy then .choice round next else .choice next round

/-- A number of copies of a part in front of `next`. -/
def copies (part : Label → Build Label) : Nat → Label → Build Label
  | 0, next => return next
  | n + 1, next => do copies part n (← part next)

/-- Up to a number of copies of a part in front of `next`; each copy is tried
only after the one before it. -/
def upTo (part : Label → Build Label) (greedy : Bool) (next : Label) :
    Nat → Label → Build Label
  | 0, inner => return inner
  | n + 1, inner => do
    let round ← part inner
    upTo part greedy next n (← emit (roundOr greedy round next))

/-- One round of a part or more in front of `next`: where the first round
begins, and the choice after each round. -/
def atLeastOnce (part : Label → Build Label) (greedy : Bool) (next : Label) :
    Build (Label × Label) := do
  let again ← emit .stuck
  let round ← part again
  fill again (roundOr greedy round next)
  return (round, again)

/-- Adds the instructions of a pattern in front of `next`. -/
def compile : Pattern → Label → Build Label
  | .empty, next => return next
  | .one set _, next => emit (.one set next)
  | .look look, next => emit (.look look next)
  | .seq a b, next => do compile a (← compile b next)
  | .alt a b, next => do
    let first ← compile a next
    let second ← compile b next
    emit (.choice first second)
  | .group index _ body, next => do
    let close ← emit (.closeGroup index next)
    emit (.openGroup (← compile body close))
  | .rep least none greedy body, next => do
    let (round, again) ← atLeastOnce (compile body) greedy next
    if least = 0 then
      if body.consumes then return again
      else emit (roundOr greedy round next)
    else copies (compile body) (least - 1) round
  | .rep least (some most) greedy body, next => do
    let inner ← upTo (compile body) greedy next (most - least) next
    copies (compile body) least inner

/-- The program of a pattern. -/
def ofPattern (pattern : Pattern) : Program :=
  let build : Build Label := do compile pattern (← emit .accept)
  let (entry, instrs) := build.run #[]
  { instrs, entry }

end Program

end Packrat.Regex
