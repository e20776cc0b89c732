import Packrat.Regex.Expression
import Packrat.Regex.InSource
import Packrat.Regex.Size
/-!
# Engines

An engine compiles the texts that write regular expressions. The engine of this
library reads a text as a pattern and runs the program of the pattern.

## Main definitions

* `Engine` — what compiles regular expressions.
* `ofProgram` — the regular expression that a program runs.
* `Regex.compile`, `Engine.backtracker` — the engine of this library.
-/

namespace Packrat

namespace Regex

/-- What compiles the regular expressions for each mode, from their texts and
under given flags. -/
structure Engine where
  compile : Mode → String → Flags → Except PatternError Regex

/-- How a text that is no regular expression is reported. Only the size of the
program is told apart from what is wrong with the text. -/
def PatternError.message : PatternError → String
  | .tooLarge => "error building NFA"
  | _ => "error parsing pattern 0"

/-- The spans of the groups of a match, as many as there are names for. A group
that did not take part in the match has none. -/
def Hit.groupSpans (hit : Hit) (names : List (Option String)) : Groups :=
  some hit.span :: (List.range (names.length - 1)).map fun i => hit.groups.lookup (i + 1)

/-- The groups that a match tells of lie inside it. -/
theorem Hit.InSource.spanned {src : Source} {hit : Hit} (h : hit.InSource src)
    (names : List (Option String)) : (hit.groupSpans names).Spanned src hit.span := by
  refine ⟨rfl, fun span hspan => ?_⟩
  simp only [groupSpans, List.mem_cons, Option.some.injEq, List.mem_map] at hspan
  rcases hspan with rfl | ⟨index, -, hlookup⟩
  · exact ⟨h.isPart, Nat.le_refl _, Nat.le_refl _⟩
  · obtain ⟨before, after, hgroups, -⟩ := List.lookup_eq_some_iff.1 hlookup
    exact h.groups (index + 1, span) (by simp [hgroups])

/-- The regular expression that a program runs. -/
def ofProgram (text : String) (program : Program) (groupNames : List (Option String))
    (hnames : groupNames ≠ []) : Regex where
  text
  groupNames
  search mode src start := (program.hit? mode src start).map (·.groupSpans groupNames)
  length_eq := by
    rintro mode src start groups - h
    obtain ⟨hit, -, rfl⟩ := Option.map_eq_some_iff.1 h
    have hpos := List.length_pos_iff.2 hnames
    simp only [Hit.groupSpans, List.length_cons, List.length_map, List.length_range]
    omega
  spanned := by
    rintro mode src start groups - h
    obtain ⟨hit, hhit, rfl⟩ := Option.map_eq_some_iff.1 h
    obtain ⟨hin, hle⟩ := Program.hit?_inSource hhit
    exact ⟨hit.span, hin.spanned groupNames, hle⟩

/-- The regular expression that a text writes under given flags. -/
def compile (text : String) (flags : Flags) : Except PatternError Regex := do
  let pattern ← Pattern.read text flags
  if !pattern.fits then throw .tooLarge
  return ofProgram text (.ofPattern pattern) pattern.groupNames (List.cons_ne_nil _ _)

/-- The engine of this library runs a program one way after the other, in both
modes. -/
def Engine.backtracker : Engine where
  compile _ text flags := Regex.compile text flags

end Regex

end Packrat
