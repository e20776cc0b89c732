import Packrat.Proofs.RegexSearch
import Packrat.Regex.Engine
/-!
# Leftmost-first engines

Engines differ in how they search, and agree on what is to be found. A regular expression prefers
one match of those that begin at an offset. An anchored search finds this match; a search from an
offset on finds the preferred match at the least offset that has any. Here this is a property of
an engine, relative to what the texts of regular expressions mean.

The engine of this library has it, if the preferred match is the one that the least way through
the program of a pattern makes.

## Main definitions

* `Meaning` — what a regular expression means.
* `Engine.LeftmostFirst` — an engine finds what regular expressions mean.

## Main results

* `Meaning.leftmost_here_iff` — a leftmost match that begins where the search does is the
  preferred one there.
* `Engine.backtracker_leftmostFirst` — the engine of this library is leftmost-first.
-/

namespace Packrat.Regex

/-- What a regular expression means: which groups it has, and which match it prefers at an
offset. -/
structure Meaning where
  groupNames : List (Option String)
  /-- The groups of the preferred match at an offset. -/
  Preferred : Source → Nat → Groups → Prop
  /-- The preferred match at an offset begins there, and its groups lie inside it. -/
  spanned : ∀ {src start groups}, Preferred src start groups →
    ∃ whole, groups.Spanned src whole ∧ whole.start = start

namespace Meaning

variable {meaning : Meaning} {src : Source} {start : Nat} {groups : Groups}

/-- The preferred match at the least offset, from a given one on, that has one. -/
def Leftmost (meaning : Meaning) (src : Source) (start : Nat) (groups : Groups) : Prop :=
  ∃ offset, start ≤ offset ∧ meaning.Preferred src offset groups ∧
    ∀ offset' groups', start ≤ offset' → offset' < offset →
      ¬meaning.Preferred src offset' groups'

/-- A leftmost match that begins where the search does is the preferred one there: if there is
one, no other place comes before it. -/
theorem leftmost_here_iff :
    (meaning.Leftmost src start groups ∧ ∃ whole, groups.whole? = some whole ∧
      whole.start = start) ↔ meaning.Preferred src start groups := by
  constructor
  · rintro ⟨⟨offset, -, hpreferred, -⟩, whole, hwhole, hstart⟩
    obtain ⟨whole', hspanned, hoffset⟩ := meaning.spanned hpreferred
    obtain rfl := Option.some.inj (hspanned.whole_eq.symm.trans hwhole)
    obtain rfl : offset = start := hoffset.symm.trans hstart
    exact hpreferred
  · intro hpreferred
    obtain ⟨whole, hspanned, hstart⟩ := meaning.spanned hpreferred
    exact ⟨⟨start, Nat.le_refl _, hpreferred, fun _ _ hle hlt => absurd hlt (Nat.not_lt.2 hle)⟩,
      whole, hspanned.whole_eq, hstart⟩

/-- The meaning of what is no regular expression: nothing matches. -/
def nothing : Meaning where
  groupNames := []
  Preferred _ _ _ := False
  spanned := False.elim

end Meaning

/-- An engine finds what regular expressions mean: asked at a boundary it finds the preferred
match there, and asked from a boundary on the preferred match at the least offset that has
one. -/
structure Engine.LeftmostFirst (engine : Engine) (meaning : String → Flags → Meaning) : Prop where
  groupNames_eq : ∀ {mode text flags regex}, engine.compile mode text flags = .ok regex →
    regex.groupNames = (meaning text flags).groupNames
  anchored : ∀ {text flags regex}, engine.compile .anchored text flags = .ok regex →
    ∀ {src start groups}, src.isBoundary start = true →
      (regex.search .anchored src start = some groups ↔
        (meaning text flags).Preferred src start groups)
  searching : ∀ {text flags regex}, engine.compile .searching text flags = .ok regex →
    ∀ {src start groups}, src.isBoundary start = true →
      (regex.search .searching src start = some groups ↔
        (meaning text flags).Leftmost src start groups)

/-- In both modes a parser of a leftmost-first engine takes the preferred match at a boundary. -/
theorem Engine.LeftmostFirst.captures_eq_some_iff {engine : Engine}
    {meaning : String → Flags → Meaning} (hengine : engine.LeftmostFirst meaning) {mode : Mode}
    {text : String} {flags : Flags} {regex : Regex}
    (hvalid : engine.compile mode text flags = .ok regex) {src : Source} {start : Nat}
    (hstart : src.isBoundary start = true) {groups : Groups} :
    regex.captures mode src start = some groups ↔
      (meaning text flags).Preferred src start groups := by
  cases mode with
  | anchored => exact hengine.anchored hvalid hstart
  | searching =>
      rw [captures_searching_eq_some_iff, hengine.searching hvalid hstart,
        Meaning.leftmost_here_iff]

/-! ## The engine of this library -/

section Backtracker

variable {pattern : Pattern} {src : Source} {start : Nat} {groups : Groups}

/-- The meaning of a pattern: the preferred match is the one that the least way through its
program makes. -/
def Pattern.meaning (pattern : Pattern) : Meaning where
  groupNames := pattern.groupNames
  Preferred src start groups := ∃ place hit, src.cursor? start = some place ∧
    (Program.ofPattern pattern).Preferred start place hit ∧
      groups = hit.groupSpans pattern.groupNames
  spanned := by
    rintro src start _ ⟨place, hit, hplace, hhit, rfl⟩
    rw [← Program.matchAt_eq_some_iff pattern hplace] at hhit
    obtain ⟨hstart, hin⟩ := Program.matchAt_inSource _ hplace hhit
    exact ⟨hit.span, hin.spanned _, hstart⟩

/-- The leftmost match of a pattern is the leftmost one of its program. -/
theorem Pattern.leftmost_iff :
    pattern.meaning.Leftmost src start groups ↔
      ∃ hit, (Program.ofPattern pattern).Leftmost src start hit ∧
        groups = hit.groupSpans pattern.groupNames := by
  constructor
  · rintro ⟨offset, hle, ⟨place, hit, hplace, hhit, rfl⟩, hbefore⟩
    refine ⟨hit, ⟨offset, place, hle, hplace, hhit, fun offset' place' hle' hlt hplace' => ?_⟩,
      rfl⟩
    rw [Program.noWay_iff pattern hplace']
    exact fun hit' hhit' => hbefore offset' _ hle' hlt ⟨place', hit', hplace', hhit', rfl⟩
  · rintro ⟨hit, ⟨offset, place, hle, hplace, hhit, hbefore⟩, rfl⟩
    refine ⟨offset, hle, ⟨place, hit, hplace, hhit, rfl⟩, ?_⟩
    rintro offset' _ hle' hlt ⟨place', hit', hplace', hhit', rfl⟩
    exact (Program.noWay_iff pattern hplace').1 (hbefore offset' place' hle' hlt hplace') hit' hhit'

/-- What the texts of regular expressions mean to the engine of this library. -/
def meaning (text : String) (flags : Flags) : Meaning :=
  match Pattern.read text flags with
  | .ok pattern => pattern.meaning
  | .error _ => .nothing

theorem compile_of_read {text : String} {flags : Flags} (h : Pattern.read text flags = .ok pattern) :
    compile text flags = if !pattern.fits then .error .tooLarge
      else .ok (ofProgram text (.ofPattern pattern) pattern.groupNames (List.cons_ne_nil _ _)) := by
  rw [compile, h]
  rfl

/-- A regular expression that is ready for matching runs the program of a pattern that was read
from its text. -/
theorem exists_pattern {text : String} {flags : Flags} {regex : Regex}
    (h : compile text flags = .ok regex) :
    ∃ pattern : Pattern, meaning text flags = pattern.meaning ∧
      regex.groupNames = pattern.groupNames ∧ ∀ mode src start, regex.search mode src start =
        ((Program.ofPattern pattern).hit? mode src start).map (·.groupSpans pattern.groupNames) := by
  unfold meaning
  cases hread : Pattern.read text flags with
  | error error =>
      rw [compile, hread] at h
      contradiction
  | ok pattern =>
      rw [compile_of_read hread] at h
      split at h
      · contradiction
      · rw [← Except.ok.inj h]
        exact ⟨pattern, rfl, rfl, fun _ _ _ => rfl⟩

/-- The engine of this library is leftmost-first. -/
theorem Engine.backtracker_leftmostFirst : backtracker.LeftmostFirst meaning where
  groupNames_eq h := by
    obtain ⟨pattern, hmeaning, hnames, -⟩ := exists_pattern h
    rw [hnames, hmeaning]
    rfl
  anchored {text flags regex} h {src start groups} hstart := by
    obtain ⟨pattern, hmeaning, -, hsearch⟩ := exists_pattern h
    obtain ⟨place, hplace⟩ := Source.isBoundary_iff.1 hstart
    rw [hmeaning, hsearch, Program.hit?, hplace, Option.map_eq_some_iff]
    constructor
    · rintro ⟨hit, hhit, rfl⟩
      exact ⟨place, hit, hplace, (Program.matchAt_eq_some_iff pattern hplace).1 hhit, rfl⟩
    · rintro ⟨place', hit, hplace', hhit, rfl⟩
      obtain rfl := Option.some.inj (hplace.symm.trans hplace')
      exact ⟨hit, (Program.matchAt_eq_some_iff pattern hplace).2 hhit, rfl⟩
  searching {text flags regex} h {src start groups} hstart := by
    obtain ⟨pattern, hmeaning, -, hsearch⟩ := exists_pattern h
    obtain ⟨place, hplace⟩ := Source.isBoundary_iff.1 hstart
    rw [hmeaning, hsearch, Program.hit?, hplace, Option.map_eq_some_iff, Pattern.leftmost_iff]
    refine exists_congr fun hit => ?_
    rw [eq_comm (b := groups)]
    exact and_congr_left' (Program.search_eq_some_iff pattern hplace)

end Backtracker

end Packrat.Regex
