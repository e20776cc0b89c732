import Packrat.Source.Boundary
/-!
# Regular expressions

A regular expression is compiled by an engine and then matched at offsets of a
source. How the engine searches is its own affair: an expression that is ready
for matching is known by what it finds, and by what can be relied on whatever
is found, which is that a match and its groups are parts of the source.

A match must begin exactly at its offset, but assertions see the text before
it. There are two ways of matching at an offset. The anchored one asks for a
match that begins there. The searching one asks for the first match from there
on and takes it only if it begins at the offset.

## Main definitions

* `Regex` — a compiled regular expression, of any engine.
* `Regex.captures` — the groups of the match at an offset.
-/

namespace Packrat

namespace Regex

/-- How a regular expression is matched at an offset. -/
inductive Mode where
  | anchored
  | searching
deriving Repr, DecidableEq

/-- The start and the end of a part of the source. -/
structure Span where
  start : Nat
  stop : Nat
deriving Repr, DecidableEq

/-- A span is a part of the source between two offsets. -/
structure Span.Within (src : Source) (start stop : Nat) (span : Span) : Prop where
  isPart : src.IsPart span.start span.stop
  start_le : start ≤ span.start
  stop_le : span.stop ≤ stop

/-- A span stays where it is when the place that was reached moves on. -/
theorem Span.Within.mono {src : Source} {start stop stop' : Nat} {span : Span}
    (h : span.Within src start stop) (hle : stop ≤ stop') : span.Within src start stop' :=
  ⟨h.isPart, h.start_le, Nat.le_trans h.stop_le hle⟩

/-- The spans of the groups of a match by index. A group that did not take part
in the match has none. -/
abbrev Groups := List (Option Span)

namespace Groups

/-- The span of group 0, which is the whole match. -/
def whole? (groups : Groups) : Option Span := groups[0]?.join

/-- The groups of a match lie inside the whole match. -/
structure Spanned (src : Source) (whole : Span) (groups : Groups) : Prop where
  whole_eq : groups.whole? = some whole
  within : ∀ span, some span ∈ groups → span.Within src whole.start whole.stop

/-- The whole match is a part of the source. -/
theorem Spanned.isPart {src : Source} {whole : Span} {groups : Groups}
    (h : groups.Spanned src whole) : src.IsPart whole.start whole.stop := by
  have hmem : some whole ∈ groups := List.mem_of_getElem? (Option.join_eq_some_iff.1 h.whole_eq)
  exact (h.within whole hmem).isPart

end Groups

end Regex

open Regex in
/-- A regular expression that an engine has compiled. -/
structure Regex where
  /-- The text that writes the expression. -/
  text : String
  /-- The names of the groups by index; group 0 is the whole match. -/
  groupNames : List (Option String)
  /-- What the engine finds when it is asked at an offset: in the anchored mode
  a match that begins there, in the searching mode the first one from there on. -/
  search : Mode → Source → Nat → Option Groups
  /-- From a boundary on, all groups are told. -/
  length_eq : ∀ {mode src start groups}, src.isBoundary start = true →
    search mode src start = some groups → groups.length = groupNames.length
  /-- From a boundary on, a match is found no earlier than there, and its groups
  lie inside it. -/
  spanned : ∀ {mode src start groups}, src.isBoundary start = true →
    search mode src start = some groups →
      ∃ whole, groups.Spanned src whole ∧ start ≤ whole.start

namespace Regex

variable {regex : Regex} {mode : Mode} {src : Source} {start : Nat} {groups : Groups}

/-- The groups of the match at an offset. A search may run on to a match that
begins later, which is none at the offset. -/
def captures (regex : Regex) (mode : Mode) (src : Source) (start : Nat) : Option Groups :=
  match mode with
  | .anchored => regex.search .anchored src start
  | .searching => do
    let groups ← regex.search .searching src start
    let whole ← groups.whole?
    if whole.start = start then some groups else none

/-- What the searching mode takes is found, and begins at the offset. -/
theorem captures_searching_eq_some_iff :
    regex.captures .searching src start = some groups ↔
      regex.search .searching src start = some groups ∧
        ∃ whole, groups.whole? = some whole ∧ whole.start = start := by
  simp only [captures, Option.bind_eq_bind, Option.bind_eq_some_iff]
  constructor
  · rintro ⟨found, hfound, whole, hwhole, h⟩
    split at h
    case isTrue hstart =>
      obtain rfl := Option.some.inj h
      exact ⟨hfound, whole, hwhole, hstart⟩
    case isFalse => contradiction
  · rintro ⟨hfound, whole, hwhole, hstart⟩
    exact ⟨groups, hfound, whole, hwhole, if_pos hstart⟩

/-- In both modes what is taken has been found. -/
theorem search_of_captures (h : regex.captures mode src start = some groups) :
    regex.search mode src start = some groups := by
  cases mode with
  | anchored => exact h
  | searching => exact (captures_searching_eq_some_iff.1 h).1

/-- How a regular expression is shown in a description. -/
def describe (regex : Regex) : String := "/" ++ regex.text ++ "/"

end Regex

end Packrat
