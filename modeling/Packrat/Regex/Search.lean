import Packrat.Regex
import Packrat.Regex.Program
import Std.Data.TreeSet.Basic
/-!
# Searching

Runs a program on a source. The ways through the program are tried in order of
preference, and the first that accepts is the match.

A way that comes to an instruction at a place where an earlier way has been is
given up: whatever follows has failed already, or is being tried by the earlier
way. This bounds the work by the number of instructions times the number of
places, and it is also what ends rounds that take nothing.

A group is recorded when it ends, together with where it began, so a recorded
group is always a span of the text between the start of the match and the
place that has been reached.

## Main definitions

* `Program.matchAt` — the preferred match that begins at a place.
* `Program.search` — the preferred match at the first place that has one.
* `Program.hit?` — the match that is found from an offset on, in either mode.
-/

namespace Packrat.Regex

/-- A match: its span, and the spans of its groups, the latest first. -/
structure Hit where
  span : Span
  groups : List (Nat × Span)
deriving Repr, DecidableEq

/-- A way through the program, at a place of the source. -/
structure Thread where
  label : Label
  offset : Nat
  place : Cursor
  /-- Where the groups that have not ended yet began, the latest first. -/
  opened : List Nat
  /-- The groups that ended, the latest first. -/
  closed : List (Nat × Span)

namespace Thread

/-- The threads that an instruction leads to, the preferred one first. -/
def step (thread : Thread) : Instr → List Thread
  | .one set next =>
    match thread.place.rest with
    | [] => []
    | c :: rest =>
      if set.contains c then
        [{ thread with
            label := next
            offset := thread.offset + c.utf8Size
            place := ⟨some c, rest⟩ }]
      else []
  | .look look next => if look.holds thread.place then [{ thread with label := next }] else []
  | .choice first second => [{ thread with label := first }, { thread with label := second }]
  | .openGroup next => [{ thread with label := next, opened := thread.offset :: thread.opened }]
  | .closeGroup index next =>
    match thread.opened with
    | [] => []
    | start :: opened =>
      [{ thread with
          label := next
          opened
          closed := (index, ⟨start, thread.offset⟩) :: thread.closed }]
  | .accept => []
  | .stuck => []

end Thread

namespace Program

/-- Tries threads in order until one accepts. `seen` holds the instructions
that were tried, with their places. -/
def explore (program : Program) :
    Nat → List Thread → Std.TreeSet Nat → Option Thread
  | 0, _, _ => none
  | _ + 1, [], _ => none
  | fuel + 1, thread :: others, seen =>
    let key := thread.offset * program.instrs.size + thread.label
    if seen.contains key then explore program fuel others seen
    else
      match program.instrs[thread.label]? with
      | none => explore program fuel others seen
      | some .accept => some thread
      | some instr => explore program fuel (thread.step instr ++ others) (seen.insert key)

/-- How many threads can come up on a text: one to begin with, and at most two
from each instruction at each place. -/
def threadLimit (program : Program) (text : List Char) : Nat :=
  2 * (program.instrs.size * (text.length + 1)) + 2

/-- The preferred match that begins at a place. -/
def matchAt (program : Program) (start : Nat) (place : Cursor) : Option Hit :=
  let thread : Thread :=
    { label := program.entry, offset := start, place, opened := [], closed := [] }
  (program.explore (program.threadLimit place.rest) [thread] ∅).map fun final =>
    { span := ⟨start, final.offset⟩, groups := final.closed }

/-- The preferred match at the first place, from a given one on, that has one. -/
def search (program : Program) (start : Nat) (before : Option Char) :
    List Char → Option Hit
  | [] => program.matchAt start ⟨before, []⟩
  | c :: rest =>
    match program.matchAt start ⟨before, c :: rest⟩ with
    | some hit => some hit
    | none => program.search (start + c.utf8Size) (some c) rest

/-- The match that is found when it is asked for at an offset, which must be a
boundary of the source. -/
def hit? (program : Program) (mode : Mode) (src : Source) (start : Nat) : Option Hit := do
  let place ← src.cursor? start
  match mode with
  | .anchored => program.matchAt start place
  | .searching => program.search start place.before place.rest

end Program

end Packrat.Regex
