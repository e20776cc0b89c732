import Packrat.Regex.ByteRange
import Packrat.Regex.Pattern
import Std.Data.HashMap.Basic
/-!
# The size of a pattern

The size of a pattern is that of two automata over bytes that match it: one that
reads a text forward, with marks where groups begin and end, and one that reads
it backward, without them. Every state takes the same room, and a state takes
more for each transition to choose from. A pattern is too large when either
automaton takes more than 10 MiB.

The automata are not needed for matching, so their states are only counted, in
the order in which they would be built. A counted repetition takes a copy of its
body for each time that it counts, so a few characters can write a large
pattern. Counting ends as soon as the limit is passed.

## Sharing states

Classes of characters beyond ASCII are large, and so their states are shared. A
forward automaton has one state for all ways on which the same bytes may follow;
a backward one begins a way of its own for each sequence of byte ranges, and
shares the states that lead on to the same bytes. The states to share are kept
in a table of a fixed number of slots, of which a hash chooses one; a state that
takes the slot of another one is kept in its place, and the other one is built
again when it is needed again.

A choice between texts is a trie, in which texts that begin alike share states
until one of them ends.

## Main definitions

* `Counting` — counting states up to the limit.
* `CharClass.count` — counts the states of a class.
* `Pattern.fits` — whether a pattern is small enough.
-/

namespace Packrat.Regex

/-- Which way an automaton reads. -/
inductive Direction where
  | forward
  | backward
deriving Repr, DecidableEq

namespace Size

/-! ## Counting -/

/-- What was counted: states, and the bytes that they take for transitions. -/
structure Tally where
  states : Nat := 0
  extra : Nat := 0

/-- The bytes of a state. -/
def stateRoom : Nat := 32

/-- The bytes of a transition of a state that tells bytes apart. -/
def transitionRoom : Nat := 8

/-- The bytes of a transition of a state that chooses. -/
def choiceRoom : Nat := 4

/-- The greatest room of an automaton. -/
def roomLimit : Nat := 10 * 1024 * 1024

/-- Counting states; it fails when the limit is passed. -/
abbrev Counting (α : Type) := StateT Tally Option α

/-- Counts a state with the bytes of its transitions. States are numbered in
the order in which they are counted. -/
def state (extra : Nat) : Counting Nat := fun tally =>
  let next : Tally := { states := tally.states + 1, extra := tally.extra + extra }
  if next.states * stateRoom + next.extra ≤ roomLimit then some (tally.states, next) else none

/-- Counts a state that goes on in one way, or that ends a part. -/
def plainState : Counting Unit := do let _ ← state 0

/-- Counts a state that tells bytes apart in a number of transitions. -/
def branchingState (transitions : Nat) : Counting Unit := do
  let _ ← state (transitions * transitionRoom)

/-- Counts a state that chooses between a number of ways. -/
def choosingState (ways : Nat) : Counting Unit := do
  let _ ← state (ways * choiceRoom)

/-- Counts a number of copies of a part. -/
def copies (part : Counting Unit) : Nat → Counting Unit
  | 0 => return
  | n + 1 => do
    part
    copies part n

/-! ## Hashing -/

/-- The hash of some numbers, one after the other. -/
def hash (numbers : List Nat) : UInt64 :=
  numbers.foldl (fun h n => (h ^^^ UInt64.ofNat n) * 1099511628211) 14695981039346656037

/-- The slot of some numbers in a table. -/
def slot (slots : Nat) (numbers : List Nat) : Nat := (hash numbers).toNat % slots

/-- The states to share, by slot, each with what it is known by. -/
abbrev Table (κ : Type) := Std.HashMap Nat (κ × Nat)

/-- The shared state with a key, which is counted if the table does not have
it. -/
def shared {κ : Type} [DecidableEq κ] (slot : Nat) (key : κ) (extra : Nat) :
    StateT (Table κ) Counting Nat := do
  let known := (← get)[slot]?.bind fun (other, number) => if other = key then some number else none
  match known with
  | some number => return number
  | none =>
    let number ← state extra
    modify fun table => table.insert slot (key, number)
    return number

/-! ## Classes -/

/-- The transitions of a state: the ranges that it tells apart, with the state
after each. -/
abbrev Transitions := List (ByteRange × Nat)

/-- The ranges that some sequences begin with, and what remains after each. -/
def ways (sequences : List (List ByteRange)) : List (ByteRange × List (List ByteRange)) :=
  (sequences.splitBy fun a b => a.head? == b.head?).filterMap fun group =>
    (group.head?.bind List.head?).map fun range => (range, group.map List.tail)

/-- Counts the states that read some sequences forward up to a state where all
of them end. No sequence is longer than `depth`. -/
def forwardStates (last : Nat) :
    Nat → List (List ByteRange) → StateT (Table Transitions) Counting Nat
  | 0, _ => return last
  | depth + 1, sequences => do
    if sequences.all List.isEmpty then return last
    let transitions ← (ways sequences).mapM fun (range, rest) =>
      return (range, ← forwardStates last depth rest)
    let numbers := transitions.flatMap fun (range, next) => [range.1, range.2, next]
    shared (slot 10000 numbers) transitions (transitions.length * transitionRoom)

/-- Counts the states that read a sequence backward: its last range leads to
the one before, and the first one to the state where all sequences end. -/
def backwardStates (last : Nat) (sequence : List ByteRange) :
    StateT (Table (Nat × ByteRange)) Counting Unit := do
  let mut next := last
  for range in sequence do
    next ← shared (slot 1000 [next, range.1, range.2]) (next, range) 0

/-- Counts the states of sequences of several bytes. -/
def sequences (direction : Direction) (sequences : List (List ByteRange)) : Counting Unit := do
  match direction with
  | .forward =>
    let last ← state 0
    let _ ← (forwardStates last 4 sequences).run ∅
  | .backward =>
    choosingState sequences.length
    let last ← state 0
    let _ ← (sequences.forM (backwardStates last)).run ∅

/-- Counts the states of a class. A single character is a state for each byte,
and ASCII characters are one state with a transition for each range. -/
def charClass (direction : Direction) (set : CharClass) : Counting Unit :=
  let all := set.sequences
  if set.isSingle then copies plainState (all.flatten.length)
  else if all.all fun bytes => bytes.length = 1 then do
    plainState
    branchingState all.length
  else sequences direction all

/-! ## Texts -/

/-- The bytes of a character. -/
def charBytes (set : CharClass) : List Nat := set.sequences.flatten.map (·.1)

/-- How many ends a state of a trie marks. Ends before all transitions are one
end. -/
def endCount (texts : List (List Nat)) : Nat :=
  let leading := (texts.takeWhile List.isEmpty).length
  texts.countP List.isEmpty - (leading - 1)

/-- Counts the states of a trie for texts in order. Texts between two ends share
the states for the bytes that they begin with. No text is longer than
`depth`. -/
def trieStates : Nat → List (List Nat) → Counting Unit
  | 0, _ => return
  | depth + 1, texts => do
    if texts.all List.isEmpty then return
    let chunks := (texts.splitOn []).filter (!·.isEmpty)
    for chunk in chunks do
      let bytes := (chunk.filterMap List.head?).eraseDups
      for byte in bytes do
        trieStates depth ((chunk.filter (·.head? = some byte)).map List.tail)
      if bytes.length = 1 then plainState else branchingState bytes.length
    choosingState (chunks.length + endCount texts)

/-- Counts the states of a choice between texts. -/
def trie (texts : List (List Nat)) : Counting Unit := do
  plainState
  trieStates (texts.foldl (fun n text => max n text.length) 0) texts

/-! ## Patterns -/

/-- A branch of a choice: its bytes when it is a text, and how its states are
counted. -/
structure Branch where
  text : Option (List Nat)
  count : Counting Unit

/-- Counts the states of a choice. -/
def choice (direction : Direction) (branches : List Branch) : Counting Unit :=
  match branches, branches.mapM Branch.text with
  | [], _ => return
  | [only], _ => only.count
  | _, some texts =>
    trie (match direction with
      | .forward => texts
      | .backward => texts.map List.reverse)
  | first :: second :: others, none => do
    first.count
    second.count
    choosingState branches.length
    plainState
    others.forM Branch.count

/-- Counts the states of a repetition. -/
def repetition (least : Nat) (most : Option Nat) (consumes : Bool) (body : Counting Unit) :
    Counting Unit := do
  match least, most with
  | 0, none =>
    if consumes then
      choosingState 2
      body
    else
      body
      choosingState 2
      choosingState 2
      plainState
  | least, none =>
    copies body least
    choosingState 2
  | 0, some 1 =>
    choosingState 2
    body
    plainState
  | least, some most =>
    if least = 0 then plainState else copies body least
    if least < most then
      plainState
      copies (do choosingState 2; body) (most - least)

/-- The branches of a pattern, with how their states are counted. -/
def branches (direction : Direction) : Pattern → List Branch
  | .empty => [⟨none, plainState⟩]
  | .one set _ =>
    [⟨if set.isSingle then some (charBytes set) else none, charClass direction set⟩]
  | .look _ => [⟨none, plainState⟩]
  | .seq a b =>
    let first := branches direction a
    let second := branches direction b
    let text := do
      match first, second with
      | [first], [second] => return (← first.text) ++ (← second.text)
      | _, _ => none
    [⟨text, do
      match direction with
      | .forward =>
        choice direction first
        choice direction second
      | .backward =>
        choice direction second
        choice direction first⟩]
  | .alt a b => branches direction a ++ branches direction b
  | .rep least most _ body =>
    [⟨none, repetition least most body.consumes (choice direction (branches direction body))⟩]
  | .group _ _ body =>
    let inside := choice direction (branches direction body)
    [⟨none, do
      match direction with
      | .forward =>
        plainState
        inside
        plainState
      | .backward => inside⟩]

/-- Whether every match begins at the start of the text, or ends at its end. -/
def isAnchored (direction : Direction) : Pattern → Bool
  | .empty => false
  | .one _ _ => false
  | .look look => look == (match direction with
    | .forward => .textStart
    | .backward => .textEnd)
  | .seq a b =>
    match direction with
    | .forward => isAnchored direction a || (a.isWidthless && isAnchored direction b)
    | .backward => isAnchored direction b || (b.isWidthless && isAnchored direction a)
  | .alt a b => isAnchored direction a && isAnchored direction b
  | .rep least _ _ body => 0 < least && isAnchored direction body
  | .group _ _ body => isAnchored direction body

/-- Counts the whole automaton: the loop over what comes before a match, unless
there can be nothing, the match as a group, and the state that accepts. -/
def automaton (direction : Direction) (pattern : Pattern) : Counting Unit := do
  if isAnchored direction pattern then plainState
  else
    choosingState 2
    plainState
    branchingState 1
  choice direction (branches direction (.group 0 none pattern))
  plainState

end Size

/-- Whether a pattern is small enough. -/
def Pattern.fits (pattern : Pattern) : Bool :=
  ((Size.automaton .forward pattern).run {}).isSome &&
    ((Size.automaton .backward pattern).run {}).isSome

end Packrat.Regex
