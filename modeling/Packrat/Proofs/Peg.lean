import Packrat.Proofs.Stateless
/-!
# Parsing expression grammars

What a grammar means, said without an engine: at an offset of a source a parser
finds a value and where it stops, or does not match, or aborts the parse. There
is no state here, no depth, no bound on rounds, and no order in which anything
is tried; a repetition is the chain of all matches that move on.

`Body.Rule` has a clause for each kind of parser, over what is known of the
parsers that it is made of. `Grammar.Derives` is the least relation that is
closed under the clauses: a verdict is derived from verdicts that are derived.

## Main definitions

* `Verdict` — what a parser finds at an offset.
* `Upon` — what follows upon a verdict; an abort is passed on.
* `Chain` — the longest chain of matches that move on.
* `Body.Rule`, `Grammar.Derives` — the meaning of a body and of a grammar.

## Main results

* `Grammar.derives_iff_rule` — the clauses hold of what is derived, and nothing
  else is derived.
-/

namespace Packrat

/-- What a parser finds at an offset. -/
inductive Verdict (α : Type) where
  /-- A value, and where the match stops. -/
  | found (value : α) (stop : Nat)
  | noMatch
  /-- The whole parse ends with an error. -/
  | abort (position : Nat) (error : TransformError)

/-- What is known of parsers, by slot and offset. -/
abbrev Knowledge := SlotId → Nat → Verdict Value → Prop

/-- What a primitive finds at an offset. A number that is too large aborts the
parse there. -/
def Verdict.ofScan (start : Nat) : Scan → Verdict Value
  | .found value stop => .found value stop
  | .noMatch => .noMatch
  | .overflow error => .abort start (.number error)

/-- What follows upon a verdict: one thing upon a match, another upon no match. An
abort is passed on. -/
inductive Upon {α β : Type} (first : Verdict α → Prop) (found : α → Nat → Verdict β → Prop)
    (noMatch : Verdict β → Prop) : Verdict β → Prop
  | found {value : α} {stop : Nat} {verdict : Verdict β} (hfirst : first (.found value stop))
      (hfound : found value stop verdict) : Upon first found noMatch verdict
  | noMatch {verdict : Verdict β} (hfirst : first .noMatch) (hnoMatch : noMatch verdict) :
    Upon first found noMatch verdict
  | abort {position : Nat} {error : TransformError} (hfirst : first (.abort position error)) :
    Upon first found noMatch (.abort position error)

/-- What follows upon a match; no match is passed on too. -/
abbrev After {α β : Type} (first : Verdict α → Prop) (found : α → Nat → Verdict β → Prop) :
    Verdict β → Prop :=
  Upon first found (· = .noMatch)

/-- The values of all matches in a row from an offset on, and where the last one
stops. The chain ends before the first round that does not match or does not
move on. -/
inductive Chain {α : Type} (round : Nat → Verdict α → Prop) : Nat → Verdict (List α) → Prop
  | noMatch {offset : Nat} (hround : round offset .noMatch) :
    Chain round offset (.found [] offset)
  | idle {offset stop : Nat} {value : α} (hround : round offset (.found value stop))
      (hidle : stop ≤ offset) : Chain round offset (.found [] offset)
  | more {offset stop last : Nat} {value : α} {values : List α}
      (hround : round offset (.found value stop)) (hmoves : offset < stop)
      (hrest : Chain round stop (.found values last)) :
    Chain round offset (.found (value :: values) last)
  | abort {offset position : Nat} {error : TransformError}
      (hround : round offset (.abort position error)) :
    Chain round offset (.abort position error)
  | moreAbort {offset stop position : Nat} {value : α} {error : TransformError}
      (hround : round offset (.found value stop)) (hmoves : offset < stop)
      (hrest : Chain round stop (.abort position error)) :
    Chain round offset (.abort position error)

/-- Two parsers, the second where the first one stops. -/
def Pair (known : Knowledge) (first second : SlotId) (offset : Nat) :
    Verdict (Value × Value) → Prop :=
  After (known first offset) fun a mid =>
    After (known second mid) fun b stop verdict => verdict = .found (a, b) stop

/-- The meaning of a body at an offset, given what is known of its parts. -/
def Body.Rule (src : Source) (known : Knowledge) (start : Nat) : Body → Verdict Value → Prop
  | .primitive p => (· = .ofScan start (p.scan src start))
  | .sequence first second =>
    After (known first start) fun a mid =>
      After (known second mid) fun b stop verdict => verdict = .found (a.concat b) stop
  | .choice first second =>
    Upon (known first start) (fun a stop verdict => verdict = .found a stop)
      (known second start)
  | .lookahead inner =>
    After (known inner start) fun a _ verdict => verdict = .found a start
  | .negation inner =>
    Upon (known inner start) (fun _ _ verdict => verdict = .noMatch) (· = .found .unit start)
  | .optional inner =>
    Upon (known inner start) (fun a stop verdict => verdict = .found (.some a) stop)
      (· = .found .none start)
  | .zeroOrMore inner =>
    After (Chain (known inner) start) fun values stop verdict =>
      verdict = .found (.list values) stop
  | .oneOrMore inner =>
    After (Chain (known inner) start) fun values stop verdict =>
      verdict = if values.isEmpty then .noMatch else .found (.list values) stop
  | .map make inner =>
    After (known inner start) fun a stop verdict =>
      verdict = .found (make src ⟨a, start, stop⟩) stop
  | .mapInRun make inner =>
    After (known inner start) fun a stop verdict =>
      ∃ snapshot, verdict = .found (make snapshot src ⟨a, start, stop⟩) stop
  | .tryMap make inner =>
    After (known inner start) fun a stop verdict =>
      verdict = match make a with
        | .ok b => .found b stop
        | .error error => .abort start error
  | .filter accepts _ inner =>
    After (known inner start) fun a stop verdict =>
      verdict = if accepts a then .found a stop else .noMatch
  | .named _ inner => known inner start
  | .reference cell => known cell start
  | .leftAssociative combine term operator =>
    After (known term start) fun first mid =>
      After (Chain (Pair known operator term) mid) fun pairs stop verdict =>
        verdict = .found (pairs.foldl (fun left (op, right) => combine left op right) first) stop
  | .foldLeft apply term operation =>
    After (known term start) fun first mid =>
      After (Chain (known operation) mid) fun operations stop verdict =>
        verdict = .found (operations.foldl apply first) stop
  | .between opening content closing =>
    After (known opening start) fun _ mid =>
      After (known content mid) fun b mid' =>
        After (known closing mid') fun _ stop verdict => verdict = .found b stop
  | .separated item separator =>
    After (known item start) fun first mid =>
      After (Chain (Pair known separator item) mid) fun pairs stop verdict =>
        verdict = .found (.list (first :: pairs.map (·.2))) stop

/-- What a grammar means: the least relation that is closed under the meanings of
its bodies. A parser that the grammar does not have never matches. -/
inductive Grammar.Derives (g : Grammar) (src : Source) : SlotId → Nat → Verdict Value → Prop
  | body {slot : SlotId} {start : Nat} {body : Body} {verdict : Verdict Value}
      {known : Knowledge} (hbody : g.bodies[slot]? = some body)
      (hknown : ∀ slot start verdict, known slot start verdict →
        g.Derives src slot start verdict)
      (hrule : body.Rule src known start verdict) : g.Derives src slot start verdict
  | absent {slot : SlotId} {start : Nat} (habsent : g.bodies[slot]? = none) :
    g.Derives src slot start .noMatch

/-! ## More knowledge, more verdicts -/

namespace Upon

variable {α β : Type} {first first' : Verdict α → Prop} {found found' : α → Nat → Verdict β → Prop}
  {noMatch noMatch' : Verdict β → Prop}

theorem mono (hfirst : ∀ verdict, first verdict → first' verdict)
    (hfound : ∀ value stop verdict, found value stop verdict → found' value stop verdict)
    (hnoMatch : ∀ verdict, noMatch verdict → noMatch' verdict) {verdict : Verdict β}
    (h : Upon first found noMatch verdict) : Upon first' found' noMatch' verdict := by
  cases h with
  | found h hnext => exact .found (hfirst _ h) (hfound _ _ _ hnext)
  | noMatch h hnext => exact .noMatch (hfirst _ h) (hnoMatch _ hnext)
  | abort h => exact .abort (hfirst _ h)

/-- Only the first step depends on what is known. -/
theorem mono_left (hfirst : ∀ verdict, first verdict → first' verdict) {verdict : Verdict β}
    (h : Upon first found noMatch verdict) : Upon first' found noMatch verdict :=
  h.mono hfirst (fun _ _ _ => id) fun _ => id

/-- What follows upon a match may be said in other words. -/
theorem found_congr
    (hfound : ∀ value stop verdict, found value stop verdict ↔ found' value stop verdict)
    {verdict : Verdict β} :
    Upon first found noMatch verdict ↔ Upon first found' noMatch verdict :=
  ⟨mono (fun _ => id) (fun _ _ _ => (hfound _ _ _).1) fun _ => id,
    mono (fun _ => id) (fun _ _ _ => (hfound _ _ _).2) fun _ => id⟩

/-- A match that is passed on as it is. -/
theorem self_iff {verdict : Verdict α} :
    After first (fun value stop verdict => verdict = .found value stop) verdict ↔
      first verdict := by
  constructor
  · intro h
    cases h with
    | found h hfound => rwa [hfound]
    | noMatch h hnoMatch => rwa [hnoMatch]
    | abort h => exact h
  · intro h
    cases verdict with
    | found value stop => exact .found h rfl
    | noMatch => exact .noMatch h rfl
    | abort position error => exact .abort h

end Upon

theorem Chain.mono {α : Type} {round round' : Nat → Verdict α → Prop}
    (hround : ∀ offset verdict, round offset verdict → round' offset verdict) {offset : Nat}
    {verdict : Verdict (List α)} (h : Chain round offset verdict) :
    Chain round' offset verdict := by
  induction h with
  | noMatch h => exact .noMatch (hround _ _ h)
  | idle h hidle => exact .idle (hround _ _ h) hidle
  | more h hmoves _ ih => exact .more (hround _ _ h) hmoves ih
  | abort h => exact .abort (hround _ _ h)
  | moreAbort h hmoves _ ih => exact .moreAbort (hround _ _ h) hmoves ih

section Mono

variable {known known' : Knowledge}

theorem Pair.mono {first second : SlotId}
    (hfirst : ∀ start verdict, known first start verdict → known' first start verdict)
    (hsecond : ∀ start verdict, known second start verdict → known' second start verdict)
    {offset : Nat} {verdict : Verdict (Value × Value)}
    (h : Pair known first second offset verdict) : Pair known' first second offset verdict :=
  Upon.mono (hfirst _) (fun _ _ _ => Upon.mono_left (hsecond _)) (fun _ => id) h

/-- The more is known of the parts of a body, the more follows. -/
theorem Body.Rule.mono {src : Source} {start : Nat} {body : Body} {verdict : Verdict Value}
    (hknown : ∀ part ∈ body.parts, ∀ start verdict, known part start verdict →
      known' part start verdict)
    (h : body.Rule src known start verdict) : body.Rule src known' start verdict := by
  cases body with
  | primitive p => exact h
  | sequence first second =>
      have hfirst := hknown first (by simp [parts])
      have hsecond := hknown second (by simp [parts])
      exact Upon.mono (hfirst _) (fun _ _ _ => Upon.mono_left (hsecond _)) (fun _ => id) h
  | choice first second =>
      have hfirst := hknown first (by simp [parts])
      have hsecond := hknown second (by simp [parts])
      exact Upon.mono (hfirst _) (fun _ _ _ => id) (hsecond _) h
  | zeroOrMore inner | oneOrMore inner =>
      have hinner := hknown inner (by simp [parts])
      exact Upon.mono_left (fun _ => Chain.mono hinner) h
  | lookahead inner | negation inner | optional inner | map make inner | mapInRun make inner
  | tryMap make inner | filter accepts description inner =>
      have hinner := hknown inner (by simp [parts])
      exact Upon.mono_left (hinner _) h
  | named name inner | reference cell => exact hknown _ (by simp [parts]) _ _ h
  | leftAssociative combine term operator =>
      have hterm := hknown term (by simp [parts])
      have hoperator := hknown operator (by simp [parts])
      exact Upon.mono (hterm _)
        (fun _ _ _ => Upon.mono_left fun _ => Chain.mono fun _ _ => Pair.mono hoperator hterm)
        (fun _ => id) h
  | foldLeft apply term operation =>
      have hterm := hknown term (by simp [parts])
      have hoperation := hknown operation (by simp [parts])
      exact Upon.mono (hterm _) (fun _ _ _ => Upon.mono_left fun _ => Chain.mono hoperation)
        (fun _ => id) h
  | between opening content closing =>
      have hopening := hknown opening (by simp [parts])
      have hcontent := hknown content (by simp [parts])
      have hclosing := hknown closing (by simp [parts])
      exact Upon.mono (hopening _) (fun _ _ _ => Upon.mono (hcontent _)
        (fun _ _ _ => Upon.mono_left (hclosing _)) fun _ => id) (fun _ => id) h
  | separated item separator =>
      have hitem := hknown item (by simp [parts])
      have hseparator := hknown separator (by simp [parts])
      exact Upon.mono (hitem _)
        (fun _ _ _ => Upon.mono_left fun _ => Chain.mono fun _ _ => Pair.mono hseparator hitem)
        (fun _ => id) h

end Mono

/-- The meaning of a body is what is derived for it. -/
theorem Grammar.derives_iff_rule {g : Grammar} {src : Source} {slot : SlotId} {start : Nat}
    {body : Body} {verdict : Verdict Value} (hbody : g.bodies[slot]? = some body) :
    g.Derives src slot start verdict ↔ body.Rule src (g.Derives src) start verdict := by
  constructor
  · intro h
    cases h with
    | body hbody' hknown hrule =>
        rw [hbody] at hbody'
        obtain rfl := Option.some.inj hbody'
        exact hrule.mono fun part _ => hknown part
    | absent habsent =>
        rw [hbody] at habsent
        contradiction
  · exact fun hrule => .body hbody (fun _ _ _ => id) hrule

namespace Grammar

/-! ## Derivations of mapped parsers and sequences -/

variable {g : Grammar} {src : Source} {slot : SlotId} {start : Nat}

section Map

variable {make : Source → Match → Value} {inner : SlotId}
  (hslot : g.bodies[slot]? = some (.map make inner))

include hslot

theorem derives_map {value : Value} {stop : Nat}
    (h : g.Derives src inner start (.found value stop)) :
    g.Derives src slot start (.found (make src ⟨value, start, stop⟩) stop) :=
  (derives_iff_rule hslot).2 (.found h rfl)

theorem derives_map_noMatch (h : g.Derives src inner start .noMatch) :
    g.Derives src slot start .noMatch :=
  (derives_iff_rule hslot).2 (.noMatch h rfl)

end Map

theorem derives_capture {inner : SlotId} (hslot : g.bodies[slot]? = some (.capture inner))
    {value : Value} {stop : Nat} (h : g.Derives src inner start (.found value stop)) :
    g.Derives src slot start (.found (.tuple [value]) stop) :=
  derives_map hslot h

theorem derives_ignore {inner : SlotId} (hslot : g.bodies[slot]? = some (.ignore inner))
    {value : Value} {stop : Nat} (h : g.Derives src inner start (.found value stop)) :
    g.Derives src slot start (.found .unit stop) :=
  derives_map hslot h

section Sequence

variable {first second : SlotId} (hslot : g.bodies[slot]? = some (.sequence first second))

include hslot

theorem derives_sequence {a b : Value} {mid stop : Nat}
    (hfirst : g.Derives src first start (.found a mid))
    (hsecond : g.Derives src second mid (.found b stop)) :
    g.Derives src slot start (.found (a.concat b) stop) :=
  (derives_iff_rule hslot).2 (.found hfirst (.found hsecond rfl))

theorem derives_sequence_of_first (hfirst : g.Derives src first start .noMatch) :
    g.Derives src slot start .noMatch :=
  (derives_iff_rule hslot).2 (.noMatch hfirst rfl)

theorem derives_sequence_of_second {a : Value} {mid : Nat}
    (hfirst : g.Derives src first start (.found a mid))
    (hsecond : g.Derives src second mid .noMatch) : g.Derives src slot start .noMatch :=
  (derives_iff_rule hslot).2 (.found hfirst (.noMatch hsecond rfl))

end Sequence

end Grammar

end Packrat
