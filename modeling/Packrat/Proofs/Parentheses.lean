import Mathlib
import Packrat.Proofs.Alike
import Packrat.Proofs.Outcome
import Packrat.Proofs.Stands
/-!
# Nested parentheses

A rule that refers to itself: an `x`, or the rule again within parentheses. It counts the
parentheses. It matches as many opening parentheses, an `x` and as many closing ones, for any
number of them, and nothing else.

What a text begins with is read by a recursion on the text, which is the recursion of the
rule as well: behind an opening parenthesis the rest is read first, and then a closing
parenthesis has to follow. So at each offset the rule does what the reader does with the text
from there on, whether or not that is nested properly.

## Main definitions

* `Parentheses.rules` — the grammar.
* `Parentheses.nested`, `Parentheses.read` — the texts of the rule, and how they are read.

## Main results

* `Parentheses.rule_read` — what the rule finds at an offset, for any text there.
* `Parentheses.parse_exact` — the outcome for every source.
-/

namespace Packrat

open Text (Avoids byteLength byteLength_append byteLength_cons byteLength_eq_zero_iff
  byteLength_nil)

namespace Parentheses

/-! ## The grammar -/

/-- The number after the one that was captured. -/
def deeper : Value → Value
  | .tuple [.word n] => .word (n + 1)
  | value => value

/-- An `x`, or the rule itself within parentheses. -/
def rule : Expr :=
  .choice
    (.map (fun _ m => deeper m.value)
      (.thenIgnore (.thenCapture (.ignore (.primitive (.char '('))) (.reference "nested"))
        (.primitive (.char ')'))))
    (.map (fun _ _ => .word 0) (.primitive (.char 'x')))

def rules : List (String × Expr) := [("nested", .wrapped rule)]

/-- The grammar, laid out. The rule stands in the cell of the reference too. -/
def grammar : Grammar where
  bodies := #[.primitive (.char '('), .ignore 0, .choice 9 11, .reference 2, .capture 3,
    .sequence 1 4, .primitive (.char ')'), .ignore 6, .sequence 5 7,
    .map (fun _ m => deeper m.value) 8, .primitive (.char 'x'), .map (fun _ _ => .word 0) 10,
    .choice 9 11]
  rules := [("nested", 12)]

theorem build_rules : Grammar.build rules = .ok grammar := by
  cbv

/-- The slots of the grammar that are spoken of. -/
abbrev openingSlot : SlotId := 0
abbrev cellSlot : SlotId := 2
abbrev closingSlot : SlotId := 6
abbrev withinSlot : SlotId := 9
abbrev leafSlot : SlotId := 11
abbrev ruleSlot : SlotId := 12

theorem bodies_cell : grammar.bodies[cellSlot]? = some (.choice withinSlot leafSlot) := rfl

theorem bodies_reference : grammar.bodies[3]? = some (.reference cellSlot) := rfl

theorem bodies_within :
    grammar.bodies[withinSlot]? = some (.map (fun _ m => deeper m.value) 8) := rfl

theorem bodies_leaf : grammar.bodies[leafSlot]? = some (.map (fun _ _ => .word 0) 10) := rfl

theorem bodies_rule : grammar.bodies[ruleSlot]? = some (.choice withinSlot leafSlot) := rfl

theorem grammar_stateFree : grammar.StateFree :=
  Grammar.stateFree_of_looks rfl

/-! ## Texts -/

/-- The text of a depth: opening parentheses, an `x`, and as many closing parentheses. -/
def nested (depth : Nat) : List Char :=
  List.replicate depth '(' ++ 'x' :: List.replicate depth ')'

example : nested 2 = "((x))".toList := by decide

theorem nested_succ (depth : Nat) (rest : List Char) :
    nested (depth + 1) ++ rest = '(' :: (nested depth ++ ')' :: rest) := by
  rw [nested, List.replicate_succ (a := '('), List.replicate_succ' (a := ')'), nested]
  simp only [List.cons_append, List.append_assoc, List.nil_append]

theorem byteLength_nested_succ (depth : Nat) :
    byteLength (nested (depth + 1)) = byteLength (nested depth) + 2 := by
  have hsucc := nested_succ depth []
  rw [List.append_nil] at hsucc
  rw [hsucc, byteLength_cons, byteLength_append, byteLength_cons, byteLength_nil,
    show Char.utf8Size '(' = 1 from rfl, show Char.utf8Size ')' = 1 from rfl]
  omega

/-- How deep the nested text is that a text begins with, and what stands behind it. -/
def read : List Char → Option (Nat × List Char)
  | 'x' :: rest => some (0, rest)
  | '(' :: rest =>
    match read rest with
    | some (depth, ')' :: rest) => some (depth + 1, rest)
    | _ => none
  | _ => none

/-- A nested text is read with all that stands behind it, and nothing else is read. -/
theorem read_eq_some_iff {text rest : List Char} {depth : Nat} :
    read text = some (depth, rest) ↔ text = nested depth ++ rest := by
  constructor
  · intro h
    fun_induction read text generalizing depth rest with
    | case1 rest' =>
        obtain ⟨rfl, rfl⟩ := Prod.mk.inj (Option.some.inj h)
        rfl
    | case2 rest' inner behind hinner ih =>
        obtain ⟨rfl, rfl⟩ := Prod.mk.inj (Option.some.inj h)
        rw [nested_succ, ih hinner]
    | case3 | case4 => contradiction
  · rintro rfl
    induction depth generalizing rest with
    | zero => rfl
    | succ depth ih =>
        rw [nested_succ, read, ih]
        rfl

/-- A text begins with one nested text at most. -/
theorem nested_unique {depth depth' : Nat} {rest rest' : List Char}
    (h : nested depth ++ rest = nested depth' ++ rest') : depth = depth' ∧ rest = rest' := by
  have hread := read_eq_some_iff.2 h
  rw [read_eq_some_iff.2 rfl] at hread
  exact Prod.mk.inj (Option.some.inj hread)

/-! ## What the rule finds -/

variable {src : Source} {offset : Nat}

/-- What the rule is to find at an offset, by what is read there. -/
def verdict (offset : Nat) : Option (Nat × List Char) → Verdict Value
  | some (depth, _) => .found (.word (UInt64.ofNat depth)) (offset + byteLength (nested depth))
  | none => .noMatch

/-- Nothing is found within parentheses where none is opened. -/
theorem derives_within_of_opening (h : grammar.Derives src openingSlot offset .noMatch) :
    grammar.Derives src withinSlot offset .noMatch := by
  have hopening : grammar.Derives src 1 offset .noMatch := Grammar.derives_map_noMatch rfl h
  have hfront : grammar.Derives src 5 offset .noMatch :=
    Grammar.derives_sequence_of_first rfl hopening
  exact Grammar.derives_map_noMatch rfl (Grammar.derives_sequence_of_first rfl hfront)

section Within

variable {c : Value} {mid : Nat} (hopening : grammar.Derives src openingSlot offset (.found c mid))

include hopening

/-- Nothing is found within parentheses where the rule does not match. -/
theorem derives_within_of_cell (h : grammar.Derives src cellSlot mid .noMatch) :
    grammar.Derives src withinSlot offset .noMatch := by
  have hreference : grammar.Derives src 3 mid .noMatch :=
    (Grammar.derives_iff_rule bodies_reference).2 h
  have hfront : grammar.Derives src 5 offset .noMatch :=
    Grammar.derives_sequence_of_second rfl (Grammar.derives_ignore rfl hopening)
      (Grammar.derives_map_noMatch rfl hreference)
  exact Grammar.derives_map_noMatch rfl (Grammar.derives_sequence_of_first rfl hfront)

variable {value : Value} {mid' : Nat}
  (hcell : grammar.Derives src cellSlot mid (.found value mid'))

include hcell

/-- An opening parenthesis and the rule behind it, which is captured. -/
private theorem derives_front : grammar.Derives src 5 offset (.found (.tuple [value]) mid') := by
  have hreference : grammar.Derives src 3 mid (.found value mid') :=
    (Grammar.derives_iff_rule bodies_reference).2 hcell
  have hcapture : grammar.Derives src 4 mid (.found (.tuple [value]) mid') :=
    Grammar.derives_capture rfl hreference
  exact Grammar.derives_sequence rfl (Grammar.derives_ignore rfl hopening) hcapture

/-- Nothing is found within parentheses that are not closed. -/
theorem derives_within_of_closing (h : grammar.Derives src closingSlot mid' .noMatch) :
    grammar.Derives src withinSlot offset .noMatch := by
  have hclosing : grammar.Derives src 7 mid' .noMatch := Grammar.derives_map_noMatch rfl h
  exact Grammar.derives_map_noMatch rfl
    (Grammar.derives_sequence_of_second rfl (derives_front hopening hcell) hclosing)

/-- What is found within parentheses is one deeper than the rule. -/
theorem derives_within {d : Value} {stop : Nat}
    (h : grammar.Derives src closingSlot mid' (.found d stop)) :
    grammar.Derives src withinSlot offset (.found (deeper (.tuple [value])) stop) := by
  have hclosing : grammar.Derives src 7 mid' (.found .unit stop) := Grammar.derives_ignore rfl h
  have hwhole : grammar.Derives src 8 offset (.found (.tuple [value]) stop) :=
    Grammar.derives_sequence rfl (derives_front hopening hcell) hclosing
  exact Grammar.derives_map bodies_within hwhole

end Within

/-- The leaf is found where an `x` stands. -/
theorem derives_leaf {rest : List Char} (h : src.Stands offset ('x' :: rest)) :
    grammar.Derives src leafSlot offset (.found (.word 0) (offset + 1)) :=
  Grammar.derives_map bodies_leaf (Grammar.derives_char rfl h)

theorem derives_leaf_of_avoids {text : List Char} (h : src.Stands offset text)
    (hx : Avoids (· == 'x') text) : grammar.Derives src leafSlot offset .noMatch :=
  Grammar.derives_map_noMatch bodies_leaf (Grammar.derives_char_of_avoids rfl h hx)

/-- A text that begins with another character, or with none. -/
private theorem avoids_of_ne_cons {c : Char} {text : List Char}
    (h : ∀ rest, text = c :: rest → False) : Avoids (· == c) text := by
  intro d hd
  obtain ⟨rest, rfl⟩ : ∃ rest, text = d :: rest := List.head?_eq_some_iff.1 hd
  refine beq_eq_false_iff_ne.2 fun heq => ?_
  subst heq
  exact h rest rfl

/-- The rule does with a text, wherever it stands, what the reader does with it. The induction
is along the reader, which is called for the rest as the rule is called by itself. -/
theorem rule_read {text : List Char} (hstands : src.Stands offset text) :
    (Body.choice withinSlot leafSlot).Rule src (grammar.Derives src) offset
      (verdict offset (read text)) := by
  fun_induction read text generalizing offset with
  | case1 rest =>
      have hopening : Avoids (· == '(') ('x' :: rest) :=
        avoids_of_ne_cons fun rest' heq => by simp at heq
      exact .noMatch
        (derives_within_of_opening (Grammar.derives_char_of_avoids rfl hstands hopening))
        (derives_leaf hstands)
  | case2 rest depth behind hread ih =>
      obtain rfl := read_eq_some_iff.1 hread
      have hopening : grammar.Derives src openingSlot offset _ :=
        Grammar.derives_char rfl hstands
      have hinner : src.Stands (offset + 1) (nested depth ++ ')' :: behind) :=
        Source.Stands.behind (show src.Stands offset (['('] ++ _) from hstands)
      have hcell : grammar.Derives src cellSlot (offset + 1) (verdict _ (some (depth, _))) :=
        (Grammar.derives_iff_rule bodies_cell).2 (hread ▸ ih hinner)
      have hclosing : grammar.Derives src closingSlot _ _ :=
        Grammar.derives_char rfl hinner.behind
      have hwithin := derives_within hopening hcell hclosing
      have hvalue : deeper (.tuple [.word (UInt64.ofNat depth)]) =
          .word (UInt64.ofNat (depth + 1)) := congrArg Value.word (UInt64.ofNat_add depth 1).symm
      have hstop : offset + byteLength (nested (depth + 1)) =
          offset + 1 + byteLength (nested depth) + Char.utf8Size ')' := by
        rw [byteLength_nested_succ, show Char.utf8Size ')' = 1 from rfl]
        omega
      rw [hvalue] at hwithin
      rw [verdict, hstop]
      exact .found hwithin rfl
  | case3 rest hnot ih =>
      have hopening : grammar.Derives src openingSlot offset _ :=
        Grammar.derives_char rfl hstands
      have hinner : src.Stands (offset + 1) rest :=
        Source.Stands.behind (show src.Stands offset (['('] ++ _) from hstands)
      have hcell : grammar.Derives src cellSlot (offset + 1) (verdict _ (read rest)) :=
        (Grammar.derives_iff_rule bodies_cell).2 (ih hinner)
      have hwithin : grammar.Derives src withinSlot offset .noMatch := by
        cases hread : read rest with
        | none =>
            rw [hread] at hcell
            exact derives_within_of_cell hopening hcell
        | some found =>
            obtain ⟨depth, behind⟩ := found
            rw [hread] at hcell
            obtain rfl := read_eq_some_iff.1 hread
            have hunclosed : Avoids (· == ')') behind :=
              avoids_of_ne_cons fun behind' heq => hnot depth behind' (heq ▸ hread)
            exact derives_within_of_closing hopening hcell
              (Grammar.derives_char_of_avoids rfl hinner.behind hunclosed)
      have hleaf : Avoids (· == 'x') ('(' :: rest) :=
        avoids_of_ne_cons fun rest' heq => by simp at heq
      exact .noMatch hwithin (derives_leaf_of_avoids hstands hleaf)
  | case4 text hx hopening =>
      exact .noMatch
        (derives_within_of_opening
          (Grammar.derives_char_of_avoids rfl hstands (avoids_of_ne_cons hopening)))
        (derives_leaf_of_avoids hstands (avoids_of_ne_cons hx))

/-! ## Outcomes -/

/-- How the outcome of parsing a text depends on the nested text that it begins with. -/
structure Exact (text : List Char) (outcome : Except ParseError Value) : Prop where
  /-- There is one nested text at most that the text begins with. -/
  unique : ∀ depth rest depth' rest', text = nested depth ++ rest →
    text = nested depth' ++ rest' → depth = depth' ∧ rest = rest'
  /-- If it is all of the text, the outcome is its depth. -/
  ok : ∀ value, outcome = .ok value ↔
    ∃ depth, text = nested depth ∧ value = .word (UInt64.ofNat depth)
  /-- Depths are machine words; no text of less than `2 ^ 64` bytes is too deep for them. -/
  okWord : byteLength text < 2 ^ 64 → ∀ n : UInt64,
    outcome = .ok (.word n) ↔ text = nested n.toNat
  /-- If there is none, nothing matches. -/
  unmatched : (∃ d, outcome = .error (.unmatchedInput d)) ↔
    ∀ depth rest, text ≠ nested depth ++ rest
  /-- If there is more behind it, the error points to where it ends. -/
  extra : ∀ position, (∃ remainder d, outcome = .error (.extraCharacters position remainder d)) ↔
    ∃ depth rest, text = nested depth ++ rest ∧ rest ≠ [] ∧
      position = byteLength (nested depth)

theorem read_eq_none_iff {text : List Char} :
    read text = none ↔ ∀ depth rest, text ≠ nested depth ++ rest := by
  rw [Option.eq_none_iff_forall_ne_some, Prod.forall]
  exact forall₂_congr fun depth rest => not_congr read_eq_some_iff

theorem le_byteLength_nested (depth : Nat) : depth ≤ byteLength (nested depth) := by
  induction depth with
  | zero => exact Nat.zero_le _
  | succ depth ih =>
      rw [byteLength_nested_succ]
      omega

/-- What is to be shown of an outcome; the rest holds of every text. -/
private theorem exact_of {text : List Char} {outcome : Except ParseError Value}
    (hok : ∀ value, outcome = .ok value ↔
      ∃ depth, text = nested depth ∧ value = .word (UInt64.ofNat depth))
    (hunmatched : (∃ d, outcome = .error (.unmatchedInput d)) ↔
      ∀ depth rest, text ≠ nested depth ++ rest)
    (hextra : ∀ position,
      (∃ remainder d, outcome = .error (.extraCharacters position remainder d)) ↔
        ∃ depth rest, text = nested depth ++ rest ∧ rest ≠ [] ∧
          position = byteLength (nested depth)) : Exact text outcome where
  unique _ _ _ _ h h' := nested_unique (h.symm.trans h')
  ok := hok
  okWord hsize n := by
    rw [hok]
    constructor
    · rintro ⟨depth, rfl, heq⟩
      have hdepth : depth < 2 ^ 64 := Nat.lt_of_le_of_lt (le_byteLength_nested depth) hsize
      rw [Value.word.inj heq, UInt64.toNat_ofNat_of_lt' hdepth]
    · intro heq
      exact ⟨n.toNat, heq, congrArg Value.word UInt64.ofNat_toNat.symm⟩
  unmatched := hunmatched
  extra := hextra

theorem exact_unmatched {text : List Char} (hnone : ∀ depth rest, text ≠ nested depth ++ rest)
    (d : Diagnostics) : Exact text (.error (.unmatchedInput d)) := by
  refine exact_of (fun value => ⟨nofun, ?_⟩) ⟨fun _ => hnone, fun _ => ⟨d, rfl⟩⟩
    fun position => ⟨nofun, ?_⟩
  · rintro ⟨depth, heq, -⟩
    exact absurd (heq.trans (List.append_nil _).symm) (hnone depth [])
  · rintro ⟨depth, rest, heq, -, -⟩
    exact absurd heq (hnone depth rest)

theorem exact_all (depth : Nat) :
    Exact (nested depth) (.ok (.word (UInt64.ofNat depth))) := by
  have hself : nested depth = nested depth ++ [] := (List.append_nil _).symm
  refine exact_of (fun value => ⟨fun h => ?_, ?_⟩) ⟨nofun, fun hnone => ?_⟩
    fun position => ⟨nofun, ?_⟩
  · exact ⟨depth, rfl, (Except.ok.inj h).symm⟩
  · rintro ⟨depth', heq, rfl⟩
    obtain ⟨rfl, -⟩ := nested_unique (hself.symm.trans (heq.trans (List.append_nil _).symm))
    rfl
  · exact absurd hself (hnone depth [])
  · rintro ⟨depth', rest, heq, hne, -⟩
    exact absurd (nested_unique (hself.symm.trans heq)).2.symm hne

theorem exact_extra (depth : Nat) {rest : List Char} (hne : rest ≠ []) (remainder : String)
    (d : Diagnostics) : Exact (nested depth ++ rest)
      (.error (.extraCharacters (byteLength (nested depth)) remainder d)) := by
  refine exact_of (fun value => ⟨nofun, ?_⟩) ⟨nofun, fun hnone => ?_⟩
    fun position => ⟨?_, ?_⟩
  · rintro ⟨depth', heq, -⟩
    exact absurd (nested_unique (heq.trans (List.append_nil _).symm)).2 hne
  · exact absurd rfl (hnone depth rest)
  · rintro ⟨remainder', d', heq⟩
    obtain ⟨rfl, -, -⟩ := ParseError.extraCharacters.inj (Except.error.inj heq)
    exact ⟨depth, rest, rfl, hne, rfl⟩
  · rintro ⟨depth', rest', heq, -, rfl⟩
    obtain ⟨rfl, -⟩ := nested_unique heq
    exact ⟨remainder, d, rfl⟩

/-- Parsing a text with the rule gives its depth if the text is nested properly, and otherwise
the error that says how much of it is, for every text, with and without memoization. -/
theorem parse_exact (text : List Char) (memoize : Bool) :
    Grammar.build rules = .ok grammar ∧ grammar.rule? "nested" = some ruleSlot ∧
      ∃ report, (Env.unlimited grammar (.ofList text) memoize).parseAll ruleSlot = some report ∧
        Exact text report.outcome := by
  let env := Env.unlimited grammar (.ofList text) memoize
  have hclosed : env.grammar.Closed := Grammar.build_closed build_rules
  have hderives : env.grammar.Derives env.source ruleSlot 0 (verdict 0 (read text)) :=
    (Grammar.derives_iff_rule bodies_rule).2 (rule_read (.start text))
  obtain ⟨answer, last, hparse, hreported⟩ := env.parse_of_derives grammar_stateFree hclosed rfl
    (show ruleSlot < grammar.size by decide) hderives
  refine ⟨build_rules, rfl, _, by rw [Env.parseAll, hparse], ?_⟩
  cases hread : read text with
  | none =>
      rw [hread] at hreported
      obtain ⟨rfl, habort⟩ := hreported
      rw [Env.outcome_none habort]
      exact exact_unmatched (read_eq_none_iff.1 hread) _
  | some found =>
      obtain ⟨depth, rest⟩ := found
      rw [hread, verdict, Nat.zero_add] at hreported
      obtain ⟨rfl, habort⟩ := hreported
      obtain rfl := read_eq_some_iff.1 hread
      have hsize : env.source.size = byteLength (nested depth) + byteLength rest :=
        byteLength_append _ _
      by_cases hrest : rest = []
      · subst hrest
        rw [Env.outcome_some_of_eq habort hsize.symm, List.append_nil]
        exact exact_all depth
      · have hpos : byteLength rest ≠ 0 := mt byteLength_eq_zero_iff.1 hrest
        have hstop : byteLength (nested depth) ≠ env.source.size := by omega
        rw [Env.outcome_some_of_ne habort hstop]
        exact exact_extra depth hrest _ _

end Parentheses

end Packrat
