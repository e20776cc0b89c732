import Mathlib
import Packrat.Action
import Packrat.Proofs.Alike
import Packrat.Proofs.PegRun
import Packrat.Proofs.Stands
/-!
# Arithmetic

A grammar for integers with the four operators of arithmetic, and the text that writes an
arithmetic expression with no more parentheses than it takes. Parsing the text gives the
value of the expression, for all expressions.

An operand is followed by an operator, by a parenthesis or by nothing. Each level of the
grammar is to stop right there, though the levels around it go on, and though a minus may be
an operator or a sign. So what is known of a text is known wherever the text stands, as long
as what follows it does not belong to its level.

## Main definitions

* `Arithmetic.Tree` — expressions, with their texts and their values.
* `Arithmetic.rules` — the grammar.
* `Row` — terms and operators that take turns, combined from the left.

## Main results

* `Arithmetic.parse_text` — parsing the text of an expression gives its value.
-/

namespace Packrat

open Text (Avoids byteLength byteLength_append byteLength_cons byteLength_nil)

/-! ## Rows of terms -/

/-- Terms with operators between them, combined from the left. Nothing is said of what comes
behind the last one. -/
inductive Row (known : Knowledge) (combine : Value → Value → Value → Value)
    (term operator : SlotId) (start : Nat) : Value → Nat → Prop
  | term {value : Value} {stop : Nat} (hterm : known term start (.found value stop)) :
    Row known combine term operator start value stop
  | more {left op right : Value} {mid mid' stop : Nat}
      (hrow : Row known combine term operator start left mid)
      (hoperator : known operator mid (.found op mid'))
      (hterm : known term mid' (.found right stop)) (hmoves : mid < stop) :
    Row known combine term operator start (combine left op right) stop

namespace Row

variable {known : Knowledge} {combine : Value → Value → Value → Value} {term operator : SlotId}
  {start stop : Nat} {value : Value}

/-- A row, and a chain of pairs behind it, are a term and a chain of pairs. -/
theorem chain (h : Row known combine term operator start value stop)
    {pairs : List (Value × Value)} {last : Nat}
    (hchain : Chain (Pair known operator term) stop (.found pairs last)) :
    ∃ first mid pairs', known term start (.found first mid) ∧
      Chain (Pair known operator term) mid (.found pairs' last) ∧
      pairs'.foldl (fun left (op, right) => combine left op right) first =
        pairs.foldl (fun left (op, right) => combine left op right) value := by
  induction h generalizing pairs with
  | @term value stop hterm => exact ⟨value, stop, pairs, hterm, hchain, rfl⟩
  | @more left op right mid mid' stop _ hoperator hterm hmoves ih =>
      exact ih (.more (.found hoperator (.found hterm rfl)) hmoves hchain)

/-- A row that no operator follows is all that is taken. -/
theorem rule (h : Row known combine term operator start value stop)
    (hend : known operator stop .noMatch) (src : Source) :
    (Body.leftAssociative combine term operator).Rule src known start (.found value stop) := by
  obtain ⟨first, mid, pairs, hterm, hchain, hvalue⟩ := h.chain (.noMatch (.noMatch hend rfl))
  exact .found hterm (.found hchain (by rw [hvalue]; rfl))

end Row

namespace Arithmetic

/-! ## Expressions -/

inductive Operator where
  | add
  | sub
  | mul
  | div
deriving Repr, DecidableEq

namespace Operator

def symbol : Operator → Char
  | add => '+'
  | sub => '-'
  | mul => '*'
  | div => '/'

/-- How tightly an operator binds. -/
def level : Operator → Nat
  | add => 1
  | sub => 1
  | mul => 2
  | div => 2

/-- The result of an operator on integers. A quotient is cut off at the point, and a quotient
by zero is zero. -/
def apply : Operator → Int → Int → Int
  | add => (· + ·)
  | sub => (· - ·)
  | mul => (· * ·)
  | div => Int.tdiv

end Operator

/-- An arithmetic expression. -/
inductive Tree where
  | literal (n : Int64)
  | node (operator : Operator) (left right : Tree)
deriving Repr, DecidableEq

namespace Tree

/-- The value of an expression; results wrap around. -/
def value : Tree → Int64
  | literal n => n
  | node operator left right => .ofInt (operator.apply left.value.toInt right.value.toInt)

/-- How tightly an expression is bound together. -/
def level : Tree → Nat
  | literal _ => 3
  | node operator _ _ => operator.level

end Tree

/-- A text, in parentheses if they are needed. -/
def parenthesized (needed : Bool) (text : List Char) : List Char :=
  if needed then '(' :: (text ++ [')']) else text

/-- The text of an expression. There are parentheses around an operand that is bound less
tightly than its operator binds, and around one to the right that is bound as tightly. -/
def Tree.text : Tree → List Char
  | literal n => Decimal.numeral n.toInt
  | node operator left right =>
    parenthesized (left.level < operator.level) left.text ++
      operator.symbol :: parenthesized (right.level ≤ operator.level) right.text

example : (Tree.node .mul (.node .add (.literal 1) (.literal 2)) (.literal (-3))).text =
    "(1+2)*-3".toList := by decide

/-! ## The grammar -/

/-- An integer, or a sum in parentheses. -/
def atom : Expr :=
  .choice (.primitive .signed)
    (.between (.primitive (.char '(')) (.reference "sum") (.primitive (.char ')')))

def product : Expr :=
  .leftAssociative Action.arithmetic atom
    (.choice (.primitive (.char '*')) (.primitive (.char '/')))

def sum : Expr :=
  .leftAssociative Action.arithmetic product
    (.choice (.primitive (.char '+')) (.primitive (.char '-')))

def rules : List (String × Expr) := [("sum", sum)]

/-- The grammar of sums, laid out. -/
def grammar : Grammar where
  bodies := #[.primitive .signed, .primitive (.char '('),
    .leftAssociative Action.arithmetic 10 13, .reference 2, .primitive (.char ')'),
    .between 1 3 4, .choice 0 5, .primitive (.char '*'), .primitive (.char '/'), .choice 7 8,
    .leftAssociative Action.arithmetic 6 9, .primitive (.char '+'), .primitive (.char '-'),
    .choice 11 12, .leftAssociative Action.arithmetic 10 13]
  rules := [("sum", 14)]

theorem build_rules : Grammar.build rules = .ok grammar := by
  cbv

/-- The slots of the grammar that are spoken of. -/
abbrev atomSlot : SlotId := 6
abbrev timesSlot : SlotId := 9
abbrev productSlot : SlotId := 10
abbrev plusSlot : SlotId := 13
abbrev sumSlot : SlotId := 14

theorem bodies_between : grammar.bodies[5]? = some (.between 1 3 4) := rfl

theorem bodies_atom : grammar.bodies[atomSlot]? = some (.choice 0 5) := rfl

theorem bodies_product : grammar.bodies[productSlot]? =
    some (.leftAssociative Action.arithmetic atomSlot timesSlot) := rfl

theorem grammar_stateFree : grammar.StateFree :=
  Grammar.stateFree_of_looks rfl

/-! ## Operators -/

/-- What the grammar does with an operator is what the operator stands for. -/
theorem arithmetic_eq (operator : Operator) (a b : Int64) :
    Action.arithmetic (.int a) (.char operator.symbol) (.int b) =
      .int (.ofInt (operator.apply a.toInt b.toInt)) := by
  have hresult : Action.applyOperator (some operator.symbol) a b =
      .ofInt (operator.apply a.toInt b.toInt) := by
    cases operator with
    | add => exact (by simp : a + b = .ofInt (a.toInt + b.toInt))
    | sub => exact (by simp : a - b = .ofInt (a.toInt - b.toInt))
    | mul => exact (by simp : a * b = .ofInt (a.toInt * b.toInt))
    | div =>
        refine (show a / b = .ofInt (a.toInt.tdiv b.toInt) from ?_)
        rw [Int64.ofInt_tdiv a.minValue_le_toInt a.toInt_le b.minValue_le_toInt b.toInt_le,
          Int64.ofInt_toInt, Int64.ofInt_toInt]
  have hsymbol : (Value.char operator.symbol).text.toList.find? Action.isOperator =
      some operator.symbol := by
    cases operator <;> rfl
  rw [Action.arithmetic, hsymbol]
  exact congrArg Value.int hresult

theorem Operator.level_eq (operator : Operator) : operator.level = 1 ∨ operator.level = 2 := by
  cases operator <;> decide

def isTimes (c : Char) : Bool := c == '*' || c == '/'

def isPlus (c : Char) : Bool := c == '+' || c == '-'

variable {src : Source} {offset : Nat}

section Either

variable {slot first second : SlotId} {c d : Char}
  (hslot : grammar.bodies[slot]? = some (.choice first second))
  (hfirst : grammar.bodies[first]? = some (.primitive (.char c)))
  (hsecond : grammar.bodies[second]? = some (.primitive (.char d)))

include hslot hfirst hsecond

/-- Of two characters, the one is found that stands at an offset. -/
theorem derives_either {x : Char} (hx : x = c ∨ x = d) {rest : List Char}
    (h : src.Stands offset (x :: rest)) :
    grammar.Derives src slot offset (.found (.char x) (offset + x.utf8Size)) := by
  refine (Grammar.derives_iff_rule hslot).2 ?_
  by_cases hc : x = c
  · subst hc
    exact .found (Grammar.derives_char hfirst h) rfl
  · obtain rfl := hx.resolve_left hc
    have hmiss : Avoids (· == c) (x :: rest) := by
      intro y hy
      obtain rfl := Option.some.inj hy
      exact beq_eq_false_iff_ne.2 hc
    exact .noMatch (Grammar.derives_char_of_avoids hfirst h hmiss)
      (Grammar.derives_char hsecond h)

theorem derives_neither {text : List Char} (hmiss : Avoids (fun x => x == c || x == d) text)
    (h : src.Stands offset text) : grammar.Derives src slot offset .noMatch := by
  have hneither (x : Char) (hx : x ∈ text.head?) := Bool.or_eq_false_iff.1 (hmiss x hx)
  exact (Grammar.derives_iff_rule hslot).2
    (.noMatch (Grammar.derives_char_of_avoids hfirst h fun x hx => (hneither x hx).1)
      (Grammar.derives_char_of_avoids hsecond h fun x hx => (hneither x hx).2))

end Either

theorem derives_times {operator : Operator} (hlevel : operator.level = 2) {rest : List Char}
    (h : src.Stands offset (operator.symbol :: rest)) :
    grammar.Derives src timesSlot offset
      (.found (.char operator.symbol) (offset + operator.symbol.utf8Size)) := by
  refine derives_either rfl rfl rfl ?_ h
  cases operator with
  | add | sub => contradiction
  | mul => exact .inl rfl
  | div => exact .inr rfl

theorem derives_plus {operator : Operator} (hlevel : operator.level = 1) {rest : List Char}
    (h : src.Stands offset (operator.symbol :: rest)) :
    grammar.Derives src plusSlot offset
      (.found (.char operator.symbol) (offset + operator.symbol.utf8Size)) := by
  refine derives_either rfl rfl rfl ?_ h
  cases operator with
  | mul | div => contradiction
  | add => exact .inl rfl
  | sub => exact .inr rfl

/-! ## Texts that are read -/

/-- Wherever a text stands in a source, and what follows it is an end, an integer is found
that takes just the text. -/
def Reads (src : Source) (finds : Nat → Value → Nat → Prop) (ends : List Char → Prop)
    (text : List Char) (n : Int64) : Prop :=
  ∀ offset rest, src.Stands offset (text ++ rest) → ends rest →
    finds offset (.int n) (offset + byteLength text)

/-- A slot finds a value. -/
def Finds (src : Source) (slot : SlotId) (start : Nat) (value : Value) (stop : Nat) : Prop :=
  grammar.Derives src slot start (.found value stop)

/-- Atoms with operators between them. -/
abbrev Factors (src : Source) : Nat → Value → Nat → Prop :=
  Row (grammar.Derives src) Action.arithmetic atomSlot timesSlot

/-- Products with operators between them. -/
abbrev Terms (src : Source) : Nat → Value → Nat → Prop :=
  Row (grammar.Derives src) Action.arithmetic productSlot plusSlot

/-- An atom goes on with digits. -/
abbrev EndsAtom (rest : List Char) : Prop := Avoids Decimal.isDigit rest

/-- A product also goes on with an operator. -/
abbrev EndsProduct (rest : List Char) : Prop := EndsAtom rest ∧ Avoids isTimes rest

/-- A sum goes on with every operator. -/
abbrev EndsSum (rest : List Char) : Prop := EndsProduct rest ∧ Avoids isPlus rest

theorem endsAtom_symbol (operator : Operator) (rest : List Char) :
    EndsAtom (operator.symbol :: rest) := by
  intro c hc
  obtain rfl := Option.some.inj hc
  cases operator <;> rfl

theorem endsProduct_symbol {operator : Operator} (hlevel : operator.level = 1)
    (rest : List Char) : EndsProduct (operator.symbol :: rest) := by
  refine ⟨endsAtom_symbol operator rest, fun c hc => ?_⟩
  obtain rfl := Option.some.inj hc
  cases operator with
  | mul | div => contradiction
  | add | sub => rfl

variable {text : List Char} {n : Int64}

theorem reads_literal (n : Int64) :
    Reads src (Finds src atomSlot) EndsAtom (Decimal.numeral n.toInt) n := by
  intro offset rest h hend
  have hscan : Primitive.signed.scan src offset = _ :=
    (h.scanText _).trans (Primitive.scanSigned_numeral offset n hend)
  have hsigned : grammar.Derives src 0 offset _ := Grammar.derives_of_scan rfl hscan
  exact (Grammar.derives_iff_rule bodies_atom).2 (.found hsigned rfl)

/-- Factors that no operator follows are a product. -/
theorem Reads.product (h : Reads src (Factors src) EndsAtom text n) :
    Reads src (Finds src productSlot) EndsProduct text n := by
  intro offset rest hstands hend
  have hrow := h offset rest hstands hend.1
  have hstop : grammar.Derives src timesSlot _ .noMatch :=
    derives_neither rfl rfl rfl hend.2 hstands.behind
  exact (Grammar.derives_iff_rule bodies_product).2 (hrow.rule hstop src)

/-- Terms that no operator follows are a sum. -/
theorem Reads.sum (h : Reads src (Terms src) EndsProduct text n) {slot : SlotId}
    (hslot : grammar.bodies[slot]? =
      some (.leftAssociative Action.arithmetic productSlot plusSlot)) :
    Reads src (Finds src slot) EndsSum text n := by
  intro offset rest hstands hend
  have hrow := h offset rest hstands hend.1
  have hstop : grammar.Derives src plusSlot _ .noMatch :=
    derives_neither rfl rfl rfl hend.2 hstands.behind
  exact (Grammar.derives_iff_rule hslot).2 (hrow.rule hstop src)

theorem Reads.factors (h : Reads src (Finds src atomSlot) EndsAtom text n) :
    Reads src (Factors src) EndsAtom text n :=
  fun offset rest hstands hend => .term (h offset rest hstands hend)

theorem Reads.terms (h : Reads src (Finds src productSlot) EndsProduct text n) :
    Reads src (Terms src) EndsProduct text n :=
  fun offset rest hstands hend => .term (h offset rest hstands hend)

/-- A sum in parentheses is an atom, whatever follows it. -/
theorem Reads.inParens (h : Reads src (Terms src) EndsProduct text n) :
    Reads src (Finds src atomSlot) EndsAtom (parenthesized true text) n := by
  intro offset rest hstands _
  have hopening : src.Stands offset ('(' :: (text ++ (')' :: rest))) := by
    simpa [parenthesized] using hstands
  have hcontent : src.Stands (offset + 1) (text ++ (')' :: rest)) :=
    Source.Stands.behind (show src.Stands offset (['('] ++ _) from hopening)
  have hclosing : src.Stands (offset + 1 + byteLength text) (')' :: rest) := hcontent.behind
  have hends : EndsSum (')' :: rest) := by
    refine ⟨⟨?_, ?_⟩, ?_⟩ <;>
      · intro c hc
        obtain rfl := Option.some.inj hc
        rfl
  -- No integer begins with a parenthesis.
  have hsigned : grammar.Derives src 0 offset .noMatch := by
    have hscan : Primitive.signed.scan src offset = .noMatch := by
      refine (hopening.scanText _).trans (Primitive.scanSigned_of_avoids offset ?_ ?_) <;>
        · intro c hc
          obtain rfl := Option.some.inj hc
          rfl
    exact Grammar.derives_of_scan rfl hscan
  have hopen : grammar.Derives src 1 offset _ :=
    Grammar.derives_char rfl hopening
  have hsum : grammar.Derives src 3 (offset + 1) _ :=
    (Grammar.derives_iff_rule rfl).2 (h.sum rfl (offset + 1) _ hcontent hends)
  have hclose : grammar.Derives src 4 _ _ := Grammar.derives_char rfl hclosing
  have hbetween : grammar.Derives src 5 offset _ :=
    (Grammar.derives_iff_rule bodies_between).2 (.found hopen (.found hsum (.found hclose rfl)))
  have hstop : offset + byteLength (parenthesized true text) =
      offset + 1 + byteLength text + Char.utf8Size ')' := by
    simp only [parenthesized, if_true, byteLength_cons, byteLength_append, byteLength_nil,
      show Char.utf8Size '(' = 1 from rfl, show Char.utf8Size ')' = 1 from rfl]
    omega
  rw [Finds, hstop]
  exact (Grammar.derives_iff_rule bodies_atom).2 (.noMatch hsigned hbetween)

/-- An operator with an operand to the right continues a row. -/
theorem Reads.more {term operatorSlot : SlotId} {ends ends' : List Char → Prop}
    {operator : Operator} {text' : List Char} {n' : Int64}
    (h : Reads src (Row (grammar.Derives src) Action.arithmetic term operatorSlot) ends text n)
    (hends : ∀ rest, ends (operator.symbol :: rest))
    (hoperator : ∀ offset rest, src.Stands offset (operator.symbol :: rest) →
      grammar.Derives src operatorSlot offset
        (.found (.char operator.symbol) (offset + operator.symbol.utf8Size)))
    (h' : Reads src (Finds src term) ends' text' n') :
    Reads src (Row (grammar.Derives src) Action.arithmetic term operatorSlot) ends'
      (text ++ operator.symbol :: text') (.ofInt (operator.apply n.toInt n'.toInt)) := by
  intro offset rest hstands hend
  have hleft : src.Stands offset (text ++ (operator.symbol :: (text' ++ rest))) := by
    simpa using hstands
  have hmid := hleft.behind
  have hright : src.Stands (offset + byteLength text + operator.symbol.utf8Size)
      (text' ++ rest) :=
    Source.Stands.behind (show src.Stands _ ([operator.symbol] ++ _) from hmid)
  have hrow := h offset _ hleft (hends _)
  have hfound := hoperator _ _ hmid
  have hterm := h' _ rest hright hend
  have hsize := operator.symbol.utf8Size_pos
  have hstop : offset + byteLength (text ++ operator.symbol :: text') =
      offset + byteLength text + operator.symbol.utf8Size + byteLength text' := by
    rw [byteLength_append, byteLength_cons]
    omega
  rw [← arithmetic_eq, hstop]
  exact .more hrow hfound hterm (by omega)

/-! ## Expressions are read -/

/-- What the text of an expression is read as, wherever it stands. How much may follow it
depends on how tightly the expression is bound together. -/
structure Tree.Read (src : Source) (t : Tree) : Prop where
  atom : t.level = 3 → Reads src (Finds src atomSlot) EndsAtom t.text t.value
  factors : 2 ≤ t.level → Reads src (Factors src) EndsAtom t.text t.value
  terms : Reads src (Terms src) EndsProduct t.text t.value

namespace Tree

theorem level_le (t : Tree) : t.level ≤ 3 := by
  cases t with
  | literal n => exact Nat.le_refl 3
  | node operator left right =>
      have hoperator : operator.level ≤ 3 := by cases operator <;> decide
      exact hoperator

/-- An operand that is no atom is put in parentheses where it has to be one. -/
theorem Read.atomOperand {t : Tree} (h : t.Read src) {needed : Bool}
    (hneeded : needed = false → t.level = 3) :
    Reads src (Finds src atomSlot) EndsAtom (parenthesized needed t.text) t.value := by
  cases needed with
  | true => exact h.terms.inParens
  | false => exact h.atom (hneeded rfl)

theorem Read.factorsOperand {t : Tree} (h : t.Read src) {needed : Bool}
    (hneeded : needed = false → 2 ≤ t.level) :
    Reads src (Factors src) EndsAtom (parenthesized needed t.text) t.value := by
  cases needed with
  | true => exact h.terms.inParens.factors
  | false => exact h.factors (hneeded rfl)

theorem Read.productOperand {t : Tree} (h : t.Read src) {needed : Bool}
    (hneeded : needed = false → 2 ≤ t.level) :
    Reads src (Finds src productSlot) EndsProduct (parenthesized needed t.text) t.value :=
  (h.factorsOperand hneeded).product

theorem Read.termsOperand {t : Tree} (h : t.Read src) (needed : Bool) :
    Reads src (Terms src) EndsProduct (parenthesized needed t.text) t.value := by
  cases needed with
  | true => exact h.terms.inParens.factors.product.terms
  | false => exact h.terms

theorem read (src : Source) (t : Tree) : t.Read src := by
  induction t with
  | literal n =>
      have hatom : Reads src (Finds src atomSlot) EndsAtom _ n := reads_literal n
      exact ⟨fun _ => hatom, fun _ => hatom.factors, hatom.factors.product.terms⟩
  | node operator left right ihl ihr =>
      have hlevel : (node operator left right).level = operator.level := rfl
      -- Operands without parentheses are bound tightly enough to do without them.
      have hleft (h : decide (left.level < operator.level) = false) :
          operator.level ≤ left.level := Nat.le_of_not_lt (of_decide_eq_false h)
      have hright (h : decide (right.level ≤ operator.level) = false) :
          operator.level < right.level := Nat.lt_of_not_le (of_decide_eq_false h)
      rcases operator.level_eq with hplus | htimes
      · have hterms := (ihl.termsOperand (decide (left.level < operator.level))).more
          (endsProduct_symbol hplus) (fun _ _ => derives_plus hplus)
          (ihr.productOperand fun hnot => by have hgreater := hright hnot; omega)
        exact ⟨fun hthree => by omega, fun htwo => by omega, hterms⟩
      · have hatom (h : decide (right.level ≤ operator.level) = false) : right.level = 3 := by
          have hgreater := hright h
          have hle := right.level_le
          omega
        have hfactors := (ihl.factorsOperand fun hnot => htimes ▸ hleft hnot).more
          (endsAtom_symbol operator) (fun _ _ => derives_times htimes) (ihr.atomOperand hatom)
        exact ⟨fun hthree => by omega, fun _ => hfactors, hfactors.product.terms⟩

end Tree

/-- The text of an expression is all of a sum. -/
theorem derives_text (t : Tree) :
    grammar.Derives (.ofList t.text) sumSlot 0 (.found (.int t.value) (byteLength t.text)) := by
  have hsum : Reads (.ofList t.text) (Finds _ sumSlot) EndsSum t.text t.value :=
    (t.read _).terms.sum rfl
  have hstands : (Source.ofList t.text).Stands 0 (t.text ++ []) := by
    rw [List.append_nil]
    exact .start t.text
  have hend : EndsSum [] := by
    refine ⟨⟨?_, ?_⟩, ?_⟩ <;> exact fun _ hmem => absurd hmem (Option.not_mem_none _)
  have hfound := hsum 0 [] hstands hend
  rwa [Nat.zero_add] at hfound

/-- Parsing the text of an arithmetic expression gives its value, for every expression, with
and without memoization. -/
theorem parse_text (t : Tree) (memoize : Bool) :
    Grammar.build rules = .ok grammar ∧ grammar.rule? "sum" = some sumSlot ∧
      ∃ report, (Env.unlimited grammar (.ofList t.text) memoize).parseAll sumSlot = some report ∧
        report.outcome = .ok (.int t.value) := by
  let env := Env.unlimited grammar (.ofList t.text) memoize
  have hfree : env.grammar.StateFree := grammar_stateFree
  have hclosed : env.grammar.Closed := Grammar.build_closed build_rules
  obtain ⟨height, failures, heval⟩ := env.eval_of_derives hfree (derives_text t)
  obtain ⟨answer, last, hparse, hleads⟩ :=
    env.parse_of_eval hfree hclosed rfl (show sumSlot < grammar.size by decide) heval
  refine ⟨build_rules, rfl, _, by rw [Env.parseAll, hparse], ?_⟩
  have hanswer : answer = some ⟨.int t.value, 0, byteLength t.text⟩ := hleads.answer
  have habort : last.abort = none := hleads.abort
  simp only [Env.outcome, habort, hanswer]
  exact if_pos rfl

end Arithmetic

end Packrat
