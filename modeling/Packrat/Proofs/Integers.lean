import Packrat.Proofs.PrimitiveCall
import Packrat.Proofs.Stands
/-!
# Parsers of integers

A parser of integers takes a sign, if it reads signs and one stands there, and as many digits
as follow. Without digits it does not match. With digits it finds the integer that they write
if a machine word holds it, and otherwise it ends the run with the text of the number.

Whether a word holds the integer is decided here by its value, for any number of digits. A
reader that takes one digit after another, and gives up at the first that takes it out of the
range, decides the same: the range contains zero, so digits only lead away from it, and what
is out of the range stays out.

## Main definitions

* `IntegerKind.Writes` — sign and digits at the beginning of a text.
* `IntegerKind.Exact` — what a parser of integers is to come to.

## Main results

* `Decimal.readWord_eq` — digits that are read one by one are read as a whole.
* `IntegerKind.scan_of_writes` — what is found of sign and digits.
* `Env.integer_exact` — parsers of integers are exact, on every source and in every state.
-/

namespace Packrat

open Text (Avoids byteLength byteLength_append)

namespace Decimal

/-- Behind the digits that a text begins with there is no further digit. -/
theorem avoids_spanDigits (text : List Char) : Avoids isDigit (spanDigits text).2 := by
  intro c hc
  have hhead := List.head?_dropWhile_not isDigit text
  rw [show (text.dropWhile isDigit).head? = some c from hc] at hhead
  exact hhead

/-- No sign begins a text that a digit begins. -/
theorem avoids_sign_of_isDigit {c : Char} (hc : isDigit c = true) (rest : List Char) :
    Avoids (fun c => c == '-' || c == '+') (c :: rest) := by
  intro d hd
  obtain rfl := Option.some.inj hd
  simp only [Bool.or_eq_false_iff, beq_eq_false_iff_ne]
  constructor <;>
    · rintro rfl
      contradiction

/-! ## Digits one by one -/

/-- The number that digits behind a number write. -/
def ofDigitsFrom (m : Nat) (digits : List Char) : Nat :=
  digits.foldl (fun n c => 10 * n + digitValue c) m

theorem ofDigitsFrom_cons (m : Nat) (c : Char) (rest : List Char) :
    ofDigitsFrom m (c :: rest) = ofDigitsFrom (10 * m + digitValue c) rest :=
  List.foldl_cons ..

theorem le_ofDigitsFrom (m : Nat) (digits : List Char) : m ≤ ofDigitsFrom m digits := by
  induction digits generalizing m with
  | nil => exact Nat.le_refl m
  | cons c rest ih =>
      rw [ofDigitsFrom_cons]
      have hstep : m ≤ 10 * m + digitValue c := by omega
      exact Nat.le_trans hstep (ih _)

/-- What comes of a number with a sign: the integer, if it is in the range, and otherwise the
error that says on which side it is out. -/
def checked (range : WordRange) (sign : List Char) (m : Nat) : Except WordError Int :=
  if range.contains (applySign sign m) then .ok (applySign sign m)
  else .error (if sign = ['-'] then .tooSmall else .tooLarge)

theorem contains_eq_true_iff {range : WordRange} {n : Int} :
    range.contains n = true ↔ range.least ≤ n ∧ n ≤ range.greatest := by
  simp only [WordRange.contains, Bool.and_eq_true, decide_eq_true_eq]

/-- A range that contains zero contains what lies between zero and what it contains. -/
theorem contains_of_le {range : WordRange} (hrange : range.contains 0 = true) (sign : List Char)
    {m m' : Nat} (hle : m ≤ m') (h : range.contains (applySign sign m') = true) :
    range.contains (applySign sign m) = true := by
  rw [contains_eq_true_iff] at *
  unfold applySign at *
  split at h <;> simp only [*, if_true, if_false] <;> omega

/-- Digits that are read one by one onto a number that is in the range are read as a whole. -/
theorem readDigits_eq {range : WordRange} (hrange : range.contains 0 = true) (sign : List Char)
    {digits : List Char} (hdigits : ∀ c ∈ digits, isDigit c = true) {m : Nat}
    (hm : range.contains (applySign sign m) = true) :
    readDigits range (sign = ['-']) (applySign sign m) digits =
      checked range sign (ofDigitsFrom m digits) := by
  induction digits generalizing m with
  | nil => exact (if_pos hm).symm
  | cons c rest ih =>
      have hc : isDigit c = true := hdigits c (List.mem_cons_self ..)
      have hrest : ∀ d ∈ rest, isDigit d = true := fun d hd => hdigits d (List.mem_cons_of_mem _ hd)
      have hnext : (if decide (sign = ['-']) = true then 10 * applySign sign m - digitValue c
          else 10 * applySign sign m + digitValue c) = applySign sign (10 * m + digitValue c) := by
        simp only [decide_eq_true_eq, applySign]
        split <;> omega
      simp only [readDigits, hc, if_true, hnext, ofDigitsFrom_cons]
      by_cases hin : range.contains (applySign sign (10 * m + digitValue c)) = true
      · rw [if_pos hin]
        exact ih hrest hin
      · -- What is out of the range stays out, whatever digits follow.
        have hout :
            ¬range.contains (applySign sign (ofDigitsFrom (10 * m + digitValue c) rest)) = true :=
          fun hlast => hin (contains_of_le hrange sign (le_ofDigitsFrom _ rest) hlast)
        rw [if_neg hin, checked, if_neg hout]
        simp only [decide_eq_true_eq]

/-- A sign and digits that are read one by one are read as a whole. -/
theorem readWord_eq {range : WordRange} (hrange : range.contains 0 = true)
    {sign digits : List Char}
    (hsign : sign = [] ∨ sign = ['+'] ∨ (sign = ['-'] ∧ range.least < 0)) (hne : digits ≠ [])
    (hdigits : ∀ c ∈ digits, isDigit c = true) :
    readWord range (sign ++ digits) = checked range sign (ofDigits digits) := by
  have hzero : applySign sign 0 = 0 := by simp [applySign]
  have hread := readDigits_eq hrange sign hdigits (show range.contains (applySign sign 0) = true by
    rw [hzero, hrange])
  rw [hzero] at hread
  have hempty : ¬digits.isEmpty = true := by rwa [List.isEmpty_iff]
  have hword : readWord range (sign ++ digits) = readDigits range (sign = ['-']) 0 digits := by
    rcases hsign with rfl | rfl | ⟨rfl, hleast⟩
    · obtain ⟨c, rest, rfl⟩ := List.exists_cons_of_ne_nil hne
      have hc : isDigit c = true := hdigits c (List.mem_cons_self ..)
      have hnosign : ¬(c = '+' ∨ (c = '-' ∧ range.least < 0)) := by
        rintro (rfl | ⟨rfl, -⟩) <;> contradiction
      rw [List.nil_append, readWord, if_neg hnosign]
      rfl
    · rw [List.singleton_append, readWord, if_pos (.inl rfl), if_neg hempty]
      rfl
    · rw [List.singleton_append, readWord, if_pos (.inr ⟨rfl, hleast⟩), if_neg hempty]
      rfl
  exact hword.trans hread

end Decimal

/-! ## The two parsers -/

/-- The parsers of integers. -/
inductive IntegerKind where
  | unsigned
  | signed
deriving Repr, DecidableEq

namespace IntegerKind

open Decimal

def primitive : IntegerKind → Primitive
  | unsigned => .unsigned
  | signed => .signed

def range : IntegerKind → WordRange
  | unsigned => .unsigned64
  | signed => .signed64

/-- What may stand in front of the digits. -/
def signs : IntegerKind → List (List Char)
  | unsigned => [[]]
  | signed => [[], ['+'], ['-']]

/-- The integers that words of 64 bits hold. -/
def Fits : IntegerKind → Int → Prop
  | unsigned, n => 0 ≤ n ∧ n < 2 ^ 64
  | signed, n => -2 ^ 63 ≤ n ∧ n ≤ 2 ^ 63 - 1

/-- A value is a word that holds an integer. -/
def Holds : IntegerKind → Value → Int → Prop
  | unsigned, .word w, n => (w.toNat : Int) = n
  | signed, .int w, n => w.toInt = n
  | _, _, _ => False

/-- The word that is made of an integer. -/
def value : IntegerKind → Int → Value
  | unsigned, n => .word (UInt64.ofNat n.toNat)
  | signed, n => .int (Int64.ofInt n)

variable {kind : IntegerKind} {n : Int}

theorem contains_zero (kind : IntegerKind) : kind.range.contains 0 = true := by
  cases kind <;> decide

theorem contains_iff : kind.range.contains n = true ↔ kind.Fits n := by
  rw [contains_eq_true_iff]
  cases kind with
  | unsigned => exact (show 0 ≤ n ∧ n ≤ 0xffffffffffffffff ↔ 0 ≤ n ∧ n < 2 ^ 64 by omega)
  | signed =>
      exact (show -0x8000000000000000 ≤ n ∧ n ≤ 0x7fffffffffffffff ↔
        -2 ^ 63 ≤ n ∧ n ≤ 2 ^ 63 - 1 by omega)

/-- The word that is made of an integer is the one that holds it, if any does. -/
theorem holds_iff {value : Value} :
    kind.Holds value n ↔ kind.Fits n ∧ value = kind.value n := by
  constructor
  · intro h
    cases kind with
    | unsigned =>
        cases value with
        | word w =>
            obtain rfl : (w.toNat : Int) = n := h
            have hlt := w.toNat_lt
            refine ⟨⟨by omega, by omega⟩, ?_⟩
            rw [IntegerKind.value, Int.toNat_natCast, UInt64.ofNat_toNat]
        | _ => exact h.elim
    | signed =>
        cases value with
        | int w =>
            obtain rfl : w.toInt = n := h
            have hlt := w.toInt_lt
            refine ⟨⟨w.le_toInt, by omega⟩, ?_⟩
            rw [IntegerKind.value, Int64.ofInt_toInt]
        | _ => exact h.elim
  · rintro ⟨hfits, rfl⟩
    cases kind with
    | unsigned =>
        obtain ⟨hzero, hlt⟩ : 0 ≤ n ∧ n < 2 ^ 64 := hfits
        have hword : (UInt64.ofNat n.toNat).toNat = n.toNat :=
          UInt64.toNat_ofNat_of_lt' (show n.toNat < 2 ^ 64 by omega)
        exact (show ((UInt64.ofNat n.toNat).toNat : Int) = n by omega)
    | signed =>
        obtain ⟨hleast, hgreatest⟩ : -2 ^ 63 ≤ n ∧ n ≤ 2 ^ 63 - 1 := hfits
        exact Int64.toInt_ofInt_of_le hleast (by omega)

/-! ## Sign and digits -/

/-- What may stand in front of the digits is read as a sign, a `-` only if the range has
negative integers. -/
theorem eq_of_mem_signs {sign : List Char} (h : sign ∈ kind.signs) :
    sign = [] ∨ sign = ['+'] ∨ (sign = ['-'] ∧ kind.range.least < 0) := by
  cases kind with
  | unsigned => exact .inl (List.mem_singleton.1 h)
  | signed =>
      simp only [signs, List.mem_cons, List.not_mem_nil, or_false] at h
      exact h.imp_right (.imp_right fun hminus => ⟨hminus, by decide⟩)

/-- A text begins with a sign, which may be missing, and with digits, of which there may be
none. A sign that may stand there is not passed over, and the digits are all there are. -/
structure Writes (kind : IntegerKind) (text sign digits rest : List Char) : Prop where
  text_eq : text = sign ++ (digits ++ rest)
  sign_mem : sign ∈ kind.signs
  taken : kind = .signed → sign = [] → Avoids (fun c => c == '-' || c == '+') text
  isDigit : ∀ c ∈ digits, isDigit c = true
  maximal : Avoids Decimal.isDigit rest

/-- How a text is split into a sign and what follows it. -/
def span : IntegerKind → List Char → List Char × List Char
  | unsigned, text => ([], text)
  | signed, text => spanSign text

section Writes

variable {text sign digits rest : List Char}

theorem Writes.span_eq (h : kind.Writes text sign digits rest) :
    kind.span text = (sign, digits ++ rest) := by
  obtain ⟨rfl, hsign, htaken, -, -⟩ := h
  cases kind with
  | unsigned =>
      obtain rfl := List.mem_singleton.1 hsign
      rfl
  | signed =>
      rcases eq_of_mem_signs hsign with rfl | rfl | ⟨rfl, -⟩
      · exact spanSign_of_avoids (htaken rfl rfl)
      · rfl
      · rfl

theorem Writes.spanDigits_eq (h : kind.Writes text sign digits rest) :
    spanDigits (digits ++ rest) = (digits, rest) :=
  spanDigits_of_avoids h.isDigit h.maximal

/-- Sign and digits of a text are determined. -/
theorem Writes.unique {sign' digits' rest' : List Char} (h : kind.Writes text sign digits rest)
    (h' : kind.Writes text sign' digits' rest') :
    sign = sign' ∧ digits = digits' ∧ rest = rest' := by
  have hspan := h.span_eq.symm.trans h'.span_eq
  obtain ⟨rfl, hbehind⟩ := Prod.mk.inj hspan
  have hdigits := h.spanDigits_eq
  rw [hbehind, h'.spanDigits_eq] at hdigits
  obtain ⟨rfl, rfl⟩ := Prod.mk.inj hdigits
  exact ⟨rfl, rfl, rfl⟩

private theorem exists_sign (kind : IntegerKind) (text : List Char) :
    ∃ sign behind, text = sign ++ behind ∧ sign ∈ kind.signs ∧
      (kind = .signed → sign = [] → Avoids (fun c => c == '-' || c == '+') text) := by
  cases kind with
  | unsigned => exact ⟨[], text, rfl, List.mem_singleton.2 rfl, nofun⟩
  | signed =>
      by_cases hsign : Avoids (fun c => c == '-' || c == '+') text
      · exact ⟨[], text, rfl, by decide, fun _ _ => hsign⟩
      · cases text with
        | nil => exact absurd (fun _ hmem => absurd hmem (Option.not_mem_none _)) hsign
        | cons c rest =>
            have hc : c = '-' ∨ c = '+' := by
              by_contra hnot
              refine hsign fun d hd => ?_
              obtain rfl := Option.some.inj hd
              simpa using hnot
            refine ⟨[c], rest, rfl, ?_, nofun⟩
            rcases hc with rfl | rfl <;> decide

/-- Every text is split into a sign, digits and the rest. -/
theorem exists_writes (kind : IntegerKind) (text : List Char) :
    ∃ sign digits rest, kind.Writes text sign digits rest := by
  obtain ⟨sign, behind, rfl, hsign, htaken⟩ := exists_sign kind text
  refine ⟨sign, (spanDigits behind).1, (spanDigits behind).2, ?_, hsign, htaken,
    List.all_eq_true.1 List.all_takeWhile, avoids_spanDigits behind⟩
  rw [spanDigits_append]

/-- Without a sign, no digits are written just where no digit stands. -/
theorem writes_nil_iff {text : List Char} :
    (∃ sign rest, unsigned.Writes text sign [] rest) ↔ Avoids Decimal.isDigit text := by
  constructor
  · rintro ⟨sign, rest, hwrites⟩
    obtain rfl := List.mem_singleton.1 hwrites.sign_mem
    rw [hwrites.text_eq]
    exact hwrites.maximal
  · intro hdigit
    exact ⟨[], text, rfl, List.mem_singleton.2 rfl, nofun, nofun, hdigit⟩

/-- The numeral of an integer writes its sign and its digits. -/
theorem writes_numeral {n : Int} (hfits : kind.Fits n) {rest : List Char}
    (hrest : Avoids Decimal.isDigit rest) :
    kind.Writes (numeral n ++ rest) (signOf n) (Nat.toDigits 10 n.natAbs) rest := by
  have hdigits : ∀ c ∈ Nat.toDigits 10 n.natAbs, isDigit c = true :=
    fun _ => isDigit_of_mem_toDigits
  refine ⟨?_, ?_, ?_, hdigits, hrest⟩
  · rw [numeral_eq, List.append_assoc]
  · cases kind with
    | unsigned =>
        have hzero : ¬n < 0 := Int.not_lt.2 hfits.1
        rw [signOf, if_neg hzero]
        exact List.mem_singleton.2 rfl
    | signed =>
        rw [signOf]
        split <;> decide
  · intro _ hsign
    have hne : Nat.toDigits 10 n.natAbs ≠ [] := Nat.toDigits_ne_nil
    obtain ⟨c, digits, heq⟩ := List.exists_cons_of_ne_nil hne
    rw [numeral_eq, hsign, heq]
    exact avoids_sign_of_isDigit (hdigits c (heq ▸ List.mem_cons_self ..)) _

/-! ## What is found -/

/-- A sign and digits take one byte each. -/
theorem Writes.byteLength_eq (h : kind.Writes text sign digits rest) :
    byteLength (sign ++ digits) = sign.length + digits.length := by
  have hdigits := byteLength_digits (digits ++ rest)
  rw [h.spanDigits_eq] at hdigits
  have hsign : byteLength sign = sign.length := by
    rcases eq_of_mem_signs h.sign_mem with hsign | hsign | ⟨hsign, -⟩ <;>
      · rw [hsign]
        rfl
  rw [byteLength_append, hsign, hdigits]

variable {src : Source} {start : Nat}

/-- What is found depends on sign and digits alone. -/
theorem Writes.scan_eq (h : kind.Writes text sign digits rest) (hstands : src.Stands start text) :
    kind.primitive.scan src start =
      if digits.isEmpty then .noMatch
      else
        match word? kind.range sign digits with
        | some n => .found (kind.value n) (start + byteLength (sign ++ digits))
        | none => .overflow (.tooLarge (String.ofList (sign ++ digits))) := by
  have hspan := h.span_eq
  cases kind with
  | unsigned =>
      obtain ⟨rfl, rfl⟩ := Prod.mk.inj hspan
      refine (hstands.scanText _).trans ?_
      simp only [Primitive.scanUnsigned, h.spanDigits_eq, h.byteLength_eq]
      simp only [List.length_nil, Nat.zero_add, List.nil_append]
      rfl
  | signed =>
      have hspan : spanSign text = (sign, digits ++ rest) := hspan
      refine (hstands.scanText _).trans ?_
      simp only [Primitive.scanSigned, hspan, h.spanDigits_eq, h.byteLength_eq, Nat.add_assoc]
      rfl

section Cases

variable (h : kind.Writes text sign digits rest) (hstands : src.Stands start text)

include h hstands

theorem scan_of_nil (hnil : digits = []) : kind.primitive.scan src start = .noMatch := by
  rw [h.scan_eq hstands, if_pos (List.isEmpty_iff.2 hnil)]

theorem scan_of_holds (hne : digits ≠ []) {value : Value}
    (hholds : kind.Holds value (applySign sign (ofDigits digits))) :
    kind.primitive.scan src start = .found value (start + byteLength (sign ++ digits)) := by
  obtain ⟨hfits, rfl⟩ := holds_iff.1 hholds
  rw [h.scan_eq hstands, if_neg (by rwa [List.isEmpty_iff]), word?]
  simp only [if_pos (contains_iff.2 hfits)]

theorem scan_of_not_fits (hne : digits ≠ [])
    (hnot : ¬kind.Fits (applySign sign (ofDigits digits))) :
    kind.primitive.scan src start =
      .overflow (.tooLarge (String.ofList (sign ++ digits))) := by
  rw [h.scan_eq hstands, if_neg (by rwa [List.isEmpty_iff]), word?]
  simp only [if_neg (mt contains_iff.1 hnot)]

end Cases

/-- Reading sign and digits one by one gives an integer just if they write it and a word holds
it. -/
theorem Writes.readWord_iff (h : kind.Writes text sign digits rest) (hne : digits ≠ []) {n : Int} :
    readWord kind.range (sign ++ digits) = .ok n ↔
      n = applySign sign (ofDigits digits) ∧ kind.Fits n := by
  rw [readWord_eq kind.contains_zero (eq_of_mem_signs h.sign_mem) hne h.isDigit, checked]
  by_cases hfits : kind.Fits (applySign sign (ofDigits digits))
  · rw [if_pos (contains_iff.2 hfits)]
    constructor
    · intro heq
      obtain rfl := Except.ok.inj heq
      exact ⟨rfl, hfits⟩
    · rintro ⟨rfl, -⟩
      rfl
  · rw [if_neg (mt contains_iff.1 hfits)]
    refine ⟨nofun, ?_⟩
    rintro ⟨rfl, hfits'⟩
    exact absurd hfits' hfits

/-- What a parser of integers is to come to at an offset where a text stands that begins with
a sign and digits. -/
structure Exact (kind : IntegerKind) (text sign digits : List Char) (start : Nat)
    (answer : Option Match) (last : State) : Prop where
  /-- Nothing is found in a run that goes on just if there are no digits. -/
  noMatch : (answer = none ∧ last.abort = none) ↔ digits = []
  /-- A match takes sign and digits, and its value is the integer that they write. -/
  found : ∀ m, answer = some m ↔
    digits ≠ [] ∧ kind.Holds m.value (applySign sign (ofDigits digits)) ∧ m.start = start ∧
      m.stop = start + byteLength (sign ++ digits)
  /-- The run is ended just if no word holds the integer, with the text of the number. -/
  aborted : ∀ abort, last.abort = some abort ↔
    digits ≠ [] ∧ ¬kind.Fits (applySign sign (ofDigits digits)) ∧
      abort = .transform start (.number (.tooLarge (String.ofList (sign ++ digits))))
  /-- The digits may as well be read one by one. -/
  digitwise : digits ≠ [] → ∀ value, (∃ stop, answer = some ⟨value, start, stop⟩) ↔
    ∃ n, readWord kind.range (sign ++ digits) = .ok n ∧ kind.Holds value n
  /-- Where a numeral stands, with no further digit behind it, its integer is found. -/
  numeral : ∀ value n rest, kind.Holds value n → Avoids Decimal.isDigit rest →
    text = Decimal.numeral n ++ rest →
      answer = some ⟨value, start, start + byteLength (Decimal.numeral n)⟩

namespace Exact

variable {answer : Option Match} {last : State}

/-- What is to be shown of an answer and a state. That digits may be read one by one, and that
numerals are read back, follows from what is found. -/
private theorem of (h : kind.Writes text sign digits rest)
    (hnoMatch : (answer = none ∧ last.abort = none) ↔ digits = [])
    (hfound : ∀ m, answer = some m ↔
      digits ≠ [] ∧ kind.Holds m.value (applySign sign (ofDigits digits)) ∧ m.start = start ∧
        m.stop = start + byteLength (sign ++ digits))
    (haborted : ∀ abort, last.abort = some abort ↔
      digits ≠ [] ∧ ¬kind.Fits (applySign sign (ofDigits digits)) ∧
        abort = .transform start (.number (.tooLarge (String.ofList (sign ++ digits))))) :
    kind.Exact text sign digits start answer last where
  noMatch := hnoMatch
  found := hfound
  aborted := haborted
  digitwise hne value := by
    constructor
    · rintro ⟨stop, hanswer⟩
      obtain ⟨-, hholds, -, -⟩ := (hfound _).1 hanswer
      exact ⟨_, (h.readWord_iff hne).2 ⟨rfl, (holds_iff.1 hholds).1⟩, hholds⟩
    · rintro ⟨n, hread, hholds⟩
      obtain ⟨rfl, -⟩ := (h.readWord_iff hne).1 hread
      exact ⟨_, (hfound _).2 ⟨hne, hholds, rfl, rfl⟩⟩
  numeral value n rest' hholds hrest htext := by
    subst htext
    obtain ⟨rfl, rfl, rfl⟩ := h.unique (writes_numeral (holds_iff.1 hholds).1 hrest)
    refine (hfound _).2 ⟨Nat.toDigits_ne_nil, ?_, rfl, by rw [numeral_eq]⟩
    rwa [ofDigits_toDigits, applySign_signOf]

/-- What a primitive of integers finds is exact. -/
theorem of_reported (h : kind.Writes text sign digits rest) (hstands : src.Stands start text)
    (hreported :
      (Verdict.ofScan start (kind.primitive.scan src start)).Reported start answer last) :
    kind.Exact text sign digits start answer last := by
  by_cases hnil : digits = []
  · rw [scan_of_nil h hstands hnil] at hreported
    obtain ⟨rfl, habort⟩ := hreported
    refine of h ⟨fun _ => hnil, fun _ => ⟨rfl, habort⟩⟩ (fun m => ⟨nofun, ?_⟩) fun abort => ?_
    · exact fun hm => absurd hnil hm.1
    · rw [habort]
      exact ⟨nofun, fun hended => absurd hnil hended.1⟩
  by_cases hfits : kind.Fits (applySign sign (ofDigits digits))
  · rw [scan_of_holds h hstands hnil (holds_iff.2 ⟨hfits, rfl⟩)] at hreported
    obtain ⟨rfl, habort⟩ := hreported
    refine of h ⟨nofun, fun hempty => absurd hempty hnil⟩ (fun m => ⟨?_, ?_⟩) fun abort => ?_
    · intro hm
      obtain rfl := Option.some.inj hm
      exact ⟨hnil, holds_iff.2 ⟨hfits, rfl⟩, rfl, rfl⟩
    · obtain ⟨value, first, stop⟩ := m
      rintro ⟨-, hholds, hfirst, hstop⟩
      rw [show value = _ from (holds_iff.1 hholds).2, show first = start from hfirst,
        show stop = _ from hstop]
    · rw [habort]
      exact ⟨nofun, fun hended => absurd hfits hended.2.1⟩
  · rw [scan_of_not_fits h hstands hnil hfits] at hreported
    obtain ⟨rfl, habort⟩ := hreported
    refine of h ⟨fun hnone => ?_, fun hempty => absurd hempty hnil⟩ (fun m => ⟨nofun, ?_⟩)
      fun abort => ?_
    · exact absurd (habort.symm.trans hnone.2) nofun
    · rintro ⟨-, hholds, -⟩
      exact absurd (holds_iff.1 hholds).1 hfits
    · rw [habort]
      constructor
      · intro heq
        exact ⟨hnil, hfits, (Option.some.inj heq).symm⟩
      · rintro ⟨-, -, rfl⟩
        rfl

end Exact

end Writes

end IntegerKind

/-- At every boundary of every source, the parsers of integers are exact: what their bodies do
is, in every state of a run that goes on and leaves the state as it is unless it ends the run;
and what their calls are answered is, in every state that a run may come to and go on from,
wherever the depth limit leaves room and the parser is not running already. -/
theorem Env.integer_exact (env : Env) (kind : IntegerKind) {slot : SlotId}
    (hslot : env.grammar.bodies[slot]? = some (.primitive kind.primitive)) {start : Nat}
    (hstart : env.source.isBoundary start = true) :
    ∃ sign digits rest, kind.Writes (env.source.suffix start) sign digits rest ∧
      (∀ sign' digits' rest', kind.Writes (env.source.suffix start) sign' digits' rest' →
        sign' = sign ∧ digits' = digits ∧ rest' = rest) ∧
      (kind = .unsigned → (digits = [] ↔ Avoids Decimal.isDigit (env.source.suffix start))) ∧
      (∀ call st, st.abort = none →
        ∃ answer last, (env.planOf slot start).exec env.options call st = some (answer, last) ∧
          kind.Exact (env.source.suffix start) sign digits start answer last ∧
          (last.abort = none → last = st)) ∧
      ∀ fuel st, 0 < fuel → env.Reachable st → st.abort = none → env.atLimit st = none →
        st.memo.find? slot start ≠ some .inProgress →
        ∃ answer last, env.call fuel slot start st = some (answer, last) ∧
          kind.Exact (env.source.suffix start) sign digits start answer last := by
  have hstands : env.source.Stands start (env.source.suffix start) := by
    obtain ⟨⟨before, rest⟩, hplace⟩ := Source.isBoundary_iff.1 hstart
    refine ⟨before, ?_⟩
    rw [hplace, Source.suffix, hplace]
  obtain ⟨sign, digits, rest, hwrites⟩ := kind.exists_writes (env.source.suffix start)
  refine ⟨sign, digits, rest, hwrites, fun _ _ _ h => h.unique hwrites, ?_, ?_, ?_⟩
  · rintro rfl
    rw [← IntegerKind.writes_nil_iff]
    constructor
    · rintro rfl
      exact ⟨sign, rest, hwrites⟩
    · rintro ⟨sign', rest', h⟩
      exact (h.unique hwrites).2.1.symm
  · intro call st hlive
    obtain ⟨answer, last, hexec, hreported, hsame⟩ := exec_primitive hslot call start hlive
    exact ⟨answer, last, hexec, .of_reported hwrites hstands hreported, hsame⟩
  · intro fuel st hfuel hst hlive hroom hidle
    obtain ⟨answer, last, hcall, hreported⟩ :=
      call_primitive hslot start hst hlive hroom hidle hfuel
    exact ⟨answer, last, hcall, .of_reported hwrites hstands hreported⟩

/-- The least integer of 64 bits, with other characters around it. -/
def Env.leastInteger : Env where
  grammar := ⟨#[.primitive .signed], [("integer", 0)]⟩
  source := .ofString "(-9223372036854775808)"
  options := {}

/-- The least integer is found, though its magnitude alone is too large. -/
theorem Env.integer_exact_least :
    leastInteger.grammar.bodies[0]? = some (.primitive IntegerKind.signed.primitive) ∧
      leastInteger.source.isBoundary 1 = true ∧
      ∃ last, leastInteger.call 1 0 1 {} = some (some ⟨.int Int64.minValue, 1, 21⟩, last) := by
  have hslot : leastInteger.grammar.bodies[0]? =
      some (.primitive IntegerKind.signed.primitive) := rfl
  have hstart : leastInteger.source.isBoundary 1 = true := by decide
  obtain ⟨sign, digits, rest, -, -, -, -, hcalls⟩ := integer_exact leastInteger .signed hslot hstart
  obtain ⟨answer, last, hcall, hexact⟩ := hcalls 1 {} Nat.one_pos .fresh rfl rfl (by
    rw [State.find?_fresh]
    exact nofun)
  have hholds : IntegerKind.signed.Holds (.int Int64.minValue) (-2 ^ 63) := Int64.toInt_minValue
  have hend : Avoids Decimal.isDigit [')'] := by
    intro c hc
    obtain rfl := Option.some.inj hc
    rfl
  have hanswer := hexact.numeral _ _ _ hholds hend (by decide)
  have hsize : byteLength (Decimal.numeral (-2 ^ 63)) = 20 := by decide
  rw [hsize] at hanswer
  exact ⟨hslot, hstart, last, hanswer ▸ hcall⟩

end Packrat
