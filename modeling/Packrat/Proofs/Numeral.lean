import Packrat.Proofs.Scan
/-!
# Numerals

An integer is written in decimal digits, behind a minus sign if it is negative. Where a
numeral stands and no further digit follows, the parser of signed integers finds the
integer that the numeral writes, down to the least and up to the greatest one.

## Main results

* `Decimal.word?_numeral` — a numeral writes its integer.
* `Primitive.scanSigned_numeral` — where a numeral stands its integer is found.
-/

namespace Packrat

open Text (byteLength byteLength_append byteLength_cons byteLength_nil)

/-- A text that does not begin with a character that is accepted. -/
def Text.Avoids (accepts : Char → Bool) (text : List Char) : Prop :=
  ∀ c ∈ text.head?, accepts c = false

namespace Decimal

/-- How an integer is written. -/
def numeral (n : Int) : List Char := (toString n).toList

/-- The sign that an integer is written with, if any. -/
def signOf (n : Int) : List Char := if n < 0 then ['-'] else []

theorem isDigit_of_mem_toDigits {n : Nat} {c : Char} (h : c ∈ Nat.toDigits 10 n) :
    isDigit c = true := by
  have hdigit := Nat.isDigit_of_mem_toDigits (by decide) (by decide) h
  simp only [Char.isDigit, Bool.and_eq_true, decide_eq_true_eq] at hdigit
  exact Bool.and_eq_true_iff.2 ⟨decide_eq_true hdigit.1, decide_eq_true hdigit.2⟩

theorem ofDigits_toDigits (n : Nat) : ofDigits (Nat.toDigits 10 n) = n :=
  Nat.ofDigitChars_ten_toDigits

theorem applySign_signOf (n : Int) : applySign (signOf n) n.natAbs = n := by
  unfold applySign signOf
  by_cases hneg : n < 0
  · simp only [if_pos hneg, if_true]
    omega
  · simp only [if_neg hneg, List.nil_eq, reduceCtorEq, if_false]
    omega

/-- A numeral is a sign and the digits of the magnitude. -/
theorem numeral_eq (n : Int) : numeral n = signOf n ++ Nat.toDigits 10 n.natAbs := by
  rw [numeral, Int.toString_eq_repr, Int.repr_eq_if, signOf]
  by_cases hneg : n < 0
  · rw [if_neg (by omega), if_pos hneg, String.toList_append, Nat.toList_repr,
      show (-n).toNat = n.natAbs by omega]
    rfl
  · rw [if_pos (by omega), if_neg hneg, Nat.toList_repr, show n.toNat = n.natAbs by omega]
    rfl

/-- The digits that a text begins with are all of it up to the first other character. -/
theorem spanDigits_of_avoids {digits rest : List Char} (hdigits : ∀ c ∈ digits, isDigit c = true)
    (hrest : Text.Avoids isDigit rest) : spanDigits (digits ++ rest) = (digits, rest) := by
  have hstop : rest.takeWhile isDigit = [] ∧ rest.dropWhile isDigit = rest := by
    cases rest with
    | nil => exact ⟨rfl, rfl⟩
    | cons c rest =>
        have hc : ¬isDigit c = true := Bool.eq_false_iff.1 (hrest c rfl)
        exact ⟨List.takeWhile_cons_of_neg hc, List.dropWhile_cons_of_neg hc⟩
  rw [spanDigits, List.takeWhile_append_of_pos hdigits, List.dropWhile_append_of_pos hdigits,
    hstop.1, hstop.2, List.append_nil]

/-- A digit is no sign. -/
theorem spanSign_of_isDigit {c : Char} {rest : List Char} (h : isDigit c = true) :
    spanSign (c :: rest) = ([], c :: rest) := by
  have hsign : ¬(c = '-' ∨ c = '+') := by
    rintro (rfl | rfl) <;> contradiction
  rw [spanSign, if_neg hsign]

/-- A text that begins with no sign is left as it is. -/
theorem spanSign_of_avoids {text : List Char}
    (h : Text.Avoids (fun c => c == '-' || c == '+') text) : spanSign text = ([], text) := by
  cases text with
  | nil => rfl
  | cons c rest =>
      have hc := h c rfl
      simp only [Bool.or_eq_false_iff, beq_eq_false_iff_ne] at hc
      rw [spanSign, if_neg (not_or.2 hc)]

theorem spanSign_signOf (n : Int) {digits rest : List Char} (hne : digits ≠ [])
    (hdigits : ∀ c ∈ digits, isDigit c = true) :
    spanSign (signOf n ++ (digits ++ rest)) = (signOf n, digits ++ rest) := by
  unfold signOf
  split
  · rfl
  · obtain ⟨c, digits, rfl⟩ := List.exists_cons_of_ne_nil hne
    exact spanSign_of_isDigit (hdigits c (List.mem_cons_self ..))

/-- A numeral writes its integer, if that is in the range. -/
theorem word?_numeral {range : WordRange} {n : Int} (h : range.contains n = true) :
    word? range (signOf n) (Nat.toDigits 10 n.natAbs) = some n := by
  simp only [word?, ofDigits_toDigits, applySign_signOf, if_pos h]

/-- A numeral takes one byte for each character. -/
theorem byteLength_numeral (n : Int) :
    byteLength (numeral n) = (signOf n).length + (Nat.toDigits 10 n.natAbs).length := by
  have hdigits := byteLength_digits (Nat.toDigits 10 n.natAbs ++ [])
  have hend : Text.Avoids isDigit [] := fun _ hmem => absurd hmem (Option.not_mem_none _)
  rw [spanDigits_of_avoids (fun _ => isDigit_of_mem_toDigits) hend] at hdigits
  rw [numeral_eq, byteLength_append, hdigits, signOf]
  split <;> rfl

/-- Every integer of 64 bits is one that a numeral may write. -/
theorem signed64_contains (n : Int64) : WordRange.signed64.contains n.toInt = true := by
  have hleast := n.le_toInt
  have hgreatest := n.toInt_lt
  refine Bool.and_eq_true_iff.2 ⟨decide_eq_true ?_, decide_eq_true ?_⟩
  · exact hleast
  · exact Int.le_of_lt_add_one hgreatest

end Decimal

namespace Primitive

open Decimal

/-- Where a numeral stands and no further digit follows, its integer is found. -/
theorem scanSigned_numeral (start : Nat) (n : Int64) {rest : List Char}
    (hrest : Text.Avoids isDigit rest) :
    scanSigned start (numeral n.toInt ++ rest) =
      .found (.int n) (start + byteLength (numeral n.toInt)) := by
  have hdigits : ∀ c ∈ Nat.toDigits 10 n.toInt.natAbs, isDigit c = true :=
    fun _ => isDigit_of_mem_toDigits
  have hne : Nat.toDigits 10 n.toInt.natAbs ≠ [] := Nat.toDigits_ne_nil
  rw [byteLength_numeral, numeral_eq, List.append_assoc]
  simp only [scanSigned, spanSign_signOf n.toInt hne hdigits, spanDigits_of_avoids hdigits hrest,
    List.isEmpty_eq_false_iff.2 hne, word?_numeral (signed64_contains n), Int64.ofInt_toInt,
    Bool.false_eq_true, if_false, Nat.add_assoc]

/-- Where neither a sign nor a digit stands no integer is found. -/
theorem scanSigned_of_avoids (start : Nat) {text : List Char}
    (hsign : Text.Avoids (fun c => c == '-' || c == '+') text)
    (hdigit : Text.Avoids isDigit text) : scanSigned start text = .noMatch := by
  have hdigits : spanDigits ([] ++ text) = ([], text) := spanDigits_of_avoids nofun hdigit
  rw [List.nil_append] at hdigits
  simp only [scanSigned, spanSign_of_avoids hsign, hdigits, List.isEmpty_nil, if_true]

end Primitive

end Packrat
