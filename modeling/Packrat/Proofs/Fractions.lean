import Packrat.Proofs.Integers
/-!
# How numbers are written

An integer is written by a sign, which may be missing, and by digits. A fraction has a point
and further digits behind that. A parser of fractions scans for the sign, for the digits, for
the point and for the digits behind it, one after another and without ever going back. So it
is not plain that it takes as much as it can: another way of splitting the text might have
given more, or something at all.

There is no other way. The sign is read or not read by the first character alone, the whole
part ends at the point, and of the digits behind it none that is left out may be followed by
anything else. `Fraction.same_beginning` says so, and that the longest fraction is taken
follows from it.

## Main definitions

* `Decimal.Fraction`, `Decimal.IsFraction` — how fractions are written.
* `Decimal.IsNumber` — how integers and fractions are written.
* `Decimal.Longest` — the longest part of its form that a text begins with.

## Main results

* `Primitive.scan_fraction_of_longest` — the longest fraction is taken, if it is finite.
* `Primitive.scan_fraction_of_none` — where no fraction begins nothing is found.
* `Decimal.Longest.number_of_fraction`, `Decimal.Longest.number_of_integer` — where a fraction
  begins it is the longest number, and elsewhere an integer is.
-/

namespace Packrat

open Text (Avoids byteLength byteLength_append)

namespace Decimal

/-! ## Forms of texts -/

/-- Digits, one at least. -/
def IsDigits (text : List Char) : Prop := text ≠ [] ∧ ∀ c ∈ text, isDigit c = true

/-- A sign, which may be missing. -/
def IsSign (text : List Char) : Prop := text = [] ∨ text = ['+'] ∨ text = ['-']

/-- A sign, which may be missing, digits, a point and digits. -/
structure Fraction where
  sign : List Char
  whole : List Char
  digits : List Char
  isSign : IsSign sign
  whole_isDigits : IsDigits whole
  digits_isDigits : IsDigits digits

/-- How a fraction is written. -/
def Fraction.text (x : Fraction) : List Char := x.sign ++ (x.whole ++ '.' :: x.digits)

/-- The number nearest to a fraction. -/
def Fraction.value (x : Fraction) : Binary64 := .ofDecimal x.sign x.whole x.digits

/-- A sign, which may be missing, and digits. -/
def IsInteger (text : List Char) : Prop :=
  ∃ sign digits, IsSign sign ∧ IsDigits digits ∧ text = sign ++ digits

/-- A sign, which may be missing, digits, a point and digits. -/
def IsFraction (text : List Char) : Prop := ∃ x : Fraction, x.text = text

/-- A sign, which may be missing, and digits, which a point and further digits may follow. -/
def IsNumber (text : List Char) : Prop := IsInteger text ∨ IsFraction text

/-- A text begins with a part of some form. -/
def Begins (form : List Char → Prop) (text : List Char) : Prop :=
  ∃ taken, taken <+: text ∧ form taken

/-- Of all parts of some form that a text begins with, this is the longest. -/
structure Longest (form : List Char → Prop) (text taken : List Char) : Prop where
  begins : taken <+: text
  hasForm : form taken
  length_le : ∀ other, other <+: text → form other → other.length ≤ taken.length

/-- No two parts are the longest. -/
theorem Longest.unique {form : List Char → Prop} {text taken taken' : List Char}
    (h : Longest form text taken) (h' : Longest form text taken') : taken = taken' := by
  have hle := h'.length_le taken h.begins h.hasForm
  have hle' := h.length_le taken' h'.begins h'.hasForm
  exact (List.prefix_of_prefix_length_le h.begins h'.begins hle).eq_of_length (by omega)

/-! ## How texts are split -/

/-- A sign in front of a digit is read as a sign, and nothing else is. -/
theorem IsSign.spanSign_append {sign : List Char} (h : IsSign sign) {c : Char}
    (hc : isDigit c = true) (rest : List Char) :
    spanSign (sign ++ c :: rest) = (sign, c :: rest) := by
  rcases h with rfl | rfl | rfl
  · exact spanSign_of_isDigit hc
  · rfl
  · rfl

/-- What is read as a sign is one. -/
theorem isSign_spanSign (text : List Char) : IsSign (spanSign text).1 := by
  cases text with
  | nil => exact .inl rfl
  | cons c rest =>
      by_cases hc : c = '-' ∨ c = '+'
      · rw [spanSign, if_pos hc]
        rcases hc with rfl | rfl
        · exact .inr (.inr rfl)
        · exact .inr (.inl rfl)
      · rw [spanSign, if_neg hc]
        exact .inl rfl

/-- What is read as digits are digits, unless there are none. -/
theorem isDigits_spanDigits {text : List Char} (hne : (spanDigits text).1 ≠ []) :
    IsDigits (spanDigits text).1 :=
  ⟨hne, List.all_eq_true.1 List.all_takeWhile⟩

/-- Of digits at the beginning of one text those are the most that no digit follows. -/
theorem length_le_of_avoids {digits digits' rest rest' : List Char} (h : IsDigits digits)
    (h' : IsDigits digits') (hrest' : Avoids isDigit rest')
    (heq : digits ++ rest = digits' ++ rest') : digits.length ≤ digits'.length := by
  have hall : (digits ++ rest).takeWhile isDigit = digits' := by
    rw [heq]
    exact congrArg Prod.fst (spanDigits_of_avoids h'.2 hrest')
  rw [← hall, List.takeWhile_append_of_pos h.2, List.length_append]
  exact Nat.le_add_right ..

/-- A digit is no point. -/
theorem avoids_point (rest : List Char) : Avoids isDigit ('.' :: rest) := by
  intro c hc
  obtain rfl := Option.some.inj hc
  rfl

theorem spanDigits_point {whole : List Char} (h : IsDigits whole) (rest : List Char) :
    spanDigits (whole ++ '.' :: rest) = (whole, '.' :: rest) :=
  spanDigits_of_avoids h.2 (avoids_point rest)

/-- An integer in front of some text is split into its sign and what follows that. -/
theorem spanSign_digits {sign digits : List Char} (hsign : IsSign sign) (hdigits : IsDigits digits)
    (rest : List Char) : spanSign (sign ++ (digits ++ rest)) = (sign, digits ++ rest) := by
  obtain ⟨c, others, rfl⟩ := List.exists_cons_of_ne_nil hdigits.1
  exact hsign.spanSign_append (hdigits.2 c (List.mem_cons_self ..)) _

namespace Fraction

variable {x y : Fraction} {rest rest' : List Char}

theorem text_append (x : Fraction) (rest : List Char) :
    x.text ++ rest = x.sign ++ (x.whole ++ '.' :: (x.digits ++ rest)) := by
  simp only [text, List.append_assoc, List.cons_append]

theorem spanSign_text (x : Fraction) (rest : List Char) :
    spanSign (x.text ++ rest) = (x.sign, x.whole ++ '.' :: (x.digits ++ rest)) := by
  rw [text_append]
  exact spanSign_digits x.isSign x.whole_isDigits _

/-- Two fractions at the beginning of one text have the same sign and the same whole part, and
their digits are at the beginning of one text. -/
theorem same_beginning (h : x.text ++ rest = y.text ++ rest') :
    x.sign = y.sign ∧ x.whole = y.whole ∧ x.digits ++ rest = y.digits ++ rest' := by
  have hsign := x.spanSign_text rest
  rw [h, y.spanSign_text rest'] at hsign
  obtain ⟨heq, hbehind⟩ := Prod.mk.inj hsign
  have hwhole := spanDigits_point y.whole_isDigits (y.digits ++ rest')
  rw [hbehind, spanDigits_point x.whole_isDigits] at hwhole
  obtain ⟨heq', hpoint⟩ := Prod.mk.inj hwhole
  exact ⟨heq.symm, heq', (List.cons.inj hpoint).2⟩

theorem length_text (x : Fraction) :
    x.text.length = x.sign.length + (x.whole.length + (x.digits.length + 1)) := by
  simp only [text, List.length_append, List.length_cons]

/-- Each character of a fraction takes one byte. -/
theorem byteLength_text (x : Fraction) : byteLength x.text = x.text.length := by
  have hsign := byteLength_sign (x.text ++ [])
  have hwhole := byteLength_digits (x.whole ++ '.' :: x.digits)
  have hdigits := byteLength_digits (x.digits ++ [])
  rw [spanSign_text] at hsign
  rw [spanDigits_point x.whole_isDigits] at hwhole
  rw [spanDigits_of_avoids x.digits_isDigits.2 (fun _ hc => absurd hc (Option.not_mem_none _))]
    at hdigits
  have hpoint : byteLength ('.' :: x.digits) = x.digits.length + 1 := by
    rw [Text.byteLength_cons, hdigits, Nat.add_comm]
    rfl
  rw [length_text, text, byteLength_append, byteLength_append, hsign, hwhole, hpoint]

/-- A fraction behind which no digit follows is the longest at its place. -/
theorem longest (x : Fraction) (hrest : Avoids isDigit rest) :
    Longest IsFraction (x.text ++ rest) x.text where
  begins := List.prefix_append ..
  hasForm := ⟨x, rfl⟩
  length_le := by
    rintro other ⟨rest', hother⟩ ⟨y, rfl⟩
    obtain ⟨hsign, hwhole, hdigits⟩ := same_beginning hother
    have hle := length_le_of_avoids y.digits_isDigits x.digits_isDigits hrest hdigits
    rw [length_text, length_text, hsign, hwhole]
    omega

/-- A fraction goes on with all digits that follow it. -/
theorem exists_longest (y : Fraction) (rest' : List Char) :
    ∃ (x : Fraction) (rest : List Char),
      y.text ++ rest' = x.text ++ rest ∧ Avoids isDigit rest := by
  let more : List Char := (spanDigits rest').1
  have hmore : ∀ c ∈ more, isDigit c = true := List.all_eq_true.1 List.all_takeWhile
  have hne : y.digits ++ more ≠ [] := fun hnil =>
    y.digits_isDigits.1 (List.append_eq_nil_iff.1 hnil).1
  have hall : ∀ c ∈ y.digits ++ more, isDigit c = true := fun c hc =>
    (List.mem_append.1 hc).elim (y.digits_isDigits.2 c) (hmore c)
  let x : Fraction := { y with digits := y.digits ++ more, digits_isDigits := ⟨hne, hall⟩ }
  refine ⟨x, (spanDigits rest').2, ?_, avoids_spanDigits rest'⟩
  show y.text ++ rest' = x.text ++ (spanDigits rest').2
  rw [text_append, text_append]
  show _ = y.sign ++ (y.whole ++ '.' :: (y.digits ++ more ++ (spanDigits rest').2))
  rw [List.append_assoc, spanDigits_append]

end Fraction

/-- Where a fraction begins there is a longest one, and no digit follows it. -/
theorem Begins.exists_fraction {text : List Char} (h : Begins IsFraction text) :
    ∃ (x : Fraction) (rest : List Char), text = x.text ++ rest ∧ Avoids isDigit rest := by
  obtain ⟨taken, ⟨rest', rfl⟩, y, rfl⟩ := h
  exact y.exists_longest rest'

/-- The longest fraction is one behind which no digit follows. -/
theorem Longest.exists_rest {text : List Char} {x : Fraction}
    (h : Longest IsFraction text x.text) : ∃ rest, text = x.text ++ rest ∧ Avoids isDigit rest := by
  have hbegins : Begins IsFraction text := ⟨x.text, h.begins, x, rfl⟩
  obtain ⟨y, rest, rfl, hrest⟩ := hbegins.exists_fraction
  exact ⟨rest, by rw [h.unique (y.longest hrest)], hrest⟩

/-! ## Numbers -/

/-- Sign and digits behind which no digit follows are the longest integer at their place. -/
theorem longest_integer {sign digits rest : List Char} (hsign : IsSign sign)
    (hdigits : IsDigits digits) (hrest : Avoids isDigit rest) :
    Longest IsInteger (sign ++ (digits ++ rest)) (sign ++ digits) where
  begins := ⟨rest, List.append_assoc ..⟩
  hasForm := ⟨sign, digits, hsign, hdigits, rfl⟩
  length_le := by
    rintro other ⟨rest', hother⟩ ⟨sign', digits', hsign', hdigits', rfl⟩
    have hspan := spanSign_digits hsign hdigits rest
    rw [← hother, List.append_assoc, spanSign_digits hsign' hdigits'] at hspan
    obtain ⟨rfl, hbehind⟩ := Prod.mk.inj hspan
    have hle := length_le_of_avoids hdigits' hdigits hrest hbehind
    simp only [List.length_append]
    omega

namespace Longest

variable {text taken : List Char}

/-- Where a fraction begins, the longest one is the longest number: an integer that begins
there ends in front of the point. -/
theorem number_of_fraction (h : Longest IsFraction text taken) : Longest IsNumber text taken where
  begins := h.begins
  hasForm := .inr h.hasForm
  length_le := by
    intro other hother hform
    rcases hform with hinteger | hfraction
    · obtain ⟨x, rfl⟩ := h.hasForm
      obtain ⟨rest, rfl⟩ := h.begins
      rw [x.text_append] at hother
      have hle :=
        (longest_integer x.isSign x.whole_isDigits (avoids_point _)).length_le other hother hinteger
      rw [x.length_text]
      rw [List.length_append] at hle
      omega
    · exact h.length_le other hother hfraction

/-- Where no fraction begins, the longest integer is the longest number. -/
theorem number_of_integer (h : Longest IsInteger text taken) (hnone : ¬Begins IsFraction text) :
    Longest IsNumber text taken where
  begins := h.begins
  hasForm := .inl h.hasForm
  length_le := by
    intro other hother hform
    rcases hform with hinteger | hfraction
    · exact h.length_le other hother hinteger
    · exact absurd ⟨other, hother, hfraction⟩ hnone

end Longest

end Decimal

/-! ## What the scan takes -/

namespace Primitive

open Decimal

/-- What is made of a fraction that has been taken. -/
def foundFraction (start : Nat) (x : Fraction) : Scan :=
  if x.value.isFinite then .found (.float x.value) (start + byteLength x.text)
  else .overflow (.floatOverflow (String.ofList x.text))

/-- A fraction behind which no digit follows is taken. -/
theorem scanFraction_text (start : Nat) (x : Fraction) {rest : List Char}
    (hrest : Avoids isDigit rest) :
    scanFraction start (x.text ++ rest) = foundFraction start x := by
  have hsome : (x.whole.isEmpty || x.digits.isEmpty) = false := by
    rw [List.isEmpty_eq_false_iff.2 x.whole_isDigits.1,
      List.isEmpty_eq_false_iff.2 x.digits_isDigits.1]
    rfl
  have hwritten : x.sign ++ x.whole ++ '.' :: x.digits = x.text := by
    rw [Fraction.text, List.append_assoc]
  simp only [scanFraction, x.spanSign_text, spanDigits_point x.whole_isDigits,
    spanDigits_of_avoids x.digits_isDigits.2 hrest, hsome, hwritten]
  rw [foundFraction, x.byteLength_text]
  rfl

/-- Where something is found a fraction begins. -/
theorem begins_of_scanFraction {start : Nat} {text : List Char}
    (h : scanFraction start text ≠ .noMatch) : Begins IsFraction text := by
  have hsign := spanSign_append text
  have hwhole := spanDigits_append (spanSign text).2
  unfold scanFraction at h
  simp only at h
  split at h
  case h_2 => exact absurd rfl h
  case h_1 behind hpoint =>
    have hdigits := spanDigits_append behind
    by_cases hempty :
        ((spanDigits (spanSign text).2).1.isEmpty || (spanDigits behind).1.isEmpty) = true
    · rw [if_pos hempty] at h
      exact absurd rfl h
    · rw [Bool.or_eq_true, List.isEmpty_iff, List.isEmpty_iff, not_or] at hempty
      let x : Fraction := ⟨_, _, _, isSign_spanSign text, isDigits_spanDigits hempty.1,
        isDigits_spanDigits hempty.2⟩
      refine ⟨x.text, ⟨(spanDigits behind).2, ?_⟩, x, rfl⟩
      rw [x.text_append]
      show (spanSign text).1 ++ ((spanDigits (spanSign text).2).1 ++
        '.' :: ((spanDigits behind).1 ++ (spanDigits behind).2)) = text
      rw [hdigits, ← hpoint, hwhole, hsign]

variable {src : Source} {start : Nat} {text : List Char}

/-- The longest fraction at an offset is taken, and the whole parse is ended if it is not
finite. -/
theorem scan_fraction_of_longest (hstands : src.Stands start text) {x : Fraction}
    (h : Longest IsFraction text x.text) :
    Primitive.fraction.scan src start = foundFraction start x := by
  obtain ⟨rest, rfl, hrest⟩ := h.exists_rest
  exact (hstands.scanText _).trans (scanFraction_text start x hrest)

/-- Where no fraction begins nothing is found. -/
theorem scan_fraction_of_none (hstands : src.Stands start text)
    (h : ¬Begins IsFraction text) : Primitive.fraction.scan src start = .noMatch := by
  refine (hstands.scanText _).trans ?_
  by_contra hfound
  exact h (begins_of_scanFraction hfound)

end Primitive

end Packrat
