import Mathlib.Tactic.SplitIfs
import Packrat.Text.Quoted
/-!
# Texts between double quotes can be read back

A character is written between double quotes as a backslash and a letter, as a backslash, a `u`
and its number, or as it is. `Text.WrittenAs` says so, with the number in as many hexadecimal
digits as it takes, but four at least. That `Text.escape` always writes four is no loss, because
no control character takes more; and it is what lets a reader tell where a number ends, whatever
digits are in the text behind it.

Reading goes by pairs. A backslash and the character behind it belong together, so a quote ends
the text only where it is not the second of such a pair, and `Text.Paired` says of a text that it
has no other quotes.

## Main definitions

* `Text.WrittenAs` — how a character may be written.
* `Text.Paired` — texts whose quotes are all second in an escape pair.
* `Text.readQuoted` — reads up to the quote that ends a text.

## Main results

* `Text.escapeChar_writtenAs` — characters are written as they may be.
* `Text.unescapeChars_escapeChars` — what is written is read back.
* `Text.Paired.readQuoted_eq` — a text of pairs ends at the quote that is put behind it.
* `Text.escape_lossless` — escaping is lossless, and what it writes can stand between quotes.
-/

namespace Packrat

namespace Text

/-! ## Hexadecimal digits -/

theorem hexDigit_eq_digitChar : ∀ n < 16, hexDigit n = Nat.digitChar n := by decide

theorem hexValue?_hexDigit : ∀ n < 16, hexValue? (hexDigit n) = some n := by decide

/-- Digits are neither quotes nor backslashes nor control characters. -/
theorem hexDigit_plain : ∀ n < 16,
    hexDigit n ≠ '"' ∧ hexDigit n ≠ '\\' ∧ isControl (hexDigit n) = false := by decide

/-- The last digit of a number that is padded with zeros, and the digits before it. -/
theorem leftpad_toDigits (width n : Nat) :
    (Nat.toDigits 16 n).leftpad (width + 2) '0' =
      (Nat.toDigits 16 (n / 16)).leftpad (width + 1) '0' ++ [hexDigit (n % 16)] := by
  rw [hexDigit_eq_digitChar _ (Nat.mod_lt n (by decide))]
  by_cases hsmall : n < 16
  · have hzero : n / 16 = 0 := Nat.div_eq_of_lt hsmall
    rw [hzero, Nat.mod_eq_of_lt hsmall, Nat.toDigits_of_lt_base hsmall,
      Nat.toDigits_of_lt_base (by decide)]
    simp [List.leftpad, List.replicate_succ']
  · rw [Nat.toDigits_of_base_le (by decide) (by omega)]
    simp [List.leftpad]

/-- Four digits are the digits of a number that takes no more, with zeros in front. -/
theorem hexQuad_eq {n : Nat} (h : n < 65536) :
    hexQuad n = (Nat.toDigits 16 n).leftpad 4 '0' := by
  have hfirst : n / 16 / 16 / 16 < 16 := by omega
  rw [leftpad_toDigits, leftpad_toDigits, leftpad_toDigits, Nat.toDigits_of_lt_base hfirst,
    ← hexDigit_eq_digitChar _ hfirst]
  simp only [hexQuad, Nat.div_div_eq_div_mul] at hfirst ⊢
  rw [Nat.mod_eq_of_lt hfirst]
  rfl

/-- Four digits are read back as the character with that number. -/
theorem readQuad?_hexQuad {n : Nat} (h : n < 65536) :
    readQuad? (hexDigit (n / 4096 % 16)) (hexDigit (n / 256 % 16)) (hexDigit (n / 16 % 16))
      (hexDigit (n % 16)) = some (Char.ofNat n) := by
  have hvalue (k : Nat) : hexValue? (hexDigit (k % 16)) = some (k % 16) :=
    hexValue?_hexDigit _ (Nat.mod_lt _ (by decide))
  have hsum : n / 4096 % 16 * 4096 + n / 256 % 16 * 256 + n / 16 % 16 * 16 + n % 16 = n := by omega
  simp only [readQuad?, hvalue, Option.bind_eq_bind, Option.bind_some, hsum]
  rfl

theorem plain_of_mem_hexQuad {n : Nat} {c : Char} (h : c ∈ hexQuad n) :
    c ≠ '"' ∧ c ≠ '\\' ∧ isControl c = false := by
  have hdigit (k : Nat) := hexDigit_plain (k % 16) (Nat.mod_lt _ (by decide))
  simp only [hexQuad, List.mem_cons, List.not_mem_nil, or_false] at h
  rcases h with rfl | rfl | rfl | rfl
  · exact hdigit _
  · exact hdigit _
  · exact hdigit _
  · exact hdigit _

/-! ## How characters are written -/

/-- Letters that are written behind a backslash, with the characters that they stand for. -/
def escapeLetters : List (Char × Char) :=
  [('"', '"'), ('\\', '\\'), ('n', '\n'), ('r', '\r'), ('t', '\t')]

/-- How a character may be written between double quotes. -/
inductive WrittenAs : Char → List Char → Prop
  /-- By a letter that stands for it. -/
  | letter {letter c : Char} (h : (letter, c) ∈ escapeLetters) : WrittenAs c ['\\', letter]
  /-- By its number. -/
  | number {c : Char} (hcontrol : isControl c = true) :
      WrittenAs c ('\\' :: 'u' :: (Nat.toDigits 16 c.toNat).leftpad 4 '0')
  /-- As it is. -/
  | plain {c : Char} (hquote : c ≠ '"') (hslash : c ≠ '\\') (hcontrol : isControl c = false) :
      WrittenAs c [c]

theorem toNat_lt_of_isControl {c : Char} (h : isControl c = true) : c.toNat < 65536 := by
  simp only [isControl, Bool.or_eq_true, Bool.and_eq_true, decide_eq_true_eq] at h
  omega

/-- Characters are written as they may be. -/
theorem escapeChar_writtenAs (c : Char) : WrittenAs c (escapeChar c) := by
  unfold escapeChar
  split_ifs with hquote hslash hlf hcr htab hcontrol
  · subst hquote
    exact .letter (by decide)
  · subst hslash
    exact .letter (by decide)
  · subst hlf
    exact .letter (by decide)
  · subst hcr
    exact .letter (by decide)
  · subst htab
    exact .letter (by decide)
  · rw [hexQuad_eq (toNat_lt_of_isControl hcontrol)]
    exact .number hcontrol
  · exact .plain hquote hslash (by simpa using hcontrol)

/-! ## Reading back -/

theorem unescapeChars_plain {c : Char} (hslash : c ≠ '\\') (rest : List Char) :
    unescapeChars (c :: rest) = (unescapeChars rest).map (c :: ·) := by
  simp [unescapeChars, hslash]

theorem unescapeChars_letter {letter c : Char} (h : (letter, c) ∈ escapeLetters)
    (rest : List Char) :
    unescapeChars ('\\' :: letter :: rest) = (unescapeChars rest).map (c :: ·) := by
  simp only [escapeLetters, List.mem_cons, List.not_mem_nil, Prod.mk.injEq, or_false] at h
  rcases h with ⟨rfl, rfl⟩ | ⟨rfl, rfl⟩ | ⟨rfl, rfl⟩ | ⟨rfl, rfl⟩ | ⟨rfl, rfl⟩ <;>
    simp [unescapeChars]

theorem unescapeChars_number {n : Nat} (h : n < 65536) (rest : List Char) :
    unescapeChars ('\\' :: 'u' :: (hexQuad n ++ rest)) =
      (unescapeChars rest).map (Char.ofNat n :: ·) := by
  simp only [hexQuad, List.cons_append, List.nil_append, unescapeChars, readQuad?_hexQuad h]

/-- A character is read back in front of any text, whether that was written or not. -/
theorem WrittenAs.unescapeChars_eq {c : Char} {written : List Char} (h : WrittenAs c written)
    (rest : List Char) : unescapeChars (written ++ rest) = (unescapeChars rest).map (c :: ·) := by
  cases h with
  | letter hletter => exact unescapeChars_letter hletter rest
  | number hcontrol =>
      have hsmall := toNat_lt_of_isControl hcontrol
      have hread := unescapeChars_number hsmall rest
      rw [Char.ofNat_toNat] at hread
      rw [← hexQuad_eq hsmall]
      exact hread
  | plain _ hslash _ => exact unescapeChars_plain hslash rest

/-- What is written is read back. -/
theorem unescapeChars_escapeChars (text : List Char) :
    unescapeChars (escapeChars text) = some text := by
  induction text with
  | nil => rfl
  | cons c text ih =>
      rw [escapeChars, List.flatMap_cons, (escapeChar_writtenAs c).unescapeChars_eq,
        ← escapeChars, ih]
      rfl

/-- A number ends after four digits, and a backslash that is written itself begins none. -/
example : unescapeChars "\\u0001f\\\\u0041".toList =
    some ['\x01', 'f', '\\', 'u', '0', '0', '4', '1'] := by decide

/-! ## Escape pairs -/

/-- A text of escape pairs and of other characters than quotes and backslashes. -/
inductive Paired : List Char → Prop
  | nil : Paired []
  /-- The second of a pair may be any character. -/
  | pair (c : Char) {rest : List Char} (hrest : Paired rest) : Paired ('\\' :: c :: rest)
  | plain {c : Char} {rest : List Char} (hquote : c ≠ '"') (hslash : c ≠ '\\')
      (hrest : Paired rest) : Paired (c :: rest)

/-- Reads what stands between two quotes, behind the first of them: up to the next quote that is
not the second of an escape pair, and what is behind that. -/
def readQuoted : List Char → Option (List Char × List Char)
  | [] => none
  | ['\\'] => none
  | '\\' :: c :: rest => (readQuoted rest).map fun (text, behind) => ('\\' :: c :: text, behind)
  | c :: rest =>
    if c = '"' then some ([], rest)
    else (readQuoted rest).map fun (text, behind) => (c :: text, behind)

namespace Paired

variable {text rest : List Char}

/-- A text without quotes and backslashes has no pairs. -/
theorem of_plain (h : ∀ c ∈ text, c ≠ '"' ∧ c ≠ '\\') : Paired text := by
  induction text with
  | nil => exact .nil
  | cons c text ih =>
      obtain ⟨hc, htext⟩ := List.forall_mem_cons.1 h
      exact .plain hc.1 hc.2 (ih htext)

theorem append (h : Paired text) (hrest : Paired rest) : Paired (text ++ rest) := by
  induction h with
  | nil => exact hrest
  | pair c _ ih => exact .pair c ih
  | plain hquote hslash _ ih => exact .plain hquote hslash ih

/-- A quote in such a text is the second of a pair. -/
theorem behind_backslash (h : Paired text) {before after : List Char}
    (htext : text = before ++ '"' :: after) :
    ∃ front, before = front ++ ['\\'] ∧ Paired front := by
  induction h generalizing before with
  | nil => simp at htext
  | @pair c rest _ ih =>
      match before with
      | [] => simp at htext
      | [d] =>
          obtain ⟨rfl, -⟩ := List.cons.inj htext
          exact ⟨[], rfl, .nil⟩
      | d :: e :: before =>
          obtain ⟨hd, hpair⟩ := List.cons.inj htext
          obtain ⟨he, hrest⟩ := List.cons.inj hpair
          obtain ⟨front, hbefore, hfront⟩ := ih hrest
          exact ⟨'\\' :: c :: front, by rw [← hd, ← he, hbefore]; rfl, .pair c hfront⟩
  | @plain c rest hquote hslash _ ih =>
      cases before with
      | nil => exact absurd (List.cons.inj htext).1 hquote
      | cons d before =>
          obtain ⟨hd, hrest⟩ := List.cons.inj htext
          obtain ⟨front, hbefore, hfront⟩ := ih hrest
          exact ⟨c :: front, by rw [← hd, hbefore]; rfl, .plain hquote hslash hfront⟩

/-- Such a text ends at the quote that is put behind it. -/
theorem readQuoted_eq (h : Paired text) (behind : List Char) :
    readQuoted (text ++ '"' :: behind) = some (text, behind) := by
  induction h with
  | nil => rfl
  | pair c _ ih =>
      rw [List.cons_append, List.cons_append, readQuoted, ih]
      rfl
  | @plain c rest hquote hslash _ ih =>
      rw [List.cons_append, readQuoted.eq_4 c _ (fun hc _ => hslash hc) fun _ _ hc _ => hslash hc,
        if_neg hquote, ih]
      rfl

end Paired

/-! ## What is written can stand between quotes -/

/-- A character is written in escape pairs and plain characters. -/
theorem WrittenAs.paired {c : Char} {written : List Char} (h : WrittenAs c written) :
    Paired written := by
  cases h with
  | letter => exact .pair _ .nil
  | number hcontrol =>
      rw [← hexQuad_eq (toNat_lt_of_isControl hcontrol)]
      refine .pair 'u' (.of_plain fun d hd => ?_)
      obtain ⟨hquote, hslash, -⟩ := plain_of_mem_hexQuad hd
      exact ⟨hquote, hslash⟩
  | plain hquote hslash _ => exact .plain hquote hslash .nil

/-- No character is written with control characters. -/
theorem WrittenAs.not_control {c : Char} {written : List Char} (h : WrittenAs c written) :
    ∀ d ∈ written, isControl d = false := by
  cases h with
  | letter hletter =>
      have hletters : ∀ entry ∈ escapeLetters, isControl entry.1 = false := by decide
      simpa using ⟨by decide, hletters _ hletter⟩
  | number hcontrol =>
      rw [← hexQuad_eq (toNat_lt_of_isControl hcontrol)]
      simpa using ⟨by decide, by decide, fun d hd => (plain_of_mem_hexQuad hd).2.2⟩
  | plain _ _ hcontrol => exact List.forall_mem_singleton.2 hcontrol

theorem escapeChars_paired (text : List Char) : Paired (escapeChars text) := by
  induction text with
  | nil => exact .nil
  | cons c text ih => exact (escapeChar_writtenAs c).paired.append ih

theorem escapeChars_not_control (text : List Char) :
    ∀ d ∈ escapeChars text, isControl d = false := by
  intro d hd
  obtain ⟨c, -, hmem⟩ := List.mem_flatMap.1 hd
  exact (escapeChar_writtenAs c).not_control d hmem

/-- What is written can stand between quotes: it shows no control character, and no quote in it
ends it. -/
structure Quotable (written : List Char) : Prop where
  not_control : ∀ c ∈ written, isControl c = false
  /-- In front of a quote there is a backslash, which is not the second of a pair itself. -/
  quote_second : ∀ before after, written = before ++ '"' :: after →
    ∃ front, before = front ++ ['\\'] ∧ Paired front
  /-- It ends where the quote is that is put behind it. -/
  ends : ∀ behind, readQuoted (written ++ '"' :: behind) = some (written, behind)

/-- Escaping is lossless: what is written is read back, so that no two texts are written alike.
And it is safe: what is written can stand between quotes. -/
theorem escape_lossless :
    (∀ s, unescape (escape s) = some s) ∧ Function.Injective escape ∧
      ∀ s, Quotable (escape s).toList := by
  have hread (s : String) : unescape (escape s) = some s := by
    rw [unescape, escape, String.toList_ofList, unescapeChars_escapeChars, Option.map_some,
      String.ofList_toList]
  refine ⟨hread, fun s t hst => ?_, fun s => ?_⟩
  · have hboth : some s = some t := by rw [← hread s, hst, hread t]
    exact Option.some.inj hboth
  · rw [escape, String.toList_ofList]
    have hpaired := escapeChars_paired s.toList
    exact
      { not_control := escapeChars_not_control s.toList
        quote_second := fun before after => hpaired.behind_backslash
        ends := hpaired.readQuoted_eq }

end Text

end Packrat
