import Packrat.Primitive
/-!
# Primitive parsers take parts of the source

Each primitive computes where its match ends in its own way: from the bytes of
a character, of a given text, of a sign and digits, or of a regular expression.
Here each way is traced back to a text that stands at the offset, and from then
on only `Source.IsPart` is left.

## Main results

* `Scan.Sliced` — what is found, or quoted in an error, is a part of the source
  at the offset, and groups lie inside it.
* `scan_sliced` — every primitive finds such parts.
* `scan_reaches` — where a match of a primitive may end, at any offset.
-/

namespace Packrat

open Text (byteLength byteLength_append byteLength_cons byteLength_nil)

namespace Decimal

/-- A digit takes one byte. -/
theorem utf8Size_of_isDigit {c : Char} (h : isDigit c = true) : c.utf8Size = 1 := by
  simp only [isDigit, Bool.and_eq_true, decide_eq_true_eq] at h
  have hle : c.val ≤ ('9' : Char).val := h.2
  have hval : c.val.toNat ≤ 57 := hle
  simp only [Char.utf8Size]
  rw [if_pos (by rw [UInt32.le_iff_toNat_le]; exact Nat.le_trans hval (by decide))]

/-- Digits take one byte each. -/
theorem byteLength_digits (text : List Char) :
    byteLength (spanDigits text).1 = (spanDigits text).1.length := by
  simp only [spanDigits]
  induction text with
  | nil => rfl
  | cons c rest ih =>
      rw [List.takeWhile_cons]
      split
      case isTrue hdigit =>
        rw [byteLength_cons, List.length_cons, ih, utf8Size_of_isDigit hdigit, Nat.add_comm]
      case isFalse => rfl

/-- The digits and what follows them make up the text. -/
theorem spanDigits_append (text : List Char) :
    (spanDigits text).1 ++ (spanDigits text).2 = text :=
  List.takeWhile_append_dropWhile

/-- The sign and what follows it make up the text. -/
theorem spanSign_append (text : List Char) : (spanSign text).1 ++ (spanSign text).2 = text := by
  cases text with
  | nil => rfl
  | cons c rest =>
      simp only [spanSign]
      split <;> rfl

/-- A sign takes one byte. -/
theorem byteLength_sign (text : List Char) :
    byteLength (spanSign text).1 = (spanSign text).1.length := by
  cases text with
  | nil => rfl
  | cons c rest =>
      simp only [spanSign]
      split
      case isTrue hsign => rcases hsign with rfl | rfl <;> rfl
      case isFalse => rfl

end Decimal

/-- What a primitive finds at an offset is a part of the source that begins
there, with the groups of a regular expression inside it; and so is the text
that an error quotes. -/
def Scan.Sliced (src : Source) (start : Nat) : Scan → Prop
  | .noMatch => True
  | .found value stop =>
    src.IsPart start stop ∧
      ∀ captures, value = .captures captures → ∀ group, some group ∈ captures.groups →
        src.IsPart group.start group.stop ∧ start ≤ group.start ∧ group.stop ≤ stop ∧
          group.text = String.ofList (src.slice group.start group.stop)
  | .overflow error =>
    ∃ stop, src.IsPart start stop ∧
      (error = .tooLarge (String.ofList (src.slice start stop)) ∨
        error = .floatOverflow (String.ofList (src.slice start stop)))

namespace Primitive

variable {src : Source} {start : Nat}

/-- A primitive that has no groups finds a part if it takes a text. -/
private theorem sliced_found {before : Option Char} {taken rest : List Char} {value : Value}
    (hplace : src.cursor? start = some ⟨before, taken ++ rest⟩)
    (hvalue : ∀ captures, value ≠ .captures captures) :
    Scan.Sliced src start (.found value (start + byteLength taken)) :=
  ⟨.of_text hplace, fun captures h => absurd h (hvalue captures)⟩

/-- An error quotes a part if it quotes a text at the offset. -/
private theorem sliced_tooLarge {before : Option Char} {taken rest : List Char}
    (hplace : src.cursor? start = some ⟨before, taken ++ rest⟩) :
    Scan.Sliced src start (.overflow (.tooLarge (String.ofList taken))) :=
  ⟨_, .of_text hplace, .inl (by rw [Source.slice_advance hplace])⟩

private theorem sliced_floatOverflow {before : Option Char} {taken rest : List Char}
    (hplace : src.cursor? start = some ⟨before, taken ++ rest⟩) :
    Scan.Sliced src start (.overflow (.floatOverflow (String.ofList taken))) :=
  ⟨_, .of_text hplace, .inr (by rw [Source.slice_advance hplace])⟩

/-! ## One lemma for each way of scanning a text -/

private theorem scanChar_sliced (accepts : Char → Bool) {before : Option Char}
    {text : List Char} (hplace : src.cursor? start = some ⟨before, text⟩) :
    Scan.Sliced src start (scanChar accepts start text) := by
  cases text with
  | nil => trivial
  | cons c rest =>
      simp only [scanChar]
      split
      case isTrue =>
        have h : Scan.Sliced src start (.found (.char c) (start + byteLength [c])) :=
          sliced_found hplace (by simp)
        rwa [byteLength_cons, byteLength_nil, Nat.add_zero] at h
      case isFalse => trivial

private theorem scanString_sliced (expected : String) {before : Option Char}
    {text : List Char} (hplace : src.cursor? start = some ⟨before, text⟩) :
    Scan.Sliced src start (scanString expected start text) := by
  simp only [scanString]
  split
  case isTrue hprefix =>
    obtain ⟨rest, rfl⟩ := List.isPrefixOf_iff_prefix.1 hprefix
    exact sliced_found hplace (by simp)
  case isFalse => trivial

private theorem scanUnsigned_sliced {before : Option Char} {text : List Char}
    (hplace : src.cursor? start = some ⟨before, text⟩) :
    Scan.Sliced src start (scanUnsigned start text) := by
  have hlength := Decimal.byteLength_digits text
  rw [← Decimal.spanDigits_append text] at hplace
  simp only [scanUnsigned]
  split
  · trivial
  · split
    · rw [← hlength]
      exact sliced_found hplace (by simp)
    · exact sliced_tooLarge hplace

private theorem scanSigned_sliced {before : Option Char} {text : List Char}
    (hplace : src.cursor? start = some ⟨before, text⟩) :
    Scan.Sliced src start (scanSigned start text) := by
  have hsign := Decimal.byteLength_sign text
  have hdigits := Decimal.byteLength_digits (Decimal.spanSign text).2
  rw [← Decimal.spanSign_append text, ← Decimal.spanDigits_append (Decimal.spanSign text).2,
    ← List.append_assoc] at hplace
  simp only [scanSigned]
  split
  · trivial
  · split
    · rw [Nat.add_assoc, ← hsign, ← hdigits, ← byteLength_append]
      exact sliced_found hplace (by simp)
    · exact sliced_tooLarge hplace

private theorem scanFraction_sliced {before : Option Char} {text : List Char}
    (hplace : src.cursor? start = some ⟨before, text⟩) :
    Scan.Sliced src start (scanFraction start text) := by
  have hsign := Decimal.byteLength_sign text
  have hwhole := Decimal.byteLength_digits (Decimal.spanSign text).2
  rw [← Decimal.spanSign_append text, ← Decimal.spanDigits_append (Decimal.spanSign text).2]
    at hplace
  simp only [scanFraction]
  split
  case h_1 rest hrest =>
    have hdigits := Decimal.byteLength_digits rest
    rw [hrest, ← Decimal.spanDigits_append rest, ← List.cons_append, ← List.append_assoc,
      ← List.append_assoc] at hplace
    split
    · trivial
    · split
      · have hlength : byteLength ((Decimal.spanSign text).1 ++
            (Decimal.spanDigits (Decimal.spanSign text).2).1 ++
              '.' :: (Decimal.spanDigits rest).1) =
            ((Decimal.spanSign text).1 ++ (Decimal.spanDigits (Decimal.spanSign text).2).1 ++
              '.' :: (Decimal.spanDigits rest).1).length := by
          simp only [byteLength_append, byteLength_cons, List.length_append, List.length_cons,
            hsign, hwhole, hdigits]
          rw [show ('.' : Char).utf8Size = 1 by decide]
          omega
        rw [← hlength]
        exact sliced_found hplace (by simp)
      · exact sliced_floatOverflow hplace
  case h_2 => trivial

/-- What a regular expression captures at an offset are the groups of the match there. -/
theorem captured?_eq_some_iff {expr : Regex} {mode : Regex.Mode} {captures : Captures}
    {stop : Nat} :
    captured? expr mode src start = some (captures, stop) ↔
      src.isBoundary start = true ∧ ∃ groups whole,
        expr.captures mode src start = some groups ∧ groups.whole? = some whole ∧
          captures = capturesOf src expr.groupNames groups ∧ stop = whole.stop := by
  unfold captured?
  split
  case isTrue hstart =>
    simp only [Option.bind_eq_bind, Option.bind_eq_some_iff, Option.pure_def, Option.some.injEq,
      Prod.mk.injEq, hstart, true_and]
    constructor
    · rintro ⟨groups, hgroups, whole, hwhole, rfl, rfl⟩
      exact ⟨groups, whole, hgroups, hwhole, rfl, rfl⟩
    · rintro ⟨groups, whole, hgroups, hwhole, rfl, rfl⟩
      exact ⟨groups, hgroups, whole, hwhole, rfl, rfl⟩
  case isFalse hstart => exact ⟨nofun, fun h => absurd h.1 hstart⟩

/-- A group that is captured takes a span inside the whole match. -/
theorem exists_span {groups : Regex.Groups} {whole : Regex.Span} {names : List (Option String)}
    (h : groups.Spanned src whole) {group : Group}
    (hgroup : some group ∈ (capturesOf src names groups).groups) :
    ∃ span, group = groupOf src span ∧ span.Within src whole.start whole.stop := by
  obtain ⟨_, hspan, hmap⟩ := List.mem_map.1 hgroup
  obtain ⟨span, rfl, rfl⟩ := Option.map_eq_some_iff.1 hmap
  exact ⟨span, rfl, h.within span hspan⟩

private theorem scanRegex_sliced (expr : Regex) (mode : Regex.Mode) :
    Scan.Sliced src start (scanRegex expr mode src start) := by
  simp only [scanRegex]
  split
  case h_1 => trivial
  case h_2 captures stop hcaptured =>
    obtain ⟨hstart, groups, whole, hgroups, hwhole, rfl, rfl⟩ := captured?_eq_some_iff.1 hcaptured
    obtain ⟨whole', hspanned, hle⟩ := expr.spanned hstart (Regex.search_of_captures hgroups)
    obtain rfl := Option.some.inj (hspanned.whole_eq.symm.trans hwhole)
    have hpart := hspanned.isPart
    refine ⟨⟨hstart, hpart.stop_isBoundary, Nat.le_trans hle hpart.start_le_stop⟩,
      fun captures hcaptures group hgroup => ?_⟩
    obtain rfl := Value.captures.inj hcaptures
    obtain ⟨span, rfl, hwithin⟩ := exists_span hspanned hgroup
    exact ⟨hwithin.isPart, Nat.le_trans hle hwithin.start_le, hwithin.stop_le, rfl⟩

/-- Looking at the text at a boundary is looking from there on. -/
private theorem scanText_sliced {look : Nat → List Char → Scan}
    (hlook : ∀ {before text}, src.cursor? start = some ⟨before, text⟩ →
      Scan.Sliced src start (look start text)) :
    Scan.Sliced src start (scanText src start look) := by
  simp only [scanText]
  split
  case h_1 => trivial
  case h_2 place hplace => exact hlook hplace

/-! ## All primitives -/

/-- From a boundary every primitive finds parts of the source. -/
theorem scan_sliced (p : Primitive) (hstart : src.isBoundary start = true) :
    Scan.Sliced src start (p.scan src start) := by
  have hhere : Scan.Sliced src start (.found .unit start) :=
    ⟨.empty hstart, fun captures h => by simp [Value.unit] at h⟩
  cases p with
  | char expected => exact scanText_sliced (scanChar_sliced _)
  | string expected => exact scanText_sliced (scanString_sliced expected)
  | any => exact scanText_sliced (scanChar_sliced _)
  | charWhere description accepts => exact scanText_sliced (scanChar_sliced accepts)
  | regex expr mode => exact scanRegex_sliced expr mode
  | startOfInput =>
      simp only [scan]
      split
      · exact hhere
      · trivial
  | endOfInput =>
      simp only [scan]
      split
      · exact hhere
      · trivial
  | unsigned => exact scanText_sliced scanUnsigned_sliced
  | signed => exact scanText_sliced scanSigned_sliced
  | fraction => exact scanText_sliced scanFraction_sliced

/-- Nothing is found at an offset that is no boundary, except for the ends of
the source, which take nothing. -/
theorem scan_of_not_isBoundary (p : Primitive) (hstart : src.isBoundary start = false) :
    p.scan src start = .noMatch ∨ p.scan src start = .found .unit start := by
  have hnone := Source.cursor?_of_not_isBoundary hstart
  cases p with
  | startOfInput => by_cases h : start = 0 <;> simp [scan, h]
  | endOfInput => by_cases h : start = src.size <;> simp [scan, h]
  | regex expr mode => simp [scan, scanRegex, captured?, hstart]
  | char | string | any | charWhere | unsigned | signed | fraction => simp [scan, scanText, hnone]

/-- Where a match of a primitive ends is reached from where it begins. -/
theorem scan_reaches (p : Primitive) {value : Value} {stop : Nat}
    (h : p.scan src start = .found value stop) : src.Reaches start stop := by
  by_cases hstart : src.isBoundary start = true
  · have hsliced := p.scan_sliced hstart
    rw [h] at hsliced
    exact .of_isPart hsliced.1
  · rcases p.scan_of_not_isBoundary (Bool.not_eq_true _ ▸ hstart) with hscan | hscan
    · simp [h] at hscan
    · rw [h, Scan.found.injEq] at hscan
      rw [hscan.2]
      exact .refl src start

end Primitive

end Packrat
