import Mathlib.Data.List.Chain
import Packrat.Proofs.Lines
/-!
# Lines and the breaks between them

A text is read once, from its start, when its breaks are found and when its lines are cut off.
The relation `Text.Lined` says what a text, its breaks and its lines have to do with each other:
the text is a line without breaks, or such a line, a break and a text that is lined in turn. All
that is said here of breaks and lines together is an induction on it.

Neither the breaks nor the lines depend on having read the text from its start. Whether a break
begins at an offset shows in the characters next to it, and a line is what stands between two
breaks. The one place where care is needed is a `\n` behind a `\r`, which ends a break but begins
none; so the induction for the breaks assumes that it does not begin there.

## Main definitions

* `Text.IsBreak` — texts that end a line.
* `Text.Lined` — a text with its breaks and its lines.
* `Source.lineBreakAt?` — the break that begins at an offset, by the characters next to it.
* `Source.linesBetween` — the slices of a source between breaks.

## Main results

* `Text.lined` — the breaks and the lines that are found are those of the text.
* `Source.lineBreaks_eq_scan` — breaks are found by looking at each offset for itself.
* `Source.lines_exact` — lines and breaks make up the source, and its lines are those of the
  normalized text.
-/

namespace Packrat

namespace Text

/-! ## Breaks and lines of a text -/

/-- What ends a line in front of a text: a `\n`, a `\r\n`, or a `\r` that no `\n` follows. -/
inductive IsBreak : List Char → List Char → Prop
  | lineFeed (rest : List Char) : IsBreak ['\n'] rest
  | crLf (rest : List Char) : IsBreak ['\r', '\n'] rest
  | carriageReturn {rest : List Char} (h : rest.head? ≠ some '\n') : IsBreak ['\r'] rest

/-- A text without breaks. -/
def Breakless (line : List Char) : Prop := '\r' ∉ line ∧ '\n' ∉ line

/-- A text whose first byte stands at an offset, with its breaks and its lines. -/
inductive Lined : Nat → List Char → List LineBreak → List (List Char) → Prop
  /-- A text without breaks is one line. -/
  | last {line : List Char} (offset : Nat) (hline : Breakless line) : Lined offset line [] [line]
  /-- Any other text is a line, a break, and a text. -/
  | more {offset : Nat} {line ending rest : List Char} {breaks : List LineBreak}
      {lines : List (List Char)} (hline : Breakless line) (hend : IsBreak ending rest)
      (hrest : Lined (offset + byteLength line + byteLength ending) rest breaks lines) :
      Lined offset (line ++ (ending ++ rest))
        (⟨offset + byteLength line, offset + byteLength line + byteLength ending⟩ :: breaks)
        (line :: lines)

theorem IsBreak.byteLength_pos {ending rest : List Char} (h : IsBreak ending rest) :
    0 < byteLength ending := by
  cases h <;> decide

theorem Breakless.nil : Breakless [] := ⟨List.not_mem_nil, List.not_mem_nil⟩

theorem Breakless.cons {c : Char} {line : List Char} (hc : ¬(c = '\r' ∨ c = '\n'))
    (h : Breakless line) : Breakless (c :: line) := by
  obtain ⟨hcr, hlf⟩ := not_or.1 hc
  exact ⟨List.not_mem_cons_of_ne_of_not_mem (Ne.symm hcr) h.1,
    List.not_mem_cons_of_ne_of_not_mem (Ne.symm hlf) h.2⟩

namespace Lined

variable {offset : Nat} {text : List Char} {breaks : List LineBreak} {lines : List (List Char)}

/-- A character that is no part of a break goes to the first line. -/
theorem cons {c : Char} (hc : ¬(c = '\r' ∨ c = '\n'))
    (h : Lined (offset + c.utf8Size) text breaks lines) :
    Lined offset (c :: text) breaks (consFirst c lines) := by
  cases h with
  | last _ hline => exact .last offset (hline.cons hc)
  | @more _ line _ _ _ _ hline hend hrest =>
      have hsize : offset + c.utf8Size + byteLength line = offset + byteLength (c :: line) := by
        rw [byteLength_cons, Nat.add_assoc]
      rw [hsize] at hrest ⊢
      exact .more (hline.cons hc) hend hrest

/-- A break in front of a text ends an empty line. -/
theorem break_cons {ending : List Char} (hend : IsBreak ending text)
    (h : Lined (offset + byteLength ending) text breaks lines) :
    Lined offset (ending ++ text) (⟨offset, offset + byteLength ending⟩ :: breaks)
      ([] :: lines) :=
  .more Breakless.nil hend h

end Lined

/-- No `\n` follows a `\r` that is the first of no `\r\n`. -/
theorem head?_ne_lineFeed {c : Char} {rest : List Char}
    (hjoined : ∀ after, c = '\r' → rest = '\n' :: after → False) (hc : c = '\r') :
    rest.head? ≠ some '\n' := by
  intro hhead
  obtain ⟨after, hrest⟩ := List.head?_eq_some_iff.1 hhead
  exact hjoined after hc hrest

/-- The breaks and the lines that are found in a text are those of the text. -/
theorem lined (text : List Char) (offset : Nat) :
    Lined offset text (lineBreaksFrom offset text) (splitLines text) := by
  induction text using splitLines.induct generalizing offset with
  | case1 rest ih =>
      rw [lineBreaksFrom, splitLines]
      exact .break_cons (.crLf rest) (ih (offset + 2))
  | case2 c rest hjoined hbreak ih =>
      rw [lineBreaksFrom.eq_2 offset c rest hjoined, splitLines.eq_2 c rest hjoined,
        if_pos hbreak, if_pos hbreak]
      rcases hbreak with rfl | rfl
      · exact .break_cons (.carriageReturn (head?_ne_lineFeed hjoined rfl)) (ih (offset + 1))
      · exact .break_cons (.lineFeed rest) (ih (offset + 1))
  | case3 c rest hjoined hother ih =>
      rw [lineBreaksFrom.eq_2 offset c rest hjoined, splitLines.eq_2 c rest hjoined,
        if_neg hother, if_neg hother]
      exact .cons hother (ih (offset + c.utf8Size))
  | case4 => exact .last offset Breakless.nil

namespace Lined

variable {offset : Nat} {text : List Char} {breaks : List LineBreak} {lines : List (List Char)}

theorem breakless (h : Lined offset text breaks lines) : ∀ line ∈ lines, Breakless line := by
  induction h with
  | last _ hline => exact List.forall_mem_singleton.2 hline
  | more hline _ _ ih => exact List.forall_mem_cons.2 ⟨hline, ih⟩

theorem start_lt_stop (h : Lined offset text breaks lines) : ∀ b ∈ breaks, b.start < b.stop := by
  induction h with
  | last => exact fun _ hb => nomatch hb
  | more _ hend _ ih =>
      exact List.forall_mem_cons.2 ⟨Nat.lt_add_of_pos_right hend.byteLength_pos, ih⟩

/-- No break begins in front of the text. -/
theorem le_start (h : Lined offset text breaks lines) : ∀ b ∈ breaks, offset ≤ b.start := by
  induction h with
  | last => exact fun _ hb => nomatch hb
  | more _ _ _ ih =>
      refine List.forall_mem_cons.2 ⟨Nat.le_add_right _ _, fun b hb => ?_⟩
      have hstart := ih b hb
      omega

/-- Each break ends before the next one begins. -/
theorem ordered (h : Lined offset text breaks lines) :
    breaks.IsChain fun b next => b.stop ≤ next.start := by
  induction h with
  | last => exact .nil
  | more _ _ hrest ih =>
      refine List.isChain_cons.2 ⟨fun next hnext => ?_, ih⟩
      exact hrest.le_start next (List.mem_of_head? hnext)

end Lined

/-- A text without `\r` has the lines that it is cut into at each `\n`. -/
theorem splitLines_eq_splitOn {text : List Char} (h : '\r' ∉ text) :
    splitLines text = text.splitOn '\n' := by
  induction text with
  | nil => rfl
  | cons c rest ih =>
      have hcr : c ≠ '\r' := fun hc => h (hc ▸ List.mem_cons_self ..)
      have hrest := ih fun hmem => h (List.mem_cons_of_mem _ hmem)
      rw [splitLines.eq_2 c rest fun _ hc _ => hcr hc, List.splitOn_cons_eq_if_modifyHead, hrest]
      by_cases hlf : c = '\n'
      · rw [if_pos (.inr hlf), if_pos (beq_iff_eq.2 hlf)]
      · rw [if_neg (not_or.2 ⟨hcr, hlf⟩), if_neg (by simpa using hlf)]
        cases hlines : rest.splitOn '\n' with
        | nil => exact absurd hlines (List.splitOn_ne_nil _ _)
        | cons line lines => rfl

end Text

open Text

/-! ## Looking at each offset for itself -/

/-- The break that begins at a place of a text, whose offset is given. -/
def Cursor.lineBreak? (place : Cursor) (offset : Nat) : Option LineBreak :=
  match place.rest with
  | '\r' :: '\n' :: _ => some ⟨offset, offset + 2⟩
  | '\r' :: _ => some ⟨offset, offset + 1⟩
  | '\n' :: _ => if place.before = some '\r' then none else some ⟨offset, offset + 1⟩
  | _ => none

section LineBreak

variable {before : Option Char} {c : Char} {rest : List Char}

/-- A break begins with a `\r` or a `\n`, unless a `\r` is in front of the `\n`. -/
theorem Cursor.lineBreak?_of_break (hbreak : c = '\r' ∨ c = '\n')
    (hjoined : ∀ after, c = '\r' → rest = '\n' :: after → False)
    (hbefore : ¬(before = some '\r' ∧ c = '\n')) (offset : Nat) :
    lineBreak? ⟨before, c :: rest⟩ offset = some ⟨offset, offset + 1⟩ := by
  rcases hbreak with rfl | rfl
  · cases rest with
    | nil => rfl
    | cons d rest =>
        have hd : d ≠ '\n' := fun hd => hjoined rest rfl (by rw [hd])
        simp [lineBreak?, hd]
  · have hfirst : before ≠ some '\r' := fun h => hbefore ⟨h, rfl⟩
    simp [lineBreak?, hfirst]

theorem Cursor.lineBreak?_of_other (hother : ¬(c = '\r' ∨ c = '\n')) (offset : Nat) :
    lineBreak? ⟨before, c :: rest⟩ offset = none := by
  obtain ⟨hcr, hlf⟩ := not_or.1 hother
  simp [lineBreak?, hcr, hlf]

end LineBreak

namespace Source

variable {src : Source}

/-- The break that begins at an offset. It depends on the characters next to the offset alone:
on the one before it and on the two behind it. -/
def lineBreakAt? (src : Source) (offset : Nat) : Option LineBreak :=
  (src.cursor? offset).bind (·.lineBreak? offset)

/-- At the offsets of a character there is at most the break that the character begins. -/
theorem scan_char {offset : Nat} {before : Option Char} {c : Char} {rest : List Char}
    (h : src.cursor? offset = some ⟨before, c :: rest⟩) :
    (List.range' offset (byteLength (c :: rest))).filterMap src.lineBreakAt? =
      (Cursor.lineBreak? ⟨before, c :: rest⟩ offset).toList ++
        (List.range' (offset + c.utf8Size) (byteLength rest)).filterMap src.lineBreakAt? := by
  obtain ⟨more, hmore⟩ := Nat.exists_eq_succ_of_ne_zero (Nat.ne_of_gt c.utf8Size_pos)
  have hinside : (List.range' (offset + 1) more).filterMap src.lineBreakAt? = [] := by
    refine List.filterMap_eq_nil_iff.2 fun o ho => ?_
    have hbounds := List.mem_range'_1.1 ho
    cases hthere : src.cursor? o with
    | none => rw [lineBreakAt?, hthere]; rfl
    | some place =>
        have hnext := next_le h hthere (by omega)
        omega
  have hhere : src.lineBreakAt? offset = Cursor.lineBreak? ⟨before, c :: rest⟩ offset := by
    rw [lineBreakAt?, h]
    rfl
  have hsplit : List.range' offset (byteLength (c :: rest)) =
      offset :: (List.range' (offset + 1) more ++
        List.range' (offset + c.utf8Size) (byteLength rest)) := by
    rw [byteLength_cons, hmore, Nat.succ_add, List.range'_succ, ← List.range'_append_1,
      Nat.succ_eq_add_one, Nat.add_assoc, Nat.add_comm 1 more]
  rw [hsplit, List.filterMap_cons, List.filterMap_append, hinside, List.nil_append, hhere]
  cases Cursor.lineBreak? ⟨before, c :: rest⟩ offset <;> rfl

/-- The breaks of the text that stands at an offset are found by looking at each offset from
there on for itself, unless the offset is inside a `\r\n`. -/
theorem scan_eq {text : List Char} {offset : Nat} {before : Option Char}
    (h : src.cursor? offset = some ⟨before, text⟩)
    (hapart : ¬(before = some '\r' ∧ text.head? = some '\n')) :
    (List.range' offset (byteLength text)).filterMap src.lineBreakAt? =
      lineBreaksFrom offset text := by
  induction text using splitLines.induct generalizing offset before with
  | case1 rest ih =>
      have hlineFeed := cursor?_char h
      have hrest := ih (cursor?_char hlineFeed) (by simp)
      rw [scan_char h, scan_char hlineFeed, hrest]
      rfl
  | case2 c rest hjoined hbreak ih =>
      have hnext : ¬(some c = some '\r' ∧ rest.head? = some '\n') :=
        fun hboth => head?_ne_lineFeed hjoined (Option.some.inj hboth.1) hboth.2
      have hbefore : ¬(before = some '\r' ∧ c = '\n') :=
        fun hboth => hapart ⟨hboth.1, congrArg some hboth.2⟩
      rw [scan_char h, ih (cursor?_char h) hnext, lineBreaksFrom.eq_2 offset c rest hjoined,
        if_pos hbreak, Cursor.lineBreak?_of_break hbreak hjoined hbefore]
      rcases hbreak with rfl | rfl <;> rfl
  | case3 c rest hjoined hother ih =>
      have hnext : ¬(some c = some '\r' ∧ rest.head? = some '\n') :=
        fun hboth => hother (.inl (Option.some.inj hboth.1))
      rw [scan_char h, ih (cursor?_char h) hnext, lineBreaksFrom.eq_2 offset c rest hjoined,
        if_neg hother, Cursor.lineBreak?_of_other hother]
      rfl
  | case4 => rfl

/-- The breaks of a source are found by looking at each of its offsets for itself. -/
theorem lineBreaks_eq_scan (src : Source) :
    lineBreaks src.text = (List.range src.size).filterMap src.lineBreakAt? := by
  rw [List.range_eq_range', src.size_eq, scan_eq src.cursor?_zero (by simp)]
  rfl

/-- In a run of breaks only the `\n` behind a `\r` begins none. -/
example : (List.range 4).filterMap (Source.ofString "\r\r\n\n").lineBreakAt? =
    [⟨0, 1⟩, ⟨1, 3⟩, ⟨3, 4⟩] := by decide

/-! ## Breaks and lines of a source -/

/-- The slices of a source from an offset on, up to the first break, between the breaks, and
behind the last one. -/
def linesBetween (src : Source) (offset : Nat) : List LineBreak → List (List Char)
  | [] => [src.suffix offset]
  | b :: breaks => src.slice offset b.start :: src.linesBetween b.stop breaks

/-- The texts of breaks. -/
def breakTexts (src : Source) (breaks : List LineBreak) : List (List Char) :=
  breaks.map fun b => src.slice b.start b.stop

section Lined

variable {offset : Nat} {before : Option Char} {text : List Char} {breaks : List LineBreak}
  {lines : List (List Char)}

/-- Where a line and its break end in a source, and what they span. -/
theorem cut_line {line ending rest : List Char}
    (h : src.cursor? offset = some ⟨before, line ++ (ending ++ rest)⟩) :
    src.slice offset (offset + byteLength line) = line ∧
      src.IsPart (offset + byteLength line) (offset + byteLength line + byteLength ending) ∧
      src.slice (offset + byteLength line) (offset + byteLength line + byteLength ending) =
        ending ∧
      ∃ last, src.cursor? (offset + byteLength line + byteLength ending) = some ⟨last, rest⟩ := by
  obtain ⟨_, hending⟩ := cursor?_advance h
  exact ⟨slice_advance h, .of_text hending, slice_advance hending, cursor?_advance hending⟩

/-- Breaks of a source are parts of it, and texts that end lines. -/
theorem isBreak_of_lined (hlined : Lined offset text breaks lines)
    (h : src.cursor? offset = some ⟨before, text⟩) :
    ∀ b ∈ breaks, src.IsPart b.start b.stop ∧
      IsBreak (src.slice b.start b.stop) (src.suffix b.stop) := by
  induction hlined generalizing before with
  | last => exact fun _ hb => nomatch hb
  | @more offset line ending rest _ _ _ hend _ ih =>
      obtain ⟨-, hpart, hslice, _, hrest⟩ := cut_line h
      refine List.forall_mem_cons.2 ⟨⟨hpart, ?_⟩, ih hrest⟩
      have hsuffix : src.suffix (offset + byteLength line + byteLength ending) = rest := by
        simp only [suffix, hrest]
      rw [hslice, hsuffix]
      exact hend

/-- Lines of a source are its slices between breaks. -/
theorem linesBetween_of_lined (hlined : Lined offset text breaks lines)
    (h : src.cursor? offset = some ⟨before, text⟩) : lines = src.linesBetween offset breaks := by
  induction hlined generalizing before with
  | last => simp only [linesBetween, suffix, h]
  | more _ _ _ ih =>
      obtain ⟨hline, -, -, _, hrest⟩ := cut_line h
      rw [linesBetween, hline, ← ih hrest]

/-- Each line with the break behind it, and the last line, make up the text. -/
theorem flatten_of_lined (hlined : Lined offset text breaks lines)
    (h : src.cursor? offset = some ⟨before, text⟩) :
    (List.zipWith (· ++ ·) lines (src.breakTexts breaks ++ [[]])).flatten = text := by
  induction hlined generalizing before with
  | last => simp [breakTexts]
  | more _ _ _ ih =>
      obtain ⟨-, -, hbreak, _, hrest⟩ := cut_line h
      rw [breakTexts, List.map_cons, hbreak, List.cons_append, List.zipWith_cons_cons,
        List.flatten_cons, List.append_assoc]
      exact congrArg _ (congrArg _ (ih hrest))

end Lined

/-- How the breaks and the lines of a source make it up. -/
structure LinesExact (src : Source) : Prop where
  /-- Whether a break begins at an offset is seen from the characters next to it. -/
  breaks_eq : lineBreaks src.text = (List.range src.size).filterMap src.lineBreakAt?
  start_lt_stop : ∀ b ∈ lineBreaks src.text, b.start < b.stop
  /-- No break begins before the one in front of it has ended. -/
  ordered : (lineBreaks src.text).IsChain fun b next => b.stop ≤ next.start
  /-- A break is a `\n`, a `\r\n`, or a `\r` that no `\n` follows. -/
  isBreak : ∀ b ∈ lineBreaks src.text, src.IsPart b.start b.stop ∧
    IsBreak (src.slice b.start b.stop) (src.suffix b.stop)
  /-- The lines are cut off at the breaks. -/
  lines_eq : splitLines src.text = src.linesBetween 0 (lineBreaks src.text)
  length_eq : (splitLines src.text).length = (lineBreaks src.text).length + 1
  /-- Nothing is lost: lines and breaks in turn are the source. -/
  flatten_eq : (List.zipWith (· ++ ·) (splitLines src.text)
    (src.breakTexts (lineBreaks src.text) ++ [[]])).flatten = src.text
  breakless : ∀ line ∈ splitLines src.text, '\r' ∉ line ∧ '\n' ∉ line
  /-- The lines are the pieces of the normalized text between its `\n`. -/
  normalized : splitLines src.text = (normalizeChars src.text).splitOn '\n'

/-- The lines of every source and the breaks between them are the source, and its lines are those
of the normalized text. -/
theorem lines_exact (src : Source) : src.LinesExact := by
  have hlined : Lined 0 src.text (lineBreaks src.text) (splitLines src.text) := lined src.text 0
  have hplace := src.cursor?_zero
  exact
    { breaks_eq := src.lineBreaks_eq_scan
      start_lt_stop := hlined.start_lt_stop
      ordered := hlined.ordered
      isBreak := isBreak_of_lined hlined hplace
      lines_eq := linesBetween_of_lined hlined hplace
      length_eq := length_splitLines src.text
      flatten_eq := flatten_of_lined hlined hplace
      breakless := hlined.breakless
      normalized := by
        rw [← splitLines_eq_splitOn (not_mem_normalizeChars src.text), splitLines_normalizeChars] }

end Source

end Packrat
