import Packrat.Proofs.Excerpt
/-!
# Lines, and lines of normalized texts

Where a text is cut in two, its line breaks are those of the two parts, unless the cut is
between the two characters of a `\r\n`. So the line and the column of any other offset depend
on the text before it alone: they are the number of its lines and the length of the last one.
To make every break a `\n` changes neither the lines of a text nor what their breaks cut off.

## Main definitions

* `Text.Apart` — two texts that do not share a break.
* `Source.SplitsBreak` — an offset inside a `\r\n`.

## Main results

* `Text.lineBreaksFrom_append`, `Text.normalizeChars_append` — texts that are put together.
* `Text.splitLines_normalizeChars` — a normalized text has the same lines.
* `Location.locate_eq` — line and column by the text before an offset.
* `Location.locate_normalized` — a location is that of the normalized text.
-/

namespace Packrat

namespace Text

/-! ## Texts that are put together -/

/-- Two texts that do not share a `\r\n`. -/
def Apart (taken rest : List Char) : Prop :=
  ∀ before after, taken = before ++ ['\r'] → rest = '\n' :: after → False

namespace Apart

variable {c : Char} {taken rest : List Char}

theorem tail (h : Apart (c :: taken) rest) : Apart taken rest :=
  fun before after htaken => h (c :: before) after (congrArg (List.cons c) htaken)

/-- A character that is the first of no `\r\n` stays so with more text behind it. -/
theorem not_joined (h : Apart (c :: taken) rest)
    (hjoined : ∀ after, c = '\r' → taken = '\n' :: after → False) (after : List Char)
    (hc : c = '\r') (heq : taken ++ rest = '\n' :: after) : False := by
  cases taken with
  | nil => exact h [] after (congrArg (· :: []) hc) heq
  | cons d taken =>
      obtain ⟨rfl, -⟩ := List.cons.inj heq
      exact hjoined taken hc rfl

end Apart

theorem byteLength_crLf (rest : List Char) :
    byteLength ('\r' :: '\n' :: rest) = 2 + byteLength rest := by
  rw [byteLength_cons, byteLength_cons, ← Nat.add_assoc]
  rfl

/-- A break that is not a `\r\n` takes one byte. -/
theorem byteLength_break {c : Char} (hbreak : c = '\r' ∨ c = '\n') (rest : List Char) :
    byteLength (c :: rest) = 1 + byteLength rest := by
  rw [byteLength_cons]
  rcases hbreak with rfl | rfl <;> rfl

/-- Breaks of a text that is put together are those of its parts. -/
theorem lineBreaksFrom_append {taken rest : List Char} (h : Apart taken rest) (offset : Nat) :
    lineBreaksFrom offset (taken ++ rest) =
      lineBreaksFrom offset taken ++ lineBreaksFrom (offset + byteLength taken) rest := by
  induction taken using splitLines.induct generalizing offset with
  | case1 taken ih =>
      simp only [List.cons_append, lineBreaksFrom, ih h.tail.tail, byteLength_crLf, Nat.add_assoc]
  | case2 c taken hjoined hbreak ih =>
      rw [List.cons_append, lineBreaksFrom.eq_2 offset c _ (h.not_joined hjoined),
        lineBreaksFrom.eq_2 offset c _ hjoined, if_pos hbreak, if_pos hbreak, ih h.tail,
        byteLength_break hbreak, ← Nat.add_assoc, List.cons_append]
  | case3 c taken hjoined hother ih =>
      rw [List.cons_append, lineBreaksFrom.eq_2 offset c _ (h.not_joined hjoined),
        lineBreaksFrom.eq_2 offset c _ hjoined, if_neg hother, if_neg hother, ih h.tail,
        byteLength_cons, Nat.add_assoc]
  | case4 => rfl

theorem joinCrLf_append {taken rest : List Char} (h : Apart taken rest) :
    joinCrLf (taken ++ rest) = joinCrLf taken ++ joinCrLf rest := by
  induction taken using joinCrLf.induct with
  | case1 taken ih => simp only [List.cons_append, joinCrLf, ih h.tail.tail]
  | case2 c taken hjoined ih =>
      rw [List.cons_append, joinCrLf.eq_2 c _ (h.not_joined hjoined), joinCrLf.eq_2 c _ hjoined,
        ih h.tail, List.cons_append]
  | case3 => rfl

/-- A text that is put together is normalized part by part. -/
theorem normalizeChars_append {taken rest : List Char} (h : Apart taken rest) :
    normalizeChars (taken ++ rest) = normalizeChars taken ++ normalizeChars rest := by
  rw [normalizeChars, joinCrLf_append h, List.map_append]
  rfl

/-! ## Normalized texts -/

/-- There is no `\r` in a normalized text. -/
theorem not_mem_normalizeChars (text : List Char) : '\r' ∉ normalizeChars text := by
  intro hmem
  obtain ⟨c, -, hc⟩ := List.mem_map.1 hmem
  split at hc
  · contradiction
  · contradiction

/-- So nothing that is put behind it shares a break with it. -/
theorem apart_normalizeChars (text rest : List Char) : Apart (normalizeChars text) rest := by
  intro before after htaken _
  refine not_mem_normalizeChars text ?_
  rw [htaken]
  exact List.mem_append_right _ (List.mem_singleton_self _)

/-- A line feed ends a line. -/
theorem splitLines_lineFeed (rest : List Char) :
    splitLines ('\n' :: rest) = [] :: splitLines rest := by
  have hnot : ∀ after, '\n' = '\r' → rest = '\n' :: after → False :=
    fun _ hc _ => absurd hc (by decide)
  rw [splitLines.eq_2 _ _ hnot, if_pos (.inr rfl)]

/-- A character that is the first of no `\r\n` is normalized by itself. -/
theorem normalizeChars_cons {c : Char} {rest : List Char}
    (hjoined : ∀ after, c = '\r' → rest = '\n' :: after → False) :
    normalizeChars (c :: rest) = (if c = '\r' then '\n' else c) :: normalizeChars rest := by
  rw [normalizeChars, joinCrLf.eq_2 c rest hjoined, List.map_cons]
  rfl

/-- A normalized text has the same lines. -/
theorem splitLines_normalizeChars (text : List Char) :
    splitLines (normalizeChars text) = splitLines text := by
  induction text using splitLines.induct with
  | case1 rest ih =>
      have hbreak : normalizeChars ('\r' :: '\n' :: rest) = '\n' :: normalizeChars rest := rfl
      rw [hbreak, splitLines_lineFeed, ih]
      rfl
  | case2 c rest hjoined hbreak ih =>
      have hlineFeed : (if c = '\r' then '\n' else c) = '\n' := by
        rcases hbreak with rfl | rfl <;> rfl
      rw [normalizeChars_cons hjoined, hlineFeed, splitLines_lineFeed, ih,
        splitLines.eq_2 c rest hjoined, if_pos hbreak]
  | case3 c rest hjoined hother ih =>
      have hcr : c ≠ '\r' := fun hc => hother (.inl hc)
      rw [normalizeChars_cons hjoined, if_neg hcr,
        splitLines.eq_2 c _ (fun _ hc _ => hcr hc), splitLines.eq_2 c rest hjoined,
        if_neg hother, if_neg hother, ih]
  | case4 => rfl

/-! ## The last line -/

/-- Breaks lie behind the offset that a text begins at, and within the text. -/
theorem stop_of_mem_lineBreaksFrom {text : List Char} {offset : Nat} {b : LineBreak}
    (h : b ∈ lineBreaksFrom offset text) : offset < b.stop ∧ b.stop ≤ offset + byteLength text := by
  induction text using splitLines.induct generalizing offset with
  | case1 rest ih =>
      rw [byteLength_crLf]
      rcases List.mem_cons.1 h with rfl | h
      · dsimp only
        omega
      · have hrest := ih h
        omega
  | case2 c rest hjoined hbreak ih =>
      rw [lineBreaksFrom.eq_2 offset c rest hjoined, if_pos hbreak] at h
      rw [byteLength_break hbreak]
      rcases List.mem_cons.1 h with rfl | h
      · dsimp only
        omega
      · have hrest := ih h
        omega
  | case3 c rest hjoined hother ih =>
      rw [lineBreaksFrom.eq_2 offset c rest hjoined, if_neg hother] at h
      have hrest := ih h
      rw [byteLength_cons]
      omega
  | case4 => contradiction

/-- Where the last line of a text begins that begins at an offset. -/
def lastStart (offset : Nat) (breaks : List LineBreak) : Nat :=
  (breaks.getLast?.map (·.stop)).getD offset

theorem lastStart_cons (offset : Nat) (b : LineBreak) (breaks : List LineBreak) :
    lastStart offset (b :: breaks) = lastStart b.stop breaks := by
  rw [lastStart, lastStart, List.getLast?_cons]
  cases breaks.getLast? <;> rfl

/-- A character in front of the first line changes the last line only if that is the same. -/
theorem getLast?_consFirst (c : Char) {lines : List (List Char)} {last : List Char}
    (h : lines.getLast? = some last) :
    (consFirst c lines).getLast? = some (if lines.length = 1 then c :: last else last) := by
  cases lines with
  | nil => contradiction
  | cons line more =>
      cases more with
      | nil =>
          obtain rfl := Option.some.inj h
          rfl
      | cons line' more =>
          have hlength : ¬(line :: line' :: more).length = 1 := by simp
          rw [if_neg hlength, ← h]
          rfl

/-- The last line of a text is what stands behind its last break. -/
theorem exists_lastLine (text : List Char) (offset : Nat) :
    ∃ before last, text = before ++ last ∧
      lastStart offset (lineBreaksFrom offset text) = offset + byteLength before ∧
      (splitLines text).getLast? = some last := by
  induction text using splitLines.induct generalizing offset with
  | case1 rest ih =>
      obtain ⟨before, last, rfl, hstart, hlast⟩ := ih (offset + 2)
      refine ⟨'\r' :: '\n' :: before, last, rfl, ?_, ?_⟩
      · rw [lineBreaksFrom, lastStart_cons, hstart, byteLength_crLf, Nat.add_assoc]
      · rw [splitLines, List.getLast?_cons, hlast]
        rfl
  | case2 c rest hjoined hbreak ih =>
      obtain ⟨before, last, rfl, hstart, hlast⟩ := ih (offset + 1)
      refine ⟨c :: before, last, rfl, ?_, ?_⟩
      · rw [lineBreaksFrom.eq_2 offset c _ hjoined, if_pos hbreak, lastStart_cons, hstart,
          byteLength_break hbreak, Nat.add_assoc]
      · rw [splitLines.eq_2 c _ hjoined, if_pos hbreak, List.getLast?_cons, hlast]
        rfl
  | case3 c rest hjoined hother ih =>
      obtain ⟨before, last, hrest, hstart, hlast⟩ := ih (offset + c.utf8Size)
      have hbreaks : lineBreaksFrom offset (c :: rest) =
          lineBreaksFrom (offset + c.utf8Size) rest := by
        rw [lineBreaksFrom.eq_2 offset c _ hjoined, if_neg hother]
      have hlines := getLast?_consFirst c hlast
      rw [length_splitLines_from rest (offset + c.utf8Size)] at hlines
      rw [hbreaks, splitLines.eq_2 c _ hjoined, if_neg hother, hlines]
      cases hempty : lineBreaksFrom (offset + c.utf8Size) rest with
      | nil =>
          -- The character is in the last line, which is the first.
          rw [hempty] at hstart
          obtain rfl : before = [] := byteLength_eq_zero_iff.1 (Nat.left_eq_add.1 hstart)
          exact ⟨[], c :: last, congrArg (List.cons c) hrest, rfl, rfl⟩
      | cons b breaks =>
          have hmore : ¬(b :: breaks).length + 1 = 1 := by simp
          refine ⟨c :: before, last, congrArg (List.cons c) hrest, ?_, by rw [if_neg hmore]⟩
          have hsame : lastStart offset (b :: breaks) =
              lastStart (offset + c.utf8Size) (b :: breaks) := by
            rw [lastStart_cons, lastStart_cons]
          rw [hsame, ← hempty, hstart, byteLength_cons, Nat.add_assoc]
  | case4 => exact ⟨[], [], rfl, rfl, rfl⟩

end Text

/-! ## Locations -/

/-- An offset between the two characters of a `\r\n`. -/
def Source.SplitsBreak (src : Source) (offset : Nat) : Prop :=
  ∃ before after, src.text = before ++ '\r' :: '\n' :: after ∧
    offset = Text.byteLength before + 1

/-- Inside a `\r\n` there are its two characters on both sides. -/
theorem Source.SplitsBreak.cursor?_eq {src : Source} {offset : Nat} (h : src.SplitsBreak offset) :
    ∃ after, src.cursor? offset = some ⟨some '\r', '\n' :: after⟩ := by
  obtain ⟨before, after, htext, rfl⟩ := h
  have hstart : src.cursor? 0 = some ⟨none, before ++ '\r' :: '\n' :: after⟩ := by
    rw [src.cursor?_zero, htext]
  obtain ⟨previous, hplace⟩ := cursor?_advance hstart
  rw [Nat.zero_add] at hplace
  exact ⟨after, cursor?_char hplace⟩

namespace Location

open Text

variable {src : Source}

/-- The breaks that are passed on the way to an offset are those of a text before it, if no
other break ends there. -/
theorem passed_eq {taken rest : List Char} {offset : Nat} (htext : src.text = taken ++ rest)
    (hapart : Apart taken rest) (hle : byteLength taken ≤ offset)
    (hahead : ∀ b ∈ lineBreaksFrom (byteLength taken) rest, offset < b.stop) :
    (lineBreaks src.text).takeWhile (·.stop ≤ offset) = lineBreaks taken := by
  have hpassed (b : LineBreak) (hb : b ∈ lineBreaks taken) :
      decide (b.stop ≤ offset) = true := by
    have hstop := (stop_of_mem_lineBreaksFrom hb).2
    rw [Nat.zero_add] at hstop
    exact decide_eq_true (Nat.le_trans hstop hle)
  have hnone : (lineBreaksFrom (byteLength taken) rest).takeWhile (·.stop ≤ offset) = [] := by
    cases hbreaks : lineBreaksFrom (byteLength taken) rest with
    | nil => rfl
    | cons b breaks =>
        have hstop := hahead b (hbreaks ▸ List.mem_cons_self ..)
        exact List.takeWhile_cons_of_neg (by simp only [decide_eq_true_eq]; omega)
  have hsplit : lineBreaks src.text =
      lineBreaks taken ++ lineBreaksFrom (byteLength taken) rest := by
    rw [lineBreaks, htext, lineBreaksFrom_append hapart, lineBreaks, Nat.zero_add]
  rw [hsplit, List.takeWhile_append_of_pos hpassed, hnone, List.append_nil]

/-- The location of an offset before the next break: it is in the last line of a text before
it, as many characters behind the end of that text as there are in between. -/
theorem locate_within {taken between rest : List Char}
    (htext : src.text = taken ++ (between ++ rest)) (hapart : Apart taken (between ++ rest))
    (hahead : ∀ b ∈ lineBreaksFrom (byteLength taken) (between ++ rest),
      byteLength taken + byteLength between < b.stop) :
    ∃ last, (splitLines taken).getLast? = some last ∧
      locate src (byteLength taken + byteLength between) =
        ⟨byteLength taken + byteLength between, (splitLines taken).length,
          last.length + between.length + 1⟩ := by
  obtain ⟨before, last, htaken, hstart, hlast⟩ := exists_lastLine taken 0
  refine ⟨last, hlast, ?_⟩
  have hplace : src.cursor? 0 = some ⟨none, before ++ ((last ++ between) ++ rest)⟩ := by
    rw [src.cursor?_zero, htext, htaken]
    simp only [List.append_assoc]
  obtain ⟨previous, hbehind⟩ := Source.cursor?_advance hplace
  have hsize : byteLength taken + byteLength between =
      0 + byteLength before + byteLength (last ++ between) := by
    rw [htaken, byteLength_append, byteLength_append, Nat.zero_add, Nat.add_assoc]
  have hboundary : src.isBoundary (byteLength taken + byteLength between) = true := by
    obtain ⟨_, hend⟩ := Source.cursor?_advance hbehind
    exact Source.isBoundary_iff.2 ⟨_, hsize ▸ hend⟩
  have hslice : src.slice (lastStart 0 (lineBreaks taken))
      (byteLength taken + byteLength between) = last ++ between := by
    rw [show lastStart 0 (lineBreaks taken) = 0 + byteLength before from hstart, hsize]
    exact Source.slice_advance hbehind
  have hoffset : src.floor (min (byteLength taken + byteLength between) src.size) =
      byteLength taken + byteLength between := locate_offset hboundary
  simp only [locate, hoffset, passed_eq htext hapart (Nat.le_add_right _ _) hahead,
    length_splitLines]
  rw [show ((lineBreaks taken).getLast?.map (·.stop)).getD 0 =
    lastStart 0 (lineBreaks taken) from rfl, hslice, List.length_append]

/-- The location of an offset that is not inside a `\r\n` depends on the text before it alone:
it is in the last line of that, behind its last character. -/
theorem locate_eq {taken rest : List Char} (htext : src.text = taken ++ rest)
    (hapart : Apart taken rest) :
    ∃ last, (splitLines taken).getLast? = some last ∧
      locate src (byteLength taken) =
        ⟨byteLength taken, (splitLines taken).length, last.length + 1⟩ :=
  @locate_within src taken [] rest htext hapart fun _ hb => (stop_of_mem_lineBreaksFrom hb).1

/-- The text before an offset that is not inside a `\r\n` shares no break with the rest. -/
private theorem apart_of_not_splitsBreak {taken rest : List Char}
    (htext : src.text = taken ++ rest) (hapart : ¬src.SplitsBreak (byteLength taken)) :
    Apart taken rest := by
  rintro before after rfl rfl
  refine hapart ⟨before, after, ?_, ?_⟩
  · rw [htext, List.append_assoc]
    rfl
  · rw [byteLength_append]
    rfl

/-- At every boundary of a source that is not inside a `\r\n`, line and column are those in
the normalized source, at the length of the normalized text before the boundary. -/
theorem locate_normalized {src : Source} {offset : Nat} (hoffset : src.isBoundary offset = true)
    (hapart : ¬src.SplitsBreak offset) :
    (locate src offset).line =
        (locate (.ofList (normalizeChars src.text))
          (byteLength (normalizeChars (src.slice 0 offset)))).line ∧
      (locate src offset).column =
        (locate (.ofList (normalizeChars src.text))
          (byteLength (normalizeChars (src.slice 0 offset)))).column := by
  obtain ⟨⟨before, rest⟩, hplace⟩ := Source.isBoundary_iff.1 hoffset
  rw [Source.cursor?_eq_seek] at hplace
  obtain ⟨taken, htext, rfl⟩ := Cursor.seek_taken hplace
  have hstart : src.cursor? 0 = some ⟨none, taken ++ rest⟩ := by rw [src.cursor?_zero, htext]
  have hslice : src.slice 0 (byteLength taken) = taken := by
    have hadvance := Source.slice_advance hstart
    rwa [Nat.zero_add] at hadvance
  have hapart : Apart taken rest := apart_of_not_splitsBreak htext hapart
  have hnormalized : (Source.ofList (normalizeChars src.text)).text =
      normalizeChars taken ++ normalizeChars rest := by
    rw [← normalizeChars_append hapart, ← htext]
    rfl
  obtain ⟨last, hlast, hlocated⟩ := locate_eq htext hapart
  obtain ⟨last', hlast', hlocated'⟩ := locate_eq hnormalized (apart_normalizeChars taken _)
  rw [splitLines_normalizeChars, hlast] at hlast'
  obtain rfl := Option.some.inj hlast'
  rw [hslice, hlocated, hlocated', splitLines_normalizeChars]
  exact ⟨rfl, rfl⟩

/-- A text with breaks of all kinds. -/
def mixed : Source := .ofString "x\r\r\n\n\ré"

/-- Between a line feed and a lone `\r` that follow a `\r\n`. -/
theorem locate_normalized_mixed :
    mixed.isBoundary 5 = true ∧ ¬mixed.SplitsBreak 5 ∧
      (locate mixed 5).line = (locate (.ofList (normalizeChars mixed.text)) 4).line ∧
      (locate mixed 5).column = (locate (.ofList (normalizeChars mixed.text)) 4).column := by
  have hboundary : mixed.isBoundary 5 = true := by decide
  have hplace : mixed.cursor? 5 = some ⟨some '\n', ['\r', 'é']⟩ := by decide
  have hapart : ¬mixed.SplitsBreak 5 := by
    intro hsplits
    obtain ⟨after, hcursor⟩ := hsplits.cursor?_eq
    rw [hplace] at hcursor
    simp at hcursor
  have hsize : byteLength (normalizeChars (mixed.slice 0 5)) = 4 := by decide
  have hlocated := locate_normalized hboundary hapart
  rw [hsize] at hlocated
  exact ⟨hboundary, hapart, hlocated⟩

end Location

end Packrat
