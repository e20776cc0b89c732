import Packrat.Proofs.LocationOrder
import Packrat.Proofs.Numeral
/-!
# What excerpts point at

An excerpt shows the lines of a source whose numbers are at most two away from the line of a
location. The line is found by counting breaks and the column by counting characters behind the
last of them, while the lines that are shown come from splitting the whole source. Where the
source is cut at the location, its lines are those of the two parts, with the last line of the
first part and the first line of the second joined in the middle. So the marked line is what
stands before the location in its line, as many characters as the column says, and then what
stands behind it up to the next break.

## Main definitions

* `Location.caret` — how far the caret stands from the margin.
* `Location.LooksMarked`, `Location.LooksPointing` — lines that are told apart by their form.
* `Source.BeforeBreak` — an offset where a line break begins.

## Main results

* `Location.excerpt_eq` — an excerpt, line by line.
* `Location.exists_markedLine` — the marked line, cut at the location.
* `Location.locate_points` — what excerpts show and what they point at.
-/

namespace Packrat

namespace Text

/-! ## The line at a cut -/

/-- Where the last line of one text goes on with the first line of another. -/
theorem getElem?_joinLines {before after : List (List Char)} {last first : List Char}
    (hlast : before.getLast? = some last) (hfirst : after.head? = some first) :
    (joinLines before after)[before.length - 1]? = some (last ++ first) := by
  induction before with
  | nil => contradiction
  | cons line before ih =>
      cases before with
      | nil =>
          obtain rfl := Option.some.inj hlast
          obtain ⟨after, rfl⟩ := List.head?_eq_some_iff.1 hfirst
          rfl
      | cons line' before =>
          have hrest := ih (by rwa [List.getLast?_cons_cons] at hlast)
          rw [joinLines_cons (List.cons_ne_nil _ _)]
          exact hrest

/-- A text that begins with no break has a first line that begins with its first character. -/
theorem head?_splitLines_cons {c : Char} (hc : ¬(c = '\r' ∨ c = '\n')) (rest : List Char) :
    ∃ first, (splitLines (c :: rest)).head? = some (c :: first) := by
  have hnot : ∀ after, c = '\r' → rest = '\n' :: after → False := fun _ h _ => hc (.inl h)
  rw [splitLines.eq_2 c rest hnot, if_neg hc]
  cases splitLines rest with
  | nil => exact ⟨[], rfl⟩
  | cons line lines => exact ⟨line, rfl⟩

/-- A text that begins with a break has an empty first line. -/
theorem head?_splitLines_of_break {c : Char} (hc : c = '\r' ∨ c = '\n') (rest : List Char) :
    (splitLines (c :: rest)).head? = some [] := by
  by_cases hjoined : ∃ after, c = '\r' ∧ rest = '\n' :: after
  · obtain ⟨after, rfl, rfl⟩ := hjoined
    rfl
  · rw [splitLines.eq_2 c rest (fun after h h' => hjoined ⟨after, h, h'⟩), if_pos hc]
    rfl

end Text

/-- An offset where a line break begins. -/
def Source.BeforeBreak (src : Source) (offset : Nat) : Prop :=
  ∃ before c rest, src.cursor? offset = some ⟨before, c :: rest⟩ ∧
    (c = '\r' ∨ (c = '\n' ∧ before ≠ some '\r'))

namespace Location

open Text

/-! ## The lines of an excerpt -/

/-- How a line that is not marked is shown. -/
def plainLine (entry : List Char × Nat) : String := shownLine entry.2 false entry.1

/-- Of lines with other numbers an excerpt shows those within its reach, as they are. -/
theorem shown_of_ne {loc : Location} {entries : List (List Char × Nat)}
    (hother : ∀ entry ∈ entries, entry.2 ≠ loc.line) :
    shown loc entries = (entries.filter fun (_, number) =>
      loc.line ≤ number + excerptReach ∧ number ≤ loc.line + excerptReach).map plainLine := by
  have hlines (chosen : List (List Char × Nat)) (hchosen : ∀ entry ∈ chosen, entry.2 ≠ loc.line) :
      chosen.flatMap (fun (content, number) =>
        (excerptLine loc number content).map String.ofList) = chosen.map plainLine := by
    induction chosen with
    | nil => rfl
    | cons entry chosen ih =>
        have hne : entry.2 ≠ loc.line := hchosen entry (List.mem_cons_self ..)
        rw [List.flatMap_cons, List.map_cons,
          ih fun entry' hentry' => hchosen entry' (List.mem_cons_of_mem _ hentry')]
        simp only [excerptLine, if_neg hne]
        rfl
  exact hlines _ fun entry hentry => hother entry (List.mem_filter.1 hentry).1

/-- Of numbers in a row, those between two bounds are numbers in a row. -/
theorem filter_range' (low high first count : Nat) :
    (List.range' first count).filter (fun n => low ≤ n ∧ n ≤ high) =
      List.range' (max first low) (min (first + count) (high + 1) - max first low) := by
  induction count generalizing first with
  | zero =>
      rw [show min (first + 0) (high + 1) - max first low = 0 by omega]
      rfl
  | succ count ih =>
      rw [List.range'_succ, List.filter_cons, ih (first + 1)]
      by_cases hin : low ≤ first ∧ first ≤ high
      · rw [if_pos (decide_eq_true hin),
          show max (first + 1) low = first + 1 by omega, show max first low = first by omega,
          show min (first + (count + 1)) (high + 1) - first =
            min (first + 1 + count) (high + 1) - (first + 1) + 1 by omega, List.range'_succ]
      · rw [if_neg (by simpa using hin)]
        by_cases hlow : first < low
        · rw [show max (first + 1) low = max first low by omega,
            show first + 1 + count = first + (count + 1) by omega]
        · rw [show min (first + 1 + count) (high + 1) - max (first + 1) low = 0 by omega,
            show min (first + (count + 1)) (high + 1) - max first low = 0 by omega]
          rfl

/-- The number of the first line that is shown. -/
def firstShown (loc : Location) : Nat := max 1 (loc.line - excerptReach)

/-- The number of the last line that is shown. -/
def lastShown (src : Source) (loc : Location) : Nat :=
  min (splitLines src.text).length (loc.line + excerptReach)

/-- An excerpt line by line, around the marked line: the numbers of the lines are those in
between the first and the last that is shown, in order. -/
theorem excerpt_eq {src : Source} {loc : Location} (hone : 1 ≤ loc.line) {content : List Char}
    (hcontent : (splitLines src.text)[loc.line - 1]? = some content) :
    ∃ above below : List (List Char × Nat),
      (above ++ (content, loc.line) :: below).map (·.2) =
          List.range' loc.firstShown (loc.lastShown src + 1 - loc.firstShown) ∧
        (∀ entry ∈ above ++ (content, loc.line) :: below,
          (splitLines src.text)[entry.2 - 1]? = some entry.1) ∧
        loc.excerpt src = above.map plainLine ++
          shownLine loc.line true content :: String.ofList (pointer loc) :: below.map plainLine := by
  obtain ⟨lines, hlines⟩ : ∃ lines, splitLines src.text = lines := ⟨_, rfl⟩
  rw [hlines] at hcontent ⊢
  let near (entry : List Char × Nat) : Bool :=
    loc.line ≤ entry.2 + excerptReach ∧ entry.2 ≤ loc.line + excerptReach
  have hhere : near (content, loc.line) = true := decide_eq_true ⟨by omega, by omega⟩
  obtain ⟨above, below, hsplit, habove, hbelow⟩ := zipIdx_eq_around hone hcontent
  have hall : above.filter near ++ (content, loc.line) :: below.filter near =
      (lines.zipIdx 1).filter near := by
    rw [hsplit, List.filter_append, List.filter_cons, if_pos hhere]
  refine ⟨above.filter near, below.filter near, ?_, ?_, ?_⟩
  · have hnear : near =
        (fun n => decide (loc.line - excerptReach ≤ n ∧ n ≤ loc.line + excerptReach)) ∘
          Prod.snd := by
      funext entry
      exact decide_eq_decide.2 (by show _ ↔ loc.line - excerptReach ≤ entry.2 ∧ _; omega)
    rw [hall, hnear, ← List.filter_map, List.zipIdx_map_snd, filter_range', firstShown, lastShown,
      hlines]
    congr 1
    omega
  · rw [hall]
    intro entry hentry
    exact (List.mk_mem_zipIdx_iff_le_and_getElem?_sub.1 (List.mem_filter.1 hentry).1).2
  · rw [excerpt_eq_shown, hlines, hsplit, shown_append, shown_cons_line, shown_of_ne habove,
      shown_of_ne hbelow]

/-! ## Lines told apart by their form -/

/-- A line that has the form of a marked one. -/
def LooksMarked (line : String) : Prop := "  > ".toList <+: line.toList

/-- A line that has the form of a pointer. -/
def LooksPointing (line : String) : Prop :=
  ∃ indent, line.toList = List.replicate indent ' ' ++ "^--- here".toList

/-- A number begins with a digit. -/
theorem exists_digit (number : Nat) :
    ∃ digit rest, (toString number).toList = digit :: rest ∧ Decimal.isDigit digit = true := by
  have hne : Nat.toDigits 10 number ≠ [] := Nat.toDigits_ne_nil
  obtain ⟨digit, rest, hdigits⟩ := List.exists_cons_of_ne_nil hne
  refine ⟨digit, rest, ?_, Decimal.isDigit_of_mem_toDigits (hdigits ▸ List.mem_cons_self ..)⟩
  rw [← hdigits]
  exact Nat.toList_repr

/-- No character of a pointer is a digit or the mark. -/
theorem LooksPointing.getElem?_ne {line : String} (h : LooksPointing line) {i : Nat} {c : Char}
    (hc : line.toList[i]? = some c) : c ≠ '>' ∧ Decimal.isDigit c = false := by
  have hchars : ∀ c ∈ ' ' :: "^--- here".toList, c ≠ '>' ∧ Decimal.isDigit c = false := by
    simp [Decimal.isDigit]
  obtain ⟨indent, hline⟩ := h
  rw [hline] at hc
  refine hchars c ?_
  rcases List.mem_append.1 (List.mem_of_getElem? hc) with hblank | hpointer
  · exact List.eq_of_mem_replicate hblank ▸ List.mem_cons_self ..
  · exact List.mem_cons_of_mem _ hpointer

theorem shownLine_toList (number : Nat) (marked : Bool) (content : List Char) :
    (shownLine number marked content).toList = gutter number marked ++ content :=
  String.toList_ofList

/-- A marked line has the form of one, and not that of a pointer. -/
theorem shownLine_true_looks (number : Nat) (content : List Char) :
    LooksMarked (shownLine number true content) ∧
      ¬LooksPointing (shownLine number true content) := by
  have hline : (shownLine number true content).toList =
      "  > ".toList ++ ((toString number).toList ++ " | ".toList ++ content) := by
    rw [shownLine_toList, gutter, if_pos rfl]
    simp only [List.append_assoc]
  refine ⟨⟨_, hline.symm⟩, fun h => ?_⟩
  have hmark : (shownLine number true content).toList[2]? = some '>' := by rw [hline]; rfl
  exact (h.getElem?_ne hmark).1 rfl

/-- A line that is not marked has neither form. -/
theorem shownLine_false_looks (number : Nat) (content : List Char) :
    ¬LooksMarked (shownLine number false content) ∧
      ¬LooksPointing (shownLine number false content) := by
  obtain ⟨digit, rest, hdigits, hdigit⟩ := exists_digit number
  have hline : (shownLine number false content).toList =
      "    ".toList ++ (digit :: (rest ++ " | ".toList ++ content)) := by
    rw [shownLine_toList, gutter, if_neg Bool.false_ne_true, hdigits]
    simp only [List.append_assoc, List.cons_append]
  constructor
  · rintro ⟨after, hafter⟩
    rw [hline] at hafter
    have hmark := congrArg (·[2]?) hafter
    exact absurd hmark (by simp)
  · intro h
    have hchar : (shownLine number false content).toList[4]? = some digit := by rw [hline]; rfl
    rw [(h.getElem?_ne hchar).2] at hdigit
    contradiction

/-! ## The caret -/

/-- How many characters stand in front of the caret. -/
def caret (loc : Location) : Nat := (gutter loc.line true).length + (loc.column - 1)

theorem pointer_eq {loc : Location} (hcolumn : 1 ≤ loc.column) :
    pointer loc = List.replicate loc.caret ' ' ++ "^--- here".toList := by
  rw [pointer, caret, Nat.add_sub_assoc hcolumn]

/-- A pointer has the form of one, and not that of a marked line. -/
theorem pointer_looks {loc : Location} (hcolumn : 1 ≤ loc.column) :
    LooksPointing (String.ofList (pointer loc)) ∧ ¬LooksMarked (String.ofList (pointer loc)) := by
  have hform : LooksPointing (String.ofList (pointer loc)) :=
    ⟨loc.caret, by rw [String.toList_ofList, pointer_eq hcolumn]⟩
  refine ⟨hform, ?_⟩
  rintro ⟨after, hafter⟩
  have hmark : (String.ofList (pointer loc)).toList[2]? = some '>' := by rw [← hafter]; rfl
  exact (hform.getElem?_ne hmark).1 rfl

/-! ## The marked line -/

variable {src : Source}

/-- The line of a boundary that is not inside a `\r\n`, cut at the boundary: what stands before
it are as many characters as the column says. -/
theorem exists_markedLine {taken rest : List Char} (htext : src.text = taken ++ rest)
    (hapart : Apart taken rest) {first : List Char}
    (hfirst : (splitLines rest).head? = some first) :
    ∃ last, (locate src (byteLength taken)).column = last.length + 1 ∧
      (splitLines src.text)[(locate src (byteLength taken)).line - 1]? = some (last ++ first) := by
  obtain ⟨last, hlast, hlocated⟩ := locate_eq htext hapart
  refine ⟨last, by rw [hlocated], ?_⟩
  rw [hlocated, htext, splitLines_append hapart]
  exact getElem?_joinLines hlast hfirst

/-- Where a boundary has another character before it than a `\r`, or another one behind it than
a `\n`, it is not inside a `\r\n`. -/
theorem exists_cut {offset : Nat} {before : Option Char} {rest : List Char}
    (hplace : src.cursor? offset = some ⟨before, rest⟩)
    (hnot : ¬(before = some '\r' ∧ rest.head? = some '\n')) :
    ∃ taken, src.text = taken ++ rest ∧ byteLength taken = offset ∧ Apart taken rest := by
  have hseek := hplace
  rw [Source.cursor?_eq_seek] at hseek
  obtain ⟨taken, htext, hsize⟩ := Cursor.seek_taken hseek
  refine ⟨taken, htext, hsize, ?_⟩
  rintro previous after rfl rfl
  have hsplits : src.SplitsBreak offset := by
    refine ⟨previous, after, ?_, ?_⟩
    · rw [htext, List.append_assoc]
      rfl
    · rw [← hsize, byteLength_append]
      rfl
  obtain ⟨_, hinside⟩ := hsplits.cursor?_eq
  rw [hplace] at hinside
  simp only [Option.some.injEq, Cursor.mk.injEq] at hinside
  exact hnot ⟨hinside.1, rfl⟩

/-! ## What excerpts point at -/

/-- What an excerpt shows of a source around a location, with these lines above and below the
marked one, and what it points at. -/
structure Points (src : Source) (loc : Location) (content : List Char)
    (above below : List (List Char × Nat)) : Prop where
  /-- The line of the location is one of the lines of the source. -/
  line_mem : 1 ≤ loc.line ∧ loc.line ≤ (splitLines src.text).length
  /-- The lines that are shown are those between the first and the last, in order. -/
  numbers : (above ++ (content, loc.line) :: below).map (·.2) =
    List.range' loc.firstShown (loc.lastShown src + 1 - loc.firstShown)
  /-- Each is the line of the source with its number. -/
  contents : ∀ entry ∈ above ++ (content, loc.line) :: below,
    (splitLines src.text)[entry.2 - 1]? = some entry.1
  /-- The pointer stands right below the line of the location, which alone is marked. -/
  excerpt_eq : loc.excerpt src = above.map plainLine ++
    shownLine loc.line true content :: String.ofList (pointer loc) :: below.map plainLine
  /-- The marked line and the pointer can be told from all other lines by their form. -/
  marked : LooksMarked (shownLine loc.line true content) ∧
    ¬LooksPointing (shownLine loc.line true content)
  pointing : LooksPointing (String.ofList (pointer loc)) ∧
    ¬LooksMarked (String.ofList (pointer loc))
  others : ∀ entry ∈ above ++ below,
    ¬LooksMarked (plainLine entry) ∧ ¬LooksPointing (plainLine entry)
  /-- The caret stands `column - 1` characters behind what is put in front of the marked line. -/
  pointer_eq : pointer loc = List.replicate loc.caret ' ' ++ "^--- here".toList
  /-- A character that belongs to no break stands above the caret. -/
  character : ∀ before c rest, src.cursor? loc.offset = some ⟨before, c :: rest⟩ →
    c ≠ '\r' → c ≠ '\n' → content[loc.column - 1]? = some c ∧
      (shownLine loc.line true content).toList[loc.caret]? = some c
  /-- Where a break begins or the source ends, the caret stands behind the last character of the
  marked line. -/
  lineEnd : loc.offset = src.size ∨ src.BeforeBreak loc.offset →
    content.length = loc.column - 1 ∧
      (shownLine loc.line true content).toList.length = loc.caret

/-- The marked line of a location that is not inside a `\r\n`, by what stands behind it. -/
theorem markedLine_eq {offset : Nat} {content : List Char}
    (hcontent : (splitLines src.text)[(locate src offset).line - 1]? = some content)
    {before : Option Char} {rest first : List Char}
    (hplace : src.cursor? (locate src offset).offset = some ⟨before, rest⟩)
    (hnot : ¬(before = some '\r' ∧ rest.head? = some '\n'))
    (hfirst : (splitLines rest).head? = some first) :
    ∃ last, (locate src offset).column = last.length + 1 ∧ content = last ++ first := by
  obtain ⟨taken, htext, hsize, hapart⟩ := exists_cut hplace hnot
  obtain ⟨last, hcolumn, hline⟩ := exists_markedLine htext hapart hfirst
  rw [hsize, locate_locate_offset] at hcolumn hline
  exact ⟨last, hcolumn, Option.some.inj (hcontent.symm.trans hline)⟩

/-- The location of any offset has an excerpt that shows the lines around it and points at it. -/
theorem locate_points (src : Source) (offset : Nat) :
    ∃ content above below, Points src (locate src offset) content above below := by
  have hone := one_le_locate_line src offset
  have hle := locate_line_le src offset
  have hcolumn := one_le_locate_column src offset
  obtain ⟨content, hcontent⟩ :
      ∃ content, (splitLines src.text)[(locate src offset).line - 1]? = some content :=
    ⟨_, List.getElem?_eq_getElem (by omega)⟩
  obtain ⟨above, below, hnumbers, hcontents, hexcerpt⟩ := excerpt_eq hone hcontent
  refine ⟨content, above, below, ?_⟩
  have hlength (last : List Char) (hlast : (locate src offset).column = last.length + 1) :
      (locate src offset).caret =
        (gutter (locate src offset).line true ++ last).length := by
    rw [caret, hlast, List.length_append, Nat.add_sub_cancel]
  have hend {before : Option Char} {rest : List Char}
      (hplace : src.cursor? (locate src offset).offset = some ⟨before, rest⟩)
      (hnot : ¬(before = some '\r' ∧ rest.head? = some '\n'))
      (hfirst : (splitLines rest).head? = some []) :
      content.length = (locate src offset).column - 1 ∧
        (shownLine (locate src offset).line true content).toList.length =
          (locate src offset).caret := by
    obtain ⟨last, hlast, rfl⟩ := markedLine_eq hcontent hplace hnot hfirst
    rw [shownLine_toList, List.append_nil, hlength last hlast, hlast]
    exact ⟨rfl, rfl⟩
  exact
    { line_mem := ⟨hone, hle⟩
      numbers := hnumbers
      contents := hcontents
      excerpt_eq := hexcerpt
      marked := shownLine_true_looks _ _
      pointing := pointer_looks hcolumn
      others := fun entry _ => shownLine_false_looks entry.2 entry.1
      pointer_eq := pointer_eq hcolumn
      character := by
        intro before c rest hplace hcr hlf
        have hc : ¬(c = '\r' ∨ c = '\n') := not_or.2 ⟨hcr, hlf⟩
        obtain ⟨first, hfirst⟩ := head?_splitLines_cons hc rest
        have hnot : ¬(before = some '\r' ∧ (c :: rest).head? = some '\n') :=
          fun h => hlf (Option.some.inj h.2)
        obtain ⟨last, hlast, rfl⟩ := markedLine_eq hcontent hplace hnot hfirst
        constructor
        · rw [hlast, Nat.add_sub_cancel, List.getElem?_append_right (Nat.le_refl _), Nat.sub_self]
          rfl
        · rw [shownLine_toList, hlength last hlast, ← List.append_assoc,
            List.getElem?_append_right (Nat.le_refl _), Nat.sub_self]
          rfl
      lineEnd := by
        rintro (hsize | ⟨before, c, rest, hplace, hc⟩)
        · obtain ⟨⟨before, rest⟩, hplace⟩ :=
            Source.isBoundary_iff.1 (src.floor_isGreatest (min offset src.size)).1.1
          have hrest : byteLength rest = 0 := by
            have hlength := Source.cursor?_length hplace
            have hoffset : src.floor (min offset src.size) = src.size := hsize
            dsimp only at hlength
            omega
          obtain rfl := byteLength_eq_zero_iff.1 hrest
          exact hend hplace (by simp) rfl
        · have hbreak : c = '\r' ∨ c = '\n' := hc.imp_right (·.1)
          have hnot : ¬(before = some '\r' ∧ (c :: rest).head? = some '\n') := by
            rintro ⟨hbefore, hhead⟩
            rcases hc with rfl | ⟨-, hne⟩
            · simp at hhead
            · exact hne hbefore
          exact hend hplace hnot (head?_splitLines_of_break hbreak rest) }

end Location

end Packrat
