import Mathlib.Data.Prod.Lex
import Mathlib.Order.Bounds.Defs
import Packrat.Proofs.Lines
/-!
# Locations in the order of their offsets

Line and column are found by looking back: for the breaks that have been passed, and for what
stands behind the last of them. Here they are followed forward, one character at a time. A
character either ends a line, and then the next location is in the first column of the next
line, or it does not, and then the next location is in the next column. So line and column grow
with every character, in lexicographic order, and the first column is only where the text or a
line begins.

The one place where care is needed is inside a `\r\n`. It is a boundary like any other, and its
line is still the one that the `\r\n` ends, one column behind the end of it.

## Main definitions

* `Text.joinLines` — the lines of two texts that are put together.
* `Text.EndsLine` — a character that is the last of a line break.
* `Location.next` — the location behind a character.

## Main results

* `Text.splitLines_append` — lines of a text that is put together.
* `Location.locate_next` — how a location moves on with a character.
* `Location.locate_ordered` — locations are in the order of their offsets.
-/

namespace Packrat

namespace Text

/-! ## Lines of texts that are put together -/

/-- The lines of two texts in a row: the last line of the first goes on with the first line of
the second. -/
def joinLines : List (List Char) → List (List Char) → List (List Char)
  | [], after => after
  | [last], [] => [last]
  | [last], first :: after => (last ++ first) :: after
  | line :: line' :: before, after => line :: joinLines (line' :: before) after

/-- Every text has a line. -/
theorem splitLines_ne_nil (text : List Char) : splitLines text ≠ [] := by
  have hlength := length_splitLines text
  intro hnil
  rw [hnil] at hlength
  exact absurd hlength (by simp)

theorem joinLines_cons {before : List (List Char)} (hne : before ≠ []) (line : List Char)
    (after : List (List Char)) :
    joinLines (line :: before) after = line :: joinLines before after := by
  cases before with
  | nil => contradiction
  | cons line' before => rfl

theorem joinLines_empty {after : List (List Char)} (hne : after ≠ []) :
    joinLines [[]] after = after := by
  cases after with
  | nil => contradiction
  | cons first after => rfl

theorem consFirst_joinLines (c : Char) {before after : List (List Char)} (hbefore : before ≠ [])
    (hafter : after ≠ []) :
    consFirst c (joinLines before after) = joinLines (consFirst c before) after := by
  cases before with
  | nil => contradiction
  | cons line before =>
      cases before with
      | cons line' before => rfl
      | nil =>
          cases after with
          | nil => contradiction
          | cons first after => rfl

/-- The lines of a text that is put together are those of its parts, if they share no break. -/
theorem splitLines_append {taken rest : List Char} (h : Apart taken rest) :
    splitLines (taken ++ rest) = joinLines (splitLines taken) (splitLines rest) := by
  induction taken using splitLines.induct with
  | case1 taken ih =>
      rw [List.cons_append, List.cons_append, splitLines, splitLines, ih h.tail.tail,
        joinLines_cons (splitLines_ne_nil taken)]
  | case2 c taken hjoined hbreak ih =>
      rw [List.cons_append, splitLines.eq_2 c _ (h.not_joined hjoined),
        splitLines.eq_2 c _ hjoined, if_pos hbreak, if_pos hbreak, ih h.tail,
        joinLines_cons (splitLines_ne_nil taken)]
  | case3 c taken hjoined hother ih =>
      rw [List.cons_append, splitLines.eq_2 c _ (h.not_joined hjoined),
        splitLines.eq_2 c _ hjoined, if_neg hother, if_neg hother, ih h.tail,
        consFirst_joinLines c (splitLines_ne_nil taken) (splitLines_ne_nil rest)]
  | case4 => exact (joinLines_empty (splitLines_ne_nil rest)).symm

/-- A text with an empty line behind it. -/
theorem joinLines_break {before : List (List Char)} (hne : before ≠ []) :
    joinLines before [[], []] = before ++ [[]] := by
  induction before with
  | nil => contradiction
  | cons line before ih =>
      cases before with
      | nil => simp [joinLines]
      | cons line' before =>
          rw [joinLines_cons (List.cons_ne_nil _ _), ih (List.cons_ne_nil _ _)]
          rfl

/-- A text whose last line goes on. -/
theorem joinLines_single {before : List (List Char)} {last : List Char}
    (hlast : before.getLast? = some last) (more : List Char) :
    (joinLines before [more]).length = before.length ∧
      (joinLines before [more]).getLast? = some (last ++ more) := by
  induction before with
  | nil => contradiction
  | cons line before ih =>
      cases before with
      | nil =>
          obtain rfl := Option.some.inj hlast
          exact ⟨rfl, rfl⟩
      | cons line' before =>
          have hrest := ih (by rwa [List.getLast?_cons_cons] at hlast)
          rw [joinLines_cons (List.cons_ne_nil _ _), List.length_cons, hrest.1, List.getLast?_cons,
            hrest.2]
          exact ⟨rfl, rfl⟩

/-! ## The character that ends a line -/

/-- A character that is the last of a line break: a `\n`, or a `\r` that no `\n` follows. -/
def EndsLine (c : Char) (rest : List Char) : Prop :=
  c = '\n' ∨ (c = '\r' ∧ rest.head? ≠ some '\n')

instance (c : Char) (rest : List Char) : Decidable (EndsLine c rest) :=
  inferInstanceAs (Decidable (_ ∨ _))

/-- Lines of a text with one more character, which is not the first of a `\r\n`. -/
theorem splitLines_snoc {taken rest : List Char} {c : Char} (hapart : Apart taken (c :: rest)) :
    splitLines (taken ++ [c]) =
      if c = '\r' ∨ c = '\n' then splitLines taken ++ [[]]
      else joinLines (splitLines taken) [[c]] := by
  have hsingle : Apart taken [c] := by
    intro before after htaken hc
    exact hapart before rest htaken (by rw [(List.cons.inj hc).1])
  have hnot : ∀ after, c = '\r' → [] = '\n' :: after → False := fun _ _ h => nomatch h
  rw [splitLines_append hsingle, splitLines.eq_2 c [] hnot]
  by_cases hbreak : c = '\r' ∨ c = '\n'
  · rw [if_pos hbreak, if_pos hbreak, show splitLines [] = [[]] from rfl,
      joinLines_break (splitLines_ne_nil taken)]
  · rw [if_neg hbreak, if_neg hbreak]
    rfl

end Text

/-! ## Boundaries of a source -/

namespace Source

/-- At a boundary a source is cut in two. -/
theorem exists_taken (src : Source) {offset : Nat} (h : src.isBoundary offset = true) :
    ∃ taken rest, src.text = taken ++ rest ∧ Text.byteLength taken = offset := by
  obtain ⟨⟨before, rest⟩, hplace⟩ := isBoundary_iff.1 h
  rw [cursor?_eq_seek] at hplace
  obtain ⟨taken, htext, hsize⟩ := Cursor.seek_taken hplace
  exact ⟨taken, rest, htext, hsize⟩

/-- The last boundary that is not after an offset is the greatest of them. -/
theorem floor_isGreatest (src : Source) (offset : Nat) :
    IsGreatest {o | src.isBoundary o = true ∧ o ≤ offset} (src.floor offset) := by
  induction offset with
  | zero => exact ⟨⟨src.isBoundary_zero, Nat.le_refl 0⟩, fun o ho => ho.2⟩
  | succ offset ih =>
      by_cases hhere : src.isBoundary (offset + 1) = true
      · rw [floor, if_pos hhere]
        exact ⟨⟨hhere, Nat.le_refl _⟩, fun o ho => ho.2⟩
      · rw [floor, if_neg hhere]
        refine ⟨⟨ih.1.1, Nat.le_succ_of_le ih.1.2⟩, fun o ho => ih.2 ⟨ho.1, ?_⟩⟩
        rcases Nat.lt_or_eq_of_le ho.2 with hlt | rfl
        · exact Nat.le_of_lt_succ hlt
        · exact absurd ho.1 hhere

/-- An offset right behind a complete line break. -/
def AfterBreak (src : Source) (offset : Nat) : Prop :=
  ∃ c rest, src.cursor? offset = some ⟨some c, rest⟩ ∧ Text.EndsLine c rest

/-- Behind a character there is a break if the character ends a line. -/
theorem afterBreak_iff (src : Source) {taken rest : List Char} {c : Char}
    (htext : src.text = taken ++ c :: rest) :
    src.AfterBreak (Text.byteLength taken + c.utf8Size) ↔ Text.EndsLine c rest := by
  have hstart : src.cursor? 0 = some ⟨none, taken ++ c :: rest⟩ := by rw [src.cursor?_zero, htext]
  obtain ⟨before, hhere⟩ := cursor?_advance hstart
  rw [Nat.zero_add] at hhere
  have hplace := cursor?_char hhere
  constructor
  · rintro ⟨c', rest', hplace', hend⟩
    rw [hplace] at hplace'
    simp only [Option.some.injEq, Cursor.mk.injEq] at hplace'
    obtain ⟨rfl, rfl⟩ := hplace'
    exact hend
  · exact fun hend => ⟨c, rest, hplace, hend⟩

end Source

namespace Location

open Text

/-! ## One character further on -/

/-- The location behind a character: in the first column of the next line if the character ends
a line, and otherwise in the next column. -/
def next (loc : Location) (c : Char) (rest : List Char) : Location :=
  if EndsLine c rest then ⟨loc.offset + c.utf8Size, loc.line + 1, 1⟩
  else ⟨loc.offset + c.utf8Size, loc.line, loc.column + 1⟩

variable {src : Source}

/-- A location moves on with a character that is neither of a `\r\n`. -/
private theorem locate_next_of_apart {taken rest : List Char} {c : Char}
    (htext : src.text = taken ++ c :: rest) (hapart : Apart taken (c :: rest))
    (hwhole : Apart (taken ++ [c]) rest) :
    locate src (byteLength taken + c.utf8Size) = (locate src (byteLength taken)).next c rest := by
  obtain ⟨last, hlast, hhere⟩ := locate_eq htext hapart
  have hsnoc : src.text = (taken ++ [c]) ++ rest := by rw [htext, List.append_assoc]; rfl
  obtain ⟨last', hlast', hnext⟩ := locate_eq hsnoc hwhole
  have hsize : byteLength (taken ++ [c]) = byteLength taken + c.utf8Size := by
    rw [byteLength_append]
    rfl
  rw [splitLines_snoc hapart] at hlast' hnext
  rw [← hsize, hnext, hhere, next, hsize]
  by_cases hbreak : c = '\r' ∨ c = '\n'
  · have hend : EndsLine c rest := by
      rcases hbreak with rfl | rfl
      · refine .inr ⟨rfl, fun hhead => ?_⟩
        obtain ⟨after, rfl⟩ := List.head?_eq_some_iff.1 hhead
        exact hwhole taken after rfl rfl
      · exact .inl rfl
    rw [if_pos hbreak, List.getLast?_concat] at hlast'
    obtain rfl := Option.some.inj hlast'
    rw [if_pos hbreak, if_pos hend, List.length_append]
    rfl
  · have hend : ¬EndsLine c rest := by
      rintro (hc | ⟨hc, -⟩)
      · exact hbreak (.inr hc)
      · exact hbreak (.inl hc)
    have hjoin := joinLines_single hlast [c]
    rw [if_neg hbreak, hjoin.2] at hlast'
    obtain rfl := Option.some.inj hlast'
    rw [if_neg hbreak, if_neg hend, hjoin.1, List.length_append]
    rfl

/-- Between the two characters of a `\r\n` the line has not ended yet. -/
private theorem locate_inside {before rest : List Char}
    (htext : src.text = before ++ '\r' :: '\n' :: rest) :
    ∃ last, (splitLines before).getLast? = some last ∧
      locate src (byteLength before) =
        ⟨byteLength before, (splitLines before).length, last.length + 1⟩ ∧
      locate src (byteLength before + 1) =
        ⟨byteLength before + 1, (splitLines before).length, last.length + 2⟩ := by
  have hapart : Apart before ('\r' :: '\n' :: rest) := fun _ _ _ h => by simp at h
  obtain ⟨last, hlast, hhere⟩ := locate_eq htext hapart
  obtain ⟨last', hlast', hinside⟩ := @locate_within src before ['\r'] ('\n' :: rest) htext
    hapart (by
    intro b hb
    rcases List.mem_cons.1 hb with rfl | hb
    · show byteLength before + 1 < byteLength before + 2
      omega
    · have hstop := (stop_of_mem_lineBreaksFrom hb).1
      show byteLength before + 1 < b.stop
      omega)
  obtain rfl := Option.some.inj (hlast.symm.trans hlast')
  exact ⟨last, hlast, hhere, hinside⟩

/-- A location moves on with each character. -/
theorem locate_next {taken rest : List Char} {c : Char} (htext : src.text = taken ++ c :: rest) :
    locate src (byteLength taken + c.utf8Size) = (locate src (byteLength taken)).next c rest := by
  by_cases hjoined : c = '\r' ∧ rest.head? = some '\n'
  · -- Into a `\r\n`: the line goes on.
    obtain ⟨rfl, hhead⟩ := hjoined
    obtain ⟨after, rfl⟩ := List.head?_eq_some_iff.1 hhead
    obtain ⟨last, -, hhere, hinside⟩ := locate_inside htext
    have hend : ¬EndsLine '\r' ('\n' :: after) := by simp [EndsLine]
    rw [hhere, next, if_neg hend]
    exact hinside
  have hwhole : Apart (taken ++ [c]) rest := by
    rintro before after htaken rfl
    obtain ⟨-, hc⟩ := List.append_inj' htaken rfl
    exact hjoined ⟨(List.cons.inj hc).1, rfl⟩
  by_cases hapart : Apart taken (c :: rest)
  · exact locate_next_of_apart htext hapart hwhole
  · -- Out of a `\r\n`: the line has been ended by both characters together.
    simp only [Apart, not_forall] at hapart
    obtain ⟨before, after, rfl, hc, -⟩ := hapart
    obtain ⟨rfl, rfl⟩ := List.cons.inj hc
    have hinside : src.text = before ++ '\r' :: '\n' :: rest := by
      rw [htext, List.append_assoc]
      rfl
    have hbehind : src.text = (before ++ ['\r', '\n']) ++ rest := by
      rw [hinside, List.append_assoc]
      rfl
    obtain ⟨last, -, -, hhere⟩ := locate_inside hinside
    have happend : before ++ ['\r', '\n'] = (before ++ ['\r']) ++ ['\n'] := by
      rw [List.append_assoc]
      rfl
    obtain ⟨last', hlast', hnext⟩ := locate_eq hbehind (by rwa [happend])
    have hlines : splitLines (before ++ ['\r', '\n']) = splitLines before ++ [[]] := by
      have hcut : Apart before ['\r', '\n'] := fun _ _ _ h => by simp at h
      rw [splitLines_append hcut]
      exact joinLines_break (splitLines_ne_nil before)
    rw [hlines, List.getLast?_concat] at hlast'
    obtain rfl := Option.some.inj hlast'
    have hsize : byteLength (before ++ ['\r']) = byteLength before + 1 := byteLength_append ..
    have hsize' : byteLength (before ++ ['\r', '\n']) = byteLength before + 1 + 1 :=
      byteLength_append ..
    rw [hlines, hsize', List.length_append] at hnext
    rw [hsize, hhere, next, if_pos (.inl rfl)]
    exact hnext

/-! ## The order of locations -/

/-- Line and column, to be compared in this order. -/
def key (loc : Location) : ℕ ×ₗ ℕ := toLex (loc.line, loc.column)

theorem key_lt_iff {loc loc' : Location} :
    loc.key < loc'.key ↔
      loc.line < loc'.line ∨ (loc.line = loc'.line ∧ loc.column < loc'.column) :=
  Prod.Lex.toLex_lt_toLex

/-- The location behind a character is a later one. -/
theorem key_lt_next (loc : Location) (c : Char) (rest : List Char) :
    loc.key < (loc.next c rest).key := by
  rw [key_lt_iff]
  unfold next
  by_cases hend : EndsLine c rest
  · rw [if_pos hend]
    exact .inl (Nat.lt_succ_self _)
  · rw [if_neg hend]
    exact .inr ⟨rfl, Nat.lt_succ_self _⟩

/-- So is the location behind any text. -/
theorem locate_lt_of_text {taken between rest : List Char}
    (htext : src.text = taken ++ (between ++ rest)) (hne : between ≠ []) :
    (locate src (byteLength taken)).key <
      (locate src (byteLength taken + byteLength between)).key := by
  induction between generalizing taken with
  | nil => contradiction
  | cons c between ih =>
      have hstep : (locate src (byteLength taken)).key <
          (locate src (byteLength taken + c.utf8Size)).key := by
        rw [locate_next htext]
        exact key_lt_next _ _ _
      by_cases hnil : between = []
      · rw [hnil]
        exact hstep
      · have htext' : src.text = (taken ++ [c]) ++ (between ++ rest) := by
          rw [htext, List.append_assoc]
          rfl
        have hrest := ih htext' hnil
        have hsize : byteLength (taken ++ [c]) = byteLength taken + c.utf8Size :=
          byteLength_append ..
        rw [hsize, Nat.add_assoc, ← byteLength_cons] at hrest
        exact lt_trans hstep hrest

/-- Locations of boundaries are in the order of the boundaries. -/
theorem locate_lt {offset offset' : Nat} (hoffset : src.isBoundary offset = true)
    (hoffset' : src.isBoundary offset' = true) (hlt : offset < offset') :
    (locate src offset).key < (locate src offset').key := by
  obtain ⟨taken, rest, htext, rfl⟩ := src.exists_taken hoffset
  obtain ⟨taken', rest', htext', rfl⟩ := src.exists_taken hoffset'
  obtain ⟨between, rfl, rfl⟩ | ⟨between, rfl, rfl⟩ :=
    List.append_eq_append_iff.1 (htext.symm.trans htext')
  · have hne : between ≠ [] := by
      rintro rfl
      simp at hlt
    rw [byteLength_append]
    exact locate_lt_of_text htext hne
  · rw [byteLength_append] at hlt
    omega

/-! ## The first column -/

theorem one_le_locate_column (src : Source) (offset : Nat) : 1 ≤ (locate src offset).column :=
  Nat.le_add_left _ _

/-- A boundary is in the first column where the text begins and where a line begins. -/
theorem column_eq_one_iff {offset : Nat} (hoffset : src.isBoundary offset = true) :
    (locate src offset).column = 1 ↔ offset = 0 ∨ src.AfterBreak offset := by
  obtain ⟨taken, rest, htext, rfl⟩ := src.exists_taken hoffset
  rcases List.eq_nil_or_concat taken with rfl | ⟨taken, c, rfl⟩
  · have hfirst : (locate src 0).column = 1 := by
      obtain ⟨last, hlast, hhere⟩ := locate_eq htext (fun before _ h _ => by simp at h)
      obtain rfl := Option.some.inj hlast
      rw [show (0 : Nat) = byteLength [] from rfl, hhere]
      rfl
    exact ⟨fun _ => .inl rfl, fun _ => hfirst⟩
  · rw [List.concat_eq_append] at htext ⊢
    have htext' : src.text = taken ++ c :: rest := by rw [htext, List.append_assoc]; rfl
    have hsize : byteLength (taken ++ [c]) = byteLength taken + c.utf8Size := byteLength_append ..
    have hchar := c.utf8Size_pos
    have hcolumn := one_le_locate_column src (byteLength taken)
    rw [hsize, locate_next htext', src.afterBreak_iff htext']
    unfold next
    by_cases hend : EndsLine c rest
    · rw [if_pos hend]
      exact ⟨fun _ => .inr hend, fun _ => rfl⟩
    · rw [if_neg hend]
      show (locate src (byteLength taken)).column + 1 = 1 ↔ _
      constructor
      · intro hone
        omega
      · rintro (hzero | hafter)
        · omega
        · exact absurd hafter hend

/-! ## All offsets -/

/-- An offset is located where the last boundary up to it is. -/
theorem locate_locate_offset (src : Source) (offset : Nat) :
    locate src (locate src offset).offset = locate src offset := by
  have hboundary : src.isBoundary (locate src offset).offset = true :=
    (src.floor_isGreatest _).1.1
  have hsame := locate_offset hboundary
  unfold locate at hsame ⊢
  simp only at hsame ⊢
  rw [hsame]

/-- How the locations of a source are in the order of its offsets. -/
structure Ordered (src : Source) : Prop where
  /-- An offset is located at the greatest boundary that is neither behind it nor past the
  end. -/
  greatest : ∀ offset,
    IsGreatest {o | src.isBoundary o = true ∧ o ≤ min offset src.size} (locate src offset).offset
  /-- Of two boundaries the later one has the greater line, or the greater column in the same
  line. -/
  lt : ∀ offset offset', src.isBoundary offset = true → src.isBoundary offset' = true →
    offset < offset' → (locate src offset).key < (locate src offset').key
  /-- No two boundaries have the same line and column. -/
  injective : ∀ offset offset', src.isBoundary offset = true → src.isBoundary offset' = true →
    (locate src offset).line = (locate src offset').line →
    (locate src offset).column = (locate src offset').column → offset = offset'
  one_le_line : ∀ offset, 1 ≤ (locate src offset).line
  one_le_column : ∀ offset, 1 ≤ (locate src offset).column
  /-- The first column is where the text begins and behind the breaks. -/
  column_eq_one_iff : ∀ offset, (locate src offset).column = 1 ↔
    (locate src offset).offset = 0 ∨ src.AfterBreak (locate src offset).offset

/-- Locations are in the order of their offsets, in every source. -/
theorem locate_ordered (src : Source) : Ordered src where
  greatest offset := src.floor_isGreatest _
  lt _ _ := locate_lt
  injective offset offset' hoffset hoffset' hline hcolumn := by
    have hkey : (locate src offset).key = (locate src offset').key := by
      rw [key, key, hline, hcolumn]
    rcases Nat.lt_trichotomy offset offset' with hlt | heq | hgt
    · exact absurd hkey (locate_lt hoffset hoffset' hlt).ne
    · exact heq
    · exact absurd hkey (locate_lt hoffset' hoffset hgt).ne'
  one_le_line := one_le_locate_line src
  one_le_column := one_le_locate_column src
  column_eq_one_iff offset := by
    have hboundary : src.isBoundary (locate src offset).offset = true :=
      (src.floor_isGreatest _).1.1
    have hfirst := column_eq_one_iff hboundary
    rwa [locate_locate_offset] at hfirst

end Location

end Packrat
