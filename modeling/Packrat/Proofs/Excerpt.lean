import Packrat.Diagnostics
import Packrat.Source.Boundary
/-!
# Excerpts mark a line

An excerpt is cut out of the lines of a source by their numbers, while the line of a
location is found by counting the breaks before it. The two agree because a text has one
line more than it has breaks: the line of a location is always one of the lines of the
source. So an excerpt shows it, marked, with the pointer below, and marks no other line.

## Main results

* `Text.length_splitLines` — a text has one line more than it has breaks.
* `Location.excerpt_marks` — an excerpt marks the line of its location.
-/

namespace Packrat

namespace Text

theorem length_consFirst {lines : List (List Char)} (c : Char) (h : 0 < lines.length) :
    (consFirst c lines).length = lines.length := by
  cases lines with
  | nil => contradiction
  | cons => rfl

/-- A text has one line more than it has breaks, wherever its first byte stands. -/
theorem length_splitLines_from (text : List Char) (offset : Nat) :
    (splitLines text).length = (lineBreaksFrom offset text).length + 1 := by
  induction text using splitLines.induct generalizing offset with
  | case1 rest ih => simp only [splitLines, lineBreaksFrom, List.length_cons, ih (offset + 2)]
  | case2 c rest hjoined hbreak ih =>
      rw [splitLines.eq_2 c rest hjoined, lineBreaksFrom.eq_2 offset c rest hjoined, if_pos hbreak,
        if_pos hbreak, List.length_cons, List.length_cons, ih]
  | case3 c rest hjoined hother ih =>
      rw [splitLines.eq_2 c rest hjoined, lineBreaksFrom.eq_2 offset c rest hjoined,
        if_neg hother, if_neg hother, length_consFirst c (by rw [ih 0]; omega), ih]
  | case4 => rfl

/-- A text has one line more than it has breaks. -/
theorem length_splitLines (text : List Char) :
    (splitLines text).length = (lineBreaks text).length + 1 :=
  length_splitLines_from text 0

end Text

/-- The last boundary that is not after a boundary is that boundary. -/
theorem Source.floor_of_isBoundary {src : Source} {offset : Nat}
    (h : src.isBoundary offset = true) : src.floor offset = offset := by
  cases offset with
  | zero => rfl
  | succ offset => rw [floor, if_pos h]

namespace Location

/-- A boundary is located where it is. -/
theorem locate_offset {src : Source} {offset : Nat} (h : src.isBoundary offset = true) :
    (locate src offset).offset = offset := by
  have hmin : min offset src.size = offset := Nat.min_eq_left (Source.le_size_of_isBoundary h)
  show src.floor (min offset src.size) = offset
  rw [hmin, Source.floor_of_isBoundary h]

/-- The line of an offset is one of the lines of the source. -/
theorem locate_line_le (src : Source) (offset : Nat) :
    (locate src offset).line ≤ (Text.splitLines src.text).length := by
  rw [Text.length_splitLines]
  exact Nat.succ_le_succ (List.takeWhile_prefix _).length_le

theorem one_le_locate_line (src : Source) (offset : Nat) : 1 ≤ (locate src offset).line :=
  Nat.le_add_left _ _

/-- How a line of a source is shown in an excerpt. -/
def shownLine (number : Nat) (marked : Bool) (content : List Char) : String :=
  String.ofList (gutter number marked ++ content)

/-- Lines of an excerpt mark the line of a location: they show it marked, with the
pointer below it, and all other lines that they show are not marked. -/
def Marks (src : Source) (loc : Location) (context : List String) : Prop :=
  ∃ before content after,
    context = before ++ shownLine loc.line true content :: String.ofList (pointer loc) :: after ∧
    1 ≤ loc.line ∧ (Text.splitLines src.text)[loc.line - 1]? = some content ∧
    ∀ line ∈ before ++ after, ∃ number content, 1 ≤ number ∧ number ≠ loc.line ∧
      (Text.splitLines src.text)[number - 1]? = some content ∧
      line = shownLine number false content

/-- The lines that an excerpt shows of some lines with their numbers. -/
def shown (loc : Location) (lines : List (List Char × Nat)) : List String :=
  (lines.filter fun (_, number) =>
      loc.line ≤ number + excerptReach ∧ number ≤ loc.line + excerptReach).flatMap
    fun (content, number) => (excerptLine loc number content).map String.ofList

theorem excerpt_eq_shown (src : Source) (loc : Location) :
    loc.excerpt src = shown loc ((Text.splitLines src.text).zipIdx 1) := rfl

theorem shown_append (loc : Location) (lines rest : List (List Char × Nat)) :
    shown loc (lines ++ rest) = shown loc lines ++ shown loc rest := by
  simp only [shown, List.filter_append, List.flatMap_append]

theorem shown_cons_line (loc : Location) (content : List Char) (rest : List (List Char × Nat)) :
    shown loc ((content, loc.line) :: rest) =
      shownLine loc.line true content :: String.ofList (pointer loc) :: shown loc rest := by
  have hshown : loc.line ≤ loc.line + excerptReach ∧ loc.line ≤ loc.line + excerptReach :=
    ⟨Nat.le_add_right _ _, Nat.le_add_right _ _⟩
  simp [shown, hshown, excerptLine, shownLine]

/-- Of lines with other numbers an excerpt shows each as it is. -/
theorem mem_shown_of_ne {loc : Location} {lines : List (List Char × Nat)} {line : String}
    (hother : ∀ entry ∈ lines, entry.2 ≠ loc.line) (h : line ∈ shown loc lines) :
    ∃ entry ∈ lines, line = shownLine entry.2 false entry.1 := by
  obtain ⟨⟨content, number⟩, hentry, hline⟩ := List.mem_flatMap.1 h
  have hmem := (List.mem_filter.1 hentry).1
  have hne : number ≠ loc.line := hother _ hmem
  refine ⟨_, hmem, ?_⟩
  simpa [excerptLine, hne, shownLine] using hline

/-- Numbered lines above and below one of them have other numbers. -/
theorem zipIdx_eq_around {lines : List (List Char)} {number : Nat} {content : List Char}
    (hone : 1 ≤ number) (hcontent : lines[number - 1]? = some content) :
    ∃ above below, lines.zipIdx 1 = above ++ (content, number) :: below ∧
      (∀ entry ∈ above, entry.2 ≠ number) ∧ ∀ entry ∈ below, entry.2 ≠ number := by
  obtain ⟨index, rfl⟩ := Nat.exists_eq_add_of_le' hone
  rw [Nat.add_sub_cancel] at hcontent
  obtain ⟨hlt, hget⟩ := List.getElem?_eq_some_iff.1 hcontent
  have hlength : (lines.take index).length = index := List.length_take_of_le (Nat.le_of_lt hlt)
  refine ⟨(lines.take index).zipIdx 1, (lines.drop (index + 1)).zipIdx (index + 1 + 1), ?_,
    fun entry hentry => ?_, fun entry hentry => ?_⟩
  · have hsplit : lines = lines.take index ++ content :: lines.drop (index + 1) := by
      rw [← hget, List.getElem_cons_drop, List.take_append_drop]
    calc lines.zipIdx 1
        = (lines.take index ++ content :: lines.drop (index + 1)).zipIdx 1 := by rw [← hsplit]
      _ = _ := by rw [List.zipIdx_append, List.zipIdx_cons, hlength, Nat.add_comm 1 index]
  · have hbelow := List.snd_lt_add_of_mem_zipIdx hentry
    omega
  · have habove := List.le_snd_of_mem_zipIdx hentry
    omega

/-- An excerpt marks the line of its location. -/
theorem excerpt_marks {src : Source} {loc : Location} (hone : 1 ≤ loc.line)
    (hle : loc.line ≤ (Text.splitLines src.text).length) : loc.Marks src (loc.excerpt src) := by
  obtain ⟨lines, hlines⟩ : ∃ lines, Text.splitLines src.text = lines := ⟨_, rfl⟩
  rw [hlines] at hle
  have hcontent : lines[loc.line - 1]? = some lines[loc.line - 1] := List.getElem?_eq_getElem _
  obtain ⟨above, below, hsplit, habove, hbelow⟩ := zipIdx_eq_around hone hcontent
  have hentry (entry : List Char × Nat) (h : entry ∈ lines.zipIdx 1) :
      1 ≤ entry.2 ∧ lines[entry.2 - 1]? = some entry.1 :=
    List.mk_mem_zipIdx_iff_le_and_getElem?_sub.1 h
  refine ⟨shown loc above, lines[loc.line - 1], shown loc below, ?_, hone, ?_,
    fun line hmem => ?_⟩
  · rw [excerpt_eq_shown, hlines, hsplit, shown_append, shown_cons_line]
  · rw [hlines]
    exact hcontent
  · have hshown : ∃ entry ∈ lines.zipIdx 1, entry.2 ≠ loc.line ∧
        line = shownLine entry.2 false entry.1 := by
      rw [hsplit]
      rcases List.mem_append.1 hmem with hmem | hmem
      · obtain ⟨entry, h, heq⟩ := mem_shown_of_ne habove hmem
        exact ⟨entry, List.mem_append_left _ h, habove entry h, heq⟩
      · obtain ⟨entry, h, heq⟩ := mem_shown_of_ne hbelow hmem
        exact ⟨entry, List.mem_append_right _ (List.mem_cons_of_mem _ h), hbelow entry h, heq⟩
    obtain ⟨entry, h, hne, heq⟩ := hshown
    obtain ⟨hpos, hcontent⟩ := hentry entry h
    exact ⟨entry.2, entry.1, hpos, hne, hlines ▸ hcontent, heq⟩

end Location

/-- Diagnostics for an offset mark the line of their location. -/
theorem Diagnostics.atOffset_marks (src : Source) (st : State) (offset : Nat) :
    (atOffset src st offset).location.Marks src (atOffset src st offset).context :=
  Location.excerpt_marks (Location.one_le_locate_line src offset)
    (Location.locate_line_le src offset)

end Packrat
