import Packrat.Source
/-!
# Boundaries and parts of a source

Offsets count bytes and texts are lists of characters, so every parser that
takes some characters has to say how far they reach. Here that is done once: a
text that stands at a boundary ends at a boundary, as many bytes further on as
it is long, and the slice between the two is the text again.

## What a match may span

`IsPart` says that two offsets bound a part of the source: both are boundaries
and they are in order, so that the text between them can be taken out. Parsers
can also be asked to match at an offset that is no boundary. Nothing stands
there, so a match must not move on. `Reaches` covers both cases by one relation
that is reflexive and transitive; whatever moves along a source in steps that
are sound moves soundly as a whole.

## Main results

* `cursor?_advance` — a text at a boundary ends at a boundary.
* `slice_advance` — the slice that a text at a boundary spans is that text.
* `Reaches.trans` — steps along a source compose.
-/

namespace Packrat

open Text (byteLength takeBytes byteLength_append)

/-! ## Seeking in steps -/

namespace Cursor

/-- Seeking a sum of two offsets is seeking one after the other. -/
theorem seek_add {before before' : Option Char} {text rest : List Char} {i : Nat}
    (h : seek before text i = some ⟨before', rest⟩) (j : Nat) :
    seek before text (i + j) = seek before' rest j := by
  induction text generalizing before i with
  | nil =>
      cases i with
      | zero =>
          simp only [seek, Option.some.injEq, Cursor.mk.injEq] at h
          obtain ⟨rfl, rfl⟩ := h
          rw [Nat.zero_add]
      | succ i => simp [seek] at h
  | cons c text ih =>
      cases i with
      | zero =>
          simp only [seek, Option.some.injEq, Cursor.mk.injEq] at h
          obtain ⟨rfl, rfl⟩ := h
          rw [Nat.zero_add]
      | succ i =>
          simp only [seek] at h
          split at h
          case isFalse => simp at h
          case isTrue hle =>
            rw [show i + 1 + j = (i + j) + 1 by omega, seek, if_pos (by omega),
              show i + j + 1 - c.utf8Size = i + 1 - c.utf8Size + j by omega]
            exact ih h

/-- The offset that is found and the text after it make up the whole text. -/
theorem seek_length {before before' : Option Char} {text rest : List Char} {i : Nat}
    (h : seek before text i = some ⟨before', rest⟩) :
    i + byteLength rest = byteLength text := by
  induction text generalizing before i with
  | nil =>
      cases i with
      | zero =>
          simp only [seek, Option.some.injEq, Cursor.mk.injEq] at h
          rw [← h.2, Nat.zero_add]
      | succ i => simp [seek] at h
  | cons c text ih =>
      cases i with
      | zero =>
          simp only [seek, Option.some.injEq, Cursor.mk.injEq] at h
          rw [← h.2, Nat.zero_add]
      | succ i =>
          simp only [seek] at h
          split at h
          case isFalse => simp at h
          case isTrue hle =>
            have hrest := ih h
            rw [Text.byteLength_cons]
            omega

/-- The text before the offset that is found takes up all bytes to it. -/
theorem seek_taken {before before' : Option Char} {text rest : List Char} {i : Nat}
    (h : seek before text i = some ⟨before', rest⟩) :
    ∃ taken, text = taken ++ rest ∧ byteLength taken = i := by
  induction text generalizing before i with
  | nil =>
      cases i with
      | zero =>
          simp only [seek, Option.some.injEq, Cursor.mk.injEq] at h
          exact ⟨[], h.2, rfl⟩
      | succ i => simp [seek] at h
  | cons c text ih =>
      cases i with
      | zero =>
          simp only [seek, Option.some.injEq, Cursor.mk.injEq] at h
          exact ⟨[], h.2, rfl⟩
      | succ i =>
          simp only [seek] at h
          split at h
          case isFalse => simp at h
          case isTrue hle =>
            obtain ⟨taken, rfl, htaken⟩ := ih h
            refine ⟨c :: taken, rfl, ?_⟩
            rw [Text.byteLength_cons]
            omega

/-- The character at a place ends where the next place is. -/
theorem seek_char (before : Option Char) (c : Char) (rest : List Char) :
    seek before (c :: rest) c.utf8Size = some ⟨some c, rest⟩ := by
  obtain ⟨n, hn⟩ := Nat.exists_eq_succ_of_ne_zero (Nat.ne_of_gt c.utf8Size_pos)
  rw [hn, seek, if_pos (Nat.le_of_eq hn), ← Nat.succ_eq_add_one, hn, Nat.sub_self]
  cases rest <;> rfl

end Cursor

/-- As many bytes as a text has are that text. -/
theorem Text.takeBytes_append (taken rest : List Char) :
    takeBytes (byteLength taken) (taken ++ rest) = taken := by
  induction taken with
  | nil =>
      cases rest with
      | nil => rfl
      | cons c rest =>
          have hpos := c.utf8Size_pos
          rw [List.nil_append, byteLength_nil, takeBytes, if_neg (by omega)]
  | cons c taken ih =>
      rw [List.cons_append, takeBytes, byteLength_cons, if_pos (Nat.le_add_right _ _),
        Nat.add_sub_cancel_left, ih]

namespace Source

variable {src : Source}

theorem isBoundary_iff {offset : Nat} :
    src.isBoundary offset = true ↔ ∃ place, src.cursor? offset = some place := by
  simp only [isBoundary, Option.isSome_iff_exists]

theorem cursor?_of_not_isBoundary {offset : Nat} (h : src.isBoundary offset = false) :
    src.cursor? offset = none := by
  simpa only [isBoundary, Option.isSome_eq_false_iff, Option.isNone_iff_eq_none] using h

/-- The whole text stands at the beginning of a source. -/
theorem cursor?_zero (src : Source) : src.cursor? 0 = some ⟨none, src.text⟩ := by
  rw [cursor?_eq_seek]
  cases src.text <;> rfl

/-- The beginning of a source is a boundary. -/
theorem isBoundary_zero (src : Source) : src.isBoundary 0 = true :=
  isBoundary_iff.2 ⟨_, src.cursor?_zero⟩

/-- The end of a source is as far from a boundary as the text between them is
long. -/
theorem cursor?_length {offset : Nat} {place : Cursor} (h : src.cursor? offset = some place) :
    offset + byteLength place.rest = src.size := by
  rw [cursor?_eq_seek] at h
  rw [src.size_eq]
  exact Cursor.seek_length h

/-- No boundary lies past the end. -/
theorem le_size_of_isBoundary {offset : Nat} (h : src.isBoundary offset = true) :
    offset ≤ src.size := by
  obtain ⟨place, hplace⟩ := isBoundary_iff.1 h
  have hlength := cursor?_length hplace
  omega

/-- The character at a boundary ends at the next one. -/
theorem cursor?_char {offset : Nat} {before : Option Char} {c : Char} {rest : List Char}
    (h : src.cursor? offset = some ⟨before, c :: rest⟩) :
    src.cursor? (offset + c.utf8Size) = some ⟨some c, rest⟩ := by
  rw [cursor?_eq_seek] at h ⊢
  rw [Cursor.seek_add h, Cursor.seek_char]

/-- No boundary lies inside a character. -/
theorem next_le {start offset : Nat} {before : Option Char} {c : Char} {rest : List Char}
    {place : Cursor} (hhere : src.cursor? start = some ⟨before, c :: rest⟩)
    (hthere : src.cursor? offset = some place) (hlt : start < offset) :
    start + c.utf8Size ≤ offset := by
  obtain ⟨n, rfl⟩ := Nat.exists_eq_add_of_lt hlt
  rw [cursor?_eq_seek] at hhere hthere
  rw [Nat.add_assoc, Cursor.seek_add hhere, Cursor.seek] at hthere
  split at hthere
  · omega
  · contradiction

/-- No boundary lies past one at which no text stands. -/
theorem eq_of_le_at_end {start offset : Nat} {before : Option Char} {place : Cursor}
    (hhere : src.cursor? start = some ⟨before, []⟩) (hthere : src.cursor? offset = some place)
    (hle : start ≤ offset) : offset = start := by
  have hhere := cursor?_length hhere
  have hthere := cursor?_length hthere
  rw [Text.byteLength_nil] at hhere
  omega

/-- A text that stands at a boundary ends at a boundary. -/
theorem cursor?_advance {offset : Nat} {before : Option Char} {taken rest : List Char}
    (h : src.cursor? offset = some ⟨before, taken ++ rest⟩) :
    ∃ last, src.cursor? (offset + byteLength taken) = some ⟨last, rest⟩ := by
  induction taken generalizing offset before with
  | nil => exact ⟨before, h⟩
  | cons c taken ih =>
      obtain ⟨last, hlast⟩ := ih (cursor?_char h)
      exact ⟨last, by rw [Text.byteLength_cons, ← Nat.add_assoc]; exact hlast⟩

/-- The end of a source is a boundary. -/
theorem isBoundary_size (src : Source) : src.isBoundary src.size = true := by
  have hstart : src.cursor? 0 = some ⟨none, src.text ++ []⟩ := by
    rw [List.append_nil]
    exact src.cursor?_zero
  obtain ⟨last, hlast⟩ := cursor?_advance hstart
  rw [Nat.zero_add, ← src.size_eq] at hlast
  exact isBoundary_iff.2 ⟨_, hlast⟩

/-- The slice that a text at a boundary spans is that text. -/
theorem slice_advance {offset : Nat} {before : Option Char} {taken rest : List Char}
    (h : src.cursor? offset = some ⟨before, taken ++ rest⟩) :
    src.slice offset (offset + byteLength taken) = taken := by
  simp only [slice, h, Nat.add_sub_cancel_left]
  exact Text.takeBytes_append taken rest

/-! ## Parts -/

/-- Two offsets bound a part of the source, whose text can be taken out. -/
structure IsPart (src : Source) (start stop : Nat) : Prop where
  start_isBoundary : src.isBoundary start = true
  stop_isBoundary : src.isBoundary stop = true
  start_le_stop : start ≤ stop

instance (src : Source) (start stop : Nat) : Decidable (src.IsPart start stop) :=
  decidable_of_iff
    (src.isBoundary start = true ∧ src.isBoundary stop = true ∧ start ≤ stop)
    ⟨fun ⟨hstart, hstop, hle⟩ => ⟨hstart, hstop, hle⟩,
      fun ⟨hstart, hstop, hle⟩ => ⟨hstart, hstop, hle⟩⟩

namespace IsPart

theorem empty {offset : Nat} (h : src.isBoundary offset = true) : src.IsPart offset offset :=
  ⟨h, h, Nat.le_refl _⟩

theorem trans {a b c : Nat} (hab : src.IsPart a b) (hbc : src.IsPart b c) : src.IsPart a c :=
  ⟨hab.start_isBoundary, hbc.stop_isBoundary, Nat.le_trans hab.start_le_stop hbc.start_le_stop⟩

/-- No part goes past the end. -/
theorem stop_le_size {start stop : Nat} (h : src.IsPart start stop) : stop ≤ src.size :=
  le_size_of_isBoundary h.stop_isBoundary

/-- A text that stands at a boundary spans a part. -/
theorem of_text {offset : Nat} {before : Option Char} {taken rest : List Char}
    (h : src.cursor? offset = some ⟨before, taken ++ rest⟩) :
    src.IsPart offset (offset + byteLength taken) := by
  obtain ⟨last, hlast⟩ := cursor?_advance h
  exact ⟨isBoundary_iff.2 ⟨_, h⟩, isBoundary_iff.2 ⟨_, hlast⟩, Nat.le_add_right _ _⟩

end IsPart

/-! ## Moving along a source -/

/-- A match that begins at `start` may end at `stop`: it takes a part of the
source, or it takes nothing. -/
def Reaches (src : Source) (start stop : Nat) : Prop :=
  stop = start ∨ src.IsPart start stop

namespace Reaches

theorem refl (src : Source) (offset : Nat) : src.Reaches offset offset := .inl rfl

theorem of_isPart {start stop : Nat} (h : src.IsPart start stop) : src.Reaches start stop := .inr h

/-- Steps along a source compose. -/
theorem trans {a b c : Nat} (hab : src.Reaches a b) (hbc : src.Reaches b c) :
    src.Reaches a c := by
  rcases hab with rfl | hab
  · exact hbc
  · rcases hbc with rfl | hbc
    · exact .inr hab
    · exact .inr (hab.trans hbc)

theorem le {start stop : Nat} (h : src.Reaches start stop) : start ≤ stop := by
  rcases h with rfl | h
  · exact Nat.le_refl _
  · exact h.start_le_stop

/-- From a boundary only parts are reached. -/
theorem isPart {start stop : Nat} (h : src.Reaches start stop)
    (hstart : src.isBoundary start = true) : src.IsPart start stop := by
  rcases h with rfl | h
  · exact .empty hstart
  · exact h

/-- From an offset that is no boundary nothing else is reached. -/
theorem eq_of_not_isBoundary {start stop : Nat} (h : src.Reaches start stop)
    (hstart : src.isBoundary start = false) : stop = start := by
  rcases h with rfl | h
  · rfl
  · rw [h.start_isBoundary] at hstart
    contradiction

/-- A step that moves on stays within the source. -/
theorem stop_le_size {start stop : Nat} (h : src.Reaches start stop) (hlt : start < stop) :
    stop ≤ src.size := by
  rcases h with rfl | h
  · exact absurd hlt (Nat.lt_irrefl _)
  · exact h.stop_le_size

end Reaches

end Source

end Packrat
