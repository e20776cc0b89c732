import Packrat.Proofs.Numeral
import Packrat.Proofs.Peg
/-!
# Texts that stand in a source

A text stands at an offset if it is what the source holds from there on. A parser that looks
at the text from an offset on finds what it finds in the text, wherever that stands.

## Main results

* `Source.Stands.behind` — what stands behind a text that stands in a source.
* `Grammar.derives_char`, `Grammar.derives_char_of_avoids` — a parser of a character matches
  exactly where the character stands.
-/

namespace Packrat

open Text (Avoids byteLength)

/-- From an offset on, this is the text of a source. -/
def Source.Stands (src : Source) (offset : Nat) (text : List Char) : Prop :=
  ∃ before, src.cursor? offset = some ⟨before, text⟩

namespace Source.Stands

variable {src : Source} {offset : Nat}

theorem start (text : List Char) : (Source.ofList text).Stands 0 text :=
  ⟨none, (Source.ofList text).cursor?_zero⟩

theorem behind {taken rest : List Char} (h : src.Stands offset (taken ++ rest)) :
    src.Stands (offset + byteLength taken) rest := by
  obtain ⟨before, hbefore⟩ := h
  exact cursor?_advance hbefore

theorem scanText {text : List Char} (h : src.Stands offset text)
    (look : Nat → List Char → Scan) : Primitive.scanText src offset look = look offset text := by
  obtain ⟨before, hbefore⟩ := h
  rw [Primitive.scanText, hbefore]

end Source.Stands

namespace Primitive

variable {src : Source} {offset : Nat}

theorem scan_char {c : Char} {rest : List Char} (h : src.Stands offset (c :: rest)) :
    (Primitive.char c).scan src offset = .found (.char c) (offset + c.utf8Size) := by
  rw [scan, h.scanText, scanChar, beq_self_eq_true, if_pos rfl]

theorem scan_char_of_avoids {c : Char} {text : List Char} (h : src.Stands offset text)
    (hc : Avoids (· == c) text) : (Primitive.char c).scan src offset = .noMatch := by
  rw [scan, h.scanText]
  cases text with
  | nil => rfl
  | cons d rest =>
      have hne : (d == c) = false := hc d rfl
      rw [scanChar, hne, if_neg Bool.false_ne_true]

end Primitive

namespace Grammar

variable {g : Grammar} {src : Source} {slot : SlotId} {offset : Nat}

/-- What a primitive finds is what is derived for it. -/
theorem derives_of_scan {p : Primitive} (hslot : g.bodies[slot]? = some (.primitive p))
    {scan : Scan} (h : p.scan src offset = scan) :
    g.Derives src slot offset (.ofScan offset scan) :=
  (derives_iff_rule hslot).2 (congrArg (Verdict.ofScan offset) h.symm)

variable {c : Char} (hslot : g.bodies[slot]? = some (.primitive (.char c)))

include hslot

theorem derives_char {rest : List Char} (h : src.Stands offset (c :: rest)) :
    g.Derives src slot offset (.found (.char c) (offset + c.utf8Size)) :=
  derives_of_scan hslot (Primitive.scan_char h)

theorem derives_char_of_avoids {text : List Char} (h : src.Stands offset text)
    (hc : Avoids (· == c) text) : g.Derives src slot offset .noMatch :=
  derives_of_scan hslot (Primitive.scan_char_of_avoids h hc)

end Grammar

end Packrat
