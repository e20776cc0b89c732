import Mathlib.Data.List.Infix
import Packrat.Regex.Search
/-!
# Groups of a program are nested

A thread keeps a list of the groups that have begun and not ended. How long the list is depends
on the instruction alone, not on the way that led to it: in the program of a pattern every
instruction has a depth, and an instruction that begins a group is followed by one that is one
deeper, an instruction that ends a group by one that is one less deep. So a group never ends
that has not begun, and two threads that stand at one instruction have as many groups open.

A pattern is compiled from its end to its start, so an instruction is laid in front of others
that have a depth already. Only the choice behind a round of a loop is filled in later; it was
given its depth when its place was reserved.

## Main definitions

* `Leveled` — depths for the instructions of a program that go together.
* `Thread.Fits` — a thread has as many groups open as its instruction is deep.

## Main results

* `Program.ofPattern_leveled` — the program of a pattern has such depths.
* `Thread.Fits.step` — an instruction keeps threads fitting.
-/

namespace Packrat.Regex

variable {depths depths' : List Nat} {instrs : Array Instr} {instr : Instr} {label : Label}
  {depth : Nat}

/-! ## Depths -/

/-- The instructions that an instruction of a given depth names are of the depth that it leads
to. -/
def Instr.Keeps (depths : List Nat) (depth : Nat) : Instr → Prop
  | .one _ next => depths[next]? = some depth
  | .look _ next => depths[next]? = some depth
  | .choice first second => depths[first]? = some depth ∧ depths[second]? = some depth
  | .openGroup next => depths[next]? = some (depth + 1)
  | .closeGroup _ next => ∃ outer, depth = outer + 1 ∧ depths[next]? = some outer
  | .accept => True
  | .stuck => True

/-- Depths of instructions, each of which keeps to them. -/
structure Leveled (depths : List Nat) (instrs : Array Instr) : Prop where
  length_eq : depths.length = instrs.size
  keeps : ∀ {label : Label} {depth : Nat} {instr : Instr}, depths[label]? = some depth →
    instrs[label]? = some instr → instr.Keeps depths depth

/-- An instruction that has a depth keeps it when more instructions are given one. -/
theorem depth_mono (hext : depths <+: depths') (h : depths[label]? = some depth) :
    depths'[label]? = some depth := by
  obtain ⟨more, rfl⟩ := hext
  obtain ⟨hlt, -⟩ := List.getElem?_eq_some_iff.1 h
  rw [List.getElem?_append_left hlt, h]

theorem Instr.Keeps.mono (hext : depths <+: depths') (h : instr.Keeps depths depth) :
    instr.Keeps depths' depth := by
  cases instr with
  | one | look | openGroup => exact depth_mono hext h
  | choice => exact ⟨depth_mono hext h.1, depth_mono hext h.2⟩
  | closeGroup =>
      obtain ⟨outer, rfl, hnext⟩ := h
      exact ⟨outer, rfl, depth_mono hext hnext⟩
  | accept | stuck => exact trivial

namespace Leveled

theorem empty : Leveled [] #[] := ⟨rfl, nofun⟩

/-- An instruction is added with a depth that it keeps to. -/
theorem push (h : Leveled depths instrs) (hinstr : instr.Keeps depths depth) :
    Leveled (depths ++ [depth]) (instrs.push instr) := by
  have hext : depths <+: depths ++ [depth] := List.prefix_append ..
  refine ⟨by simp [h.length_eq], fun {label depth' instr'} hdepth hat => ?_⟩
  rw [Array.getElem?_push] at hat
  by_cases hlast : label = instrs.size
  · rw [if_pos hlast] at hat
    rw [hlast, ← h.length_eq, List.getElem?_concat_length] at hdepth
    rw [← Option.some.inj hat, ← Option.some.inj hdepth]
    exact hinstr.mono hext
  · rw [if_neg hlast] at hat
    obtain ⟨hlt, -⟩ := Array.getElem?_eq_some_iff.1 hat
    rw [List.getElem?_append_left (by rw [h.length_eq]; exact hlt)] at hdepth
    exact (h.keeps hdepth hat).mono hext

/-- An instruction is filled in that keeps to the depth of its place. -/
theorem set (h : Leveled depths instrs) (hlabel : depths[label]? = some depth)
    (hinstr : instr.Keeps depths depth) : Leveled depths (instrs.setIfInBounds label instr) := by
  refine ⟨by simp [h.length_eq], fun {label' depth' instr'} hdepth hat => ?_⟩
  rw [Array.getElem?_setIfInBounds] at hat
  by_cases hsame : label = label'
  · subst hsame
    rw [if_pos rfl] at hat
    split at hat
    · obtain rfl := Option.some.inj hat
      obtain rfl := Option.some.inj (hlabel.symm.trans hdepth)
      exact hinstr
    · contradiction
  · rw [if_neg hsame] at hat
    exact h.keeps hdepth hat

end Leveled

/-! ## Programs of patterns -/

namespace Program

/-- Instructions were added, so that all of them go together and the one that was handed on has
a given depth. -/
def Laid (depths : List Nat) (depth : Nat) (built : Label × Array Instr) : Prop :=
  ∃ depths', depths <+: depths' ∧ Leveled depths' built.2 ∧ depths'[built.1]? = some depth

/-- A part that may stand in front of any instruction of a given depth, and is then of that depth
itself. -/
def Lays (depth : Nat) (part : Label → Build Label) : Prop :=
  ∀ {depths instrs next}, Leveled depths instrs → depths[next]? = some depth →
    Laid depths depth ((part next).run instrs)

variable {next round : Label} {part : Label → Build Label} {greedy : Bool}

theorem Laid.weaken {built : Label × Array Instr} (hext : depths <+: depths')
    (h : Laid depths' depth built) : Laid depths depth built := by
  obtain ⟨depths'', hext', hleveled, hentry⟩ := h
  exact ⟨depths'', hext.trans hext', hleveled, hentry⟩

/-- Without an instruction more, the one that follows is handed on. -/
theorem Laid.here (h : Leveled depths instrs) (hnext : depths[next]? = some depth) :
    Laid depths depth (next, instrs) :=
  ⟨depths, List.prefix_rfl, h, hnext⟩

theorem emit_laid (h : Leveled depths instrs) (hinstr : instr.Keeps depths depth) :
    Laid depths depth ((emit instr).run instrs) := by
  refine ⟨depths ++ [depth], List.prefix_append .., h.push hinstr, ?_⟩
  show (depths ++ [depth])[instrs.size]? = some depth
  rw [← h.length_eq, List.getElem?_concat_length]

theorem roundOr_keeps (hround : depths[round]? = some depth) (hnext : depths[next]? = some depth) :
    (roundOr greedy round next).Keeps depths depth := by
  cases greedy with
  | true => exact ⟨hround, hnext⟩
  | false => exact ⟨hnext, hround⟩

/-- Steps one after the other: the second may rely on what the first has handed on. -/
theorem Laid.bind {first : Build Label} {second : Label → Build Label} {depth' : Nat}
    (hfirst : Laid depths depth (first.run instrs))
    (hsecond : ∀ {depths' instrs' label}, depths <+: depths' → Leveled depths' instrs' →
      depths'[label]? = some depth → Laid depths' depth' ((second label).run instrs')) :
    Laid depths depth' ((first >>= second).run instrs) := by
  obtain ⟨depths', hext, hleveled, hlabel⟩ := hfirst
  exact .weaken hext (hsecond hext hleveled hlabel)

theorem copies_lays (hpart : Lays depth part) : ∀ n, Lays depth (copies part n)
  | 0 => fun h hnext => .here h hnext
  | n + 1 => fun h hnext => (hpart h hnext).bind fun _ h' hlabel => copies_lays hpart n h' hlabel

theorem upTo_laid (hpart : Lays depth part) (n : Nat) {inner : Label}
    (h : Leveled depths instrs) (hnext : depths[next]? = some depth)
    (hinner : depths[inner]? = some depth) :
    Laid depths depth ((upTo part greedy next n inner).run instrs) := by
  induction n generalizing depths instrs inner with
  | zero => exact .here h hinner
  | succ n ih =>
      refine (hpart h hinner).bind fun hext h' hround => ?_
      have hnext' := depth_mono hext hnext
      refine (emit_laid h' (roundOr_keeps hround hnext')).bind fun hext' h'' hchoice => ?_
      exact ih h'' (depth_mono hext' hnext') hchoice

/-- A loop of at least one round lays both its first round and the choice after each round. -/
theorem atLeastOnce_laid (hpart : Lays depth part) (h : Leveled depths instrs)
    (hnext : depths[next]? = some depth) :
    let built := (atLeastOnce part greedy next).run instrs
    ∃ depths', depths <+: depths' ∧ Leveled depths' built.2 ∧
      depths'[built.1.1]? = some depth ∧ depths'[built.1.2]? = some depth := by
  have hstuck : Instr.stuck.Keeps depths depth := trivial
  obtain ⟨depths₁, hext₁, h₁, hagain⟩ := emit_laid h hstuck
  obtain ⟨depths₂, hext₂, h₂, hround⟩ := hpart h₁ hagain
  have hagain' := depth_mono hext₂ hagain
  have hnext' := depth_mono (hext₁.trans hext₂) hnext
  exact ⟨depths₂, hext₁.trans hext₂, h₂.set hagain' (roundOr_keeps hround hnext'), hround, hagain'⟩

/-- The instructions of a pattern stand in front of any instruction, at its depth. -/
theorem compile_lays (pattern : Pattern) : ∀ depth, Lays depth (compile pattern) := by
  induction pattern with
  | empty => exact fun _ _ _ _ h hnext => .here h hnext
  | one set unicode => exact fun _ _ _ _ h hnext => emit_laid h hnext
  | look look => exact fun _ _ _ _ h hnext => emit_laid h hnext
  | seq first second ihFirst ihSecond =>
      intro depth depths instrs next h hnext
      exact (ihSecond depth h hnext).bind fun _ h' hlabel => ihFirst depth h' hlabel
  | alt first second ihFirst ihSecond =>
      intro depth depths instrs next h hnext
      refine (ihFirst depth h hnext).bind fun hext h' hfirst => ?_
      refine (ihSecond depth h' (depth_mono hext hnext)).bind fun hext' h'' hsecond => ?_
      exact emit_laid h'' ⟨depth_mono hext' hfirst, hsecond⟩
  | group index name body ih =>
      intro depth depths instrs next h hnext
      have hclose : (Instr.closeGroup index next).Keeps depths (depth + 1) := ⟨depth, rfl, hnext⟩
      refine (emit_laid h hclose).bind fun _ h' hlabel => ?_
      exact (ih (depth + 1) h' hlabel).bind fun _ h'' hbody => emit_laid h'' hbody
  | rep least most greedy body ih =>
      intro depth depths instrs next h hnext
      cases most with
      | none =>
          let built := (atLeastOnce (compile body) greedy next).run instrs
          obtain ⟨depths', hext, h', hround, hagain⟩ := atLeastOnce_laid (ih depth) h hnext
          refine .weaken hext ?_
          show Laid depths' depth (StateT.run
            (if least = 0 then
              if body.consumes then pure built.1.2 else emit (roundOr greedy built.1.1 next)
            else copies (compile body) (least - 1) built.1.1) built.2)
          split
          · split
            · exact .here h' hagain
            · exact emit_laid h' (roundOr_keeps hround (depth_mono hext hnext))
          · exact copies_lays (ih depth) (least - 1) h' hround
      | some most =>
          exact (upTo_laid (ih depth) (most - least) h hnext hnext).bind
            fun _ h' hlabel => copies_lays (ih depth) least h' hlabel

/-- The instructions of a program have depths that go together, and it begins with no group
open. -/
theorem ofPattern_leveled (pattern : Pattern) :
    ∃ depths, Leveled depths (ofPattern pattern).instrs ∧
      depths[(ofPattern pattern).entry]? = some 0 := by
  have haccept : Instr.accept.Keeps [] 0 := trivial
  obtain ⟨depths, -, h, hentry⟩ := (emit_laid .empty haccept).bind
    fun _ h hlabel => compile_lays pattern 0 h hlabel
  exact ⟨depths, h, hentry⟩

end Program

/-! ## Threads -/

/-- A thread has as many groups open as the instruction that it stands at is deep. -/
def Thread.Fits (depths : List Nat) (thread : Thread) : Prop :=
  depths[thread.label]? = some thread.opened.length

/-- An instruction keeps a thread fitting. -/
theorem Thread.Fits.step {thread : Thread} (hfits : thread.Fits depths)
    (h : Leveled depths instrs) (hinstr : instrs[thread.label]? = some instr) :
    ∀ thread' ∈ thread.step instr, thread'.Fits depths := by
  have hkeeps := h.keeps hfits hinstr
  intro thread' hmem
  cases instr with
  | one set next =>
      simp only [Thread.step] at hmem
      split at hmem
      · contradiction
      split at hmem
      · rw [List.mem_singleton.1 hmem]
        exact hkeeps
      · contradiction
  | look look next =>
      simp only [Thread.step] at hmem
      split at hmem
      · rw [List.mem_singleton.1 hmem]
        exact hkeeps
      · contradiction
  | choice first second =>
      simp only [Thread.step, List.mem_cons, List.not_mem_nil, or_false] at hmem
      rcases hmem with rfl | rfl
      · exact hkeeps.1
      · exact hkeeps.2
  | openGroup next =>
      rw [List.mem_singleton.1 hmem]
      exact hkeeps
  | closeGroup index next =>
      obtain ⟨outer, houter, hnext⟩ := hkeeps
      simp only [Thread.step] at hmem
      split at hmem
      · contradiction
      case h_2 first opened hopened =>
        rw [hopened, List.length_cons, Nat.add_right_cancel_iff] at houter
        rw [List.mem_singleton.1 hmem]
        show depths[next]? = some opened.length
        rw [houter, hnext]
  | accept | stuck => contradiction

end Packrat.Regex
