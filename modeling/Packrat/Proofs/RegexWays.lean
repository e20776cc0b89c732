import Mathlib.Data.Finset.Insert
import Mathlib.Data.List.Lex
import Mathlib.Data.List.Nodup
import Packrat.Proofs.RegexLevels
import Packrat.Regex.InSource
/-!
# The preferred way through a program

A way through a program is settled by the turns that are taken: at each instruction one of the
threads that it leads to, the preferred one being the first. So ways are ordered by their turns,
as words are by their letters, and the preferred way is the least one. Ways that come to an
instruction twice at one place are left out: what lies between the two visits is a round that
takes nothing.

A search tries threads in order and gives up each one that comes to a spot where another has
been. What is lost? The spot was reached by a more preferred thread; if a way led on from there,
that thread would have taken it, or a better one. This needs that where a thread can go depends
on its spot alone, which holds since the place goes with the offset, and the number of open
groups with the instruction.

## Main definitions

* `Program.Leads` — a way through a program, with its turns and its spots.
* `Program.LeastWay` — the preferred way from a thread.
* `Program.Settles` — which thread accepts, of some that are tried in order.

## Main results

* `Program.way_insert_iff` — nothing is lost when a spot counts as tried from which no way leads
  on.
* `Program.Settles.of_step` — a thread may be replaced by those that its instruction leads to.
-/

namespace Packrat.Regex

/-! ## Threads at one spot -/

/-- An instruction and an offset at which it is tried. -/
abbrev Spot := Label × Nat

/-- Where a thread stands. -/
def Thread.spot (thread : Thread) : Spot := (thread.label, thread.offset)

/-- Two threads can go the same ways: they stand at one spot, and have as many groups open. -/
structure Thread.Alike (thread thread' : Thread) : Prop where
  label : thread.label = thread'.label
  offset : thread.offset = thread'.offset
  place : thread.place = thread'.place
  opened : thread.opened.length = thread'.opened.length

namespace Thread.Alike

variable {thread thread' next : Thread}

theorem spot (h : thread.Alike thread') : thread.spot = thread'.spot :=
  Prod.ext h.label h.offset

/-- An instruction leads alike threads to alike threads. -/
theorem step (h : thread.Alike thread') (instr : Instr) :
    List.Forall₂ Alike (thread.step instr) (thread'.step instr) := by
  cases instr with
  | one set next =>
      simp only [Thread.step, h.place]
      split
      · exact .nil
      split
      · exact .cons ⟨rfl, congrArg (· + _) h.offset, rfl, h.opened⟩ .nil
      · exact .nil
  | look look next =>
      simp only [Thread.step, h.place]
      split
      · exact .cons ⟨rfl, h.offset, rfl, h.opened⟩ .nil
      · exact .nil
  | choice first second =>
      exact .cons ⟨rfl, h.offset, h.place, h.opened⟩
        (.cons ⟨rfl, h.offset, h.place, h.opened⟩ .nil)
  | openGroup next =>
      exact .cons ⟨rfl, h.offset, h.place, congrArg (· + 1) h.opened⟩ .nil
  | closeGroup index next =>
      have hopened := h.opened
      simp only [Thread.step]
      split
      case h_1 hnil =>
        rw [hnil, List.length_nil, eq_comm, List.length_eq_zero_iff] at hopened
        rw [hopened]
        exact .nil
      case h_2 first opened hcons =>
        rw [hcons, List.length_cons] at hopened
        obtain ⟨first', opened', hcons'⟩ := List.exists_cons_of_length_eq_add_one hopened.symm
        rw [hcons', List.length_cons, Nat.add_right_cancel_iff] at hopened
        rw [hcons']
        exact .cons ⟨rfl, h.offset, h.place, hopened⟩ .nil
  | accept | stuck => exact .nil

end Thread.Alike

/-- What holds of every thread that comes up in a search. -/
structure Thread.Regular (src : Source) (start : Nat) (depths : List Nat) (thread : Thread) :
    Prop where
  inSource : thread.InSource src start
  fits : thread.Fits depths

namespace Thread.Regular

variable {src : Source} {start : Nat} {depths : List Nat} {thread thread' : Thread}

/-- Where a thread can go depends on its spot alone. -/
theorem alike (h : thread.Regular src start depths) (h' : thread'.Regular src start depths)
    (hspot : thread.spot = thread'.spot) : thread.Alike thread' := by
  obtain ⟨hlabel, hoffset⟩ := Prod.mk.inj hspot
  refine ⟨hlabel, hoffset, Option.some.inj ?_, Option.some.inj ?_⟩
  · rw [← h.inSource.place, ← h'.inSource.place, hoffset]
  · rw [← h.fits, ← h'.fits, hlabel]

theorem step {program : Program} {instr : Instr} (h : thread.Regular src start depths)
    (hleveled : Leveled depths program.instrs)
    (hinstr : program.instrs[thread.label]? = some instr) :
    ∀ next ∈ thread.step instr, next.Regular src start depths :=
  fun next hnext => ⟨h.inSource.step instr next hnext, h.fits.step hleveled hinstr next hnext⟩

end Thread.Regular

/-! ## Ways -/

namespace Program

/-- A way through a program from a thread to one that accepts, with the turns that are taken and
the spots that are passed. -/
inductive Leads (program : Program) : Thread → List Nat → List Spot → Thread → Prop where
  | accept {thread : Thread} :
      program.instrs[thread.label]? = some .accept → Leads program thread [] [thread.spot] thread
  | turn {thread next final : Thread} {instr : Instr} {i : Nat} {turns : List Nat}
      {spots : List Spot} :
      program.instrs[thread.label]? = some instr → (thread.step instr)[i]? = some next →
      Leads program next turns spots final →
      Leads program thread (i :: turns) (thread.spot :: spots) final

/-- Some turns lead from a thread to one that accepts, and pass no spot twice and none that has
been tried. -/
def Way (program : Program) (tried : Finset Spot) (thread : Thread) (turns : List Nat)
    (final : Thread) : Prop :=
  ∃ spots, program.Leads thread turns spots final ∧ spots.Nodup ∧ ∀ spot ∈ spots, spot ∉ tried

/-- No way leads on from a thread. -/
def NoWay (program : Program) (tried : Finset Spot) (thread : Thread) : Prop :=
  ∀ turns final, ¬program.Way tried thread turns final

/-- The least way from a thread leads to a certain one that accepts. -/
def LeastWay (program : Program) (tried : Finset Spot) (thread final : Thread) : Prop :=
  ∃ turns, program.Way tried thread turns final ∧
    ∀ turns' final', program.Way tried thread turns' final' → turns ≤ turns'

/-- Which thread accepts by the least way from the first of some threads that has one. -/
inductive Settles (program : Program) (tried : Finset Spot) :
    List Thread → Option Thread → Prop where
  | nil : Settles program tried [] none
  | found {thread final : Thread} {others : List Thread} :
      program.LeastWay tried thread final → Settles program tried (thread :: others) (some final)
  | skip {thread : Thread} {others : List Thread} {result : Option Thread} :
      program.NoWay tried thread → Settles program tried others result →
      Settles program tried (thread :: others) result

variable {program : Program} {tried : Finset Spot} {thread next final : Thread} {instr : Instr}
  {turns : List Nat} {spots : List Spot}

theorem Leads.spot_mem (h : program.Leads thread turns spots final) : thread.spot ∈ spots := by
  cases h with
  | accept | turn => exact List.mem_cons_self ..

/-- The turns determine where a way leads. -/
theorem Leads.unique {final' : Thread} {spots' : List Spot}
    (h : program.Leads thread turns spots final) (h' : program.Leads thread turns spots' final') :
    final = final' := by
  induction h generalizing spots' final' with
  | accept =>
      cases h' with
      | accept => rfl
  | turn hinstr hnext _ ih =>
      cases h' with
      | turn hinstr' hnext' hleads =>
          obtain rfl := Option.some.inj (hinstr.symm.trans hinstr')
          obtain rfl := Option.some.inj (hnext.symm.trans hnext')
          exact ih hleads

theorem noWay_of_none (h : program.instrs[thread.label]? = none) : program.NoWay tried thread := by
  rintro turns final ⟨spots, hleads, -⟩
  cases hleads with
  | accept hinstr | turn hinstr => exact absurd (h.symm.trans hinstr) nofun

theorem noWay_of_mem (h : thread.spot ∈ tried) : program.NoWay tried thread :=
  fun _ _ ⟨_, hleads, _, hfresh⟩ => hfresh _ hleads.spot_mem h

/-- A way goes on from an instruction along one of the threads that it leads to, and does not
come back. -/
theorem way_cons_iff (hinstr : program.instrs[thread.label]? = some instr)
    (hfresh : thread.spot ∉ tried) {i : Nat} :
    program.Way tried thread (i :: turns) final ↔
      ∃ next, (thread.step instr)[i]? = some next ∧
        program.Way (insert thread.spot tried) next turns final := by
  constructor
  · rintro ⟨spots, hleads, hnodup, hnew⟩
    cases hleads with
    | turn hinstr' hnext hleads =>
        obtain rfl := Option.some.inj (hinstr.symm.trans hinstr')
        rw [List.nodup_cons] at hnodup
        refine ⟨_, hnext, _, hleads, hnodup.2, fun spot hspot => ?_⟩
        rw [Finset.mem_insert, not_or]
        exact ⟨fun heq => hnodup.1 (heq ▸ hspot), hnew spot (List.mem_cons_of_mem _ hspot)⟩
  · rintro ⟨next, hnext, spots, hleads, hnodup, hnew⟩
    have hnot : thread.spot ∉ spots := fun hmem =>
      hnew _ hmem (Finset.mem_insert_self ..)
    refine ⟨_, .turn hinstr hnext hleads, List.nodup_cons.2 ⟨hnot, hnodup⟩, fun spot hspot => ?_⟩
    rcases List.mem_cons.1 hspot with rfl | hspot
    · exact hfresh
    · exact fun hmem => hnew spot hspot (Finset.mem_insert_of_mem hmem)

theorem not_way_nil (hinstr : program.instrs[thread.label]? = some instr)
    (hne : instr ≠ .accept) : ¬program.Way tried thread [] final := by
  rintro ⟨spots, hleads, -⟩
  cases hleads with
  | accept hinstr' => exact hne (Option.some.inj (hinstr.symm.trans hinstr'))

variable {thread' : Thread}

/-- Alike threads go the same ways. -/
theorem Leads.alike (h : program.Leads thread turns spots final) (halike : thread.Alike thread') :
    ∃ final', program.Leads thread' turns spots final' := by
  induction h generalizing thread' with
  | accept hinstr =>
      rw [halike.label] at hinstr
      exact ⟨thread', halike.spot ▸ .accept hinstr⟩
  | @turn _ next _ instr i _ _ hinstr hnext _ ih =>
      obtain ⟨hlength, hsteps⟩ := List.forall₂_iff_get.1 (halike.step instr)
      obtain ⟨hlt, hget⟩ := List.getElem?_eq_some_iff.1 hnext
      have hlt' : i < (thread'.step instr).length := hlength ▸ hlt
      have hnext' : next.Alike ((thread'.step instr).get ⟨i, hlt'⟩) :=
        hget ▸ hsteps i hlt hlt'
      obtain ⟨final', hleads⟩ := ih hnext'
      rw [halike.label] at hinstr
      exact ⟨final', halike.spot ▸ .turn hinstr (List.getElem?_eq_getElem hlt') hleads⟩

/-! ## Spots that were tried -/

section Tried

variable {src : Source} {start : Nat} {depths : List Nat} {other : Thread}

/-- Where a way passes the spot of a thread, the thread has a way of its own, over spots of the
first one. -/
theorem Leads.of_spot_mem (hleveled : Leveled depths program.instrs)
    (h : program.Leads other turns spots final) (hother : other.Regular src start depths)
    (hthread : thread.Regular src start depths) (hmem : thread.spot ∈ spots) :
    ∃ turns' spots' final', program.Leads thread turns' spots' final' ∧ spots' <:+ spots := by
  induction h with
  | accept hinstr =>
      have halike := hother.alike hthread (List.mem_singleton.1 hmem).symm
      obtain ⟨final', hleads⟩ := Leads.alike (.accept hinstr) halike
      exact ⟨_, _, final', hleads, List.suffix_rfl⟩
  | @turn other next _ instr i _ _ hinstr hnext hleads ih =>
      rcases List.mem_cons.1 hmem with hspot | hmem
      · have halike := hother.alike hthread hspot.symm
        obtain ⟨final', hleads'⟩ := Leads.alike (.turn hinstr hnext hleads) halike
        exact ⟨_, _, final', hleads', List.suffix_rfl⟩
      · have hregular := hother.step hleveled hinstr next (List.mem_of_getElem? hnext)
        obtain ⟨turns', spots', final', hleads', hsuffix⟩ := ih hregular hmem
        exact ⟨turns', spots', final', hleads', hsuffix.trans (List.suffix_cons ..)⟩

/-- If no way leads on from a thread, nothing is lost when its spot counts as tried. -/
theorem way_insert_iff (hleveled : Leveled depths program.instrs)
    (hnone : program.NoWay tried thread) (hthread : thread.Regular src start depths)
    (hother : other.Regular src start depths) :
    program.Way (insert thread.spot tried) other turns final ↔
      program.Way tried other turns final := by
  constructor
  · rintro ⟨spots, hleads, hnodup, hnew⟩
    exact ⟨spots, hleads, hnodup, fun spot hspot hmem =>
      hnew spot hspot (Finset.mem_insert_of_mem hmem)⟩
  · rintro ⟨spots, hleads, hnodup, hnew⟩
    refine ⟨spots, hleads, hnodup, fun spot hspot hmem => ?_⟩
    rcases Finset.mem_insert.1 hmem with rfl | hmem
    -- The rest of the way from this spot on would lead on from the thread.
    · obtain ⟨turns', spots', final', hleads', hsuffix⟩ :=
        hleads.of_spot_mem hleveled hother hthread hspot
      exact hnone turns' final' ⟨spots', hleads', hnodup.sublist hsuffix.sublist,
        fun spot hspot => hnew spot (hsuffix.mem hspot)⟩
    · exact hnew spot hspot hmem

theorem Settles.of_insert {others : List Thread} {result : Option Thread}
    (hleveled : Leveled depths program.instrs)
    (hnone : program.NoWay tried thread) (hthread : thread.Regular src start depths)
    (hothers : ∀ other ∈ others, other.Regular src start depths)
    (h : program.Settles (insert thread.spot tried) others result) :
    program.Settles tried others result := by
  induction h with
  | nil => exact .nil
  | found hleast =>
      have hother := hothers _ (List.mem_cons_self ..)
      obtain ⟨turns, hway, hle⟩ := hleast
      refine .found ⟨turns, (way_insert_iff hleveled hnone hthread hother).1 hway, ?_⟩
      intro turns' final' hway'
      exact hle turns' final' ((way_insert_iff hleveled hnone hthread hother).2 hway')
  | skip hskip _ ih =>
      have hother := hothers _ (List.mem_cons_self ..)
      refine .skip (fun turns final hway => ?_)
        (ih fun other hmem => hothers other (List.mem_cons_of_mem _ hmem))
      exact hskip turns final ((way_insert_iff hleveled hnone hthread hother).2 hway)

/-- What settles a list of threads comes from its first part, unless no way leads on from
there. -/
theorem Settles.of_append {front back : List Thread} {result : Option Thread}
    (h : program.Settles tried (front ++ back) result) :
    (∃ (i : Nat) (next final : Thread), front[i]? = some next ∧ result = some final ∧
      program.LeastWay tried next final ∧
        ∀ j < i, ∀ other, front[j]? = some other → program.NoWay tried other) ∨
    (∀ other ∈ front, program.NoWay tried other) ∧ program.Settles tried back result := by
  induction front with
  | nil => exact .inr ⟨nofun, h⟩
  | cons first rest ih =>
      cases h with
      | found hleast => exact .inl ⟨0, first, _, rfl, rfl, hleast, nofun⟩
      | skip hfirst h =>
          rcases ih h with ⟨i, next, final, hnext, hresult, hleast, hbefore⟩ | ⟨hrest, hback⟩
          · refine .inl ⟨i + 1, next, final, hnext, hresult, hleast, fun j hj other hother => ?_⟩
            cases j with
            | zero => exact Option.some.inj hother ▸ hfirst
            | succ j => exact hbefore j (by omega) other hother
          · exact .inr ⟨List.forall_mem_cons.2 ⟨hfirst, hrest⟩, hback⟩

/-- A thread that has accepted does so by the least way of all. -/
theorem leastWay_of_accept (hinstr : program.instrs[thread.label]? = some .accept)
    (hfresh : thread.spot ∉ tried) : program.LeastWay tried thread thread := by
  refine ⟨[], ⟨_, .accept hinstr, List.nodup_singleton _, fun spot hspot => ?_⟩,
    fun turns' _ _ => ?_⟩
  · rw [List.mem_singleton.1 hspot]
    exact hfresh
  · cases turns' with
    | nil => exact le_rfl
    | cons i turns' => exact le_of_lt List.Lex.nil

/-- A thread may be replaced by those that its instruction leads to, once its spot counts as
tried. -/
theorem Settles.of_step {others : List Thread} {result : Option Thread}
    (hleveled : Leveled depths program.instrs)
    (hthread : thread.Regular src start depths)
    (hothers : ∀ other ∈ others, other.Regular src start depths)
    (hinstr : program.instrs[thread.label]? = some instr) (hne : instr ≠ .accept)
    (hfresh : thread.spot ∉ tried)
    (h : program.Settles (insert thread.spot tried) (thread.step instr ++ others) result) :
    program.Settles tried (thread :: others) result := by
  rcases h.of_append with ⟨i, next, final, hnext, rfl, hleast, hbefore⟩ | ⟨hsteps, hrest⟩
  · obtain ⟨turns, hway, hle⟩ := hleast
    refine .found ⟨i :: turns, (way_cons_iff hinstr hfresh).2 ⟨next, hnext, hway⟩,
      fun turns' final' hway' => ?_⟩
    cases turns' with
    | nil => exact absurd hway' (not_way_nil hinstr hne)
    | cons j turns' =>
        obtain ⟨next', hnext', hway'⟩ := (way_cons_iff hinstr hfresh).1 hway'
        -- The first turns differ, or the rests are compared from one thread.
        rcases Nat.lt_trichotomy i j with hlt | rfl | hgt
        · exact le_of_lt (List.Lex.rel hlt)
        · obtain rfl := Option.some.inj (hnext.symm.trans hnext')
          exact List.cons_le_cons i (hle turns' final' hway')
        · exact absurd hway' (hbefore j hgt next' hnext' turns' final')
  · have hnone : program.NoWay tried thread := by
      intro turns final hway
      cases turns with
      | nil => exact not_way_nil hinstr hne hway
      | cons i turns =>
          obtain ⟨next, hnext, hway⟩ := (way_cons_iff hinstr hfresh).1 hway
          exact hsteps next (List.mem_of_getElem? hnext) turns final hway
    exact .skip hnone (hrest.of_insert hleveled hnone hthread hothers)

end Tried

end Program

end Packrat.Regex
