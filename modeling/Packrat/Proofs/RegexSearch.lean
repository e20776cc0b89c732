import Mathlib.Data.Finset.Image
import Mathlib.Data.Finset.Prod
import Packrat.Proofs.RegexWays
/-!
# The search finds the preferred match

Of all ways from the threads that are waiting, the search takes the least one that passes no spot
that has been tried. This is kept by each of its steps, and it has a bound on its steps, which is
never met: each spot is tried once and then brings up at most two threads, and there are no more
spots than instructions and places. So a match at a place is the one that the least way makes.

A search from a place on asks for a match at one place after the other. The match that it finds
is the preferred one at the first place that has any.

## Main definitions

* `Program.Preferred` — a match that the least way through a program makes.
* `Program.Leftmost` — the preferred match at the first place that has one.

## Main results

* `Program.explore_settles` — the search finds the least way from the threads that are waiting.
* `Program.matchAt_eq_some_iff` — a match at a place is the preferred one.
* `Program.matchAt_eq_none_iff` — there is none just if no way leads to one.
* `Program.search_eq_some_iff` — a search from a place on finds the leftmost match.
-/

namespace Packrat.Regex

open Text (byteLength)

namespace Program

variable {program : Program} {tried : Finset Spot} {thread final : Thread} {instr : Instr}

/-! ## The search -/

/-- The keys of the search stand for the spots that have been tried. -/
def Tracks (size : Nat) (seen : Std.TreeSet Nat) (tried : Finset Spot) : Prop :=
  ∀ label offset, label < size →
    (seen.contains (offset * size + label) = true ↔ (label, offset) ∈ tried)

theorem Tracks.empty (size : Nat) : Tracks size ∅ ∅ := by
  intro label offset _
  simp

/-- Spots have different keys. -/
theorem spot_of_key {size label label' offset offset' : Nat} (hlt : label < size)
    (hlt' : label' < size) (h : offset * size + label = offset' * size + label') :
    label = label' ∧ offset = offset' := by
  have hlabel : (offset * size + label) % size = label := by
    rw [Nat.mul_add_mod_self_right, Nat.mod_eq_of_lt hlt]
  have hlabel' : (offset' * size + label') % size = label' := by
    rw [Nat.mul_add_mod_self_right, Nat.mod_eq_of_lt hlt']
  have hsame : label = label' := by rw [← hlabel, h, hlabel']
  refine ⟨hsame, Nat.eq_of_mul_eq_mul_right (Nat.zero_lt_of_lt hlt) ?_⟩
  omega

theorem Tracks.insert {size label offset : Nat} {seen : Std.TreeSet Nat}
    (h : Tracks size seen tried) (hlt : label < size) :
    Tracks size (seen.insert (offset * size + label)) (insert (label, offset) tried) := by
  intro label' offset' hlt'
  rw [Std.TreeSet.contains_insert, Bool.or_eq_true, beq_iff_eq, compare_eq_iff_eq, h _ _ hlt',
    Finset.mem_insert, Prod.mk.injEq]
  refine or_congr_left ⟨fun heq => ?_, ?_⟩
  · obtain ⟨hlabel, hoffset⟩ := spot_of_key hlt hlt' heq
    exact ⟨hlabel.symm, hoffset.symm⟩
  · rintro ⟨rfl, rfl⟩
    rfl

/-- An instruction leads to at most two threads. -/
theorem length_step_le (thread : Thread) (instr : Instr) : (thread.step instr).length ≤ 2 := by
  cases instr <;> simp only [Thread.step] <;> (repeat' split) <;> simp

/-- Trying a spot takes up more of the bound than the threads that it brings up. -/
theorem waiting_lt {spots tried : Finset Spot} (hmem : thread.spot ∈ spots \ tried) (instr : Instr)
    (others : List Thread) :
    (thread.step instr ++ others).length + 2 * (spots \ insert thread.spot tried).card <
      (thread :: others).length + 2 * (spots \ tried).card := by
  have hcard := Finset.card_erase_add_one hmem
  have hle := length_step_le thread instr
  rw [← Finset.sdiff_insert] at hcard
  rw [List.length_append, List.length_cons]
  omega

section Search

variable {src : Source} {start : Nat} {depths : List Nat} {fuel : Nat} {others : List Thread}
  {seen : Std.TreeSet Nat}

/-- A thread is dropped at a spot that has been tried, or where there is no instruction. -/
theorem explore_dropped
    (h : seen.contains (thread.offset * program.instrs.size + thread.label) = true ∨
      program.instrs[thread.label]? = none) :
    program.explore (fuel + 1) (thread :: others) seen = program.explore fuel others seen := by
  rw [explore]
  split
  · rfl
  case isFalse hnew =>
    rw [h.resolve_left hnew]

theorem explore_accepts (hinstr : program.instrs[thread.label]? = some .accept)
    (hnew : ¬seen.contains (thread.offset * program.instrs.size + thread.label) = true) :
    program.explore (fuel + 1) (thread :: others) seen = some thread := by
  rw [explore, if_neg hnew, hinstr]

/-- Other instructions put the threads that they lead to in front of those that are waiting. -/
theorem explore_goes_on (hinstr : program.instrs[thread.label]? = some instr)
    (hne : instr ≠ .accept)
    (hnew : ¬seen.contains (thread.offset * program.instrs.size + thread.label) = true) :
    program.explore (fuel + 1) (thread :: others) seen =
      program.explore fuel (thread.step instr ++ others)
        (seen.insert (thread.offset * program.instrs.size + thread.label)) := by
  rw [explore, if_neg hnew, hinstr]
  cases instr with
  | accept => contradiction
  | one | look | choice | openGroup | closeGroup | stuck => rfl

/-- The search finds the least way from the threads that are waiting, over spots that have not
been tried. Each step either drops a thread or tries a spot, so it comes to an end. -/
theorem explore_settles (hleveled : Leveled depths program.instrs) {spots : Finset Spot}
    (hspots : ∀ {thread : Thread}, thread.Regular src start depths →
      thread.label < program.instrs.size → thread.spot ∈ spots)
    (fuel : Nat) {threads : List Thread} {seen : Std.TreeSet Nat} {tried : Finset Spot}
    (hthreads : ∀ thread ∈ threads, thread.Regular src start depths)
    (htracks : Tracks program.instrs.size seen tried)
    (hfuel : threads.length + 2 * (spots \ tried).card < fuel) :
    program.Settles tried threads (program.explore fuel threads seen) := by
  induction fuel generalizing threads seen tried with
  | zero => omega
  | succ fuel ih =>
      cases threads with
      | nil => exact .nil
      | cons thread others =>
          have hthread := hthreads thread (List.mem_cons_self ..)
          have hothers : ∀ other ∈ others, other.Regular src start depths :=
            fun other hother => hthreads other (List.mem_cons_of_mem _ hother)
          have hrest : program.Settles tried others (program.explore fuel others seen) := by
            rw [List.length_cons] at hfuel
            exact ih hothers htracks (by omega)
          cases hinstr : program.instrs[thread.label]? with
          | none =>
              rw [explore_dropped (.inr hinstr)]
              exact .skip (noWay_of_none hinstr) hrest
          | some instr =>
              obtain ⟨hlt, -⟩ := Array.getElem?_eq_some_iff.1 hinstr
              have hseen := htracks thread.label thread.offset hlt
              by_cases htried : thread.spot ∈ tried
              · rw [explore_dropped (.inl (hseen.2 htried))]
                exact .skip (noWay_of_mem htried) hrest
              have hnew := fun h => htried (hseen.1 h)
              by_cases haccept : instr = .accept
              · subst haccept
                rw [explore_accepts hinstr hnew]
                exact .found (leastWay_of_accept hinstr htried)
              · rw [explore_goes_on hinstr haccept hnew]
                refine .of_step hleveled hthread hothers hinstr haccept htried
                  (ih (fun next hmem => ?_) (htracks.insert hlt) ?_)
                · rcases List.mem_append.1 hmem with hmem | hmem
                  · exact hthread.step hleveled hinstr next hmem
                  · exact hothers next hmem
                · have hmem : thread.spot ∈ spots \ tried :=
                    Finset.mem_sdiff.2 ⟨hspots hthread hlt, htried⟩
                  have hless := waiting_lt hmem instr others
                  show _ + 2 * (spots \ insert thread.spot tried).card < fuel
                  omega

/-- The spots that there are from a place on. -/
def spotsFrom (program : Program) (start : Nat) (text : List Char) : Finset Spot :=
  Finset.range program.instrs.size ×ˢ
    (Finset.range (text.length + 1)).image fun n => start + byteLength (text.take n)

theorem card_spotsFrom_le (start : Nat) (text : List Char) :
    (program.spotsFrom start text).card ≤ program.instrs.size * (text.length + 1) := by
  rw [spotsFrom, Finset.card_product, Finset.card_range]
  refine Nat.mul_le_mul_left _ (Nat.le_trans Finset.card_image_le ?_)
  rw [Finset.card_range]

theorem spot_mem_spotsFrom {place : Cursor} (hplace : src.cursor? start = some place)
    (h : thread.Regular src start depths) (hlt : thread.label < program.instrs.size) :
    thread.spot ∈ program.spotsFrom start place.rest := by
  obtain ⟨n, hoffset⟩ := Nat.exists_eq_add_of_le h.inSource.start_le
  have hthere := h.inSource.place
  rw [Source.cursor?_eq_seek] at hplace hthere
  rw [hoffset, Cursor.seek_add hplace] at hthere
  obtain ⟨taken, htext, hlength⟩ := Cursor.seek_taken hthere
  have htake : place.rest.take taken.length = taken := by
    rw [htext, List.take_left]
  have hle : taken.length ≤ place.rest.length := by
    rw [htext, List.length_append]
    exact Nat.le_add_right ..
  refine Finset.mem_product.2 ⟨Finset.mem_range.2 hlt, Finset.mem_image.2 ⟨taken.length, ?_, ?_⟩⟩
  · exact Finset.mem_range.2 (Nat.lt_succ_of_le hle)
  · rw [htake, hlength, ← hoffset]
    rfl

end Search

/-! ## Matches -/

/-- The thread that a match at a place begins with. -/
def first (program : Program) (start : Nat) (place : Cursor) : Thread :=
  { label := program.entry, offset := start, place, opened := [], closed := [] }

/-- A match that the least way through a program from a place makes. -/
def Preferred (program : Program) (start : Nat) (place : Cursor) (hit : Hit) : Prop :=
  ∃ final, program.LeastWay ∅ (program.first start place) final ∧
    hit = { span := ⟨start, final.offset⟩, groups := final.closed }

theorem LeastWay.unique {final' : Thread} (h : program.LeastWay tried thread final)
    (h' : program.LeastWay tried thread final') : final = final' := by
  obtain ⟨turns, hway, hle⟩ := h
  obtain ⟨turns', hway', hle'⟩ := h'
  obtain rfl := le_antisymm (hle _ _ hway') (hle' _ _ hway)
  obtain ⟨_, hleads, -⟩ := hway
  obtain ⟨_, hleads', -⟩ := hway'
  exact hleads.unique hleads'

theorem Settles.single_iff {result : Option Thread} (h : program.Settles tried [thread] result) :
    (∀ final, result = some final ↔ program.LeastWay tried thread final) ∧
      (result = none ↔ program.NoWay tried thread) := by
  cases h with
  | found hleast =>
      refine ⟨fun final => ⟨fun heq => Option.some.inj heq ▸ hleast, fun h => ?_⟩, nofun, ?_⟩
      · rw [hleast.unique h]
      · obtain ⟨turns, hway, -⟩ := hleast
        exact fun hnone => absurd hway (hnone turns _)
  | skip hnone hrest =>
      cases hrest with
      | nil =>
          refine ⟨fun final => ⟨nofun, ?_⟩, fun _ => hnone, fun _ => rfl⟩
          rintro ⟨turns, hway, -⟩
          exact absurd hway (hnone turns final)

section Matches

variable {src : Source} {start : Nat} {place : Cursor} (pattern : Pattern)

/-- The search for a match at a place settles which way is taken. -/
theorem matchAt_settles (hplace : src.cursor? start = some place) :
    ∃ result, (ofPattern pattern).Settles ∅ [(ofPattern pattern).first start place] result ∧
      (ofPattern pattern).matchAt start place = result.map fun final =>
        { span := ⟨start, final.offset⟩, groups := final.closed } := by
  obtain ⟨depths, hleveled, hentry⟩ := ofPattern_leveled pattern
  have hregular : ((ofPattern pattern).first start place).Regular src start depths :=
    ⟨⟨hplace, Nat.le_refl _, by simp [first], by simp [first]⟩, hentry⟩
  refine ⟨_, explore_settles hleveled (fun h => spot_mem_spotsFrom hplace h) _ ?_ (.empty _) ?_,
    rfl⟩
  · intro thread hthread
    rwa [List.mem_singleton.1 hthread]
  · have hle := (ofPattern pattern).card_spotsFrom_le start place.rest
    rw [List.length_singleton, Finset.sdiff_empty, threadLimit]
    omega

/-- A match at a place is the one that the least way makes. -/
theorem matchAt_eq_some_iff (hplace : src.cursor? start = some place) {hit : Hit} :
    (ofPattern pattern).matchAt start place = some hit ↔
      (ofPattern pattern).Preferred start place hit := by
  obtain ⟨result, hsettles, hmatch⟩ := matchAt_settles pattern hplace
  rw [hmatch, Option.map_eq_some_iff]
  refine exists_congr fun final => ?_
  rw [hsettles.single_iff.1, eq_comm (b := hit)]

/-- There is no match at a place just if no way leads to one. -/
theorem matchAt_eq_none_iff (hplace : src.cursor? start = some place) :
    (ofPattern pattern).matchAt start place = none ↔
      (ofPattern pattern).NoWay ∅ ((ofPattern pattern).first start place) := by
  obtain ⟨result, hsettles, hmatch⟩ := matchAt_settles pattern hplace
  rw [hmatch, Option.map_eq_none_iff]
  exact hsettles.single_iff.2

/-- No way leads to a match at a place just if none is preferred there. -/
theorem noWay_iff (hplace : src.cursor? start = some place) :
    (ofPattern pattern).NoWay ∅ ((ofPattern pattern).first start place) ↔
      ∀ hit, ¬(ofPattern pattern).Preferred start place hit := by
  rw [← matchAt_eq_none_iff pattern hplace, Option.eq_none_iff_forall_ne_some]
  exact forall_congr' fun hit => not_congr (matchAt_eq_some_iff pattern hplace)

end Matches

/-! ## From a place on -/

section Leftmost

variable {src : Source} {start : Nat} {place : Cursor} {hit : Hit}

/-- The preferred match at the first place, from an offset on, that has one. -/
def Leftmost (program : Program) (src : Source) (start : Nat) (hit : Hit) : Prop :=
  ∃ offset place, start ≤ offset ∧ src.cursor? offset = some place ∧
    program.Preferred offset place hit ∧
    ∀ offset' place', start ≤ offset' → offset' < offset → src.cursor? offset' = some place' →
      program.NoWay ∅ (program.first offset' place')

/-- A preferred match at an offset leaves no room for a match further on. -/
theorem Preferred.leftmost (h : program.Preferred start place hit)
    (hplace : src.cursor? start = some place) : program.Leftmost src start hit :=
  ⟨start, place, Nat.le_refl _, hplace, h, fun _ _ hle hlt _ => absurd hlt (Nat.not_lt.2 hle)⟩

theorem Preferred.not_noWay (h : program.Preferred start place hit) :
    ¬program.NoWay ∅ (program.first start place) := by
  obtain ⟨final, ⟨turns, hway, -⟩, -⟩ := h
  exact fun hnone => hnone turns final hway

/-- Where no way leads on, the leftmost match is that of the next place. -/
theorem leftmost_next_iff {before : Option Char} {c : Char} {rest : List Char}
    (hplace : src.cursor? start = some ⟨before, c :: rest⟩)
    (hnone : program.NoWay ∅ (program.first start ⟨before, c :: rest⟩)) :
    program.Leftmost src start hit ↔ program.Leftmost src (start + c.utf8Size) hit := by
  constructor
  · rintro ⟨offset, place, hle, hthere, hhit, hbefore⟩
    have hne : start ≠ offset := by
      rintro rfl
      obtain rfl := Option.some.inj (hplace.symm.trans hthere)
      exact hhit.not_noWay hnone
    refine ⟨offset, place, Source.next_le hplace hthere (by omega), hthere, hhit, ?_⟩
    exact fun offset' place' hle' => hbefore offset' place' (by omega)
  · rintro ⟨offset, place, hle, hthere, hhit, hbefore⟩
    refine ⟨offset, place, by omega, hthere, hhit, fun offset' place' hle' hlt' hthere' => ?_⟩
    by_cases hsame : offset' = start
    · subst hsame
      obtain rfl := Option.some.inj (hplace.symm.trans hthere')
      exact hnone
    · have hnext := Source.next_le hplace hthere' (by omega)
      exact hbefore offset' place' hnext hlt' hthere'

/-- A search finds the leftmost match. -/
theorem search_eq_some_iff (pattern : Pattern) {before : Option Char} {text : List Char}
    (hplace : src.cursor? start = some ⟨before, text⟩) :
    (ofPattern pattern).search start before text = some hit ↔
      (ofPattern pattern).Leftmost src start hit := by
  induction text generalizing start before with
  | nil =>
      rw [search, matchAt_eq_some_iff pattern hplace]
      refine ⟨fun h => h.leftmost hplace, ?_⟩
      rintro ⟨offset, place, hle, hthere, hhit, -⟩
      obtain rfl := Source.eq_of_le_at_end hplace hthere hle
      obtain rfl := Option.some.inj (hplace.symm.trans hthere)
      exact hhit
  | cons c rest ih =>
      rw [search]
      cases hmatch : (ofPattern pattern).matchAt start ⟨before, c :: rest⟩ with
      | none =>
          have hnone := (matchAt_eq_none_iff pattern hplace).1 hmatch
          rw [leftmost_next_iff hplace hnone]
          exact ih (Source.cursor?_char hplace)
      | some hit' =>
          have hhit' := (matchAt_eq_some_iff pattern hplace).1 hmatch
          show some hit' = some hit ↔ _
          rw [Option.some.injEq]
          constructor
          · rintro rfl
            exact hhit'.leftmost hplace
          · rintro ⟨offset, place, hle, hthere, hhit, hbefore⟩
            rcases Nat.eq_or_lt_of_le hle with rfl | hlt
            · obtain rfl := Option.some.inj (hplace.symm.trans hthere)
              rw [← matchAt_eq_some_iff pattern hplace, hmatch] at hhit
              exact Option.some.inj hhit
            · exact absurd (hbefore start _ (Nat.le_refl _) hlt hplace) hhit'.not_noWay

end Leftmost

end Program

end Packrat.Regex
