import Packrat.Regex.Search
/-!
# Matches of regular expressions lie in the source

The search runs threads, and a thread carries its place in the source along
with its offset. The invariant `Thread.InSource` says that the two agree, and
that every group the thread has begun or ended is a part of the source between
the start of the match and the place that was reached. Each instruction keeps
it, so it holds of the thread that accepts, whatever the program is.

## Main results

* `Thread.InSource.step` — an instruction keeps a thread in the source.
* `Program.hit?_inSource` — what is found from an offset on spans a part of the
  source, and so do its groups, which lie inside it.
-/

namespace Packrat

namespace Regex

variable {src : Source} {start : Nat}

/-- A thread stands where its offset says, and its groups are parts of the
source between the start of the match and that place. -/
structure Thread.InSource (src : Source) (start : Nat) (thread : Thread) : Prop where
  place : src.cursor? thread.offset = some thread.place
  start_le : start ≤ thread.offset
  opened : ∀ offset ∈ thread.opened, start ≤ offset ∧ src.IsPart offset thread.offset
  closed : ∀ group ∈ thread.closed, group.2.Within src start thread.offset

/-- An instruction that takes no character and leaves the groups alone keeps a
thread in the source. -/
private theorem Thread.InSource.goto {thread : Thread} (h : thread.InSource src start)
    (next : Label) : Thread.InSource src start { thread with label := next } :=
  ⟨h.place, h.start_le, h.opened, h.closed⟩

/-- A thread that takes a character moves to the next boundary. -/
private theorem Thread.InSource.take {thread : Thread} (h : thread.InSource src start)
    {c : Char} {rest : List Char} (hrest : thread.place.rest = c :: rest) (next : Label) :
    Thread.InSource src start
      { thread with
          label := next
          offset := thread.offset + c.utf8Size
          place := ⟨some c, rest⟩ } := by
  have hplace : src.cursor? thread.offset = some ⟨thread.place.before, c :: rest⟩ := by
    rw [h.place, ← hrest]
  have hnext := Source.cursor?_char hplace
  have hpart : src.IsPart thread.offset (thread.offset + c.utf8Size) :=
    ⟨Source.isBoundary_iff.2 ⟨_, hplace⟩, Source.isBoundary_iff.2 ⟨_, hnext⟩,
      Nat.le_add_right _ _⟩
  exact
    { place := hnext
      start_le := Nat.le_trans h.start_le hpart.start_le_stop
      opened := fun offset hoffset =>
        ⟨(h.opened offset hoffset).1, (h.opened offset hoffset).2.trans hpart⟩
      closed := fun group hgroup => (h.closed group hgroup).mono hpart.start_le_stop }

/-- An instruction keeps a thread in the source. -/
theorem Thread.InSource.step {thread : Thread} (h : thread.InSource src start) (instr : Instr) :
    ∀ thread' ∈ thread.step instr, thread'.InSource src start := by
  have hhere : src.IsPart thread.offset thread.offset :=
    .empty (Source.isBoundary_iff.2 ⟨_, h.place⟩)
  intro thread' hmem
  cases instr with
  | one set next =>
      simp only [Thread.step] at hmem
      split at hmem
      · simp at hmem
      case h_2 c rest hrest =>
        split at hmem
        · rw [List.mem_singleton] at hmem
          exact hmem ▸ h.take hrest next
        · simp at hmem
  | look look next =>
      simp only [Thread.step] at hmem
      split at hmem
      · rw [List.mem_singleton] at hmem
        exact hmem ▸ h.goto next
      · simp at hmem
  | choice first second =>
      simp only [Thread.step, List.mem_cons, List.not_mem_nil, or_false] at hmem
      rcases hmem with rfl | rfl
      · exact h.goto first
      · exact h.goto second
  | openGroup next =>
      simp only [Thread.step, List.mem_singleton] at hmem
      subst hmem
      refine { h.goto next with opened := fun offset hoffset => ?_ }
      rcases List.mem_cons.1 hoffset with rfl | hoffset
      · exact ⟨h.start_le, hhere⟩
      · exact h.opened offset hoffset
  | closeGroup index next =>
      simp only [Thread.step] at hmem
      split at hmem
      · simp at hmem
      case h_2 first opened hopened =>
        rw [List.mem_singleton] at hmem
        subst hmem
        have hfirst := h.opened first (by simp [hopened])
        refine
          { place := h.place
            start_le := h.start_le
            opened := fun offset hoffset => h.opened offset (by simp [hopened, hoffset])
            closed := fun group hgroup => ?_ }
        rcases List.mem_cons.1 hgroup with rfl | hgroup
        · exact ⟨hfirst.2, hfirst.1, Nat.le_refl _⟩
        · exact h.closed group hgroup
  | accept => simp [Thread.step] at hmem
  | stuck => simp [Thread.step] at hmem

/-- The thread that accepts is in the source if all threads are. -/
theorem Program.explore_inSource (program : Program) :
    ∀ (fuel : Nat) (threads : List Thread) (seen : Std.TreeSet Nat) {final : Thread},
      (∀ thread ∈ threads, thread.InSource src start) →
      program.explore fuel threads seen = some final → final.InSource src start := by
  intro fuel
  induction fuel with
  | zero => intro threads seen final _ h; simp [explore] at h
  | succ fuel ih =>
      intro threads seen final hthreads h
      cases threads with
      | nil => simp [explore] at h
      | cons thread others =>
          have hthread := hthreads thread (by simp)
          have hothers : ∀ other ∈ others, other.InSource src start :=
            fun other hother => hthreads other (by simp [hother])
          simp only [explore] at h
          split at h
          · exact ih _ _ hothers h
          · split at h
            · exact ih _ _ hothers h
            · rw [← Option.some.inj h]; exact hthread
            · refine ih _ _ (fun next hnext => ?_) h
              rcases List.mem_append.1 hnext with hnext | hnext
              · exact hthread.step _ next hnext
              · exact hothers next hnext

/-- A match spans a part of the source, and so do its groups, which lie inside
it. -/
structure Hit.InSource (src : Source) (hit : Hit) : Prop where
  isPart : src.IsPart hit.span.start hit.span.stop
  groups : ∀ group ∈ hit.groups, group.2.Within src hit.span.start hit.span.stop

/-- A match at a place begins there and lies in the source. -/
theorem Program.matchAt_inSource (program : Program) {place : Cursor} {hit : Hit}
    (hplace : src.cursor? start = some place) (h : program.matchAt start place = some hit) :
    hit.span.start = start ∧ hit.InSource src := by
  simp only [matchAt, Option.map_eq_some_iff] at h
  obtain ⟨final, hfinal, rfl⟩ := h
  have hin : final.InSource src start := by
    refine explore_inSource program _ _ _ (fun thread hthread => ?_) hfinal
    rw [List.mem_singleton] at hthread
    subst hthread
    exact ⟨hplace, Nat.le_refl _, by simp, by simp⟩
  refine ⟨rfl, ⟨?_, ?_, hin.start_le⟩, hin.closed⟩
  · exact Source.isBoundary_iff.2 ⟨_, hplace⟩
  · exact Source.isBoundary_iff.2 ⟨_, hin.place⟩

/-- The first match from a place on lies in the source, and begins no earlier. -/
theorem Program.search_inSource (program : Program) {hit : Hit} :
    ∀ (text : List Char) (start : Nat) (before : Option Char),
      src.cursor? start = some ⟨before, text⟩ → program.search start before text = some hit →
      hit.InSource src ∧ start ≤ hit.span.start := by
  have hhere {start : Nat} {place : Cursor} (hplace : src.cursor? start = some place)
      (h : program.matchAt start place = some hit) :
      hit.InSource src ∧ start ≤ hit.span.start := by
    obtain ⟨rfl, hin⟩ := program.matchAt_inSource hplace h
    exact ⟨hin, Nat.le_refl _⟩
  intro text
  induction text with
  | nil =>
      intro start before hplace h
      exact hhere hplace h
  | cons c rest ih =>
      intro start before hplace h
      simp only [search] at h
      split at h
      case h_1 hit' hhit => exact hhere hplace (hhit.trans h)
      case h_2 =>
        obtain ⟨hin, hle⟩ := ih _ _ (Source.cursor?_char hplace) h
        exact ⟨hin, by omega⟩

/-- What is found from an offset on lies in the source, and begins no earlier. -/
theorem Program.hit?_inSource {program : Program} {mode : Mode} {hit : Hit}
    (h : program.hit? mode src start = some hit) :
    hit.InSource src ∧ start ≤ hit.span.start := by
  cases hplace : src.cursor? start with
  | none => simp [hit?, hplace] at h
  | some place =>
      rw [hit?, hplace] at h
      cases mode with
      | anchored =>
          obtain ⟨rfl, hin⟩ := program.matchAt_inSource hplace h
          exact ⟨hin, Nat.le_refl _⟩
      | searching => exact program.search_inSource _ _ _ hplace h

end Regex

end Packrat
