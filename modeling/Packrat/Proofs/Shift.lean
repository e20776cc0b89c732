import Packrat.Source.Boundary
import Packrat.Engine
/-!
# Parsers do not see what stands in front

Most parsers look at a source from an offset on, and at nothing else. If some text is put
in front of a source, such a parser does at the end of that text what it did at the start of
the source: it asks the same questions further along, and goes on in the same way if all
that it is told is further along too.

What a body computes with offsets are sums and differences. It is enough that no number that
is kept is compared with one that is moved: the number of rounds of a loop is counted from
the end of the source, and a round is compared with the one before it.

Parsers that ask where they are have to be left out: the start of input, regular expressions,
which may look at the text before them, and values made from offsets, lines and columns.

## Main definitions

* `Source.Tail` — one source is what stands in another from an offset on.
* `Body.Shiftable` — parsers that look at nothing but the text from their offset on.
* `Plan.Shifted` — plans that do the same further along a source.

## Main results

* `Primitive.scan_shift` — a primitive finds the same further along.
* `Body.plan_shifted` — a body does the same further along.
-/

namespace Packrat

open Text (byteLength takeBytes)

/-! ## Sources -/

/-- What stands at a place does not depend on the character before it. -/
theorem Cursor.seek_rest (before before' : Option Char) (text : List Char) (offset : Nat) :
    (seek before' text offset).map (·.rest) = (seek before text offset).map (·.rest) := by
  cases offset with
  | zero => cases text <;> rfl
  | succ offset => cases text <;> rfl

namespace Source

/-- A source is what stands in another one from an offset on. -/
structure Tail (n : Nat) (src whole : Source) : Prop where
  size : whole.size = n + src.size
  rest : ∀ offset, (whole.cursor? (n + offset)).map (·.rest) =
    (src.cursor? offset).map (·.rest)

/-- A text with another one in front of it. -/
theorem tail_append (front text : List Char) :
    Tail (byteLength front) (.ofList text) (.ofList (front ++ text)) := by
  refine ⟨Text.byteLength_append front text, fun offset => ?_⟩
  obtain ⟨last, hlast⟩ := cursor?_advance (ofList (front ++ text)).cursor?_zero
  rw [Nat.zero_add, cursor?_eq_seek] at hlast
  rw [cursor?_eq_seek, cursor?_eq_seek, Cursor.seek_add hlast]
  exact Cursor.seek_rest none last text offset

variable {n : Nat} {src whole : Source}

/-- The text between two offsets is the same further along. -/
theorem Tail.slice (h : Tail n src whole) (start stop : Nat) :
    whole.slice (n + start) (n + stop) = src.slice start stop := by
  have hrest := h.rest start
  have hlength : n + stop - (n + start) = stop - start := by omega
  unfold Source.slice
  cases hplace : src.cursor? start with
  | none =>
      rw [hplace, Option.map_none, Option.map_eq_none_iff] at hrest
      rw [hrest]
  | some place =>
      rw [hplace, Option.map_some, Option.map_eq_some_iff] at hrest
      obtain ⟨place', hplace', hrest⟩ := hrest
      rw [hplace']
      simp only [hlength, hrest]

end Source

/-! ## Matches -/

/-- A match that is so many bytes further along. -/
def Match.shift (n : Nat) (m : Match) : Match :=
  { m with start := n + m.start, stop := n + m.stop }

/-- What a primitive finds, so many bytes further along. -/
def Scan.shift (n : Nat) : Scan → Scan
  | .noMatch => .noMatch
  | .found value stop => .found value (n + stop)
  | .overflow error => .overflow error

theorem Match.rawText_shift {n : Nat} {src whole : Source} (h : src.Tail n whole) (m : Match) :
    (m.shift n).rawText whole = m.rawText src := h.slice m.start m.stop

/-- A function that makes values from nothing but the value and the text of a match. -/
def ReadsText (make : Source → Match → Value) : Prop :=
  ∃ f : Value → List Char → Value, ∀ src m, make src m = f m.value (m.rawText src)

namespace ReadsText

/-- A function of values alone. -/
theorem value (f : Value → Value) : ReadsText fun _ m => f m.value :=
  ⟨fun value _ => f value, fun _ _ => rfl⟩

/-- A function of texts alone. -/
theorem text (f : List Char → Value) : ReadsText fun src m => f (m.rawText src) :=
  ⟨fun _ text => f text, fun _ _ => rfl⟩

theorem shift {make : Source → Match → Value} (hmake : ReadsText make) {n : Nat}
    {src whole : Source} (h : src.Tail n whole) (m : Match) :
    make whole (m.shift n) = make src m := by
  obtain ⟨f, hf⟩ := hmake
  rw [hf, hf, m.rawText_shift h]
  rfl

end ReadsText

/-! ## Primitives -/

namespace Primitive

/-- A primitive looks at nothing but the text from its offset on. -/
def Shiftable : Primitive → Prop
  | .regex _ _ => False
  | .startOfInput => False
  | _ => True

variable {n : Nat}

theorem scanChar_shift (accepts : Char → Bool) (start : Nat) (text : List Char) :
    scanChar accepts (n + start) text = (scanChar accepts start text).shift n := by
  cases text with
  | nil => rfl
  | cons c rest =>
      simp only [scanChar, Nat.add_assoc]
      split <;> rfl

theorem scanString_shift (expected : String) (start : Nat) (text : List Char) :
    scanString expected (n + start) text = (scanString expected start text).shift n := by
  simp only [scanString, Nat.add_assoc]
  split <;> rfl

theorem scanUnsigned_shift (start : Nat) (text : List Char) :
    scanUnsigned (n + start) text = (scanUnsigned start text).shift n := by
  simp only [scanUnsigned, Nat.add_assoc]
  split
  · rfl
  · split <;> rfl

theorem scanSigned_shift (start : Nat) (text : List Char) :
    scanSigned (n + start) text = (scanSigned start text).shift n := by
  simp only [scanSigned, Nat.add_assoc]
  split
  · rfl
  · split <;> rfl

theorem scanFraction_shift (start : Nat) (text : List Char) :
    scanFraction (n + start) text = (scanFraction start text).shift n := by
  simp only [scanFraction, Nat.add_assoc]
  split
  · split
    · rfl
    · split <;> rfl
  · rfl

/-- A text is looked at in the same way further along. -/
theorem scanText_shift {look : Nat → List Char → Scan}
    (hlook : ∀ start text, look (n + start) text = (look start text).shift n)
    {src whole : Source} (h : src.Tail n whole) (start : Nat) :
    scanText whole (n + start) look = (scanText src start look).shift n := by
  have hrest := h.rest start
  unfold scanText
  cases hplace : src.cursor? start with
  | none =>
      rw [hplace, Option.map_none, Option.map_eq_none_iff] at hrest
      rw [hrest]
      rfl
  | some place =>
      rw [hplace, Option.map_some, Option.map_eq_some_iff] at hrest
      obtain ⟨place', hplace', hrest⟩ := hrest
      rw [hplace']
      simp only [hrest]
      exact hlook start place.rest

/-- A primitive finds the same further along. -/
theorem scan_shift {p : Primitive} (hp : p.Shiftable) {src whole : Source}
    (h : src.Tail n whole) (start : Nat) :
    p.scan whole (n + start) = (p.scan src start).shift n := by
  cases p with
  | regex | startOfInput => exact hp.elim
  | char expected => exact scanText_shift (scanChar_shift _) h start
  | string expected => exact scanText_shift (scanString_shift expected) h start
  | any => exact scanText_shift (scanChar_shift _) h start
  | charWhere description accepts => exact scanText_shift (scanChar_shift accepts) h start
  | unsigned => exact scanText_shift scanUnsigned_shift h start
  | signed => exact scanText_shift scanSigned_shift h start
  | fraction => exact scanText_shift scanFraction_shift h start
  | endOfInput =>
      have hend : n + start = whole.size ↔ start = src.size := by
        have hsize := h.size
        omega
      simp only [scan, hend]
      split <;> rfl

end Primitive

/-! ## Plans -/

namespace Plan

/-- Plans that do the same further along a source: they ask the same parsers and abort for
the same reasons there, and go on in the same way if what they are told is further along
too. Their results are related by a function. -/
inductive Shifted (n : Nat) {α : Type} (shift : α → α) : Plan α → Plan α → Prop
  | done (result : α) : Shifted n shift (.done result) (.done (shift result))
  | abort {position : Nat} {error : TransformError} {next next' : Plan α}
      (h : Shifted n shift next next') :
    Shifted n shift (.abort position error next) (.abort (n + position) error next')
  | ask {slot : SlotId} {offset : Nat} {resume resume' : Option Match → Plan α}
      (h : ∀ answer, Shifted n shift (resume answer) (resume' (answer.map (·.shift n)))) :
    Shifted n shift (.ask slot offset resume) (.ask slot (n + offset) resume')
  | ended {resume resume' : Bool → Plan α}
      (h : ∀ ended, Shifted n shift (resume ended) (resume' ended)) :
    Shifted n shift (.ended resume) (.ended resume')

namespace Shifted

variable {n : Nat} {α β : Type} {shift : α → α} {shift' : β → β}

theorem bind {plan plan' : Plan α} {next next' : α → Plan β} (hplan : Shifted n shift plan plan')
    (hnext : ∀ result, Shifted n shift' (next result) (next' (shift result))) :
    Shifted n shift' (plan.bind next) (plan'.bind next') := by
  induction hplan with
  | done result => exact hnext result
  | abort _ ih => exact .abort ih
  | ask _ ih => exact .ask ih
  | ended _ ih => exact .ended ih

theorem run (slot : SlotId) (offset : Nat) :
    Shifted n (Option.map (Match.shift n)) (Plan.run slot offset) (Plan.run slot (n + offset)) :=
  .ask .done

theorem attempt {slot : SlotId} {offset : Nat} {next next' : Match → Plan (Option β)}
    (hnext : ∀ m, Shifted n (Option.map shift') (next m) (next' (m.shift n))) :
    Shifted n (Option.map shift') (Plan.attempt slot offset next)
      (Plan.attempt slot (n + offset) next') := by
  refine .ask fun answer => ?_
  cases answer with
  | none => exact .done none
  | some m => exact hnext m

theorem unlessEnded (result : Option β) :
    Shifted n (Option.map shift') (Plan.unlessEnded result)
      (Plan.unlessEnded (result.map shift')) := by
  refine .ended fun ended => ?_
  cases ended with
  | true => exact .done none
  | false => exact .done result

/-- What rounds yield stays as it is, and the offset that they reach is further along. -/
theorem iterate {round round' : Nat → Plan (Option (β × Nat))} {add : α → β → α}
    (hround : ∀ offset, Shifted n (Option.map (Prod.map id (n + ·))) (round offset)
      (round' (n + offset))) (budget : Nat) (total : α) (offset : Nat) :
    Shifted n (Prod.map id (n + ·)) (Plan.iterate round add budget total offset)
      (Plan.iterate round' add budget total (n + offset)) := by
  induction budget generalizing total offset with
  | zero => exact .done (total, offset)
  | succ budget ih =>
      refine (hround offset).bind fun answer => ?_
      cases answer with
      | none => exact .done (total, offset)
      | some found =>
          obtain ⟨found, stop⟩ := found
          have hmoves : n + stop ≤ n + offset ↔ stop ≤ offset := by omega
          simp only [Option.map_some, Prod.map_apply, id_eq, hmoves]
          split
          · exact .done (total, offset)
          · exact ih _ _

end Shifted

end Plan

/-! ## Bodies -/

namespace Body

/-- A parser looks at nothing but the text from its offset on, and makes its value from
nothing but what is matched there. -/
def Shiftable : Body → Prop
  | .primitive p => p.Shiftable
  | .map make _ => ReadsText make
  | .mapInRun _ _ => False
  | _ => True

variable {n : Nat} {src whole : Source}

theorem budget_shift (h : src.Tail n whole) (start : Nat) :
    budget whole (n + start) = budget src start := by
  have hsize := h.size
  simp only [budget]
  omega

private theorem single_shifted (inner : SlotId) (offset : Nat) :
    Plan.Shifted n (Option.map (Prod.map id (n + ·))) (single inner offset)
      (single inner (n + offset)) :=
  .attempt fun m => .done (some (m.value, m.stop))

private theorem pair_shifted (first second : SlotId) (offset : Nat) :
    Plan.Shifted n (Option.map (Prod.map id (n + ·))) (pair first second offset)
      (pair first second (n + offset)) :=
  .attempt fun a => .attempt fun b => .done (some ((a.value, b.value), b.stop))

private theorem repetition_shifted (h : src.Tail n whole) (start : Nat) (inner : SlotId) :
    Plan.Shifted n (Prod.map id (n + ·)) (repetition src start inner)
      (repetition whole (n + start) inner) := by
  rw [repetition, repetition, budget_shift h]
  exact .iterate (single_shifted inner) _ _ _

/-- A body does the same further along. -/
theorem plan_shifted {body : Body} (hbody : body.Shiftable) (h : src.Tail n whole)
    (start : Nat) :
    Plan.Shifted n (Option.map (Match.shift n)) (body.plan src start)
      (body.plan whole (n + start)) := by
  cases body with
  | primitive p =>
      simp only [plan, p.scan_shift hbody h]
      cases p.scan src start with
      | noMatch => exact .done none
      | found value stop => exact .done _
      | overflow error => exact .abort (.done none)
  | sequence first second =>
      exact .attempt fun _ => .attempt fun _ => .done _
  | choice first second =>
      refine .ask fun answer => ?_
      cases answer with
      | none => exact .run second start
      | some m => exact .done _
  | lookahead inner => exact .attempt fun _ => .done _
  | negation inner =>
      refine .ask fun answer => ?_
      cases answer with
      | none => exact .unlessEnded _
      | some m => exact .done none
  | optional inner =>
      refine .ask fun answer => ?_
      cases answer with
      | none => exact .unlessEnded _
      | some m => exact .done _
  | zeroOrMore inner =>
      refine (repetition_shifted h start inner).bind fun (values, stop) => ?_
      exact .unlessEnded _
  | oneOrMore inner =>
      refine (repetition_shifted h start inner).bind fun (values, stop) => ?_
      cases values with
      | nil => exact .done none
      | cons value values => exact .unlessEnded _
  | map make inner =>
      refine .attempt fun m => ?_
      have hmake : make whole (m.shift n) = make src m := hbody.shift h m
      rw [hmake]
      exact .done _
  | mapInRun make inner => exact hbody.elim
  | tryMap make inner =>
      refine .attempt fun m => ?_
      simp only [Match.shift]
      split
      case h_1 value _ => exact .done _
      case h_2 => exact .abort (.done none)
  | filter accepts description inner =>
      refine .attempt fun m => ?_
      have haccepts : accepts (m.shift n).value = accepts m.value := rfl
      rw [haccepts]
      cases accepts m.value with
      | true => exact .done (some m)
      | false => exact .done none
  | named name inner => exact .run inner start
  | reference cell => exact .run cell start
  | leftAssociative combine term operator =>
      refine .attempt fun first => ?_
      simp only [Match.shift, budget_shift h]
      refine (Plan.Shifted.iterate (pair_shifted operator term) _ _ _).bind fun (value, stop) => ?_
      exact .unlessEnded _
  | foldLeft apply term operation =>
      refine .attempt fun first => ?_
      simp only [Match.shift, budget_shift h]
      refine (Plan.Shifted.iterate (single_shifted operation) _ _ _).bind fun (value, stop) => ?_
      exact .unlessEnded _
  | between opening content closing =>
      exact .attempt fun _ => .attempt fun _ => .attempt fun _ => .done _
  | separated item separator =>
      refine .attempt fun first => ?_
      simp only [Match.shift, budget_shift h]
      refine (Plan.Shifted.iterate (pair_shifted separator item) _ _ _).bind
        fun (values, stop) => ?_
      exact .unlessEnded _

end Body

end Packrat
