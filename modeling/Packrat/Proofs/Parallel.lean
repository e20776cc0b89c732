import Packrat.Proofs.LayoutRule
import Packrat.Proofs.Stateless
/-!
# Plans that go alike

What a body does depends on its parts only by the answers that they give. If the parts of
a body are put in other slots, it asks the same questions of the new slots, and goes on in
the same way with the same answers.

`Plan.Parallel` says this of two plans, for slots that correspond. Plans that go alike end
alike if parsers that correspond do, and the failures on the way to the end are the same
ones if those of the parsers are. Failures count as the same here if nothing is changed
by having the one list recorded in place of the other, as far as names are looked at.

## Main definitions

* `Plan.Parallel` — plans that ask parsers that correspond, and are otherwise the same.
* `Failure.Same` — failures that have the same effect.

## Main results

* `Body.plan_parallel` — a body goes alike wherever its parts are.
* `Plan.Parallel.eval` — plans that go alike end alike.
-/

namespace Packrat

/-! ## Plans -/

namespace Plan

/-- Plans that ask parsers that correspond at the same offsets, and are otherwise the
same. -/
inductive Parallel {α : Type} (R : SlotId → SlotId → Prop) : Plan α → Plan α → Prop
  | done (result : α) : Parallel R (.done result) (.done result)
  | abort {position : Nat} {error : TransformError} {next next' : Plan α}
      (h : Parallel R next next') :
    Parallel R (.abort position error next) (.abort position error next')
  | ask {slot slot' : SlotId} {offset : Nat} {resume resume' : Option Match → Plan α}
      (hslot : R slot slot') (h : ∀ answer, Parallel R (resume answer) (resume' answer)) :
    Parallel R (.ask slot offset resume) (.ask slot' offset resume')
  | look {resume resume' : Snapshot → Plan α}
      (h : ∀ snapshot, Parallel R (resume snapshot) (resume' snapshot)) :
    Parallel R (.look resume) (.look resume')
  | ended {resume resume' : Bool → Plan α}
      (h : ∀ ended, Parallel R (resume ended) (resume' ended)) :
    Parallel R (.ended resume) (.ended resume')

namespace Parallel

variable {α β : Type} {R : SlotId → SlotId → Prop}

theorem bind {plan plan' : Plan α} {next next' : α → Plan β} (hplan : Parallel R plan plan')
    (hnext : ∀ result, Parallel R (next result) (next' result)) :
    Parallel R (plan.bind next) (plan'.bind next') := by
  induction hplan with
  | done result => exact hnext result
  | abort _ ih => exact .abort ih
  | ask hslot _ ih => exact .ask hslot ih
  | look _ ih => exact .look ih
  | ended _ ih => exact .ended ih

theorem run {slot slot' : SlotId} (hslot : R slot slot') (offset : Nat) :
    Parallel R (Plan.run slot offset) (Plan.run slot' offset) :=
  .ask hslot .done

theorem attempt {slot slot' : SlotId} {offset : Nat} {next next' : Match → Plan (Option β)}
    (hslot : R slot slot') (hnext : ∀ m, Parallel R (next m) (next' m)) :
    Parallel R (Plan.attempt slot offset next) (Plan.attempt slot' offset next') := by
  refine .ask hslot fun answer => ?_
  cases answer with
  | none => exact .done none
  | some m => exact hnext m

theorem unlessEnded (result : Option β) :
    Parallel R (Plan.unlessEnded result) (Plan.unlessEnded result) :=
  .ended fun _ => .done _

theorem iterate {round round' : Nat → Plan (Option (β × Nat))} {add : α → β → α}
    (hround : ∀ offset, Parallel R (round offset) (round' offset)) (budget : Nat) (total : α)
    (offset : Nat) :
    Parallel R (Plan.iterate round add budget total offset)
      (Plan.iterate round' add budget total offset) := by
  induction budget generalizing total offset with
  | zero => exact .done _
  | succ budget ih =>
      refine (hround offset).bind fun answer => ?_
      cases answer with
      | none => exact .done _
      | some found =>
          obtain ⟨found, stop⟩ := found
          by_cases hle : stop ≤ offset
          · simp only [hle, if_true]
            exact .done _
          · simp only [hle, if_false]
            exact ih _ _

end Parallel

end Plan

namespace Body

variable {R : SlotId → SlotId → Prop}

private theorem single_parallel {inner inner' : SlotId} (h : R inner inner') (offset : Nat) :
    Plan.Parallel R (single inner offset) (single inner' offset) :=
  .attempt h fun _ => .done _

private theorem pair_parallel {first first' second second' : SlotId} (hfirst : R first first')
    (hsecond : R second second') (offset : Nat) :
    Plan.Parallel R (pair first second offset) (pair first' second' offset) :=
  .attempt hfirst fun _ => .attempt hsecond fun _ => .done _

/-- A body goes alike wherever its parts are. -/
theorem plan_parallel (body : Body) {f f' : SlotId → SlotId}
    (hparts : ∀ part ∈ body.parts, R (f part) (f' part)) (src : Source) (start : Nat) :
    Plan.Parallel R ((body.rename f).plan src start) ((body.rename f').plan src start) := by
  cases body with
  | primitive p =>
      simp only [rename, plan]
      split
      · exact .done _
      · exact .done _
      · exact .abort (.done _)
  | sequence first second =>
      exact .attempt (hparts first (by simp [parts])) fun _ =>
        .attempt (hparts second (by simp [parts])) fun _ => .done _
  | choice first second =>
      refine .ask (hparts first (by simp [parts])) fun answer => ?_
      cases answer with
      | none => exact .run (hparts second (by simp [parts])) start
      | some m => exact .done _
  | negation inner | optional inner =>
      refine .ask (hparts inner (by simp [parts])) fun answer => ?_
      cases answer with
      | none => exact .unlessEnded _
      | some m => exact .done _
  | zeroOrMore inner =>
      have hinner := hparts inner (by simp [parts])
      exact (Plan.Parallel.iterate (single_parallel hinner) _ _ _).bind fun _ => .unlessEnded _
  | oneOrMore inner =>
      have hinner := hparts inner (by simp [parts])
      refine (Plan.Parallel.iterate (single_parallel hinner) _ _ _).bind ?_
      rintro ⟨values, stop⟩
      cases values with
      | nil => exact .done _
      | cons => exact .unlessEnded _
  | mapInRun make inner =>
      exact .attempt (hparts inner (by simp [parts])) fun _ => .look fun _ => .done _
  | tryMap make inner =>
      refine .attempt (hparts inner (by simp [parts])) fun m => ?_
      split
      · exact .done _
      · exact .abort (.done _)
  | lookahead inner | map make inner | filter accepts description inner =>
      exact .attempt (hparts inner (by simp [parts])) fun _ => .done _
  | named name inner | reference inner => exact .run (hparts inner (by simp [parts])) start
  | leftAssociative combine term operator =>
      have hterm := hparts term (by simp [parts])
      have hoperator := hparts operator (by simp [parts])
      exact .attempt hterm fun _ =>
        (Plan.Parallel.iterate (pair_parallel hoperator hterm) _ _ _).bind
          fun _ => .unlessEnded _
  | foldLeft apply term operation =>
      have hoperation := hparts operation (by simp [parts])
      exact .attempt (hparts term (by simp [parts])) fun _ =>
        (Plan.Parallel.iterate (single_parallel hoperation) _ _ _).bind fun _ => .unlessEnded _
  | between opening content closing =>
      exact .attempt (hparts opening (by simp [parts])) fun _ =>
        .attempt (hparts content (by simp [parts])) fun _ =>
          .attempt (hparts closing (by simp [parts])) fun _ => .done _
  | separated item separator =>
      have hitem := hparts item (by simp [parts])
      have hseparator := hparts separator (by simp [parts])
      exact .attempt hitem fun _ =>
        (Plan.Parallel.iterate (pair_parallel hseparator hitem) _ _ _).bind
          fun _ => .unlessEnded _

end Body

/-! ## Failures -/

namespace Failure

/-- A failure as far as its name is looked at. -/
def seen (see : Option String → Option String) (failure : Failure) : Failure :=
  { failure with name := see failure.name }

/-- Failures that have the same effect wherever they are recorded, as far as names are
looked at. -/
def Same (see : Option String → Option String) (failures failures' : List Failure) : Prop :=
  ∀ fr : Frontier, fr.recordAll (failures.map (seen see)) = fr.recordAll (failures'.map (seen see))

namespace Same

variable {see : Option String → Option String} {failures failures' rest rest' : List Failure}

theorem refl (see : Option String → Option String) (failures : List Failure) :
    Same see failures failures := fun _ => rfl

theorem symm (h : Same see failures failures') : Same see failures' failures :=
  fun fr => (h fr).symm

theorem trans (h : Same see failures failures') (h' : Same see failures' rest) :
    Same see failures rest := fun fr => (h fr).trans (h' fr)

theorem append (h : Same see failures failures') (hrest : Same see rest rest') :
    Same see (failures ++ rest) (failures' ++ rest') := by
  intro fr
  rw [List.map_append, List.map_append, Frontier.recordAll_append, Frontier.recordAll_append, h,
    hrest]

/-- A failure that is recorded again changes nothing. -/
theorem again {last last' : Failure} (hlast : last'.seen see = last.seen see)
    (failures : List Failure) :
    Same see (failures ++ [last] ++ [last']) (failures ++ [last]) := by
  intro fr
  rw [List.map_append, Frontier.recordAll_append]
  refine Frontier.recordAll_of_absorbs fun failure hmem => ?_
  obtain rfl : failure = last.seen see := by simpa [hlast] using hmem
  exact Frontier.absorbs_recordAll _ _ _ (by simp)

end Same

end Failure

/-! ## Ends of plans -/

/-- Plans that go alike end alike, if the answers to the one are known to oracles that
know more and more of the other. -/
theorem Plan.Parallel.eval {α : Type} {R : SlotId → SlotId → Prop}
    {see : Option String → Option String} {oracle : Oracle} {oracles : Nat → Oracle}
    (hmono : ∀ {height height'}, height ≤ height' → (oracles height).Agrees (oracles height'))
    (horacle : ∀ {slot slot' offset ending failures}, R slot slot' →
      oracle slot offset = some (ending, failures) →
      ∃ height failures', oracles height slot' offset = some (ending, failures') ∧
        Failure.Same see failures failures')
    {plan plan' : Plan α} (hplan : Parallel R plan plan') {ending : Ending α}
    {failures : List Failure} (h : plan.eval oracle = some (ending, failures)) :
    ∃ height failures', plan'.eval (oracles height) = some (ending, failures') ∧
      Failure.Same see failures failures' := by
  induction hplan generalizing ending failures with
  | done result => exact ⟨0, failures, h, .refl _ _⟩
  | abort => exact ⟨0, failures, h, .refl _ _⟩
  | look _ ih => exact ih _ h
  | ended _ ih => exact ih _ h
  | @ask slot slot' offset resume resume' hslot _ ih =>
      simp only [Plan.eval] at h
      split at h
      · contradiction
      case h_2 position error before hanswer =>
        obtain ⟨rfl, rfl⟩ := Prod.mk.inj (Option.some.inj h)
        obtain ⟨height, before', hanswer', hsame⟩ := horacle hslot hanswer
        exact ⟨height, before', by simp only [Plan.eval, hanswer'], hsame⟩
      case h_3 answer before hanswer =>
        split at h
        · contradiction
        case h_2 ending' rest hrest =>
          obtain ⟨rfl, rfl⟩ := Prod.mk.inj (Option.some.inj h)
          obtain ⟨height, before', hanswer', hbefore⟩ := horacle hslot hanswer
          obtain ⟨height', rest', hrest', hsame⟩ := ih answer hrest
          -- At the greater of the two heights both the answer and the rest are known.
          have hanswer'' := hmono (Nat.le_max_left height height') hanswer'
          have hrest'' := Plan.eval_mono (hmono (Nat.le_max_right height height')) _ hrest'
          exact ⟨max height height', before' ++ rest', by simp only [Plan.eval, hanswer'', hrest''],
            hbefore.append hsame⟩

end Packrat
