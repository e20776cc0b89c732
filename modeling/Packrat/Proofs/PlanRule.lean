import Packrat.Engine
/-!
# What plans keep to

Parsers are run by the engine, but what they ask for is settled by their plans.
A `Contract` says which questions and aborts a plan is allowed, and what it may
take for granted of the answers; `Plan.Meets` says that a plan keeps to a
contract and what holds of its result.

Since a plan is a finite tree, that it meets a contract is shown without
mentioning the engine. The two rules at the end carry it over to runs: an
invariant that every allowed call keeps is kept by the plan, and if every
allowed call ends then so does the plan.

## Main results

* `Plan.Meets.bind`, `Plan.Meets.iterate` — contracts of plans that are put
  together.
* `Plan.Meets.exec` — what a run of a plan keeps.
* `Plan.Meets.exec_ends` — when a run of a plan ends.
-/

namespace Packrat

/-- What a plan may do, and what it may rely on. -/
structure Contract where
  /-- The parsers that may be asked for, by slot and offset. -/
  asks : SlotId → Nat → Prop
  /-- The matches that may be answered. -/
  replies : SlotId → Nat → Match → Prop
  /-- The offsets at which the run may be aborted. -/
  aborts : Nat → Prop

/-- What every plan keeps to. -/
def Contract.any : Contract where
  asks _ _ := True
  replies _ _ _ := True
  aborts _ := True

namespace Plan

variable {α β : Type} {c : Contract}

/-- What a plan does next: the plan that is left, and the state after it. -/
inductive Step (options : Options) (call : Call) : Plan α → State → Plan α → State → Prop
  | abort {position : Nat} {error : TransformError} {plan : Plan α} {st : State} :
    Step options call (.abort position error plan) st plan (st.raise (.transform position error))
  | ask {slot : SlotId} {offset : Nat} {resume : Option Match → Plan α} {st st' : State}
      {answer : Option Match} (hcall : call slot offset st = some (answer, st')) :
    Step options call (.ask slot offset resume) st (resume answer) st'
  | look {resume : Snapshot → Plan α} {st : State} :
    Step options call (.look resume) st (resume (st.snapshot options)) st
  | ended {resume : Bool → Plan α} {st : State} :
    Step options call (.ended resume) st (resume st.isAborted) st

/-- A plan does only what a contract allows, and its result is as promised. -/
def Meets (c : Contract) (post : α → Prop) : Plan α → Prop
  | .done result => post result
  | .abort position _ plan => c.aborts position ∧ plan.Meets c post
  | .ask slot offset resume =>
    c.asks slot offset ∧ (resume none).Meets c post ∧
      ∀ m, c.replies slot offset m → (resume (some m)).Meets c post
  | .look resume => ∀ snapshot, (resume snapshot).Meets c post
  | .ended resume => ∀ ended, (resume ended).Meets c post

theorem meets_any (plan : Plan α) : plan.Meets .any fun _ => True := by
  induction plan with
  | done result => trivial
  | abort position error plan ih => exact ⟨trivial, ih⟩
  | ask slot offset resume ih => exact ⟨trivial, ih none, fun m _ => ih (some m)⟩
  | look resume ih => exact ih
  | ended resume ih => exact ih

namespace Meets

/-- A plan that goes on with another meets a contract if both do. -/
theorem bind {mid : α → Prop} {post : β → Prop} {plan : Plan α} {next : α → Plan β}
    (hplan : plan.Meets c mid) (hnext : ∀ result, mid result → (next result).Meets c post) :
    (plan.bind next).Meets c post := by
  induction plan with
  | done result => exact hnext result hplan
  | abort position error plan ih => exact ⟨hplan.1, ih hplan.2⟩
  | ask slot offset resume ih =>
      obtain ⟨hask, hnone, hsome⟩ := hplan
      exact ⟨hask, ih none hnone, fun m hm => ih (some m) (hsome m hm)⟩
  | look resume ih => exact fun snapshot => ih snapshot (hplan snapshot)
  | ended resume ih => exact fun ended => ih ended (hplan ended)

theorem run {slot : SlotId} {offset : Nat} {post : Option Match → Prop}
    (hask : c.asks slot offset) (hnone : post none)
    (hsome : ∀ m, c.replies slot offset m → post (some m)) :
    (Plan.run slot offset).Meets c post :=
  ⟨hask, hnone, hsome⟩

theorem attempt {slot : SlotId} {offset : Nat} {post : Option β → Prop}
    {next : Match → Plan (Option β)} (hask : c.asks slot offset) (hnone : post none)
    (hnext : ∀ m, c.replies slot offset m → (next m).Meets c post) :
    (Plan.attempt slot offset next).Meets c post :=
  ⟨hask, hnone, hnext⟩

theorem unlessEnded {result : Option β} {post : Option β → Prop} (hnone : post none)
    (hresult : post result) : (Plan.unlessEnded result).Meets c post := by
  intro ended
  cases ended with
  | true => exact hnone
  | false => exact hresult

/-- Rounds keep an invariant that each round that moves on keeps. -/
theorem iterate {round : Nat → Plan (Option (β × Nat))} {add : α → β → α}
    (inv : α → Nat → Prop)
    (hround : ∀ total offset, inv total offset →
      (round offset).Meets c fun answer =>
        ∀ found stop, answer = some (found, stop) → offset < stop → inv (add total found) stop)
    (budget : Nat) {total : α} {offset : Nat} (hinv : inv total offset) :
    (Plan.iterate round add budget total offset).Meets c fun result => inv result.1 result.2 := by
  induction budget generalizing total offset with
  | zero => exact hinv
  | succ budget ih =>
      refine (hround total offset hinv).bind fun answer hanswer => ?_
      cases answer with
      | none => exact hinv
      | some found =>
          obtain ⟨found, stop⟩ := found
          by_cases hle : stop ≤ offset
          · simp only [hle, if_true]
            exact hinv
          · simp only [hle, if_false]
            exact ih (hanswer found stop rfl (by omega))

/-! ## Runs -/

section Runs

variable {options : Options} {call : Call} {I : State → Prop} {post : α → Prop}
  {plan : Plan α}

/-- One step of a plan keeps what every allowed call keeps, and what is left of
the plan still meets the contract. -/
theorem step
    (hcall : ∀ {slot offset st answer st'}, c.asks slot offset → I st →
      call slot offset st = some (answer, st') →
      I st' ∧ ∀ m, answer = some m → c.replies slot offset m)
    (hraise : ∀ {position error st}, c.aborts position → I st →
      I (st.raise (.transform position error)))
    (hplan : plan.Meets c post) {st : State} (hst : I st) {next : Plan α} {st' : State}
    (h : plan.Step options call st next st') : I st' ∧ next.Meets c post := by
  cases h with
  | abort => exact ⟨hraise hplan.1 hst, hplan.2⟩
  | @ask _ _ _ _ _ answer hanswer =>
      obtain ⟨hask, hnone, hsome⟩ := hplan
      obtain ⟨hst', hreply⟩ := hcall hask hst hanswer
      cases answer with
      | none => exact ⟨hst', hnone⟩
      | some m => exact ⟨hst', hsome m (hreply m rfl)⟩
  | look => exact ⟨hst, hplan _⟩
  | ended => exact ⟨hst, hplan _⟩

/-- A run of a plan keeps what every allowed call keeps, and its result is as
promised if all answers are. -/
theorem exec
    (hcall : ∀ {slot offset st answer st'}, c.asks slot offset → I st →
      call slot offset st = some (answer, st') →
      I st' ∧ ∀ m, answer = some m → c.replies slot offset m)
    (hraise : ∀ {position error st}, c.aborts position → I st →
      I (st.raise (.transform position error)))
    (hplan : plan.Meets c post) {st : State} (hst : I st) {result : α} {st' : State}
    (h : plan.exec options call st = some (result, st')) : I st' ∧ post result := by
  induction plan generalizing st with
  | done result' =>
      obtain ⟨rfl, rfl⟩ := Prod.mk.inj (Option.some.inj h)
      exact ⟨hst, hplan⟩
  | abort position error plan ih => exact ih hplan.2 (hraise hplan.1 hst) h
  | ask slot offset resume ih =>
      obtain ⟨hask, hnone, hsome⟩ := hplan
      simp only [Plan.exec] at h
      split at h
      · simp at h
      case h_2 answer st₁ hanswer =>
        obtain ⟨hst₁, hreply⟩ := hcall hask hst hanswer
        cases answer with
        | none => exact ih none hnone hst₁ h
        | some m => exact ih (some m) (hsome m (hreply m rfl)) hst₁ h
  | look resume ih => exact ih _ (hplan _) hst h
  | ended resume ih => exact ih _ (hplan _) hst h

/-- A run of a plan ends if every allowed call does. -/
theorem exec_ends
    (hcall : ∀ {slot offset st}, c.asks slot offset → I st →
      ∃ answer st', call slot offset st = some (answer, st') ∧ I st' ∧
        ∀ m, answer = some m → c.replies slot offset m)
    (hraise : ∀ {position error st}, c.aborts position → I st →
      I (st.raise (.transform position error)))
    (hplan : plan.Meets c post) {st : State} (hst : I st) :
    ∃ result st', plan.exec options call st = some (result, st') ∧ I st' := by
  induction plan generalizing st with
  | done result => exact ⟨result, st, rfl, hst⟩
  | abort position error plan ih => exact ih hplan.2 (hraise hplan.1 hst)
  | ask slot offset resume ih =>
      obtain ⟨hask, hnone, hsome⟩ := hplan
      obtain ⟨answer, st₁, hanswer, hst₁, hreply⟩ := hcall hask hst
      simp only [Plan.exec, hanswer]
      cases answer with
      | none => exact ih none hnone hst₁
      | some m => exact ih (some m) (hsome m (hreply m rfl)) hst₁
  | look resume ih => exact ih _ (hplan _) hst
  | ended resume ih => exact ih _ (hplan _) hst

end Runs

end Meets

end Plan

end Packrat
