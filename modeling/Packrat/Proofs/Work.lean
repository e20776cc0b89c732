import Packrat.Proofs.EarlyEnd
/-!
# Work

A plan says what a body asks for and what it makes of the answers, but not when
it applies the functions of the grammar: a function is applied somewhere between
an answer and the next question. `Work` is a plan in which every application is
marked where it happens. Without the marks the work of a body is its plan, so
whatever the marks tell holds of the plan that is carried out.

## What work heeds

`Work.Heeds` is what `Plan.HeedsEnd` says of a plan, and two things more: after
the end of a run no function is applied, and what is seen of the state has a part
in the work only up to some likeness of states.

## Main results

* `Body.erase_work` — without the marks the work of a body is its plan.
* `Body.work_heeds` — the work of every body heeds an early end.
-/

namespace Packrat

/-- A function of a grammar, applied to what it is given. -/
inductive Application where
  /-- A value is made from a match. -/
  | map (m : Match)
  /-- A value is made from a match and from what is seen of the run. -/
  | mapInRun (m : Match)
  /-- A value is replaced by another or refused. -/
  | tryMap (value : Value)
  /-- A value is accepted or not. -/
  | filter (value : Value)
  /-- Two terms are combined by the operator between them. -/
  | combine (left operator right : Value)
  /-- An operation is applied to a value. -/
  | fold (value operation : Value)

/-- What a body does, with every application of a function. -/
inductive Work (α : Type) where
  | done (result : α)
  | abort (position : Nat) (error : TransformError) (next : Work α)
  | ask (slot : SlotId) (offset : Nat) (resume : Option Match → Work α)
  | look (resume : Snapshot → Work α)
  | ended (resume : Bool → Work α)
  /-- A function is applied. -/
  | apply (application : Application) (next : Work α)

namespace Work

variable {α β : Type}

/-- The plan that is left when the applications are not marked. -/
def erase : Work α → Plan α
  | .done result => .done result
  | .abort position error next => .abort position error next.erase
  | .ask slot offset resume => .ask slot offset fun answer => (resume answer).erase
  | .look resume => .look fun snapshot => (resume snapshot).erase
  | .ended resume => .ended fun ended => (resume ended).erase
  | .apply _ next => next.erase

/-- Goes on with the result of some work. -/
def bind : Work α → (α → Work β) → Work β
  | .done result, next => next result
  | .abort position error work, next => .abort position error (work.bind next)
  | .ask slot offset resume, next => .ask slot offset fun answer => (resume answer).bind next
  | .look resume, next => .look fun snapshot => (resume snapshot).bind next
  | .ended resume, next => .ended fun ended => (resume ended).bind next
  | .apply application work, next => .apply application (work.bind next)

/-- Runs a parser at an offset and takes no match for an answer. -/
def attempt (slot : SlotId) (offset : Nat) (next : Match → Work (Option β)) : Work (Option β) :=
  .ask slot offset fun
    | none => .done none
    | some m => next m

/-- One round after another, as `Plan.iterate` runs them. What a round yields is
added to the total by a function whose application is marked. -/
def iterate (round : Nat → Work (Option (β × Nat))) (mark : α → β → Application)
    (add : α → β → α) : Nat → α → Nat → Work (α × Nat)
  | 0, total, offset => .done (total, offset)
  | budget + 1, total, offset =>
    (round offset).bind fun
      | none => .done (total, offset)
      | some (found, stop) =>
        if stop ≤ offset then .done (total, offset)
        else .apply (mark total found) (iterate round mark add budget (add total found) stop)

end Work

/-- A plan as work in which no function is applied. -/
def Plan.toWork {α : Type} : Plan α → Work α
  | .done result => .done result
  | .abort position error plan => .abort position error plan.toWork
  | .ask slot offset resume => .ask slot offset fun answer => (resume answer).toWork
  | .look resume => .look fun snapshot => (resume snapshot).toWork
  | .ended resume => .ended fun ended => (resume ended).toWork

/-- The work of a body at an offset of a source. A body without functions of its
own does no more than its plan says. -/
def Body.work (src : Source) (start : Nat) : Body → Work (Option Match)
  | .map make inner =>
    .attempt inner start fun m => .apply (.map m) (.done (some { m with value := make src m }))
  | .mapInRun make inner =>
    .attempt inner start fun m =>
      .apply (.mapInRun m)
        (.look fun snapshot => .done (some { m with value := make snapshot src m }))
  | .tryMap make inner =>
    .attempt inner start fun m =>
      .apply (.tryMap m.value)
        (match make m.value with
        | .ok value => .done (some { m with value })
        | .error error => .abort m.start error (.done none))
  | .filter accepts _ inner =>
    .attempt inner start fun m =>
      .apply (.filter m.value) (.done (if accepts m.value then some m else none))
  | .leftAssociative combine term operator =>
    .attempt term start fun first =>
      (Work.iterate (fun offset => (pair operator term offset).toWork)
        (fun left (op, right) => .combine left op right)
        (fun left (op, right) => combine left op right)
        (budget src first.stop) first.value first.stop).bind fun (value, stop) =>
        (Plan.unlessEnded (some ⟨value, start, stop⟩)).toWork
  | .foldLeft apply term operation =>
    .attempt term start fun first =>
      (Work.iterate (fun offset => (single operation offset).toWork) .fold apply
        (budget src first.stop) first.value first.stop).bind fun (value, stop) =>
        (Plan.unlessEnded (some ⟨value, start, stop⟩)).toWork
  | body => (body.plan src start).toWork

/-! ## Without the marks -/

namespace Work

variable {α β : Type}

@[simp] theorem erase_toWork (plan : Plan α) : plan.toWork.erase = plan := by
  induction plan with
  | done result => rfl
  | abort position error plan ih => simp only [Plan.toWork, erase, ih]
  | ask slot offset resume ih => simp only [Plan.toWork, erase, ih]
  | look resume ih => simp only [Plan.toWork, erase, ih]
  | ended resume ih => simp only [Plan.toWork, erase, ih]

@[simp] theorem erase_bind (work : Work α) (next : α → Work β) :
    (work.bind next).erase = work.erase.bind fun result => (next result).erase := by
  induction work with
  | done result => rfl
  | abort position error work ih => simp only [bind, erase, ih, Plan.abort_bind]
  | ask slot offset resume ih => simp only [bind, erase, ih, Plan.ask_bind]
  | look resume ih => simp only [bind, erase, ih, Plan.look_bind]
  | ended resume ih => simp only [bind, erase, ih, Plan.ended_bind]
  | apply application work ih => exact ih

@[simp] theorem erase_attempt (slot : SlotId) (offset : Nat) (next : Match → Work (Option β)) :
    (attempt slot offset next).erase = Plan.attempt slot offset fun m => (next m).erase := by
  simp only [attempt, erase, Plan.attempt]
  congr 1
  funext answer
  cases answer <;> rfl

@[simp] theorem erase_iterate (round : Nat → Work (Option (β × Nat)))
    (mark : α → β → Application) (add : α → β → α) (budget : Nat) (total : α) (offset : Nat) :
    (iterate round mark add budget total offset).erase =
      Plan.iterate (fun offset => (round offset).erase) add budget total offset := by
  induction budget generalizing total offset with
  | zero => rfl
  | succ budget ih =>
      simp only [iterate, Plan.iterate, erase_bind]
      congr 1
      funext answer
      cases answer with
      | none => rfl
      | some found =>
          obtain ⟨found, stop⟩ := found
          simp only
          split
          · rfl
          · exact ih (add total found) stop

end Work

/-- Without the marks the work of a body is its plan. -/
theorem Body.erase_work (body : Body) (src : Source) (start : Nat) :
    (body.work src start).erase = body.plan src start := by
  cases body with
  | map make inner => exact Work.erase_attempt _ _ _
  | mapInRun make inner => exact Work.erase_attempt _ _ _
  | filter accepts description inner => exact Work.erase_attempt _ _ _
  | tryMap make inner =>
      simp only [work, plan, Work.erase_attempt, Work.erase]
      congr 1
      funext m
      cases make m.value <;> rfl
  | leftAssociative combine term operator =>
      simp only [work, plan, Work.erase_attempt, Work.erase_bind, Work.erase_iterate,
        Work.erase_toWork]
  | foldLeft apply term operation =>
      simp only [work, plan, Work.erase_attempt, Work.erase_bind, Work.erase_iterate,
        Work.erase_toWork]
  | _ => exact Work.erase_toWork _

/-! ## What work heeds -/

/-- A plan that never looks at the state of the run. -/
def Plan.NoLook {α : Type} : Plan α → Prop
  | .done _ => True
  | .abort _ _ plan => plan.NoLook
  | .ask _ _ resume => ∀ answer, (resume answer).NoLook
  | .look _ => False
  | .ended resume => ∀ ended, (resume ended).NoLook

namespace Plan.NoLook

variable {α β : Type}

theorem bind {plan : Plan α} {next : α → Plan β} (hplan : plan.NoLook)
    (hnext : ∀ result, (next result).NoLook) : (plan.bind next).NoLook := by
  induction plan with
  | done result => exact hnext result
  | abort position error plan ih => exact ih hplan
  | ask slot offset resume ih => exact fun answer => ih answer (hplan answer)
  | look resume => exact False.elim hplan
  | ended resume ih => exact fun ended => ih ended (hplan ended)

theorem attempt {slot : SlotId} {offset : Nat} {next : Match → Plan (Option β)}
    (hnext : ∀ m, (next m).NoLook) : (Plan.attempt slot offset next).NoLook := by
  intro answer
  cases answer with
  | none => exact True.intro
  | some m => exact hnext m

theorem unlessEnded (result : Option β) : (Plan.unlessEnded result).NoLook :=
  fun _ => True.intro

theorem iterate {round : Nat → Plan (Option (β × Nat))} {add : α → β → α}
    (hround : ∀ offset, (round offset).NoLook) (budget : Nat) (total : α) (offset : Nat) :
    (Plan.iterate round add budget total offset).NoLook := by
  induction budget generalizing total offset with
  | zero => exact True.intro
  | succ budget ih =>
      refine (hround offset).bind fun answer => ?_
      cases answer with
      | none => exact True.intro
      | some found =>
          obtain ⟨found, stop⟩ := found
          simp only
          split
          · exact True.intro
          · exact ih (add total found) stop

end Plan.NoLook

private theorem single_noLook (inner : SlotId) (offset : Nat) :
    (Body.single inner offset).NoLook :=
  .attempt fun _ => True.intro

private theorem pair_noLook (first second : SlotId) (offset : Nat) :
    (Body.pair first second offset).NoLook :=
  .attempt fun _ => .attempt fun _ => True.intro

namespace Work

variable {α β : Type}

/-- What some work yields when the run is over, or ends in one of its questions or by
itself. No function is applied from then on. Of states that are `alike` the work
sees the same, so which one of them it looks at does not matter. -/
def Heeds (alike : Snapshot → Snapshot → Prop) (post : α → Prop) : Bool → Work α → Prop
  | isOver, .done result => isOver = true → post result
  | _, .abort _ _ next => next.Heeds alike post true
  | isOver, .ask _ _ resume =>
    (resume none).Heeds alike post true ∧
      (isOver = false → ∀ answer, (resume answer).Heeds alike post false)
  | isOver, .look resume =>
    (∀ snapshot snapshot', alike snapshot snapshot' → resume snapshot = resume snapshot') ∧
      ∀ snapshot, (resume snapshot).Heeds alike post isOver
  | isOver, .ended resume => (resume isOver).Heeds alike post isOver
  | isOver, .apply _ next => isOver = false ∧ next.Heeds alike post false

namespace Heeds

variable {alike : Snapshot → Snapshot → Prop}

theorem bind {mid : α → Prop} {post : β → Prop} {work : Work α} {next : α → Work β} {isOver : Bool}
    (hwork : work.Heeds alike mid isOver)
    (hafter : ∀ result, mid result → (next result).Heeds alike post true)
    (hnext : ∀ result, (next result).Heeds alike post false) :
    (work.bind next).Heeds alike post isOver := by
  induction work generalizing isOver with
  | done result =>
      cases isOver with
      | true => exact hafter result (hwork rfl)
      | false => exact hnext result
  | abort position error work ih => exact ih hwork
  | ask slot offset resume ih =>
      exact ⟨ih none hwork.1, fun hlive answer => ih answer (hwork.2 hlive answer)⟩
  | look resume ih =>
      refine ⟨fun snapshot snapshot' hsame => ?_, fun snapshot => ih snapshot (hwork.2 snapshot)⟩
      show (resume snapshot).bind next = (resume snapshot').bind next
      rw [hwork.1 snapshot snapshot' hsame]
  | ended resume ih => exact ih isOver hwork
  | apply application work ih => exact ⟨hwork.1, ih hwork.2⟩

theorem attempt {slot : SlotId} {offset : Nat} {next : Match → Work (Option β)}
    (hnext : ∀ m, (next m).Heeds alike (· = none) false) :
    (Work.attempt slot offset next).Heeds alike (· = none) false := by
  refine ⟨fun _ => rfl, fun _ answer => ?_⟩
  cases answer with
  | none => exact fun _ => rfl
  | some m => exact hnext m

/-- Rounds break off at an early end before anything is added to the total. -/
theorem iterate {round : Nat → Work (Option (β × Nat))} {mark : α → β → Application}
    {add : α → β → α} (hround : ∀ offset, (round offset).Heeds alike (· = none) false)
    (budget : Nat) (total : α) (offset : Nat) :
    (Work.iterate round mark add budget total offset).Heeds alike (fun _ => True) false := by
  induction budget generalizing total offset with
  | zero => exact fun _ => True.intro
  | succ budget ih =>
      refine (hround offset).bind (fun answer hnone => ?_) fun answer => ?_
      · rw [hnone]
        exact fun _ => True.intro
      · cases answer with
        | none => exact fun _ => True.intro
        | some found =>
            obtain ⟨found, stop⟩ := found
            by_cases hle : stop ≤ offset
            · simp only [hle, if_true]
              exact fun _ => True.intro
            · simp only [hle, if_false]
              exact ⟨rfl, ih (add total found) stop⟩

/-- A plan that is carried out after the end of a run, as work. -/
theorem of_afterEnd {post : α → Prop} {plan : Plan α} (hafter : plan.AfterEnd post)
    (hlook : plan.NoLook) : plan.toWork.Heeds alike post true := by
  induction plan with
  | done result => exact fun _ => hafter
  | abort position error plan ih => exact ih hafter hlook
  | ask slot offset resume ih => exact ⟨ih none hafter (hlook none), nofun⟩
  | look resume ih => exact False.elim hlook
  | ended resume ih => exact ih true hafter (hlook true)

/-- A plan that heeds an early end and looks at nothing, as work. -/
theorem of_heedsEnd {post : α → Prop} {plan : Plan α} (hheeds : plan.HeedsEnd post)
    (hlook : plan.NoLook) : plan.toWork.Heeds alike post false := by
  induction plan with
  | done result => exact nofun
  | abort position error plan ih => exact of_afterEnd hheeds hlook
  | ask slot offset resume ih =>
      exact ⟨of_afterEnd hheeds.1 (hlook none),
        fun _ answer => ih answer (hheeds.2 answer) (hlook answer)⟩
  | look resume ih => exact False.elim hlook
  | ended resume ih => exact ih false hheeds (hlook false)

end Heeds

end Work

namespace Body

/-- No mapped value depends on more of the state than states that are alike have in
common. -/
def SeesAlike (alike : Snapshot → Snapshot → Prop) : Body → Prop
  | .mapInRun make _ =>
    ∀ snapshot snapshot', alike snapshot snapshot' → make snapshot = make snapshot'
  | _ => True

variable {src : Source} {start : Nat}

/-- The plan of a body looks at the state only to map a value. -/
theorem plan_noLook (body : Body) (h : ∀ make inner, body ≠ .mapInRun make inner) :
    (body.plan src start).NoLook := by
  cases body with
  | primitive p =>
      simp only [plan]
      split <;> exact True.intro
  | choice first second =>
      intro answer
      cases answer with
      | none => exact fun _ => True.intro
      | some m => exact True.intro
  | negation inner | optional inner =>
      intro answer
      cases answer with
      | none => exact .unlessEnded _
      | some m => exact True.intro
  | zeroOrMore inner =>
      exact (Plan.NoLook.iterate (single_noLook inner) _ _ _).bind fun _ => .unlessEnded _
  | oneOrMore inner =>
      refine (Plan.NoLook.iterate (single_noLook inner) _ _ _).bind ?_
      rintro ⟨values, stop⟩
      cases values with
      | nil => exact True.intro
      | cons value rest => exact .unlessEnded _
  | mapInRun make inner => exact absurd rfl (h make inner)
  | tryMap make inner =>
      refine .attempt fun m => ?_
      split <;> exact True.intro
  | lookahead inner | map make inner | filter accepts description inner =>
      exact .attempt fun _ => True.intro
  | named name inner | reference cell => exact fun _ => True.intro
  | sequence first second => exact .attempt fun _ => .attempt fun _ => True.intro
  | leftAssociative combine term operator =>
      exact .attempt fun _ => (Plan.NoLook.iterate (pair_noLook operator term) _ _ _).bind
        fun _ => .unlessEnded _
  | foldLeft apply term operation =>
      exact .attempt fun _ => (Plan.NoLook.iterate (single_noLook operation) _ _ _).bind
        fun _ => .unlessEnded _
  | between opening content closing =>
      exact .attempt fun _ => .attempt fun _ => .attempt fun _ => True.intro
  | separated item separator =>
      exact .attempt fun _ => (Plan.NoLook.iterate (pair_noLook separator item) _ _ _).bind
        fun _ => .unlessEnded _

/-- The work of every body heeds an early end: it yields nothing and applies no
function after it. -/
theorem work_heeds {alike : Snapshot → Snapshot → Prop} {body : Body} (h : body.SeesAlike alike) :
    (body.work src start).Heeds alike (· = none) false := by
  have hplain (body : Body) (hlook : ∀ make inner, body ≠ .mapInRun make inner) :
      (body.plan src start).toWork.Heeds alike (· = none) false :=
    .of_heedsEnd body.plan_heedsEnd (body.plan_noLook hlook)
  cases body with
  | map make inner => exact .attempt fun _ => ⟨rfl, nofun⟩
  | mapInRun make inner =>
      refine .attempt fun m => ⟨rfl, fun snapshot snapshot' hsame => ?_, fun _ => nofun⟩
      show Work.done (some { m with value := make snapshot src m }) = _
      rw [h snapshot snapshot' hsame]
  | tryMap make inner =>
      refine .attempt fun m => ⟨rfl, ?_⟩
      split
      · exact nofun
      · exact fun _ => rfl
  | filter accepts description inner => exact .attempt fun _ => ⟨rfl, nofun⟩
  | leftAssociative combine term operator =>
      have hround (offset : Nat) :
          (pair operator term offset).toWork.Heeds alike (· = none) false :=
        .of_heedsEnd (.attempt fun _ => .attempt fun _ => True.intro) (pair_noLook _ _ _)
      exact .attempt fun _ => (Work.Heeds.iterate hround _ _ _).bind (fun _ _ _ => rfl)
        fun _ => nofun
  | foldLeft apply term operation =>
      have hround (offset : Nat) :
          (single operation offset).toWork.Heeds alike (· = none) false :=
        .of_heedsEnd (.attempt fun _ => True.intro) (single_noLook _ _)
      exact .attempt fun _ => (Work.Heeds.iterate hround _ _ _).bind (fun _ _ _ => rfl)
        fun _ => nofun
  | _ => exact hplain _ nofun

end Body

end Packrat
