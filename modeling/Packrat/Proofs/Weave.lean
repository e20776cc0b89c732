import Packrat.Proofs.Follow
/-!
# Plans that do the same with other parsers in between

Some parsers do nothing of their own. A sequence, a choice, or a parser that maps a value is
carried out by its parts; if it does not match, it adds a failure without a name, where one of
its parts has failed before or deeper. So nothing is changed when what it does is written out
where it is asked for.

`Plan.Woven` relates plans for two grammars, where on either side what such a silent parser
does may stand in place of the question for it. The two plans may have results of different
kinds, as long as these are related in the end.

## Main definitions

* `Env.Silent` — a parser that adds nothing to the failures of its parts.
* `Plan.Woven` — plans that do the same, but for silent parsers.
* `Env.Weaves` — slots whose plans do the same.

## Main results

* `Plan.Woven.eval` — plans that do the same end in the same way.
* `Env.follows_of_weaves` — so do the parsers in the slots.
-/

namespace Packrat

namespace Plan

variable {α β : Type} {oracle : Oracle}

/-- A plan with another one behind it is evaluated part by part. -/
theorem eval_bind (oracle : Oracle) (plan : Plan α) (next : α → Plan β) :
    (plan.bind next).eval oracle =
      match plan.eval oracle with
      | none => none
      | some (.abort position error, failures) => some (.abort position error, failures)
      | some (.done result, failures) =>
        match (next result).eval oracle with
        | none => none
        | some (ending, rest) => some (ending, failures ++ rest) := by
  induction plan with
  | done result =>
      simp only [done_bind, eval]
      cases (next result).eval oracle <;> rfl
  | abort position error plan => rfl
  | ask slot offset resume ih =>
      simp only [ask_bind, eval]
      cases oracle slot offset with
      | none => rfl
      | some answered =>
          obtain ⟨ending, before⟩ := answered
          cases ending with
          | abort position error => rfl
          | done answer =>
              simp only [ih answer]
              cases (resume answer).eval oracle with
              | none => rfl
              | some outcome =>
                  obtain ⟨ending, failures⟩ := outcome
                  cases ending with
                  | abort position error => rfl
                  | done result =>
                      simp only
                      cases (next result).eval oracle with
                      | none => rfl
                      | some outcome => simp only [List.append_assoc]
  | look resume ih => exact ih _
  | ended resume ih => exact ih _

/-- Two plans in a row end with an abort of the first one, or as the second one does. -/
theorem bind_eval_iff {plan : Plan α} {next : α → Plan β} {ending : Ending β}
    {failures : List Failure} :
    (plan.bind next).eval oracle = some (ending, failures) ↔
      (∃ position error, plan.eval oracle = some (.abort position error, failures) ∧
        ending = .abort position error) ∨
      ∃ result before rest, plan.eval oracle = some (.done result, before) ∧
        (next result).eval oracle = some (ending, rest) ∧ failures = before ++ rest := by
  rw [eval_bind]
  constructor
  · intro h
    split at h
    · contradiction
    case h_2 position error before hplan =>
      obtain ⟨rfl, rfl⟩ := Prod.mk.inj (Option.some.inj h)
      exact .inl ⟨position, error, hplan, rfl⟩
    case h_3 result before hplan =>
      split at h
      · contradiction
      case h_2 ending' rest hnext =>
        obtain ⟨rfl, rfl⟩ := Prod.mk.inj (Option.some.inj h)
        exact .inr ⟨result, before, rest, hplan, hnext, rfl⟩
  · rintro (⟨position, error, hplan, rfl⟩ | ⟨result, before, rest, hplan, hnext, rfl⟩)
    · rw [hplan]
    · simp only [hplan, hnext]

/-- A question ends with an abort of the parser that is asked for, or as the plan goes on
with the answer. -/
theorem ask_eval_iff {slot : SlotId} {offset : Nat} {resume : Option Match → Plan α}
    {ending : Ending α} {failures : List Failure} :
    (Plan.ask slot offset resume).eval oracle = some (ending, failures) ↔
      (∃ position error, oracle slot offset = some (.abort position error, failures) ∧
        ending = .abort position error) ∨
      ∃ answer before rest, oracle slot offset = some (.done answer, before) ∧
        (resume answer).eval oracle = some (ending, rest) ∧ failures = before ++ rest := by
  have hbind : Plan.ask slot offset resume = (Plan.run slot offset).bind resume := rfl
  rw [hbind, bind_eval_iff, eval_run]

/-- How a plan goes on that takes no match for an answer. -/
def orNone (next : Match → Plan (Option β)) : Option Match → Plan (Option β)
  | none => .done none
  | some m => next m

theorem attempt_eq (slot : SlotId) (offset : Nat) (next : Match → Plan (Option β)) :
    attempt slot offset next = .ask slot offset (orNone next) := rfl

/-- An attempt is not only continued upon a match, but also ended upon none. -/
theorem attempt_bind_orNone (slot : SlotId) (offset : Nat) (next : Match → Plan (Option Match))
    (last : Match → Plan (Option β)) :
    (attempt slot offset next).bind (orNone last) =
      attempt slot offset fun m => (next m).bind (orNone last) := by
  rw [attempt_eq, attempt_eq, ask_bind]
  refine congrArg (Plan.ask slot offset) (funext fun answer => ?_)
  cases answer <;> rfl

end Plan

/-! ## Silent parsers -/

/-- A parser without a name that fails only where a part of it has failed, or deeper. -/
structure Env.Silent (env : Env) (slot : SlotId) : Prop where
  name : env.grammar.name? slot = none
  failed : ∀ {height offset before},
    (env.planOf slot offset).eval (env.eval height) = some (.done none, before) →
    ∃ failure ∈ before, offset ≤ failure.offset

/-- A failure without a name changes nothing after one that is as deep. -/
theorem Failure.Same.unnamed {failures : List Failure} {failure : Failure}
    (hmem : failure ∈ failures) {offset : Nat} (hle : offset ≤ failure.offset) :
    Same id (failures ++ [⟨none, offset⟩]) failures := by
  intro fr
  rw [List.map_append, Frontier.recordAll_append]
  refine Frontier.recordAll_of_absorbs fun other hother => ?_
  obtain rfl := List.mem_singleton.1 hother
  have habsorbs := Frontier.absorbs_recordAll fr (failures.map (seen id)) (failure.seen id)
    (List.mem_map_of_mem hmem)
  rcases habsorbs with hlt | ⟨heq, -⟩
  · exact .inl (Nat.lt_of_le_of_lt hle hlt)
  · rcases Nat.lt_or_eq_of_le hle with hlt | hsame
    · exact .inl (heq ▸ hlt)
    · exact .inr ⟨hsame.trans heq, nofun⟩

namespace Env.Silent

variable {env : Env} {slot : SlotId}

/-- The failure of a silent parser changes nothing. -/
theorem same (hsilent : env.Silent slot) {height offset : Nat}
    {ending : Ending (Option Match)} {before : List Failure}
    (h : (env.planOf slot offset).eval (env.eval height) = some (ending, before)) :
    Failure.Same id (before ++ env.failures slot offset ending) before := by
  cases ending with
  | abort =>
      rw [failures, List.append_nil]
      exact .refl id before
  | done result =>
      cases result with
      | some m =>
          rw [failures, List.append_nil]
          exact .refl id before
      | none =>
          obtain ⟨failure, hmem, hle⟩ := hsilent.failed h
          rw [failures, hsilent.name]
          exact .unnamed hmem hle

variable {α : Type} {height offset : Nat} {resume : Option Match → Plan α} {ending : Ending α}
  {all : List Failure}

/-- What a silent parser does may stand in place of the question for it. -/
theorem unfold (hsilent : env.Silent slot)
    (h : (Plan.ask slot offset resume).eval (env.eval height) = some (ending, all)) :
    ∃ all', ((env.planOf slot offset).bind resume).eval (env.eval height) = some (ending, all') ∧
      Failure.Same id all all' := by
  cases height with
  | zero => cases h
  | succ height =>
      have hagrees := eval_mono env (Nat.le_succ height)
      rcases Plan.ask_eval_iff.1 h with
        ⟨position, error, hasked, rfl⟩ | ⟨answer, all, rest, hasked, hrest, rfl⟩
      · obtain ⟨before, hplan, rfl⟩ := eval_succ_eq_some_iff.1 hasked
        have hplan' := Plan.eval_mono hagrees _ hplan
        exact ⟨before, Plan.bind_eval_iff.2 (.inl ⟨position, error, hplan', rfl⟩),
          hsilent.same hplan⟩
      · obtain ⟨before, hplan, rfl⟩ := eval_succ_eq_some_iff.1 hasked
        have hplan' := Plan.eval_mono hagrees _ hplan
        exact ⟨before ++ rest,
          Plan.bind_eval_iff.2 (.inr ⟨answer, before, rest, hplan', hrest, rfl⟩),
          (hsilent.same hplan).append (.refl id rest)⟩

/-- A question for a silent parser may stand in place of what it does. -/
theorem fold (hsilent : env.Silent slot)
    (h : ((env.planOf slot offset).bind resume).eval (env.eval height) = some (ending, all)) :
    ∃ all', (Plan.ask slot offset resume).eval (env.eval (height + 1)) = some (ending, all') ∧
      Failure.Same id all all' := by
  rcases Plan.bind_eval_iff.1 h with
    ⟨position, error, hplan, rfl⟩ | ⟨answer, before, rest, hplan, hrest, rfl⟩
  · have hasked := eval_succ_eq_some_iff.2 ⟨all, hplan, rfl⟩
    exact ⟨_, Plan.ask_eval_iff.2 (.inl ⟨position, error, hasked, rfl⟩),
      (hsilent.same hplan).symm⟩
  · have hasked := eval_succ_eq_some_iff.2 ⟨before, hplan, rfl⟩
    have hrest' := Plan.eval_mono (eval_mono env (Nat.le_succ height)) _ hrest
    exact ⟨_, Plan.ask_eval_iff.2 (.inr ⟨answer, _, rest, hasked, hrest', rfl⟩),
      (hsilent.same hplan).symm.append (.refl id rest)⟩

end Env.Silent

/-! ## Plans -/

/-- Two ends of plans with related results. -/
inductive Ending.Rel {α α' : Type} (rel : α → α' → Prop) : Ending α → Ending α' → Prop
  | done {result : α} {result' : α'} (h : rel result result') :
    Rel rel (.done result) (.done result')
  | abort (position : Nat) (error : TransformError) :
    Rel rel (.abort position error) (.abort position error)

namespace Plan

/-- Plans that ask parsers that correspond at the same offsets and come to related results.
On either side, what a silent parser does may be written out, and whether the run has ended
may be looked at. -/
inductive Woven (env env' : Env) (R : SlotId → SlotId → Prop) {α α' : Type}
    (rel : α → α' → Prop) : Plan α → Plan α' → Prop
  | done {result : α} {result' : α'} (h : rel result result') :
    Woven env env' R rel (.done result) (.done result')
  | abort (position : Nat) (error : TransformError) (next : Plan α) (next' : Plan α') :
    Woven env env' R rel (.abort position error next) (.abort position error next')
  | ask {slot slot' : SlotId} {offset : Nat} {resume : Option Match → Plan α}
      {resume' : Option Match → Plan α'} (hslot : R slot slot')
      (h : ∀ answer, Woven env env' R rel (resume answer) (resume' answer)) :
    Woven env env' R rel (.ask slot offset resume) (.ask slot' offset resume')
  | endedLeft {resume : Bool → Plan α} {plan' : Plan α'}
      (h : Woven env env' R rel (resume false) plan') :
    Woven env env' R rel (.ended resume) plan'
  | endedRight {plan : Plan α} {resume' : Bool → Plan α'}
      (h : Woven env env' R rel plan (resume' false)) :
    Woven env env' R rel plan (.ended resume')
  | silentLeft {slot : SlotId} {offset : Nat} {resume : Option Match → Plan α}
      {plan' : Plan α'} (hsilent : env.Silent slot)
      (h : Woven env env' R rel ((env.planOf slot offset).bind resume) plan') :
    Woven env env' R rel (.ask slot offset resume) plan'
  | silentRight {plan : Plan α} {slot : SlotId} {offset : Nat}
      {resume' : Option Match → Plan α'} (hsilent : env'.Silent slot)
      (h : Woven env env' R rel plan ((env'.planOf slot offset).bind resume')) :
    Woven env env' R rel plan (.ask slot offset resume')

namespace Woven

variable {env env' : Env} {R : SlotId → SlotId → Prop} {α α' β β' : Type} {rel : α → α' → Prop}
  {rel' : β → β' → Prop}

/-- Plans that do the same do so the other way round. -/
theorem symm {plan : Plan α} {plan' : Plan α'} (h : Woven env env' R rel plan plan') :
    Woven env' env (flip R) (flip rel) plan' plan := by
  induction h with
  | done h => exact .done h
  | abort position error next next' => exact .abort position error next' next
  | ask hslot _ ih => exact .ask hslot ih
  | endedLeft _ ih => exact .endedRight ih
  | endedRight _ ih => exact .endedLeft ih
  | silentLeft hsilent _ ih => exact .silentRight hsilent ih
  | silentRight hsilent _ ih => exact .silentLeft hsilent ih

theorem bind {plan : Plan α} {plan' : Plan α'} {next : α → Plan β} {next' : α' → Plan β'}
    (hplan : Woven env env' R rel plan plan')
    (hnext : ∀ result result', rel result result' →
      Woven env env' R rel' (next result) (next' result')) :
    Woven env env' R rel' (plan.bind next) (plan'.bind next') := by
  induction hplan with
  | done h => exact hnext _ _ h
  | abort position error => exact .abort position error _ _
  | ask hslot _ ih => exact .ask hslot ih
  | endedLeft _ ih => exact .endedLeft ih
  | endedRight _ ih => exact .endedRight ih
  | silentLeft hsilent _ ih =>
      rw [bind_assoc] at ih
      exact .silentLeft hsilent ih
  | silentRight hsilent _ ih =>
      rw [bind_assoc] at ih
      exact .silentRight hsilent ih

theorem attempt {rel : Option β → Option β' → Prop} (hnone : rel none none)
    {slot slot' : SlotId} {offset : Nat} {next : Match → Plan (Option β)}
    {next' : Match → Plan (Option β')} (hslot : R slot slot')
    (hnext : ∀ m, Woven env env' R rel (next m) (next' m)) :
    Woven env env' R rel (Plan.attempt slot offset next) (Plan.attempt slot' offset next') := by
  refine .ask hslot fun answer => ?_
  cases answer with
  | none => exact .done hnone
  | some m => exact hnext m

/-- What a silent parser does is written out in an attempt of it. -/
theorem attemptLeft {slot : SlotId} {offset : Nat} {next : Match → Plan (Option β)}
    {plan : Plan (Option β)} {plan' : Plan α'} {rel : Option β → α' → Prop}
    (hsilent : env.Silent slot) (hplan : (env.planOf slot offset).bind (orNone next) = plan)
    (h : Woven env env' R rel plan plan') :
    Woven env env' R rel (Plan.attempt slot offset next) plan' :=
  .silentLeft hsilent (by rw [← hplan] at h; exact h)

theorem attemptRight {slot : SlotId} {offset : Nat} {next : Match → Plan (Option β)}
    {plan : Plan α} {plan' : Plan (Option β)} {rel : α → Option β → Prop}
    (hsilent : env'.Silent slot) (hplan : (env'.planOf slot offset).bind (orNone next) = plan')
    (h : Woven env env' R rel plan plan') :
    Woven env env' R rel plan (Plan.attempt slot offset next) :=
  .silentRight hsilent (by rw [← hplan] at h; exact h)

/-- What two rounds find: nothing, or things that are related, up to the same offset. -/
inductive Round (found : β → β' → Prop) : Option (β × Nat) → Option (β' × Nat) → Prop
  | none : Round found none none
  | some {value : β} {value' : β'} {stop : Nat} (h : found value value') :
    Round found (some (value, stop)) (some (value', stop))

/-- Rounds that do the same do so in a row, if what they find is added in the same way. -/
theorem iterate {found : β → β' → Prop} {round : Nat → Plan (Option (β × Nat))}
    {round' : Nat → Plan (Option (β' × Nat))} {add : α → β → α} {add' : α' → β' → α'}
    (hround : ∀ offset, Woven env env' R (Round found) (round offset) (round' offset))
    (hadd : ∀ {total total' value value'}, rel total total' → found value value' →
      rel (add total value) (add' total' value')) (budget : Nat) {total : α} {total' : α'}
    (htotal : rel total total') (offset : Nat) :
    Woven env env' R (fun result result' => rel result.1 result'.1 ∧ result.2 = result'.2)
      (Plan.iterate round add budget total offset)
      (Plan.iterate round' add' budget total' offset) := by
  induction budget generalizing total total' offset with
  | zero => exact .done ⟨htotal, rfl⟩
  | succ budget ih =>
      refine (hround offset).bind fun answer answer' hanswer => ?_
      cases hanswer with
      | none => exact .done ⟨htotal, rfl⟩
      | @some value value' stop hfound =>
          by_cases hle : stop ≤ offset
          · simp only [hle, if_true]
            exact .done ⟨htotal, rfl⟩
          · simp only [hle, if_false]
            exact ih (hadd htotal hfound) stop

/-- Plans that do the same end in the same way, if parsers that correspond do, and their
failures are to the same effect. -/
theorem eval {height : Nat}
    (hanswers : ∀ {slot slot' offset ending failures}, R slot slot' →
      env.eval height slot offset = some (ending, failures) →
      ∃ height' failures', env'.eval height' slot' offset = some (ending, failures') ∧
        Failure.Same id failures failures')
    {plan : Plan α} {plan' : Plan α'} (h : Woven env env' R rel plan plan') {ending : Ending α}
    {failures : List Failure} (heval : plan.eval (env.eval height) = some (ending, failures)) :
    ∃ height' ending' failures', plan'.eval (env'.eval height') = some (ending', failures') ∧
      ending.Rel rel ending' ∧ Failure.Same id failures failures' := by
  induction h generalizing ending failures with
  | @done result result' h =>
      obtain ⟨rfl, rfl⟩ := Prod.mk.inj (Option.some.inj heval)
      exact ⟨0, .done result', [], rfl, .done h, .refl id []⟩
  | abort position error =>
      obtain ⟨rfl, rfl⟩ := Prod.mk.inj (Option.some.inj heval)
      exact ⟨0, .abort position error, [], rfl, .abort position error, .refl id []⟩
  | endedLeft _ ih => exact ih heval
  | endedRight _ ih => exact ih heval
  | silentLeft hsilent _ ih =>
      obtain ⟨unfolded, hunfold, hsame⟩ := hsilent.unfold heval
      obtain ⟨height', ending', failures', heval', hrel, hsame'⟩ := ih hunfold
      exact ⟨height', ending', failures', heval', hrel, hsame.trans hsame'⟩
  | silentRight hsilent _ ih =>
      obtain ⟨height', ending', failures', heval', hrel, hsame⟩ := ih heval
      obtain ⟨folded, hfold, hsame'⟩ := hsilent.fold heval'
      exact ⟨height' + 1, ending', folded, hfold, hrel, hsame.trans hsame'⟩
  | @ask slot slot' offset resume resume' hslot _ ih =>
      rcases ask_eval_iff.1 heval with
        ⟨position, error, hasked, rfl⟩ | ⟨answer, before, rest, hasked, hrest, rfl⟩
      · obtain ⟨height', failures', hasked', hsame⟩ := hanswers hslot hasked
        exact ⟨height', .abort position error, failures',
          ask_eval_iff.2 (.inl ⟨position, error, hasked', rfl⟩), .abort position error, hsame⟩
      · obtain ⟨height₁, before', hasked', hbefore⟩ := hanswers hslot hasked
        obtain ⟨height₂, ending', rest', hrest', hrel, hsame⟩ := ih answer hrest
        -- At the greater of the two heights both the answer and the rest are known.
        have hasked'' := Env.eval_mono env' (Nat.le_max_left height₁ height₂) hasked'
        have hrest'' := Plan.eval_mono (Env.eval_mono env' (Nat.le_max_right height₁ height₂)) _
          hrest'
        exact ⟨max height₁ height₂, ending', before' ++ rest',
          ask_eval_iff.2 (.inr ⟨answer, before', rest', hasked'', hrest'', rfl⟩), hrel,
          hbefore.append hsame⟩

end Woven

end Plan

/-! ## Slots -/

namespace Env

variable {env env' : Env} {R : SlotId → SlotId → Prop} {slot slot' : SlotId}

/-- What the parser in one slot does the one in the other does, and they have the same
name. -/
structure Weaves (env env' : Env) (R : SlotId → SlotId → Prop) (slot slot' : SlotId) : Prop where
  name : env.grammar.name? slot = env'.grammar.name? slot'
  plans : ∀ offset, Plan.Woven env env' R Eq (env.planOf slot offset) (env'.planOf slot' offset)

theorem Weaves.symm (h : env.Weaves env' R slot slot') : env'.Weaves env (flip R) slot' slot := by
  have hflip : flip Eq = (Eq : Option Match → Option Match → Prop) :=
    funext fun _ => funext fun _ => propext eq_comm
  exact ⟨h.name.symm, fun offset => hflip ▸ (h.plans offset).symm⟩

/-- Parsers that do the same follow one another if their parts do. -/
theorem follows_of_weaves (h : env.Weaves env' R slot slot') {height : Nat}
    (hparts : ∀ part part', R part part' → env.Follows env' id height part part') :
    env.Follows env' id (height + 1) slot slot' := by
  intro offset ending all heval
  obtain ⟨before, hplan, rfl⟩ := eval_succ_eq_some_iff.1 heval
  obtain ⟨height', ending', before', hplan', hrel, hsame⟩ := (h.plans offset).eval
    (fun hpart hanswer => (hparts _ _ hpart _ _ _ hanswer).1) hplan
  have hending : ending' = ending := by
    cases hrel with
    | done h => rw [h]
    | abort => rfl
  subst hending
  exact ⟨⟨height' + 1, _, eval_succ_eq_some_iff.2 ⟨before', hplan', rfl⟩,
    hsame.append (same_failures h.name)⟩, h.name⟩

end Env

/-! ## Bodies that are silent -/

/-- A body that does nothing of its own, and does not match only where a part of it does
not. -/
def Body.Quiet : Body → Prop
  | .sequence .. | .choice .. | .map .. | .zeroOrMore .. => True
  | _ => False

namespace Env

variable {env : Env} {slot : SlotId}

/-- A parser that does not match is among the failures. -/
theorem failed_of_eval {height offset : Nat} {failures : List Failure}
    (h : env.eval height slot offset = some (.done none, failures)) :
    ∃ failure ∈ failures, failure.offset = offset := by
  cases height with
  | zero => cases h
  | succ height =>
      obtain ⟨before, -, rfl⟩ := eval_succ_eq_some_iff.1 h
      exact ⟨⟨env.grammar.name? slot, offset⟩,
        List.mem_append_right _ (List.mem_singleton_self _), rfl⟩

/-- An attempt that comes to nothing has failed at once, or further on. -/
theorem failed_of_attempt {β : Type} {height offset : Nat} {next : Match → Plan (Option β)}
    {failures : List Failure}
    (h : (Plan.attempt slot offset next).eval (env.eval height) = some (.done none, failures))
    (hnext : ∀ {m rest}, offset ≤ m.stop →
      (next m).eval (env.eval height) = some (.done none, rest) →
      ∃ failure ∈ rest, offset ≤ failure.offset) :
    ∃ failure ∈ failures, offset ≤ failure.offset := by
  rcases Plan.ask_eval_iff.1 h with
    ⟨position, error, -, habort⟩ | ⟨answer, before, rest, hasked, hrest, rfl⟩
  · contradiction
  · cases answer with
    | none =>
        obtain ⟨failure, hmem, rfl⟩ := failed_of_eval hasked
        exact ⟨failure, List.mem_append_left _ hmem, Nat.le_refl _⟩
    | some m =>
        obtain ⟨failure, hmem, hle⟩ := hnext (eval_spans height hasked).reaches.le hrest
        exact ⟨failure, List.mem_append_right _ hmem, hle⟩

theorem planOf_of_body {body : Body} (hbody : env.grammar.bodies[slot]? = some body)
    (offset : Nat) : env.planOf slot offset = body.plan env.source offset := by
  rw [planOf, hbody]

/-- What the parser in one slot does the one in another does if this is so of their bodies. -/
theorem weaves_of_bodies {env' : Env} {R : SlotId → SlotId → Prop} {slot' : SlotId}
    {body body' : Body} (hbody : env.grammar.bodies[slot]? = some body)
    (hbody' : env'.grammar.bodies[slot']? = some body') (hname : body.ownName = body'.ownName)
    (hother : ∀ cell, body ≠ .reference cell) (hother' : ∀ cell, body' ≠ .reference cell)
    (hplans : ∀ offset, Plan.Woven env env' R Eq (body.plan env.source offset)
      (body'.plan env'.source offset)) : env.Weaves env' R slot slot' := by
  refine ⟨?_, fun offset => ?_⟩
  · rw [Grammar.name?_of_body hbody hother, Grammar.name?_of_body hbody' hother', hname]
  · rw [planOf_of_body hbody, planOf_of_body hbody']
    exact hplans offset

/-- A parser with such a body is silent. -/
theorem silent_of_body {body : Body} (hbody : env.grammar.bodies[slot]? = some body)
    (hquiet : body.Quiet) : env.Silent slot := by
  refine ⟨?_, fun {height offset before} h => ?_⟩
  · rw [Grammar.name?_of_body hbody (by rintro cell rfl; exact hquiet)]
    cases body <;> first | rfl | contradiction
  · rw [planOf_of_body hbody] at h
    cases body with
    | sequence first second =>
        refine failed_of_attempt h fun hle hrest => ?_
        obtain ⟨failure, hmem, hle'⟩ := failed_of_attempt hrest nofun
        exact ⟨failure, hmem, Nat.le_trans hle hle'⟩
    | choice first second =>
        rcases Plan.ask_eval_iff.1 h with
          ⟨position, error, -, habort⟩ | ⟨answer, tried, rest, -, hrest, rfl⟩
        · contradiction
        · cases answer with
          | none =>
              have hasked : env.eval height second offset = some (.done none, rest) :=
                (Plan.eval_run _ _ _).symm.trans hrest
              obtain ⟨failure, hmem, rfl⟩ := failed_of_eval hasked
              exact ⟨failure, List.mem_append_right _ hmem, Nat.le_refl _⟩
          | some m => cases hrest
    | map make inner => exact failed_of_attempt h nofun
    | zeroOrMore inner =>
        rcases Plan.bind_eval_iff.1 h with
          ⟨position, error, -, habort⟩ | ⟨found, tried, rest, -, hrest, rfl⟩
        · contradiction
        · cases hrest
    | _ => contradiction

/-! What they do, written out in front of what happens upon a match. -/

variable {β : Type} {offset : Nat}

theorem planOf_map_bind {make : Source → Match → Value} {inner : SlotId}
    (hbody : env.grammar.bodies[slot]? = some (.map make inner))
    (next : Match → Plan (Option β)) :
    (env.planOf slot offset).bind (Plan.orNone next) =
      Plan.attempt inner offset fun m => next { m with value := make env.source m } := by
  rw [planOf_of_body hbody, Body.plan, Plan.attempt_bind_orNone]
  rfl

theorem planOf_sequence_bind {first second : SlotId}
    (hbody : env.grammar.bodies[slot]? = some (.sequence first second))
    (next : Match → Plan (Option β)) :
    (env.planOf slot offset).bind (Plan.orNone next) =
      Plan.attempt first offset fun a => Plan.attempt second a.stop fun b =>
        next ⟨a.value.concat b.value, offset, b.stop⟩ := by
  rw [planOf_of_body hbody, Body.plan, Plan.attempt_bind_orNone]
  refine congrArg _ (funext fun a => ?_)
  rw [Plan.attempt_bind_orNone]
  rfl

theorem planOf_zeroOrMore_bind {inner : SlotId}
    (hbody : env.grammar.bodies[slot]? = some (.zeroOrMore inner))
    (next : Match → Plan (Option β)) :
    (env.planOf slot offset).bind (Plan.orNone next) =
      (Body.repetition env.source offset inner).bind fun (values, stop) => .ended fun ended =>
        if ended then .done none else next ⟨.list values.reverse, offset, stop⟩ := by
  rw [planOf_of_body hbody, Body.plan, Plan.bind_assoc]
  refine congrArg _ (funext fun result => ?_)
  obtain ⟨values, stop⟩ := result
  refine congrArg Plan.ended (funext fun ended => ?_)
  cases ended <;> rfl

end Env

namespace Plan.Woven

variable {env env' : Env} {R : SlotId → SlotId → Prop} {α β : Type} {rel : α → Option β → Prop}
  {plan : Plan α} {slot : SlotId} {offset : Nat} {next : Match → Plan (Option β)}

/-- What is done upon a mapped value is done upon the value that is mapped. -/
theorem mapRight {make : Source → Match → Value} {inner : SlotId}
    (hbody : env'.grammar.bodies[slot]? = some (.map make inner))
    (h : Woven env env' R rel plan
      (Plan.attempt inner offset fun m => next { m with value := make env'.source m })) :
    Woven env env' R rel plan (Plan.attempt slot offset next) :=
  attemptRight (Env.silent_of_body hbody True.intro) (Env.planOf_map_bind hbody next) h

/-- What is done upon a sequence is done upon its parts in a row. -/
theorem sequenceRight {first second : SlotId}
    (hbody : env'.grammar.bodies[slot]? = some (.sequence first second))
    (h : Woven env env' R rel plan
      (Plan.attempt first offset fun a => Plan.attempt second a.stop fun b =>
        next ⟨a.value.concat b.value, offset, b.stop⟩)) :
    Woven env env' R rel plan (Plan.attempt slot offset next) :=
  attemptRight (Env.silent_of_body hbody True.intro) (Env.planOf_sequence_bind hbody next) h

end Plan.Woven

end Packrat
