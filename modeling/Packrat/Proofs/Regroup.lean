import Packrat.Proofs.Recast
/-!
# Sequences and choices are associative

Three parsers in a row may be grouped from the left or from the right, and so may three
parsers of which the first is taken that matches. The groupings differ in the slot in the
middle: it begins at another offset and fails at another time. But it has no name, and where
it fails one of its parts has failed, as deep or deeper. So the grouping does not show in the
outcome of parsing a whole source.

## Main definitions

* `Expr.Regrouping` — the two laws.

## Main results

* `Grammar.regrouping_unseen` — grammars that differ in grouping give the same outcomes.
-/

namespace Packrat

/-- Tuples are joined in any order of joining. -/
theorem Value.concat_assoc (a b c : Value) : (a.concat b).concat c = a.concat (b.concat c) := by
  simp only [concat, results, List.append_assoc]

/-- Three parsers in a row, or three to choose from, are grouped from the left and from the
right. -/
inductive Expr.Regrouping : Law
  | sequence (a b c a' b' c' : Expr) :
    Regrouping (.sequence (.sequence a b) c) (.sequence a' (.sequence b' c'))
      [(a, a'), (b, b'), (c, c')]
  | choice (a b c a' b' c' : Expr) :
    Regrouping (.choice (.choice a b) c) (.choice a' (.choice b' c'))
      [(a, a'), (b, b'), (c, c')]

namespace Env

variable {env env' : Env} {R : SlotId → SlotId → Prop}
  {slot slot' left right a b c a' b' c' : SlotId}

theorem weaves_sequence
    (hslot : env.grammar.bodies[slot]? = some (.sequence left c))
    (hleft : env.grammar.bodies[left]? = some (.sequence a b))
    (hslot' : env'.grammar.bodies[slot']? = some (.sequence a' right))
    (hright : env'.grammar.bodies[right]? = some (.sequence b' c'))
    (ha : R a a') (hb : R b b') (hc : R c c') : env.Weaves env' R slot slot' := by
  refine weaves_of_bodies hslot hslot' rfl nofun nofun fun offset => ?_
  refine .attemptLeft (silent_of_body hleft True.intro) (planOf_sequence_bind hleft _) ?_
  refine .attempt rfl ha fun x => ?_
  refine .sequenceRight hright ?_
  refine .attempt rfl hb fun y => .attempt rfl hc fun z => .done ?_
  rw [Value.concat_assoc]

theorem weaves_choice
    (hslot : env.grammar.bodies[slot]? = some (.choice left c))
    (hleft : env.grammar.bodies[left]? = some (.choice a b))
    (hslot' : env'.grammar.bodies[slot']? = some (.choice a' right))
    (hright : env'.grammar.bodies[right]? = some (.choice b' c'))
    (ha : R a a') (hb : R b b') (hc : R c c') : env.Weaves env' R slot slot' := by
  refine weaves_of_bodies hslot hslot' rfl nofun nofun fun offset => ?_
  refine .silentLeft (silent_of_body hleft True.intro) ?_
  rw [planOf_of_body hleft]
  refine .ask ha fun answer => ?_
  cases answer with
  | some m => exact .done rfl
  | none =>
      refine .silentRight (silent_of_body hright True.intro) ?_
      rw [planOf_of_body hright, Plan.bind_done]
      refine .ask hb fun answer => ?_
      cases answer with
      | some m => exact .done rfl
      | none => exact .ask hc fun answer => .done rfl

end Env

/-- Regrouping keeps all parts, and does the same wherever it is laid out. -/
theorem Expr.Regrouping.sound : Law.Sound Regrouping where
  views holds P := by
    cases holds <;> simp [and_assoc]
  views' holds P := by
    cases holds <;> simp
  weaves holds _ _ hsource _ _ _ _ _ _ hlaid hlaid' _ hparts := by
    cases holds with
    | sequence a b c a' b' c' =>
        obtain ⟨left, sc, hslot, hleft, hc⟩ := hlaid.of_two rfl
        obtain ⟨sa, sb, hinner, ha, hb⟩ := hleft.of_two rfl
        obtain ⟨sa', right, hslot', ha', hright⟩ := hlaid'.of_two rfl
        obtain ⟨sb', sc', hinner', hb', hc'⟩ := hright.of_two rfl
        exact Env.weaves_sequence hslot hinner hslot' hinner' (hparts (a, a') (by simp) _ _ ha ha')
          (hparts (b, b') (by simp) _ _ hb hb') (hparts (c, c') (by simp) _ _ hc hc')
    | choice a b c a' b' c' =>
        obtain ⟨left, sc, hslot, hleft, hc⟩ := hlaid.of_two rfl
        obtain ⟨sa, sb, hinner, ha, hb⟩ := hleft.of_two rfl
        obtain ⟨sa', right, hslot', ha', hright⟩ := hlaid'.of_two rfl
        obtain ⟨sb', sc', hinner', hb', hc'⟩ := hright.of_two rfl
        exact Env.weaves_choice hslot hinner hslot' hinner' (hparts (a, a') (by simp) _ _ ha ha')
          (hparts (b, b') (by simp) _ _ hb hb') (hparts (c, c') (by simp) _ _ hc hc')

namespace Grammar

/-- Grouping cannot be seen. The expressions of two grammars differ in how sequences and
choices are grouped, at any places, and no value depends on the run. If parsing a source with
a rule of the one ends without memoization and without a depth limit, it ends with both in
either mode, and the outcomes are the same. -/
theorem regrouping_unseen {g g' : Grammar} {rules rules' : List (String × Expr)}
    (hfree : ∀ rule ∈ rules, rule.2.StateFree)
    (hrules : Rulewise (Expr.Recast Expr.Regrouping) rules rules')
    (hbuild : build rules = .ok g) (hbuild' : build rules' = .ok g') {name : String}
    {slot : SlotId} (hrule : g.rule? name = some slot) (src : Source) {fuel : Nat}
    {run : Option Match × State}
    (hends : (Env.unlimited g src false).call fuel slot 0 {} = some run) :
    ∃ slot', g'.rule? name = some slot' ∧ ∀ memoize memoize', ∃ report report',
      (Env.unlimited g src memoize).parseAll slot = some report ∧
      (Env.unlimited g' src memoize').parseAll slot' = some report' ∧
      report'.outcome = report.outcome :=
  parseAll_recast Expr.Regrouping.sound hfree hrules hbuild hbuild' hrule src hends

/-- A sign, which is its own name. -/
private def sign (c : Char) : Expr := .named (String.singleton c) (.primitive (.char c))

/-- Lists of a key, a colon and a value, where a part may be missing. -/
def entryRules : List (String × Expr) :=
  [("entry", .choice (.choice (.sequence (.sequence (.capture (sign 'k')) (.ignore (sign ':')))
      (.capture (.reference "entry"))) (.sequence (.capture (sign 'k')) (.ignore (sign ':'))))
      (sign 'v'))]

/-- The same, grouped from the right. -/
def entryRulesRegrouped : List (String × Expr) :=
  [("entry", .choice (.sequence (.capture (sign 'k')) (.sequence (.ignore (sign ':'))
      (.capture (.reference "entry")))) (.choice (.sequence (.capture (sign 'k'))
      (.ignore (sign ':'))) (sign 'v')))]

private theorem sign_blind (c : Char) : (sign c).Views View.Blind :=
  .node rfl True.intro (List.forall_mem_singleton.2 (.node rfl True.intro nofun))

/-- No value of these rules depends on the run. -/
theorem entryRules_stateFree : ∀ rule ∈ entryRules, rule.2.StateFree := by
  refine List.forall_mem_singleton.2 (Expr.stateFree_iff_views.2 ?_)
  simp [sign_blind, Expr.Views.reference]

theorem entryRules_regrouped :
    Rulewise (Expr.Recast Expr.Regrouping) entryRules entryRulesRegrouped := by
  have hkey : (Expr.capture (sign 'k')).Recast Expr.Regrouping (.capture (sign 'k')) :=
    .refl (Expr.views_capture.2 (sign_blind 'k'))
  have hcolon : (Expr.ignore (sign ':')).Recast Expr.Regrouping (.ignore (sign ':')) :=
    .refl (Expr.views_ignore.2 (sign_blind ':'))
  have hvalue : (Expr.capture (.reference "entry")).Recast Expr.Regrouping
      (.capture (.reference "entry")) := .ofParts rfl rfl (.cons (.reference "entry") .nil)
  have hpair : (Expr.sequence (.capture (sign 'k')) (.ignore (sign ':'))).Recast Expr.Regrouping
      (.sequence (.capture (sign 'k')) (.ignore (sign ':'))) :=
    .ofParts rfl rfl (.cons hkey (.cons hcolon .nil))
  refine .cons ⟨rfl, .forth (.choice _ _ _ _ _ _) ?_⟩ .nil
  refine List.forall_mem_cons.2 ⟨.forth (.sequence _ _ _ _ _ _) ?_,
    List.forall_mem_cons.2 ⟨hpair, List.forall_mem_singleton.2 (.refl (sign_blind 'v'))⟩⟩
  exact List.forall_mem_cons.2 ⟨hkey, List.forall_mem_cons.2 ⟨hcolon,
    List.forall_mem_singleton.2 hvalue⟩⟩

theorem regrouping_unseen_entry :
    ∃ g g' slot slot', build entryRules = .ok g ∧ build entryRulesRegrouped = .ok g' ∧
      g.rule? "entry" = some slot ∧ g'.rule? "entry" = some slot' ∧
      ∀ memoize memoize', ∃ report report',
        (Env.unlimited g (.ofString "k:k:w") memoize).parseAll slot = some report ∧
        (Env.unlimited g' (.ofString "k:k:w") memoize').parseAll slot' = some report' ∧
        report'.outcome = report.outcome := by
  obtain ⟨g, slot, run, hbuild, hrule, hends⟩ : ∃ g slot run, build entryRules = .ok g ∧
      g.rule? "entry" = some slot ∧
      (Env.unlimited g (.ofString "k:k:w") false).call 17 slot 0 {} = some run :=
    exists_run (by decide +kernel)
  obtain ⟨g', hbuild'⟩ : ∃ g', build entryRulesRegrouped = .ok g' :=
    exists_build (by decide +kernel)
  obtain ⟨slot', hrule', hsame⟩ := regrouping_unseen entryRules_stateFree entryRules_regrouped
    hbuild hbuild' hrule (.ofString "k:k:w") hends
  exact ⟨g, g', slot, slot', hbuild, hbuild', hrule, hrule', hsame⟩

end Grammar

end Packrat
