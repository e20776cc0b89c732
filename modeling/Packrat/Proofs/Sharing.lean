import Packrat.Proofs.Alike
/-!
# Sharing cannot be seen

A rule may be referred to, shared, or written out where it is used, and any parser may be
put behind a pointer. These differ in the slots that a grammar has, and so in the calls that
are answered from the memo table, in how deep parsers run, and in how often a failure is
recorded: a reference fails a second time, under the name of its rule. None of this shows in
the outcome of parsing a whole source.

What a copy of a rule is depends on its name alone, so each name is to belong to one rule.

## Main definitions

* `Expr.Reshared` — the ways to write an expression with other sharing.

## Main results

* `Grammar.sharing_unseen` — grammars that differ in sharing give the same outcomes.
-/

namespace Packrat

namespace Expr

/-- An expression with other sharing: references and shared rules are replaced by copies of
the rules, references to rules by shared rules, and expressions are put behind pointers,
anywhere in the expression and in the copies. -/
inductive Reshared (rules : List (String × Expr)) : Expr → Expr → Prop
  | same (e : Expr) : Reshared rules e e
  | copyReference {rule : String} {e copy : Expr} (hrule : (rule, e) ∈ rules)
      (h : Reshared rules e copy) : Reshared rules (.reference rule) copy
  | copyShared {rule : String} {e copy : Expr} (hrule : (rule, e) ∈ rules)
      (h : Reshared rules e copy) : Reshared rules (.shared rule) copy
  | share {rule : String} {e : Expr} (hrule : (rule, e) ∈ rules) :
    Reshared rules (.reference rule) (.shared rule)
  | wrap {e e' : Expr} (h : Reshared rules e e') : Reshared rules e (.wrapped e')
  | behind {e e' : Expr} (h : Reshared rules e e') : Reshared rules (.wrapped e) (.wrapped e')
  /-- The parts of an expression are replaced one by one. -/
  | parts {e e' : Expr} {body : Body} {parts parts' : List Expr}
      (hnode : e.node? = some (body, parts)) (hnode' : e'.node? = some (body, parts'))
      (hlength : parts.length = parts'.length)
      (hparts : ∀ (i : Nat) part part', parts[i]? = some part → parts'[i]? = some part' →
        Reshared rules part part') : Reshared rules e e'

theorem Reshared.ofParts {rules : List (String × Expr)} {e e' : Expr} {body : Body}
    {parts parts' : List Expr} (hnode : e.node? = some (body, parts))
    (hnode' : e'.node? = some (body, parts'))
    (hparts : List.Forall₂ (Reshared rules) parts parts') : e.Reshared rules e' :=
  .parts hnode hnode' hparts.length_eq (related_of_forall₂ hparts)

/-- Expressions that differ in sharing do the same, where names are seen as they are. -/
theorem Reshared.alike {rules : List (String × Expr)}
    (hfree : ∀ rule ∈ rules, rule.2.StateFree) {e e' : Expr} (h : e.Reshared rules e')
    (he : e.StateFree) : e.Alike id rules e' := by
  induction h with
  | same e => exact .refl he
  | copyReference hrule _ ih => exact .left (.reference hrule) (ih (hfree _ hrule))
  | copyShared hrule _ ih => exact .left (.shared hrule) (ih (hfree _ hrule))
  | share hrule => exact .share hrule
  | @wrap e e' _ ih => exact .right (.wrapped e') (ih he)
  | behind _ ih => exact (ih he.of_wrapped).wrapped
  | parts hnode hnode' hlength _ ih =>
      obtain ⟨-, hfreeParts⟩ := he.of_node hnode
      exact .parts hnode hnode' hlength fun i part part' hpart hpart' =>
        ih i part part' hpart hpart' (hfreeParts part (List.mem_of_getElem? hpart))

end Expr

namespace Grammar

variable {rules rules' : List (String × Expr)} {g g' : Grammar}

/-- One name belongs to one expression. -/
private theorem eq_of_nodup (hnames : (rules.map (·.1)).Nodup) {rule : String} {e e' : Expr}
    (h : (rule, e) ∈ rules) (h' : (rule, e') ∈ rules) : e = e' :=
  congrArg Prod.snd (List.inj_on_of_nodup_map hnames h h' rfl)

/-- Rules that are alike, where those of the first grammar may have been copied, make a
pairing if each name belongs to one rule. Any rules of either grammar may then have been
laid out before. -/
def Pairing.ofCopied {see : Option String → Option String} (hnames : (rules.map (·.1)).Nodup)
    (halike : Rulewise (Expr.Alike see rules) rules rules') (cells cells' : List (SlotId × String))
    (hplaced : g.Placed rules cells) (hplaced' : g'.Placed rules' cells') : Pairing see g g' where
  written := rules
  written' := rules'
  names := halike.names_eq
  cells := cells
  cells' := cells'
  placed := hplaced
  placed' := hplaced'
  copied := rules
  Before done done' := done <:+ rules.reverse ∧ done' <:+ rules'.reverse
  whole := ⟨List.suffix_refl _, List.suffix_refl _⟩
  alike := by
    rintro done done' earlier earlier' rule e e' ⟨hdone, hdone'⟩ hlatest hlatest'
    have hmem : (rule, e) ∈ rules := List.mem_reverse.1 (hdone.subset hlatest.mem)
    have hmem' : (rule, e') ∈ rules' := List.mem_reverse.1 (hdone'.subset hlatest'.mem)
    obtain ⟨e₁, hmem₁, hrelated⟩ := halike.of_mem_right hmem'
    obtain rfl := eq_of_nodup hnames hmem hmem₁
    exact ⟨hrelated, hlatest.earlier_suffix.trans hdone, hlatest'.earlier_suffix.trans hdone'⟩
  opened := by
    rintro done done' earlier rule e e' ⟨hdone, hdone'⟩ hmem hlatest
    have hmem' : (rule, e') ∈ rules := List.mem_reverse.1 (hdone.subset hlatest.mem)
    exact ⟨eq_of_nodup hnames hmem' hmem, hlatest.earlier_suffix.trans hdone, hdone'⟩
  anew hbefore _ := ⟨List.suffix_refl _, hbefore.2⟩

/-- Sharing cannot be seen. The rules of two grammars have the same names, each its own, and
expressions that differ in sharing, and no value depends on the run. If parsing a source
with a rule of the one ends without memoization and without a depth limit, it ends with both
in either mode, and the outcomes are the same. -/
theorem sharing_unseen (hnames : (rules.map (·.1)).Nodup)
    (hfree : ∀ rule ∈ rules, rule.2.StateFree)
    (hrules : Rulewise (Expr.Reshared rules) rules rules')
    (hbuild : build rules = .ok g) (hbuild' : build rules' = .ok g') {name : String}
    {slot : SlotId} (hrule : g.rule? name = some slot) (src : Source) {fuel : Nat}
    {run : Option Match × State}
    (hends : (Env.unlimited g src false).call fuel slot 0 {} = some run) :
    ∃ slot', g'.rule? name = some slot' ∧ ∀ memoize memoize', ∃ report report',
      (Env.unlimited g src memoize).parseAll slot = some report ∧
      (Env.unlimited g' src memoize').parseAll slot' = some report' ∧
      report'.outcome = report.outcome := by
  have halike : Rulewise (Expr.Alike id rules) rules rules' :=
    hrules.imp_of_mem fun name e e' hin hreshared =>
      hreshared.alike hfree (hfree (name, e) hin)
  obtain ⟨slot', hrule', hruns⟩ := parse_of_alike hfree hfree halike
    (Pairing.ofCopied hnames halike) hbuild hbuild' hrule src hends
  refine ⟨slot', hrule', fun memoize memoize' => ?_⟩
  obtain ⟨run, run', hparse, hparse', hsame⟩ := hruns memoize memoize'
  exact ⟨_, _, by rw [Env.parseAll, hparse], by rw [Env.parseAll, hparse'],
    Env.outcome_of_seen rfl hsame⟩

/-- Nested lists of a letter. -/
def nestedRules : List (String × Expr) :=
  [("item", .named "item" (.primitive (.char 'a'))),
    ("list", .choice (.between (.primitive (.char '(')) (.reference "list")
      (.primitive (.char ')'))) (.reference "item"))]

/-- Nested lists with the letter shared, and with one level written out in the next one. -/
def nestedRulesReshared : List (String × Expr) :=
  [("item", .named "item" (.primitive (.char 'a'))),
    ("list", .choice (.between (.primitive (.char '(')) (.wrapped (.choice
      (.between (.primitive (.char '(')) (.reference "list") (.primitive (.char ')')))
      (.shared "item"))) (.primitive (.char ')'))) (.shared "item"))]

/-- No value of these rules depends on the run. -/
theorem nestedRules_stateFree : ∀ rule ∈ nestedRules, rule.2.StateFree := by
  have hletter (c : Char) : (Expr.primitive (.char c)).StateFree := .node rfl True.intro nofun
  have hitem : (Expr.named "item" (.primitive (.char 'a'))).StateFree :=
    .node rfl True.intro (List.forall_mem_singleton.2 (hletter 'a'))
  have hbetween : (Expr.between (.primitive (.char '(')) (.reference "list")
      (.primitive (.char ')'))).StateFree :=
    .node rfl True.intro (List.forall_mem_cons.2 ⟨hletter '(', List.forall_mem_cons.2
      ⟨.reference "list", List.forall_mem_singleton.2 (hletter ')')⟩⟩)
  exact List.forall_mem_cons.2 ⟨hitem, List.forall_mem_singleton.2 (.node rfl True.intro
    (List.forall_mem_cons.2 ⟨hbetween, List.forall_mem_singleton.2 (.reference "item")⟩))⟩

theorem nestedRules_reshared :
    Rulewise (Expr.Reshared nestedRules) nestedRules nestedRulesReshared := by
  have hitem : ("item", _) ∈ nestedRules := List.mem_cons_self ..
  have hlist : ("list", _) ∈ nestedRules := List.mem_cons_of_mem _ (List.mem_cons_self ..)
  refine .cons ⟨rfl, .same _⟩ (.cons ⟨rfl, ?_⟩ .nil)
  refine .ofParts rfl rfl (.cons (.ofParts rfl rfl ?_) (.cons (.share hitem) .nil))
  refine .cons (.same _) (.cons (.wrap (.copyReference hlist ?_)) (.cons (.same _) .nil))
  exact .ofParts rfl rfl (.cons (.same _) (.cons (.share hitem) .nil))

theorem sharing_unseen_nested :
    ∃ g g' slot slot', build nestedRules = .ok g ∧ build nestedRulesReshared = .ok g' ∧
      g.rule? "list" = some slot ∧ g'.rule? "list" = some slot' ∧
      ∀ memoize memoize', ∃ report report',
        (Env.unlimited g (.ofString "((b)") memoize).parseAll slot = some report ∧
        (Env.unlimited g' (.ofString "((b)") memoize').parseAll slot' = some report' ∧
        report'.outcome = report.outcome := by
  obtain ⟨g, slot, run, hbuild, hrule, hends⟩ : ∃ g slot run, build nestedRules = .ok g ∧
      g.rule? "list" = some slot ∧
      (Env.unlimited g (.ofString "((b)") false).call 14 slot 0 {} = some run :=
    exists_run (by decide +kernel)
  obtain ⟨g', hbuild'⟩ : ∃ g', build nestedRulesReshared = .ok g' :=
    exists_build (by decide +kernel)
  obtain ⟨slot', hrule', hsame⟩ := sharing_unseen (by decide) nestedRules_stateFree
    nestedRules_reshared hbuild hbuild' hrule (.ofString "((b)") hends
  exact ⟨g, g', slot, slot', hbuild, hbuild', hrule, hrule', hsame⟩

end Grammar

end Packrat
