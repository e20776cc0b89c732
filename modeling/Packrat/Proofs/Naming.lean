import Packrat.Proofs.Alike
/-!
# Names do not influence parsing

A parser that gives a name to another one has a slot of its own. So it is called, runs one
level deeper, and records a failure of its own if the other one fails. The failure is at the
same offset as the one before it, so the deepest failure stays where it is. Names are only
seen in what is expected there.

The two grammars are compared rule by rule, in the order in which they are written, so a
name may belong to several rules here.

## Main definitions

* `Expr.Renamed` — the ways to write an expression with other names.

## Main results

* `Grammar.names_unseen` — grammars that differ in names give the same outcomes, apart from
  the names that are expected.
-/

namespace Packrat

namespace Expr

/-- An expression with other names: anywhere in it, names are given and taken away. A name
is changed by taking it away and giving another one. -/
inductive Renamed : Expr → Expr → Prop
  | same (e : Expr) : Renamed e e
  | give {e e' : Expr} (name : String) (h : Renamed e e') : Renamed e (.named name e')
  | drop {e e' : Expr} (name : String) (h : Renamed e e') : Renamed (.named name e) e'
  | behind {e e' : Expr} (h : Renamed e e') : Renamed (.wrapped e) (.wrapped e')
  /-- The parts of an expression have other names. -/
  | parts {e e' : Expr} {body : Body} {parts parts' : List Expr}
      (hnode : e.node? = some (body, parts)) (hnode' : e'.node? = some (body, parts'))
      (hlength : parts.length = parts'.length)
      (hparts : ∀ (i : Nat) part part', parts[i]? = some part → parts'[i]? = some part' →
        Renamed part part') : Renamed e e'

theorem Renamed.ofParts {e e' : Expr} {body : Body} {parts parts' : List Expr}
    (hnode : e.node? = some (body, parts)) (hnode' : e'.node? = some (body, parts'))
    (hparts : List.Forall₂ Renamed parts parts') : e.Renamed e' :=
  .parts hnode hnode' hparts.length_eq (related_of_forall₂ hparts)

/-- Expressions that differ in names do the same, where names are not looked at. -/
theorem Renamed.alike {e e' : Expr} (h : e.Renamed e') (he : e.StateFree) :
    e.Alike (fun _ => none) [] e' := by
  induction h with
  | same e => exact .refl he
  | @give e e' name _ ih => exact .right (.named name e' fun _ => rfl) (ih he)
  | @drop e e' name _ ih =>
      have hinner : e.StateFree := (he.of_node rfl).2 e (List.mem_singleton_self e)
      exact .left (.named name e fun _ => rfl) (ih hinner)
  | behind _ ih => exact (ih he.of_wrapped).wrapped
  | parts hnode hnode' hlength _ ih =>
      obtain ⟨-, hfreeParts⟩ := he.of_node hnode
      exact .parts hnode hnode' hlength fun i part part' hpart hpart' =>
        ih i part part' hpart hpart' (hfreeParts part (List.mem_of_getElem? hpart))

end Expr

namespace Grammar

variable {rules rules' : List (String × Expr)} {g g' : Grammar}

/-- Rules that are alike without copies make a pairing in which as many rules have been laid
out before in the one grammar as in the other. -/
def Pairing.ofRulewise {see : Option String → Option String}
    (halike : Rulewise (Expr.Alike see []) rules rules') (cells cells' : List (SlotId × String))
    (hplaced : g.Placed rules cells) (hplaced' : g'.Placed rules' cells') : Pairing see g g' where
  written := rules
  written' := rules'
  names := halike.names_eq
  cells := cells
  cells' := cells'
  placed := hplaced
  placed' := hplaced'
  copied := []
  Before := Rulewise (Expr.Alike see [])
  whole := halike.reverse
  alike hbefore := hbefore.latest
  opened _ hmem := absurd hmem List.not_mem_nil
  anew _ hmem := absurd hmem List.not_mem_nil

/-- Names do not influence parsing. The rules of two grammars have the same names and
expressions that differ in the names of parsers, and no value depends on the run. If parsing a
source with a rule of the one ends without memoization and without a depth limit, it ends with
both in either mode, and the outcomes are the same apart from the names that are expected. -/
theorem names_unseen (hfree : ∀ rule ∈ rules, rule.2.StateFree)
    (hrules : Rulewise Expr.Renamed rules rules') (hbuild : build rules = .ok g)
    (hbuild' : build rules' = .ok g') {name : String} {slot : SlotId}
    (hrule : g.rule? name = some slot) (src : Source) {fuel : Nat}
    {run : Option Match × State}
    (hends : (Env.unlimited g src false).call fuel slot 0 {} = some run) :
    ∃ slot', g'.rule? name = some slot' ∧ ∀ memoize memoize', ∃ report report',
      (Env.unlimited g src memoize).parseAll slot = some report ∧
      (Env.unlimited g' src memoize').parseAll slot' = some report' ∧
      report'.outcome.mapError ParseError.withoutExpected =
        report.outcome.mapError ParseError.withoutExpected := by
  have halike : Rulewise (Expr.Alike (fun _ => none) []) rules rules' :=
    hrules.imp_of_mem fun name e e' hin hrenamed => hrenamed.alike (hfree (name, e) hin)
  obtain ⟨slot', hrule', hruns⟩ := parse_of_alike hfree
    (fun _ hcopied => absurd hcopied List.not_mem_nil) halike (Pairing.ofRulewise halike) hbuild
    hbuild' hrule src hends
  refine ⟨slot', hrule', fun memoize memoize' => ?_⟩
  obtain ⟨run, run', hparse, hparse', hsame⟩ := hruns memoize memoize'
  exact ⟨_, _, by rw [Env.parseAll, hparse], by rw [Env.parseAll, hparse'],
    Env.outcome_of_unseen rfl hsame⟩

/-- Words of two letters of the alphabet. -/
def wordRules : List (String × Expr) :=
  [("letter", .named "letter" (.choice (.primitive (.char 'a')) (.primitive (.char 'b')))),
    ("word", .oneOrMore (.reference "letter"))]

/-- Words with a name of their own, where a letter has none and the first one has. -/
def wordRulesRenamed : List (String × Expr) :=
  [("letter", .choice (.named "first letter" (.primitive (.char 'a'))) (.primitive (.char 'b'))),
    ("word", .named "word" (.oneOrMore (.reference "letter")))]

theorem wordRules_stateFree : ∀ rule ∈ wordRules, rule.2.StateFree := by
  have hletter (c : Char) : (Expr.primitive (.char c)).StateFree := .node rfl True.intro nofun
  have hchoice : (Expr.choice (.primitive (.char 'a')) (.primitive (.char 'b'))).StateFree :=
    .node rfl True.intro
      (List.forall_mem_cons.2 ⟨hletter 'a', List.forall_mem_singleton.2 (hletter 'b')⟩)
  exact List.forall_mem_cons.2
    ⟨.node rfl True.intro (List.forall_mem_singleton.2 hchoice), List.forall_mem_singleton.2
      (.node rfl True.intro (List.forall_mem_singleton.2 (.reference "letter")))⟩

theorem wordRules_renamed : Rulewise Expr.Renamed wordRules wordRulesRenamed := by
  refine .cons ⟨rfl, .drop "letter" ?_⟩ (.cons ⟨rfl, .give "word" (.same _)⟩ .nil)
  exact .ofParts rfl rfl (.cons (.give "first letter" (.same _)) (.cons (.same _) .nil))

theorem names_unseen_words :
    ∃ g g' slot slot', build wordRules = .ok g ∧ build wordRulesRenamed = .ok g' ∧
      g.rule? "word" = some slot ∧ g'.rule? "word" = some slot' ∧
      ∀ memoize memoize', ∃ report report',
        (Env.unlimited g (.ofString "abc") memoize).parseAll slot = some report ∧
        (Env.unlimited g' (.ofString "abc") memoize').parseAll slot' = some report' ∧
        report'.outcome.mapError ParseError.withoutExpected =
          report.outcome.mapError ParseError.withoutExpected := by
  obtain ⟨g, slot, run, hbuild, hrule, hends⟩ : ∃ g slot run, build wordRules = .ok g ∧
      g.rule? "word" = some slot ∧
      (Env.unlimited g (.ofString "abc") false).call 14 slot 0 {} = some run :=
    exists_run (by decide +kernel)
  obtain ⟨g', hbuild'⟩ : ∃ g', build wordRulesRenamed = .ok g' := exists_build (by decide +kernel)
  obtain ⟨slot', hrule', hsame⟩ := names_unseen wordRules_stateFree wordRules_renamed
    hbuild hbuild' hrule (.ofString "abc") hends
  exact ⟨g, g', slot, slot', hbuild, hbuild', hrule, hrule', hsame⟩

end Grammar

end Packrat
