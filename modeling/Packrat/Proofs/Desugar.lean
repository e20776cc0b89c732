import Packrat.Action
import Packrat.Proofs.Operands
/-!
# Parsers that are short for others

Left-associative operators, separated lists and delimited contents have loops of their own.
Each is short for a parser put together from sequences and repetitions, which has more slots,
and so runs and fails in other places. The loops stop for the same reasons: where a round
does not match, and where it ends no further on than it began, whatever it took in between.
What fails in the additional slots has no name, and a part of it has failed before, as deep
or deeper.

## Main definitions

* `Expr.Desugaring` — the parsers, and what they are short for.

## Main results

* `Expr.Desugaring.sound` — they do the same wherever they are laid out.
* `Grammar.desugaring_unseen` — so runs of grammars in which they are written out go alike.
-/

namespace Packrat

/-- Parsers, and what they are short for.

Operators from the left are operations of an operator and a term that are applied in turn; the
operations may be the pairs themselves, or made from them. A separated list is an item and a
repetition of separators that are dropped and items. A content between two delimiters is a
sequence of the three in which the delimiters are dropped. -/
inductive Expr.Desugaring : Law
  | leftAssociative (term operator term' term'' operator' : Expr)
      {combine : Value → Value → Value → Value} {apply : Value → Value → Value}
      {make : Source → Match → Value}
      (happly : ∀ src start stop left op right,
        apply left (make src ⟨.tuple [op, right], start, stop⟩) = combine left op right) :
    Desugaring (.leftAssociative combine term operator)
      (.foldLeft apply term' (.map make (.sequence (.capture operator') (.capture term''))))
      [(term, term'), (operator, operator'), (term, term'')]
  | leftAssociativePairs (term operator term' term'' operator' : Expr)
      {combine : Value → Value → Value → Value} {apply : Value → Value → Value}
      (happly : ∀ left op right, apply left (.tuple [op, right]) = combine left op right) :
    Desugaring (.leftAssociative combine term operator)
      (.foldLeft apply term' (.sequence (.capture operator') (.capture term'')))
      [(term, term'), (operator, operator'), (term, term'')]
  | separated (item separator item' item'' separator' : Expr) {join : Source → Match → Value}
      (hjoin : ∀ src start stop first rest,
        join src ⟨.tuple [first, .list (rest.map fun value => .tuple [value])], start, stop⟩ =
          .list (first :: rest)) :
    Desugaring (.separated item separator)
      (.map join (.sequence (.capture item')
        (.capture (.zeroOrMore (.sequence (.ignore separator') (.capture item''))))))
      [(item, item'), (separator, separator'), (item, item'')]
  | between (opening content closing opening' content' closing' : Expr)
      {project : Source → Match → Value}
      (hproject : ∀ src start stop value, project src ⟨.tuple [value], start, stop⟩ = value) :
    Desugaring (.between opening content closing)
      (.map project (.sequence (.sequence (.ignore opening') (.capture content'))
        (.ignore closing')))
      [(opening, opening'), (content, content'), (closing, closing')]

namespace Plan.Woven

variable {env env' : Env} {R : SlotId → SlotId → Prop} {β β' : Type}
  {rel : Option β → Option β' → Prop}

/-- A sequence of two parsers with mapped values does what the two do in a row. -/
theorem pairRight {slot first second a a' b b' : SlotId} {f g : Source → Match → Value}
    (hslot : env'.grammar.bodies[slot]? = some (.sequence first second))
    (hfirst : env'.grammar.bodies[first]? = some (.map f a'))
    (hsecond : env'.grammar.bodies[second]? = some (.map g b')) (ha : R a a') (hb : R b b')
    (hnone : rel none none) {offset : Nat} {next : Match → Match → Plan (Option β)}
    {next' : Match → Plan (Option β')}
    (hnext : ∀ x y, Woven env env' R rel (next x y)
      (next' ⟨(f env'.source x).concat (g env'.source y), offset, y.stop⟩)) :
    Woven env env' R rel (Plan.attempt a offset fun x => Plan.attempt b x.stop (next x))
      (Plan.attempt slot offset next') := by
  refine .sequenceRight hslot ?_
  refine .mapRight hfirst ?_
  refine .attempt hnone ha fun x => ?_
  refine .mapRight hsecond ?_
  exact .attempt hnone hb fun y => hnext x y

end Plan.Woven

namespace Env

variable {env env' : Env} {R : SlotId → SlotId → Prop} {slot slot' : SlotId}

/-- Operators and terms that take turns are terms and operations, if a round that yields an
operator and a term is one that yields an operation. -/
theorem weaves_leftAssociative {combine : Value → Value → Value → Value}
    {apply : Value → Value → Value} {term operator term' operation : SlotId}
    (hsource : env'.source = env.source)
    (hslot : env.grammar.bodies[slot]? = some (.leftAssociative combine term operator))
    (hslot' : env'.grammar.bodies[slot']? = some (.foldLeft apply term' operation))
    (hterm : R term term')
    (hround : ∀ offset, Plan.Woven env env' R
      (Plan.Woven.Round fun pair value => ∀ left, apply left value = combine left pair.1 pair.2)
      (Body.pair operator term offset) (Body.single operation offset)) :
    env.Weaves env' R slot slot' := by
  have hadd {total total' value : Value} {pair : Value × Value} (htotal : total = total')
      (hfound : ∀ left, apply left value = combine left pair.1 pair.2) :
      combine total pair.1 pair.2 = apply total' value := by
    rw [← htotal, hfound]
  refine weaves_of_bodies hslot hslot' rfl nofun nofun fun offset => ?_
  rw [hsource]
  refine .attempt rfl hterm fun first => ?_
  refine (Plan.Woven.iterate hround hadd _ rfl _).bind ?_
  rintro ⟨value, stop⟩ ⟨_, _⟩ ⟨rfl, rfl⟩
  exact .endedLeft (.endedRight (.done rfl))

/-- The values of a list that begins with an item, and those of the repetition behind it, both
the last first. A round of the repetition yields a tuple of one. -/
private def Behind (first : Value) (values values' : List Value) : Prop :=
  ∃ later, values = later ++ [first] ∧ values' = later.map fun value => .tuple [value]

private theorem Behind.cons {first : Value} {values values' : List Value}
    (h : Behind first values values') (value : Value) :
    Behind first (value :: values) (.tuple [value] :: values') := by
  obtain ⟨later, rfl, rfl⟩ := h
  exact ⟨value :: later, rfl, rfl⟩

/-- Items with separators between them are an item and a repetition. -/
theorem weaves_separated {join : Source → Match → Value}
    (hjoin : ∀ src start stop first rest,
      join src ⟨.tuple [first, .list (rest.map fun value => .tuple [value])], start, stop⟩ =
        .list (first :: rest))
    {item separator item' item'' separator' row first rest repeated pair dropped last : SlotId}
    (hsource : env'.source = env.source)
    (hslot : env.grammar.bodies[slot]? = some (.separated item separator))
    (hslot' : env'.grammar.bodies[slot']? = some (.map join row))
    (hrow : env'.grammar.bodies[row]? = some (.sequence first rest))
    (hfirst : env'.grammar.bodies[first]? = some (.capture item'))
    (hrest : env'.grammar.bodies[rest]? = some (.capture repeated))
    (hrepeated : env'.grammar.bodies[repeated]? = some (.zeroOrMore pair))
    (hpair : env'.grammar.bodies[pair]? = some (.sequence dropped last))
    (hdropped : env'.grammar.bodies[dropped]? = some (.ignore separator'))
    (hlast : env'.grammar.bodies[last]? = some (.capture item''))
    (hitem : R item item') (hseparator : R separator separator') (hitem' : R item item'') :
    env.Weaves env' R slot slot' := by
  have hround (offset : Nat) : Plan.Woven env env' R
      (Plan.Woven.Round fun found value => value = .tuple [found.2])
      (Body.pair separator item offset) (Body.single pair offset) :=
    .pairRight hpair hdropped hlast hseparator hitem' .none fun _ _ => .done (.some rfl)
  have hloop (first : Value) (budget offset : Nat) : Plan.Woven env env' R
      (fun result result' => Behind first result.1 result'.1 ∧ result.2 = result'.2)
      (Plan.iterate (Body.pair separator item) (fun values found => found.2 :: values) budget
        [first] offset)
      (Plan.iterate (Body.single pair) (fun values value => value :: values) budget [] offset) :=
    .iterate hround (fun htotal hfound => hfound ▸ htotal.cons _) budget ⟨[], rfl, rfl⟩ offset
  refine weaves_of_bodies hslot hslot' rfl nofun nofun fun offset => ?_
  rw [hsource]
  refine .sequenceRight hrow ?_
  refine .mapRight hfirst ?_
  refine .attempt rfl hitem fun m => ?_
  refine .mapRight hrest ?_
  refine .attemptRight (silent_of_body hrepeated True.intro)
    (planOf_zeroOrMore_bind hrepeated _) ?_
  rw [hsource]
  refine (hloop m.value _ m.stop).bind ?_
  -- Both loops have come to the same offset, and both parsers look whether the run has ended.
  rintro ⟨_, stop⟩ ⟨_, _⟩ ⟨⟨later, rfl, rfl⟩, rfl⟩
  refine .endedLeft (.endedRight (.done ?_))
  have hvalue := hjoin env.source offset stop m.value later.reverse
  rw [List.map_reverse] at hvalue
  rw [List.reverse_append]
  exact congrArg (fun value => some (⟨value, offset, stop⟩ : Match)) hvalue.symm

/-- A content between delimiters is a sequence of the three. -/
theorem weaves_between {project : Source → Match → Value}
    (hproject : ∀ src start stop value, project src ⟨.tuple [value], start, stop⟩ = value)
    {opening content closing opening' content' closing' row pair dropped kept last : SlotId}
    (hslot : env.grammar.bodies[slot]? = some (.between opening content closing))
    (hslot' : env'.grammar.bodies[slot']? = some (.map project row))
    (hrow : env'.grammar.bodies[row]? = some (.sequence pair last))
    (hpair : env'.grammar.bodies[pair]? = some (.sequence dropped kept))
    (hdropped : env'.grammar.bodies[dropped]? = some (.ignore opening'))
    (hkept : env'.grammar.bodies[kept]? = some (.capture content'))
    (hlast : env'.grammar.bodies[last]? = some (.ignore closing'))
    (hopening : R opening opening') (hcontent : R content content')
    (hclosing : R closing closing') : env.Weaves env' R slot slot' := by
  refine weaves_of_bodies hslot hslot' rfl nofun nofun fun offset => ?_
  refine .sequenceRight hrow ?_
  refine .pairRight hpair hdropped hkept hopening hcontent rfl fun x y => ?_
  refine .mapRight hlast ?_
  refine .attempt rfl hclosing fun z => .done ?_
  exact congrArg (fun value => some (⟨value, offset, z.stop⟩ : Match))
    (hproject env'.source offset z.stop y.value).symm

end Env

namespace Expr.Desugaring

/-- What a parser is short for keeps all parts, and does the same wherever it is laid out. -/
theorem sound : Law.Sound Desugaring where
  views holds P := by
    cases holds <;> simp +contextual
  views' holds P := by
    cases holds <;> simp [and_assoc, and_comm]
  weaves holds _ _ hsource _ _ _ _ _ _ hlaid hlaid' _ hparts := by
    cases holds with
    | leftAssociative term operator term' term'' operator' happly =>
        obtain ⟨st, so, hslot, ht, ho⟩ := hlaid.of_two rfl
        obtain ⟨st', made, hslot', ht', hmade⟩ := hlaid'.of_two rfl
        obtain ⟨pair, hmap, hpair⟩ := hmade.of_one rfl
        obtain ⟨kept, last, hsequence, hkept, hlast⟩ := hpair.of_two rfl
        obtain ⟨so', hfirst, ho'⟩ := hkept.of_one rfl
        obtain ⟨st'', hsecond, ht''⟩ := hlast.of_one rfl
        refine Env.weaves_leftAssociative hsource hslot hslot'
          (hparts (term, term') (by simp) _ _ ht ht') fun offset => ?_
        refine .mapRight hmap ?_
        exact .pairRight hsequence hfirst hsecond (hparts (operator, operator') (by simp) _ _ ho ho')
          (hparts (term, term'') (by simp) _ _ ht ht'') .none fun x y =>
            .done (.some fun left => happly _ offset y.stop left x.value y.value)
    | leftAssociativePairs term operator term' term'' operator' happly =>
        obtain ⟨st, so, hslot, ht, ho⟩ := hlaid.of_two rfl
        obtain ⟨st', pair, hslot', ht', hpair⟩ := hlaid'.of_two rfl
        obtain ⟨kept, last, hsequence, hkept, hlast⟩ := hpair.of_two rfl
        obtain ⟨so', hfirst, ho'⟩ := hkept.of_one rfl
        obtain ⟨st'', hsecond, ht''⟩ := hlast.of_one rfl
        refine Env.weaves_leftAssociative hsource hslot hslot'
          (hparts (term, term') (by simp) _ _ ht ht') fun offset => ?_
        exact .pairRight hsequence hfirst hsecond (hparts (operator, operator') (by simp) _ _ ho ho')
          (hparts (term, term'') (by simp) _ _ ht ht'') .none fun x y =>
            .done (.some fun left => happly left x.value y.value)
    | separated item separator item' item'' separator' hjoin =>
        obtain ⟨si, ss, hslot, hi, hs⟩ := hlaid.of_two rfl
        obtain ⟨row, hslot', hrow⟩ := hlaid'.of_one rfl
        obtain ⟨first, rest, hsequence, hfirst, hrest⟩ := hrow.of_two rfl
        obtain ⟨si', hkept, hi'⟩ := hfirst.of_one rfl
        obtain ⟨repeated, hlist, hrepeated⟩ := hrest.of_one rfl
        obtain ⟨pair, hmany, hpair⟩ := hrepeated.of_one rfl
        obtain ⟨dropped, last, hround, hdropped, hlast⟩ := hpair.of_two rfl
        obtain ⟨ss', hignored, hs'⟩ := hdropped.of_one rfl
        obtain ⟨si'', hcaptured, hi''⟩ := hlast.of_one rfl
        exact Env.weaves_separated hjoin hsource hslot hslot' hsequence hkept hlist hmany hround
          hignored hcaptured (hparts (item, item') (by simp) _ _ hi hi')
          (hparts (separator, separator') (by simp) _ _ hs hs')
          (hparts (item, item'') (by simp) _ _ hi hi'')
    | between opening content closing opening' content' closing' hproject =>
        obtain ⟨so, sc, sd, hslot, ho, hc, hd⟩ := hlaid.of_three rfl
        obtain ⟨row, hslot', hrow⟩ := hlaid'.of_one rfl
        obtain ⟨pair, last, hsequence, hpair, hlast⟩ := hrow.of_two rfl
        obtain ⟨dropped, kept, hround, hdropped, hkept⟩ := hpair.of_two rfl
        obtain ⟨so', hignored, ho'⟩ := hdropped.of_one rfl
        obtain ⟨sc', hcaptured, hc'⟩ := hkept.of_one rfl
        obtain ⟨sd', hignored', hd'⟩ := hlast.of_one rfl
        exact Env.weaves_between hproject hslot hslot' hsequence hround hignored hcaptured hignored'
          (hparts (opening, opening') (by simp) _ _ ho ho')
          (hparts (content, content') (by simp) _ _ hc hc')
          (hparts (closing, closing') (by simp) _ _ hd hd')

/-- The parts may be given the options of the run before or after. -/
theorem given : Law.Given Desugaring := by
  intro options e e' pairs holds
  cases holds with
  | leftAssociative _ _ _ _ _ happly => exact .leftAssociative _ _ _ _ _ happly
  | leftAssociativePairs _ _ _ _ _ happly => exact .leftAssociativePairs _ _ _ _ _ happly
  | separated _ _ _ _ _ hjoin => exact .separated _ _ _ _ _ hjoin
  | between _ _ _ _ _ _ hproject => exact .between _ _ _ _ _ _ hproject

end Expr.Desugaring

namespace Grammar

variable {g g' : Grammar} {rules rules' : List (String × Expr)}

/-- Parsers do what they are short for. The expressions of two grammars differ in parsers that
are written out, at any places, and values may depend on the options of the run, but on
nothing else in it. If a run of a rule of the one ends without memoization, with values as in
a mode, then in this mode runs of both end with the same answer, the same end, and the same
deepest failure with the same names. A left-associative parser has folded its operands from
the left, and it has not taken an operator behind the last one; neither has a separated
list. -/
theorem desugaring_unseen (hviews : ∀ rule ∈ rules, rule.2.Views View.OfOptions)
    (hrules : Rulewise (Expr.Recast Expr.Desugaring) rules rules') (hbuild : build rules = .ok g)
    (hbuild' : build rules' = .ok g') {name : String} {slot : SlotId}
    (hrule : g.rule? name = some slot) {src : Source} {memoize : Bool} {start : Nat}
    (hends : g.EndsUncached src memoize slot start) :
    ∃ slot', g'.rule? name = some slot' ∧ ∃ run run',
      (Env.unlimited g src memoize).parse slot start {} = some run ∧
      (Env.unlimited g' src memoize).parse slot' start {} = some run' ∧
      run'.1 = run.1 ∧ run'.2.abort = run.2.abort ∧ run'.2.deepest = run.2.deepest ∧
      run'.2.expected = run.2.expected ∧
      ∀ m, run.1 = some m → (Env.unlimited g src memoize).FoldsOperands slot start m := by
  have hviews' : ∀ rule ∈ rules', rule.2.Views View.OfOptions := by
    intro rule hmem
    obtain ⟨e, hin, hrecast⟩ := hrules.of_mem_right hmem
    exact hrecast.views Expr.Desugaring.sound (hviews _ hin)
  obtain ⟨cells, hplaced⟩ := build_placed hbuild
  obtain ⟨cells', hplaced'⟩ := build_placed hbuild'
  let recasting : Recasting Expr.Desugaring g g' :=
    ⟨Expr.Desugaring.sound, rules, rules', hrules, cells, cells', hplaced, hplaced'⟩
  obtain ⟨slot', hrule', run, run', hparse, hparse', hsame⟩ := recasting.parse_given
    Expr.Desugaring.given (build_views hviews hbuild) (build_views hviews' hbuild')
    (build_closed hbuild) (build_closed hbuild') hrule hends
  refine ⟨slot', hrule', run, run', hparse, hparse', hsame.answer, hsame.abort, hsame.deepest,
    hsame.expected, fun m hm => ?_⟩
  obtain ⟨answer, last⟩ := run
  obtain rfl : answer = some m := hm
  exact foldsOperands (build_views hviews hbuild) (build_closed hbuild) hends hparse

/-- A digit, with a value that depends on the options, or something in parentheses. -/
private def operand (inner : Expr) : Expr :=
  .choice (.mapInRun Action.info (.primitive .digit))
    (.between (.primitive (.char '(')) inner (.primitive (.char ')')))

/-- Lists of sums. -/
def sumRules : List (String × Expr) :=
  [("sum", .leftAssociative Action.tree (operand (.reference "sum")) (.primitive (.char '+'))),
    ("sums", .separated (.reference "sum") (.primitive (.char ',')))]

/-- The only element of a tuple. -/
private def only (_ : Source) (m : Match) : Value :=
  match m.value with
  | .tuple [value] => value
  | value => value

/-- A first item, and the items of later tuples. -/
private def joined (_ : Source) (m : Match) : Value :=
  match m.value with
  | .tuple [first, .list rest] => .list (first :: rest.flatMap Value.results)
  | value => value

private theorem joined_tuple (src : Source) (start stop : Nat) (first : Value)
    (rest : List Value) :
    joined src ⟨.tuple [first, .list (rest.map fun value => .tuple [value])], start, stop⟩ =
      .list (first :: rest) := by
  simp [joined, List.flatMap_map, Value.results]

private def operandWritten (inner : Expr) : Expr :=
  .choice (.mapInRun Action.info (.primitive .digit))
    (.map only (.sequence (.sequence (.ignore (.primitive (.char '('))) (.capture inner))
      (.ignore (.primitive (.char ')')))))

/-- The same rules, with all parsers written out. -/
def sumRulesWritten : List (String × Expr) :=
  [("sum", .foldLeft (Action.applyOperation Action.tree) (operandWritten (.reference "sum"))
      (.sequence (.capture (.primitive (.char '+')))
        (.capture (operandWritten (.reference "sum"))))),
    ("sums", .map joined (.sequence (.capture (.reference "sum")) (.capture (.zeroOrMore
      (.sequence (.ignore (.primitive (.char ','))) (.capture (.reference "sum")))))))]

private theorem primitive_views {P : View → Prop} (p : Primitive) :
    (Expr.primitive p).Views P :=
  .node rfl True.intro nofun

private theorem info_views (p : Primitive) :
    (Expr.mapInRun Action.info (.primitive p)).Views View.OfOptions :=
  .node rfl (fun _ => rfl) (List.forall_mem_singleton.2 (primitive_views p))

/-- Values of these rules depend on the options of the run at most. -/
theorem sumRules_views : ∀ rule ∈ sumRules, rule.2.Views View.OfOptions := by
  have hsum : (Expr.reference "sum").Views View.OfOptions := .reference "sum"
  simp [sumRules, operand, primitive_views, info_views, hsum]

theorem sumRules_written :
    Rulewise (Expr.Recast Expr.Desugaring) sumRules sumRulesWritten := by
  have hprimitive (p : Primitive) :
      (Expr.primitive p).Recast Expr.Desugaring (.primitive p) := .ofParts rfl rfl .nil
  have hsum : (Expr.reference "sum").Recast Expr.Desugaring (.reference "sum") :=
    .reference "sum"
  have hoperand : (operand (.reference "sum")).Recast Expr.Desugaring
      (operandWritten (.reference "sum")) := by
    refine .ofParts rfl rfl (.cons (.refl (info_views .digit)) (.cons ?_ .nil))
    refine .forth (.between _ _ _ _ _ _ fun _ _ _ _ => rfl) ?_
    simp [hprimitive, hsum]
  refine .cons ⟨rfl, .forth (.leftAssociativePairs _ _ _ _ _ fun _ _ _ => rfl) ?_⟩
    (.cons ⟨rfl, .forth (.separated _ _ _ _ _ joined_tuple) ?_⟩ .nil)
  · simp [hprimitive, hoperand]
  · simp [hprimitive, hsum]

theorem desugaring_unseen_sums :
    ∃ g g' slot slot', build sumRules = .ok g ∧ build sumRulesWritten = .ok g' ∧
      g.rule? "sums" = some slot ∧ g'.rule? "sums" = some slot' ∧ ∃ run run',
        (Env.unlimited g (.ofString "1+(2),3+") true).parse slot 0 {} = some run ∧
        (Env.unlimited g' (.ofString "1+(2),3+") true).parse slot' 0 {} = some run' ∧
        run'.1 = run.1 ∧ run'.2.abort = run.2.abort ∧ run'.2.deepest = run.2.deepest ∧
        run'.2.expected = run.2.expected ∧
        ∀ m, run.1 = some m →
          (Env.unlimited g (.ofString "1+(2),3+") true).FoldsOperands slot 0 m := by
  obtain ⟨g, slot, run, hbuild, hrule, hends⟩ : ∃ g slot run, build sumRules = .ok g ∧
      g.rule? "sums" = some slot ∧
      (Env.unlimited (g.given ⟨true, none⟩) (.ofString "1+(2),3+") false).call 11 slot 0 {} =
        some run := exists_found (by decide +kernel)
  obtain ⟨g', hbuild'⟩ : ∃ g', build sumRulesWritten = .ok g' := exists_build (by decide +kernel)
  obtain ⟨slot', hrule', hruns⟩ := desugaring_unseen sumRules_views sumRules_written hbuild
    hbuild' hrule ⟨11, run, hends⟩
  exact ⟨g, g', slot, slot', hbuild, hbuild', hrule, hrule', hruns⟩

/-- A letter that counts as a term by itself only without memoization. With memoization, a term
may also begin with a row of terms. -/
private def flagged : Expr :=
  .choice
    (.filter Action.even "plain" (.map (Action.onValue (Action.get 2))
      (.mapInRun Action.info (.primitive (.char 'a')))))
    (.choice (.sequence (.capture (.reference "row")) (.capture (.primitive (.char 'x'))))
      (.primitive (.char 'a')))

/-- A row of such terms, and what it is short for. -/
def flaggedRules : List (String × Expr) :=
  [("row", .leftAssociative Action.tree flagged (.primitive (.char '+'))),
    ("written", .foldLeft (Action.applyOperation Action.tree) flagged
      (.sequence (.capture (.primitive (.char '+'))) (.capture flagged)))]

/-- It does not suffice that the grammar itself ends without memoization. Runs of both rules do
so, since the letter is taken. With memoization, a row asks for itself through its first term,
which is refused; what is written out asks for a row through a term of its own, which is
not. -/
theorem desugaring_seen_flagged :
    (∀ rule ∈ flaggedRules, rule.2.Views View.OfOptions) ∧
    ∃ g row written, build flaggedRules = .ok g ∧ g.rule? "row" = some row ∧
      g.rule? "written" = some written ∧
      (∃ run, (Env.unlimited g (.ofString "a+ax") false).parse row 0 {} = some run) ∧
      (∃ run, (Env.unlimited g (.ofString "a+ax") false).parse written 0 {} = some run) ∧
      ∃ run run', (Env.unlimited g (.ofString "a+ax") true).parse row 0 {} = some run ∧
        (Env.unlimited g (.ofString "a+ax") true).parse written 0 {} = some run' ∧
        run.1.map Match.stop = some 3 ∧ run'.1.map Match.stop = some 4 := by
  refine ⟨?_, ?_⟩
  · have hflagged : flagged.Views View.OfOptions := by
      have hrow : (Expr.reference "row").Views View.OfOptions := .reference "row"
      have hfilter : (Expr.filter Action.even "plain" (.map (Action.onValue (Action.get 2))
          (.mapInRun Action.info (.primitive (.char 'a'))))).Views View.OfOptions :=
        .node rfl True.intro (List.forall_mem_singleton.2
          (Expr.views_map.2 (info_views (.char 'a'))))
      simp [flagged, primitive_views, hfilter, hrow]
    simp [flaggedRules, primitive_views, hflagged]
  · obtain ⟨g, row, stops, hbuild, hrow, hstops⟩ : ∃ g row stops, build flaggedRules = .ok g ∧
        g.rule? "row" = some row ∧ (do
          let written ← g.rule? "written"
          let _ ← (Env.unlimited g (.ofString "a+ax") false).parse row 0 {}
          let _ ← (Env.unlimited g (.ofString "a+ax") false).parse written 0 {}
          let run ← (Env.unlimited g (.ofString "a+ax") true).parse row 0 {}
          let run' ← (Env.unlimited g (.ofString "a+ax") true).parse written 0 {}
          if run.1.map Match.stop = some 3 ∧ run'.1.map Match.stop = some 4 then some ()
            else none) = some stops :=
      exists_found (by decide +kernel)
    obtain ⟨written, hwritten, hstops⟩ := Option.bind_eq_some_iff.1 hstops
    obtain ⟨plain, hplain, hstops⟩ := Option.bind_eq_some_iff.1 hstops
    obtain ⟨plain', hplain', hstops⟩ := Option.bind_eq_some_iff.1 hstops
    obtain ⟨run, hrun, hstops⟩ := Option.bind_eq_some_iff.1 hstops
    obtain ⟨run', hrun', hstops⟩ := Option.bind_eq_some_iff.1 hstops
    exact ⟨g, row, written, hbuild, hrow, hwritten, ⟨plain, hplain⟩, ⟨plain', hplain'⟩, run,
      run', hrun, hrun', (Option.ite_none_right_eq_some.1 hstops).1⟩

end Grammar

end Packrat
