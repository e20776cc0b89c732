import Packrat.Proofs.LaidOut
import Packrat.Proofs.PrimitiveCall
import Packrat.Proofs.RegexLeftmost
/-!
# The two ways of matching a regular expression

A regular expression is matched at an offset in one of two modes. The anchored mode asks for a
match that begins there. The searching mode looks for the first match from there on, and rejects
it if it begins later. If the engine is leftmost-first, both find the preferred match at the
offset: if there is one, no other place comes before it, so the search does not go on.

So parsers of one regular expression in the two modes are answered alike, at every offset of
every source: with nothing where the offset is no boundary, and with groups that are parts of the
source inside the match where there is a match. The two may even be compiled by engines that have
nothing else in common.

## Main definitions

* `Captures.Consistent` — the groups of a match are what the source has where they say.
* `Regex.Exact` — what a parser of a regular expression is to come to at an offset.

## Main results

* `Regex.match?_exact` — what is found in either mode is exact.
* `Env.regex_modes_agree` — parsers of a regular expression are exact, in both modes, for every
  leftmost-first engine.
-/

namespace Packrat

/-- The groups of a match are what the source has where they say, inside the whole match. -/
structure Captures.Consistent (src : Source) (start stop : Nat) (captures : Captures) : Prop where
  /-- Group 0 is the whole match. -/
  whole : ∃ whole, captures.get? 0 = some whole ∧ whole.start = start ∧ whole.stop = stop
  /-- Each group has a name or none. -/
  length_eq : captures.groups.length = captures.names.length
  isPart : ∀ group, some group ∈ captures.groups → src.IsPart group.start group.stop
  text_eq : ∀ group, some group ∈ captures.groups →
    group.text = String.ofList (src.slice group.start group.stop)
  inside : ∀ group, some group ∈ captures.groups → start ≤ group.start ∧ group.stop ≤ stop

namespace Regex

variable {src : Source} {start : Nat}

/-- Groups that lie inside the whole match are consistent with their texts. -/
theorem Groups.Spanned.consistent {groups : Groups} {whole : Span}
    {names : List (Option String)} (h : groups.Spanned src whole)
    (hlength : groups.length = names.length) :
    (Primitive.capturesOf src names groups).Consistent src whole.start whole.stop := by
  constructor
  · have hwhole : groups[0]? = some (some whole) := Option.join_eq_some_iff.1 h.whole_eq
    refine ⟨Primitive.groupOf src whole, ?_, rfl, rfl⟩
    rw [Captures.get?, Primitive.capturesOf, List.getElem?_map, hwhole]
    rfl
  · rw [Primitive.capturesOf, List.length_map, hlength]
  · intro group hgroup
    obtain ⟨span, rfl, hwithin⟩ := Primitive.exists_span h hgroup
    exact hwithin.isPart
  · intro group hgroup
    obtain ⟨span, rfl, -⟩ := Primitive.exists_span h hgroup
    rfl
  · intro group hgroup
    obtain ⟨span, rfl, hwithin⟩ := Primitive.exists_span h hgroup
    exact ⟨hwithin.start_le, hwithin.stop_le⟩

/-- What a parser of a regular expression is to come to at an offset. -/
structure Exact (meaning : Meaning) (src : Source) (start : Nat) (answer : Option Match) :
    Prop where
  /-- Nothing is found where there is no boundary. -/
  noBoundary : src.isBoundary start = false → answer = none
  /-- What is found is the preferred match, and nothing is found where there is none. -/
  found : ∀ m, answer = some m ↔ ∃ groups whole, meaning.Preferred src start groups ∧
    groups.whole? = some whole ∧
      m = ⟨.captures (Primitive.capturesOf src meaning.groupNames groups), start, whole.stop⟩
  /-- A match begins at the offset, and its groups are consistent. -/
  consistent : ∀ m, answer = some m → m.start = start ∧ ∃ captures,
    m.value = .captures captures ∧ captures.names = meaning.groupNames ∧
      captures.Consistent src start m.stop

/-- There is only one exact answer. -/
theorem Exact.unique {meaning : Meaning} {answer answer' : Option Match}
    (h : Exact meaning src start answer) (h' : Exact meaning src start answer') :
    answer = answer' :=
  Option.ext fun m => by rw [h.found, h'.found]

/-- The match that is found at an offset. -/
def match? (regex : Regex) (mode : Mode) (src : Source) (start : Nat) : Option Match :=
  (Primitive.captured? regex mode src start).map fun found =>
    ⟨.captures found.1, start, found.2⟩

variable {mode : Mode} {regex : Regex}

theorem match?_eq_some_iff {m : Match} :
    regex.match? mode src start = some m ↔
      src.isBoundary start = true ∧ ∃ groups whole,
        regex.captures mode src start = some groups ∧ groups.whole? = some whole ∧
          m = ⟨.captures (Primitive.capturesOf src regex.groupNames groups), start,
            whole.stop⟩ := by
  rw [match?, Option.map_eq_some_iff]
  constructor
  · rintro ⟨⟨captures, stop⟩, hfound, rfl⟩
    obtain ⟨hstart, groups, whole, hgroups, hwhole, rfl, rfl⟩ :=
      Primitive.captured?_eq_some_iff.1 hfound
    exact ⟨hstart, groups, whole, hgroups, hwhole, rfl⟩
  · rintro ⟨hstart, groups, whole, hgroups, hwhole, rfl⟩
    exact ⟨(_, whole.stop), Primitive.captured?_eq_some_iff.2
      ⟨hstart, groups, whole, hgroups, hwhole, rfl, rfl⟩, rfl⟩

/-- What is found in either mode is exact. -/
theorem match?_exact {engine : Engine} {meaning : String → Flags → Meaning}
    (hengine : engine.LeftmostFirst meaning) {text : String} {flags : Flags}
    (hvalid : engine.compile mode text flags = .ok regex) (src : Source) (start : Nat) :
    Exact (meaning text flags) src start (regex.match? mode src start) := by
  have hnames := hengine.groupNames_eq hvalid
  constructor
  · intro hstart
    refine Option.eq_none_iff_forall_ne_some.2 fun m hm => ?_
    rw [(match?_eq_some_iff.1 hm).1] at hstart
    contradiction
  · intro m
    rw [match?_eq_some_iff, hnames]
    constructor
    · rintro ⟨hstart, groups, whole, hgroups, hfound⟩
      exact ⟨groups, whole, (hengine.captures_eq_some_iff hvalid hstart).1 hgroups, hfound⟩
    · rintro ⟨groups, whole, hpreferred, hfound⟩
      obtain ⟨_, hspanned, rfl⟩ := (meaning text flags).spanned hpreferred
      have hstart := hspanned.isPart.start_isBoundary
      exact ⟨hstart, groups, whole, (hengine.captures_eq_some_iff hvalid hstart).2 hpreferred,
        hfound⟩
  · intro m hm
    obtain ⟨hstart, groups, whole, hgroups, hwhole, rfl⟩ := match?_eq_some_iff.1 hm
    have hlength := regex.length_eq hstart (search_of_captures hgroups)
    obtain ⟨whole', hspanned, rfl⟩ :=
      (meaning text flags).spanned ((hengine.captures_eq_some_iff hvalid hstart).1 hgroups)
    obtain rfl := Option.some.inj (hspanned.whole_eq.symm.trans hwhole)
    exact ⟨rfl, _, rfl, hnames, hspanned.consistent hlength⟩

/-- What the primitive of a regular expression finds, as a verdict, is reported as the match that
is found. -/
theorem reported_regex {answer : Option Match} {last : State}
    (h : (Verdict.ofScan start ((Primitive.regex regex mode).scan src start)).Reported start
      answer last) :
    answer = regex.match? mode src start ∧ last.abort = none := by
  simp only [Primitive.scan, Primitive.scanRegex] at h
  rw [match?]
  split at h
  case h_1 hnone =>
    rw [hnone]
    exact h
  case h_2 captures stop hfound =>
    rw [hfound]
    exact h

end Regex

/-- A rule that is a regular expression is a parser of what its text writes. -/
theorem Grammar.Placed.exists_regex {g : Grammar} {written earlier : List (String × Expr)}
    {cells : List (SlotId × String)} (h : g.Placed written cells) {name text : String}
    {flags : Regex.Flags} {mode : Regex.Mode} {regex : Regex}
    (hlatest : Latest name (.regex text flags mode) earlier written.reverse)
    (hcompile : Regex.compile text flags = .ok regex) :
    ∃ slot : SlotId, g.bodies[slot]? = some (.primitive (.regex regex mode)) := by
  have hnode : (Expr.regex text flags mode).node? = some (.primitive (.regex regex mode), []) := by
    rw [Expr.node?, hcompile]
  obtain ⟨slot, -, hlaid⟩ := h.of_latest hlatest
  obtain ⟨_, hbody, -⟩ := hlaid.of_node hnode
  exact ⟨slot, hbody⟩

namespace Env

/-- Parsers of one regular expression find the same in the two modes, at every offset of every
source: the preferred match, if there is one. That is so for every engine that is leftmost-first,
and for every text that it takes for a regular expression in both modes.

It is what the bodies of these parsers do in every state of a run that goes on, and they leave the
state as it is. It is what calls of them are answered in every state that a run may come to and go
on from, wherever the depth limit leaves room and the parser is not running already. -/
theorem regex_modes_agree {engine : Regex.Engine} {meaning : String → Regex.Flags → Regex.Meaning}
    (hengine : engine.LeftmostFirst meaning) {text : String} {flags : Regex.Flags}
    {regex : Regex.Mode → Regex}
    (hvalid : ∀ mode, engine.compile mode text flags = .ok (regex mode))
    (src : Source) (start : Nat) :
    ∃ answer, Regex.Exact (meaning text flags) src start answer ∧
      ∀ (mode : Regex.Mode) (env : Env) slot, env.source = src →
        env.grammar.bodies[slot]? = some (.primitive (.regex (regex mode) mode)) →
        (∀ call st, st.abort = none →
          (env.planOf slot start).exec env.options call st = some (answer, st)) ∧
        ∀ fuel st, 0 < fuel → env.Reachable st → st.abort = none → env.atLimit st = none →
          st.memo.find? slot start ≠ some .inProgress →
          ∃ last, env.call fuel slot start st = some (answer, last) ∧ last.abort = none := by
  have hexact (mode : Regex.Mode) : Regex.Exact (meaning text flags) src start
      ((regex mode).match? mode src start) :=
    Regex.match?_exact hengine (hvalid mode) src start
  refine ⟨(regex .anchored).match? .anchored src start, hexact .anchored,
    fun mode env slot hsource hslot => ?_⟩
  subst hsource
  rw [(hexact .anchored).unique (hexact mode)]
  constructor
  · intro call st hlive
    obtain ⟨answer, last, hexec, hreported, hstays⟩ := exec_primitive hslot call start hlive
    obtain ⟨rfl, hlast⟩ := Regex.reported_regex hreported
    rw [hexec, hstays hlast]
  · intro fuel st hfuel hst hlive hroom hidle
    obtain ⟨answer, last, hcall, hreported⟩ :=
      call_primitive hslot start hst hlive hroom hidle hfuel
    obtain ⟨rfl, hlast⟩ := Regex.reported_regex hreported
    exact ⟨last, hcall, hlast⟩

/-- Parsers in both modes of an expression with two alternatives, of which the second begins with
the first, and an option. -/
def alternatives : List (String × Expr) :=
  [("anchored", .regex "(a|ab)(c)?" {} .anchored),
    ("searching", .regex "(a|ab)(c)?" {} .searching)]

private theorem exists_eq_ok {ε α : Type} {result : Except ε α} (h : result.isOk = true) :
    ∃ value, result = .ok value := by
  cases result with
  | error error => contradiction
  | ok value => exact ⟨value, rfl⟩

/-- In both modes the engine of this library takes the first alternative, and leaves the option
out. -/
theorem regex_modes_agree_alternatives :
    Regex.Engine.backtracker.LeftmostFirst Regex.meaning ∧
      ∃ regex g, Regex.compile "(a|ab)(c)?" {} = .ok regex ∧
        Grammar.build alternatives = .ok g ∧
        ∀ mode : Regex.Mode, ∃ slot last,
          g.bodies[slot]? = some (.primitive (.regex regex mode)) ∧
          Env.call ⟨g, .ofString "xabc", {}⟩ 1 slot 1 {} = some (some ⟨.captures
            ⟨[some ⟨"a", 1, 2⟩, some ⟨"a", 1, 2⟩, none], [none, none, none]⟩, 1, 2⟩, last) := by
  have hengine := Regex.Engine.backtracker_leftmostFirst
  have hvalid : (Regex.compile "(a|ab)(c)?" {}).isOk = true := by decide +kernel
  have hbuilds : (Grammar.build alternatives).isOk = true := by decide +kernel
  obtain ⟨regex, hcompile⟩ := exists_eq_ok hvalid
  obtain ⟨g, hbuild⟩ := exists_eq_ok hbuilds
  have hcompiled (mode : Regex.Mode) :
      Regex.Engine.backtracker.compile mode "(a|ab)(c)?" {} = .ok regex := hcompile
  obtain ⟨answer, hexact, hagree⟩ :=
    regex_modes_agree hengine hcompiled (.ofString "xabc") 1
  have hanswer : answer = some ⟨.captures
      ⟨[some ⟨"a", 1, 2⟩, some ⟨"a", 1, 2⟩, none], [none, none, none]⟩, 1, 2⟩ := by
    have hfound : (Regex.compile "(a|ab)(c)?" {}).toOption.map (fun regex =>
        (regex.search .anchored (.ofString "xabc") 1, regex.groupNames)) =
          some (some [some ⟨1, 2⟩, some ⟨1, 2⟩, none], [none, none, none]) := by
      decide +kernel
    rw [hcompile] at hfound
    obtain ⟨hsearch, hnames⟩ := Prod.mk.inj (Option.some.inj hfound)
    have hcaptured : Primitive.capturesOf (.ofString "xabc") [none, none, none]
        [some ⟨1, 2⟩, some ⟨1, 2⟩, none] =
          ⟨[some ⟨"a", 1, 2⟩, some ⟨"a", 1, 2⟩, none], [none, none, none]⟩ := by decide
    have hstart : Source.isBoundary (.ofString "xabc") 1 = true := by decide
    have hpreferred := (hengine.anchored (hcompiled .anchored) hstart).1 hsearch
    refine (hexact.found _).2 ⟨_, ⟨1, 2⟩, hpreferred, rfl, ?_⟩
    rw [← hengine.groupNames_eq (hcompiled .anchored), hnames, hcaptured]
  obtain ⟨cells, hplaced⟩ := Grammar.build_placed hbuild
  have hslot (mode : Regex.Mode) : ∃ slot : SlotId,
      g.bodies[slot]? = some (.primitive (.regex regex mode)) := by
    cases mode with
    | anchored => exact hplaced.exists_regex (.later (by decide) .here) hcompile
    | searching => exact hplaced.exists_regex .here hcompile
  refine ⟨hengine, regex, g, hcompile, hbuild, fun mode => ?_⟩
  obtain ⟨slot, hbody⟩ := hslot mode
  have hidle : ({} : State).memo.find? slot 1 ≠ some .inProgress := by
    simp
  obtain ⟨last, hcall, -⟩ := (hagree mode ⟨g, .ofString "xabc", {}⟩ slot rfl hbody).2 1 {}
    Nat.one_pos .fresh rfl rfl hidle
  exact ⟨slot, last, hbody, hanswer ▸ hcall⟩

end Env

end Packrat
