import Packrat.Proofs.CertainRun
import Packrat.Proofs.Fractions
import Packrat.Proofs.LaidOut
/-!
# Parsers of fractions and of numbers

A parser of fractions takes the longest fraction that the text at its offset begins with. Where
there is none it does not match, and where the fraction is too large for a finite number it ends
the run with the text of the fraction.

A parser of numbers is a choice. It takes what the parser of fractions finds, and what the
parser of integers finds where no fraction begins. An abort of the first is not made up for by
the second. So what it takes is always the longest number at its offset, be it an integer or a
fraction.

## Main definitions

* `Decimal.FractionExact` — what a parser of fractions is to come to.
* `Decimal.NumberExact` — what a parser of numbers is to come to, by what its parts come to.

## Main results

* `Env.certain_number` — the verdict of a parser of numbers is certain.
* `Env.number_exact` — parsers of fractions and of numbers are exact.
-/

namespace Packrat

open Text (Avoids byteLength)
open Decimal

namespace Decimal

/-! ## Fractions -/

/-- The text of a fraction tells it apart from others. -/
theorem Fraction.eq_of_text_eq {x y : Fraction} (h : x.text = y.text) : x = y := by
  have hsame : x.text ++ [] = y.text ++ [] := congrArg (· ++ []) h
  obtain ⟨hsign, hwhole, hdigits⟩ := same_beginning hsame
  rw [List.append_nil, List.append_nil] at hdigits
  cases x
  cases y
  subst hsign hwhole hdigits
  rfl

/-- What a parser of fractions is to come to at an offset where a text stands. -/
structure FractionExact (text : List Char) (start : Nat) (answer : Option Match) (last : State) :
    Prop where
  /-- Nothing is found in a run that goes on just if the text begins with no fraction. -/
  noMatch : (answer = none ∧ last.abort = none) ↔ ¬Begins IsFraction text
  /-- A match takes the longest fraction, and its value is the number nearest to it. -/
  found : ∀ m, answer = some m ↔ ∃ x : Fraction, Longest IsFraction text x.text ∧
    x.value.isFinite = true ∧ m = ⟨.float x.value, start, start + byteLength x.text⟩
  /-- The run is ended just if the number nearest to the longest fraction is not finite, with
  the text of the fraction. -/
  aborted : ∀ abort, last.abort = some abort ↔ ∃ x : Fraction, Longest IsFraction text x.text ∧
    x.value.isFinite = false ∧
      abort = .transform start (.number (.floatOverflow (String.ofList x.text)))

variable {src : Source} {start : Nat} {text : List Char} {answer : Option Match} {last : State}

/-- What the primitive of fractions finds is exact. -/
theorem FractionExact.of_reported (hstands : src.Stands start text)
    (hreported :
      (Verdict.ofScan start (Primitive.fraction.scan src start)).Reported start answer last) :
    FractionExact text start answer last := by
  by_cases hbegins : Begins IsFraction text
  · obtain ⟨x, rest, htext, hrest⟩ := hbegins.exists_fraction
    have hlongest : Longest IsFraction text x.text := htext ▸ x.longest hrest
    have honly {y : Fraction} (hy : Longest IsFraction text y.text) : y = x :=
      Fraction.eq_of_text_eq (hy.unique hlongest)
    rw [Primitive.scan_fraction_of_longest hstands hlongest, Primitive.foundFraction] at hreported
    by_cases hfinite : x.value.isFinite = true
    · rw [if_pos hfinite] at hreported
      obtain ⟨rfl, habort⟩ := hreported
      refine ⟨⟨fun hnone => ?_, fun hnone => absurd hbegins hnone⟩, fun m => ⟨fun hm => ?_, ?_⟩,
        fun abort => ⟨fun hended => ?_, ?_⟩⟩
      · exact absurd hnone.1 (Option.some_ne_none _)
      · exact ⟨x, hlongest, hfinite, (Option.some.inj hm).symm⟩
      · rintro ⟨y, hy, -, rfl⟩
        rw [honly hy]
      · rw [habort] at hended
        contradiction
      · rintro ⟨y, hy, hinfinite, -⟩
        rw [honly hy, hfinite] at hinfinite
        contradiction
    · rw [if_neg hfinite] at hreported
      obtain ⟨rfl, habort⟩ := hreported
      rw [Bool.not_eq_true] at hfinite
      refine ⟨⟨fun hnone => ?_, fun hnone => absurd hbegins hnone⟩, fun m => ⟨fun hm => ?_, ?_⟩,
        fun abort => ⟨fun hended => ?_, ?_⟩⟩
      · rw [habort] at hnone
        exact absurd hnone.2 (Option.some_ne_none _)
      · contradiction
      · rintro ⟨y, hy, hfinite', -⟩
        rw [honly hy, hfinite] at hfinite'
        contradiction
      · rw [habort] at hended
        exact ⟨x, hlongest, hfinite, (Option.some.inj hended).symm⟩
      · rintro ⟨y, hy, -, rfl⟩
        rw [honly hy]
        exact habort
  · have hnone {y : Fraction} (hy : Longest IsFraction text y.text) : False :=
      hbegins ⟨y.text, hy.begins, hy.hasForm⟩
    rw [Primitive.scan_fraction_of_none hstands hbegins] at hreported
    obtain ⟨rfl, habort⟩ := hreported
    refine ⟨⟨fun _ => hbegins, fun _ => ⟨rfl, habort⟩⟩, fun m => ⟨fun hm => ?_, ?_⟩,
      fun abort => ⟨fun hended => ?_, ?_⟩⟩
    · contradiction
    · rintro ⟨y, hy, -⟩
      exact (hnone hy).elim
    · rw [habort] at hended
      contradiction
    · rintro ⟨y, hy, -⟩
      exact (hnone hy).elim

/-! ## Numbers -/

/-- What a parser of numbers is to come to at an offset where a text stands, given what the
parser of fractions and the parser of integers come to there. -/
structure NumberExact (text : List Char) (start : Nat)
    (fraction integer number : Option Match × State) : Prop where
  /-- A fraction is found as it is by itself. -/
  of_fraction : ∀ x stop, fraction.1 = some ⟨.float x, start, stop⟩ →
    number.1 = some ⟨.number (.float x), start, stop⟩ ∧ number.2.abort = none
  /-- A fraction that ends the run does so here. -/
  of_abort : ∀ abort, fraction.2.abort = some abort →
    number.1 = none ∧ number.2.abort = some abort
  /-- Without a fraction all is as with an integer by itself. -/
  of_integer : fraction.1 = none → fraction.2.abort = none →
    number.2.abort = integer.2.abort ∧
      ((integer.1 = none ∧ number.1 = none) ∨
        ∃ n stop, integer.1 = some ⟨.int n, start, stop⟩ ∧
          number.1 = some ⟨.number (.int n), start, stop⟩)
  /-- A match takes the longest number. -/
  longest : ∀ m, number.1 = some m → ∃ taken, Longest IsNumber text taken ∧
    m.start = start ∧ m.stop = start + byteLength taken

end Decimal

/-! ## Verdicts on numbers -/

/-- A fraction or an integer as a number. -/
def Value.asNumber : Value → Value
  | .float x => .number (.float x)
  | .int n => .number (.int n)
  | value => value

namespace Verdict

/-- What is found, as a number. -/
def asNumber : Verdict Value → Verdict Value
  | .found value stop => .found value.asNumber stop
  | .noMatch => .noMatch
  | .abort position error => .abort position error

/-- A verdict, or another one where it is no match. -/
def orElse (first second : Verdict Value) : Verdict Value :=
  match first with
  | .noMatch => second
  | verdict => verdict

end Verdict

namespace Primitive

/-- The primitive of fractions finds nothing but fractions. -/
theorem float_of_scan_fraction {src : Source} {start stop : Nat} {value : Value}
    (h : Primitive.fraction.scan src start = .found value stop) : ∃ x, value = .float x := by
  simp only [scan, scanText] at h
  split at h
  · contradiction
  simp only [scanFraction] at h
  split at h
  · split at h
    · contradiction
    split at h
    · exact ⟨_, (Scan.found.inj h).1.symm⟩
    · contradiction
  · contradiction

/-- The primitive of signed integers finds nothing but integers. -/
theorem int_of_scan_signed {src : Source} {start stop : Nat} {value : Value}
    (h : Primitive.signed.scan src start = .found value stop) : ∃ n, value = .int n := by
  simp only [scan, scanText] at h
  split at h
  · contradiction
  simp only [scanSigned] at h
  split at h
  · contradiction
  split at h
  · exact ⟨_, (Scan.found.inj h).1.symm⟩
  · contradiction

/-- What a primitive finds at an offset, as a verdict. -/
def verdict (p : Primitive) (src : Source) (start : Nat) : Verdict Value :=
  .ofScan start (p.scan src start)

theorem scan_of_verdict {p : Primitive} {src : Source} {start stop : Nat} {value : Value}
    (h : p.verdict src start = .found value stop) : p.scan src start = .found value stop := by
  unfold verdict at h
  cases hscan : p.scan src start <;> rw [hscan] at h
  · contradiction
  · obtain ⟨rfl, rfl⟩ := Verdict.found.inj h
    rfl
  · contradiction

end Primitive

namespace Env

variable {env : Env} {start : Nat}

theorem certain_primitive {slot : SlotId} {p : Primitive}
    (hslot : env.grammar.bodies[slot]? = some (.primitive p)) (start : Nat) :
    env.Certain 1 slot start (p.verdict env.source start) :=
  certain_of_rule hslot trivial rfl

/-- A mapped parser whose function makes numbers of what the parser finds. -/
theorem certain_asNumber {slot inner : SlotId} {make : Source → Match → Value} {height : Nat}
    {verdict : Verdict Value} (hslot : env.grammar.bodies[slot]? = some (.map make inner))
    (hinner : env.Certain height inner start verdict)
    (hmake : ∀ value stop, verdict = .found value stop →
      make env.source ⟨value, start, stop⟩ = value.asNumber) :
    env.Certain (height + 1) slot start verdict.asNumber := by
  refine certain_of_rule hslot trivial ?_
  cases verdict with
  | found value stop => exact .found hinner (by rw [hmake value stop rfl]; rfl)
  | noMatch => exact .noMatch hinner rfl
  | abort position error => exact .abort hinner

theorem certain_choice {slot first second : SlotId} {height : Nat}
    {verdict verdict' : Verdict Value}
    (hslot : env.grammar.bodies[slot]? = some (.choice first second))
    (hfirst : env.Certain height first start verdict)
    (hsecond : env.Certain height second start verdict') :
    env.Certain (height + 1) slot start (verdict.orElse verdict') := by
  refine certain_of_rule hslot trivial ?_
  cases verdict with
  | found value stop => exact .found hfirst rfl
  | noMatch => exact .noMatch hfirst hsecond
  | abort position error => exact .abort hfirst

/-- The verdict of a parser of numbers is certain, and so are those of its parts. -/
theorem certain_number {cells : List (SlotId × String)} {done : List (String × Expr)}
    {slot : SlotId} (hlaid : Expr.number.LaidOut (env.grammar.places cells) done slot) :
    ∃ fraction integer : SlotId,
      env.grammar.bodies[fraction]? = some (.primitive .fraction) ∧
      env.grammar.bodies[integer]? = some (.primitive .signed) ∧
      ∀ start, env.Certain 3 slot start
        ((Primitive.fraction.verdict env.source start).asNumber.orElse
          (Primitive.signed.verdict env.source start).asNumber) := by
  obtain ⟨first, second, hslot, hfirst, hsecond⟩ := hlaid.of_two rfl
  obtain ⟨fraction, hfirst, hfraction⟩ := hfirst.of_one rfl
  obtain ⟨integer, hsecond, hinteger⟩ := hsecond.of_one rfl
  obtain ⟨_, hfraction, -⟩ := hfraction.of_node rfl
  obtain ⟨_, hinteger, -⟩ := hinteger.of_node rfl
  refine ⟨fraction, integer, hfraction, hinteger, fun start => ?_⟩
  refine certain_choice hslot (certain_asNumber hfirst (certain_primitive hfraction start) ?_)
    (certain_asNumber hsecond (certain_primitive hinteger start) ?_)
  · intro value stop hfound
    obtain ⟨x, rfl⟩ := Primitive.float_of_scan_fraction (Primitive.scan_of_verdict hfound)
    rfl
  · intro value stop hfound
    obtain ⟨n, rfl⟩ := Primitive.int_of_scan_signed (Primitive.scan_of_verdict hfound)
    rfl

end Env

namespace Decimal

variable {src : Source} {start : Nat} {text : List Char}

/-- The longest number at an offset is the longest integer there, if no fraction begins. -/
private theorem longest_of_integer {m : Match} {last : State} (hnone : ¬Begins IsFraction text)
    {sign digits rest : List Char} (hwrites : IntegerKind.signed.Writes text sign digits rest)
    (hexact : IntegerKind.signed.Exact text sign digits start (some m) last) :
    ∃ taken, Longest IsNumber text taken ∧ m.start = start ∧
      m.stop = start + byteLength taken := by
  obtain ⟨hne, -, hstart, hstop⟩ := (hexact.found m).1 rfl
  obtain ⟨rfl, hsign, -, hdigits, hrest⟩ := hwrites
  have hisSign : IsSign sign := by
    simpa [IntegerKind.signs, IsSign] using hsign
  exact ⟨sign ++ digits, (longest_integer hisSign ⟨hne, hdigits⟩ hrest).number_of_integer hnone,
    hstart, hstop⟩

/-- What is found of a number by the verdicts on its parts is exact. -/
theorem NumberExact.of_reported (hstands : src.Stands start text)
    {fraction integer number : Option Match × State}
    (hfraction : (Primitive.fraction.verdict src start).Reported start fraction.1 fraction.2)
    (hinteger : (Primitive.signed.verdict src start).Reported start integer.1 integer.2)
    (hnumber : ((Primitive.fraction.verdict src start).asNumber.orElse
      (Primitive.signed.verdict src start).asNumber).Reported start number.1 number.2) :
    NumberExact text start fraction integer number := by
  have hexact := FractionExact.of_reported hstands hfraction
  obtain ⟨answer, last⟩ := fraction
  obtain ⟨answer', last'⟩ := integer
  cases hverdict : Primitive.fraction.verdict src start with
  | found value stop =>
      obtain ⟨x, rfl⟩ := Primitive.float_of_scan_fraction (Primitive.scan_of_verdict hverdict)
      rw [hverdict] at hfraction hnumber
      obtain ⟨rfl, hlive⟩ := hfraction
      obtain ⟨hfound, hgoes⟩ := hnumber
      refine ⟨fun y stop' hy => ?_, fun abort hended => ?_, nofun, fun m hm => ?_⟩
      · obtain ⟨hvalue, -, rfl⟩ := Match.mk.inj (Option.some.inj hy)
        obtain rfl := Value.float.inj hvalue
        exact ⟨hfound, hgoes⟩
      · exact absurd (hlive.symm.trans hended) nofun
      · obtain ⟨y, hlongest, -, hy⟩ := (hexact.found _).1 rfl
        obtain ⟨-, -, rfl⟩ := Match.mk.inj hy
        obtain rfl := Option.some.inj (hfound.symm.trans hm)
        exact ⟨y.text, hlongest.number_of_fraction, rfl, rfl⟩
  | abort position error =>
      rw [hverdict] at hfraction hnumber
      obtain ⟨rfl, hended⟩ := hfraction
      obtain ⟨hnone, hended'⟩ := hnumber
      refine ⟨nofun, fun abort habort => ⟨hnone, ?_⟩, fun _ hlive => ?_, fun m hm => ?_⟩
      · exact hended'.trans (hended.symm.trans habort)
      · exact absurd (hended.symm.trans hlive) nofun
      · exact absurd (hnone.symm.trans hm) nofun
  | noMatch =>
      rw [hverdict] at hfraction hnumber
      have hnone : ¬Begins IsFraction text := hexact.noMatch.1 hfraction
      obtain ⟨rfl, hlive⟩ := hfraction
      obtain ⟨sign, digits, rest, hwrites⟩ := IntegerKind.signed.exists_writes text
      have hexact' := IntegerKind.Exact.of_reported hwrites hstands hinteger
      have hended {abort : Abort} (hended : last.abort = some abort) : False :=
        absurd (hlive.symm.trans hended) nofun
      cases hverdict' : Primitive.signed.verdict src start with
      | found value stop =>
          obtain ⟨n, rfl⟩ := Primitive.int_of_scan_signed (Primitive.scan_of_verdict hverdict')
          rw [hverdict'] at hinteger hnumber
          obtain ⟨rfl, hlive'⟩ := hinteger
          obtain ⟨hfound, hgoes⟩ := hnumber
          refine ⟨nofun, fun abort habort => (hended habort).elim, fun _ _ => ⟨?_, ?_⟩,
            fun m hm => ?_⟩
          · exact hgoes.trans hlive'.symm
          · exact .inr ⟨n, stop, rfl, hfound⟩
          · obtain rfl := Option.some.inj (hfound.symm.trans hm)
            exact longest_of_integer (m := ⟨.int n, start, stop⟩) hnone hwrites hexact'
      | noMatch | abort position error =>
          rw [hverdict'] at hinteger hnumber
          obtain ⟨rfl, habort'⟩ := hinteger
          obtain ⟨hnone', habort⟩ := hnumber
          refine ⟨nofun, fun abort habort => (hended habort).elim, fun _ _ => ⟨?_, ?_⟩,
            fun m hm => ?_⟩
          · exact habort.trans habort'.symm
          · exact .inl ⟨rfl, hnone'⟩
          · exact absurd (hnone'.symm.trans hm) nofun

end Decimal

namespace Env

/-- At every boundary of every source, parsers of fractions and of numbers are exact.

What the body of a parser of fractions does is, in every state of a run that goes on; it leaves
the state as it is unless it ends the run. What its calls are answered is, in every state that
a run may come to and go on from, wherever the depth limit leaves room and the parser is not
running already.

What calls of a parser of numbers are answered is, at all moments of all runs that go on, and
in all states if runs remember nothing, wherever the depth limit leaves room for the parser and
its parts. There it is exact by what calls of its parts, those of a fraction and of an integer,
are answered in the same state. -/
theorem number_exact (env : Env) {start : Nat} (hstart : env.source.isBoundary start = true) :
    (∀ slot, env.grammar.bodies[slot]? = some (.primitive .fraction) →
      (∀ call st, st.abort = none →
        ∃ answer last, (env.planOf slot start).exec env.options call st = some (answer, last) ∧
          FractionExact (env.source.suffix start) start answer last ∧
          (last.abort = none → last = st)) ∧
      ∀ fuel st, 0 < fuel → env.Reachable st → st.abort = none → env.atLimit st = none →
        st.memo.find? slot start ≠ some .inProgress →
        ∃ answer last, env.call fuel slot start st = some (answer, last) ∧
          FractionExact (env.source.suffix start) start answer last) ∧
    ∀ cells done slot, Expr.number.LaidOut (env.grammar.places cells) done slot →
      ∃ fraction integer : SlotId,
        env.grammar.bodies[fraction]? = some (.primitive .fraction) ∧
        env.grammar.bodies[integer]? = some (.primitive .signed) ∧
        ∀ fuel st, 3 < fuel → env.Called slot start st → st.abort = none → env.Room 3 st →
          ∃ asFraction asInteger asNumber,
            env.call fuel fraction start st = some asFraction ∧
            env.call fuel integer start st = some asInteger ∧
            env.call fuel slot start st = some asNumber ∧
            FractionExact (env.source.suffix start) start asFraction.1 asFraction.2 ∧
            (∃ sign digits rest,
              IntegerKind.signed.Writes (env.source.suffix start) sign digits rest ∧
              IntegerKind.signed.Exact (env.source.suffix start) sign digits start
                asInteger.1 asInteger.2) ∧
            NumberExact (env.source.suffix start) start asFraction asInteger asNumber := by
  have hstands : env.source.Stands start (env.source.suffix start) := by
    obtain ⟨⟨before, rest⟩, hplace⟩ := Source.isBoundary_iff.1 hstart
    refine ⟨before, ?_⟩
    rw [hplace, Source.suffix, hplace]
  refine ⟨fun slot hslot => ⟨fun call st hlive => ?_, ?_⟩, fun cells done slot hlaid => ?_⟩
  · obtain ⟨answer, last, hexec, hreported, hsame⟩ := exec_primitive hslot call start hlive
    exact ⟨answer, last, hexec, .of_reported hstands hreported, hsame⟩
  · intro fuel st hfuel hst hlive hroom hidle
    obtain ⟨answer, last, hcall, hreported⟩ :=
      call_primitive hslot start hst hlive hroom hidle hfuel
    exact ⟨answer, last, hcall, .of_reported hstands hreported⟩
  · obtain ⟨fraction, integer, hfraction, hinteger, hcertain⟩ := certain_number hlaid
    refine ⟨fraction, integer, hfraction, hinteger, fun fuel st hfuel hcalled hlive hroom => ?_⟩
    obtain ⟨least, hlt, hnumber, hready⟩ := hcalled.exists_ready hlive hroom (hcertain start)
    have hready' : env.Ready 1 st := hready.mono (Nat.le_add_left 1 least)
    obtain ⟨answer₁, last₁, hcall₁, hreported₁, -⟩ := call_of_certain 1
      (show 1 < fuel by omega) hready' hlive (certain_primitive hfraction start)
    obtain ⟨answer₂, last₂, hcall₂, hreported₂, -⟩ := call_of_certain 1
      (show 1 < fuel by omega) hready' hlive (certain_primitive hinteger start)
    obtain ⟨answer₃, last₃, hcall₃, hreported₃, -⟩ := call_of_certain (least + 1)
      (show least + 1 < fuel by omega) hready hlive hnumber
    obtain ⟨sign, digits, rest, hwrites⟩ :=
      IntegerKind.signed.exists_writes (env.source.suffix start)
    exact ⟨(answer₁, last₁), (answer₂, last₂), (answer₃, last₃), hcall₁, hcall₂, hcall₃,
      .of_reported hstands hreported₁,
      ⟨sign, digits, rest, hwrites, .of_reported hwrites hstands hreported₂⟩,
      .of_reported hstands hreported₁ hreported₂ hreported₃⟩

/-- A number in parentheses. -/
def bracketed : Env where
  grammar := (Grammar.build [("number", .number)]).toOption.getD ⟨#[], []⟩
  source := .ofString "(-12.50)"
  options := {}

/-- The fraction between the parentheses. -/
def bracketedFraction : Fraction where
  sign := ['-']
  whole := ['1', '2']
  digits := ['5', '0']
  isSign := .inr (.inr rfl)
  whole_isDigits := ⟨nofun, List.all_eq_true.1 rfl⟩
  digits_isDigits := ⟨nofun, List.all_eq_true.1 rfl⟩

/-- The whole fraction is found, though an integer begins where it does. -/
theorem number_exact_bracketed :
    bracketed.source.isBoundary 1 = true ∧ ∃ cells done last,
      Expr.number.LaidOut (bracketed.grammar.places cells) done 4 ∧
      bracketed.Called 4 1 {} ∧ bracketed.Room 3 {} ∧
      bracketed.call 4 4 1 {} =
        some (some ⟨.number (.float ⟨0xc029000000000000⟩), 1, 7⟩, last) := by
  have hstart : bracketed.source.isBoundary 1 = true := by decide
  have hbuild : Grammar.build [("number", .number)] = .ok bracketed.grammar := rfl
  obtain ⟨cells, hplaced⟩ := Grammar.build_placed hbuild
  obtain ⟨e, done, hlatest, hlaid⟩ := (hplaced.rules "number" 4 rfl).of_shared
  obtain rfl : e = .number := (hlatest.unique .here).1
  have hcalled : bracketed.Called 4 1 {} :=
    .inr ⟨[(4, 1)], _, [], [], .single .start⟩
  have hroom : bracketed.Room 3 {} := .of_unlimited rfl 3 {}
  obtain ⟨fraction, integer, -, -, hexact⟩ := (number_exact bracketed hstart).2 cells done 4 hlaid
  obtain ⟨asFraction, asInteger, ⟨answer, last⟩, -, -, hcall, hfraction, -, hnumber⟩ :=
    hexact 4 {} (by decide) hcalled rfl hroom
  have hend : Avoids isDigit [')'] := by
    intro c hc
    obtain rfl := Option.some.inj hc
    rfl
  have hlongest := bracketedFraction.longest hend
  have hfound := (hfraction.found _).2 ⟨bracketedFraction, hlongest, by decide, rfl⟩
  obtain ⟨rfl, -⟩ := hnumber.of_fraction _ _ hfound
  exact ⟨hstart, cells, done, last, hlaid, hcalled, hroom, hcall⟩

end Env

end Packrat
