import Packrat.Regex.Pattern
import Packrat.Regex.Reader
import Packrat.Unicode.Property
/-!
# Escapes

A backslash makes a character stand for itself, or begins the written form of a
character by its number, of a class, of a property, or of an assertion.

## Main definitions

* `Escape` — what an escape stands for.
* `Read.escape` — reads an escape.
-/

namespace Packrat.Regex

/-- What an escape stands for. -/
inductive Escape where
  | literal (c : Char)
  | set (set : CharClass)
  | look (look : Look)

/-- The number that hexadecimal digits of either case write. -/
def hexValue (digits : List Char) : Nat := Unicode.Ranges.ofHex (digits.map Char.toLower)

/-- Whether a character may be escaped to stand for itself: all ASCII
characters but the letters, the digits and the angle brackets. -/
def isPlainEscape (c : Char) : Bool :=
  c.toNat < 0x80 && !CharClass.asciiAlnum.contains c && c != '<' && c != '>'

/-- The name of a word edge in braces after `\b`, such as `start-half`. -/
def edgeNamed? : String → Option WordEdge
  | "start" => some .start
  | "end" => some .stop
  | "start-half" => some .startHalf
  | "end-half" => some .stopHalf
  | _ => none

/-- Whether a character may be part of the name of a word edge. -/
def isEdgeChar (c : Char) : Bool := CharClass.asciiAlpha.contains c || c == '-'

/-- The two sides of the first place where a text has a given text in it. -/
def cutAt? (mark : List Char) : List Char → Option (List Char × List Char)
  | [] => none
  | c :: rest =>
    if mark.isPrefixOf (c :: rest) then some ([], (c :: rest).drop mark.length)
    else (cutAt? mark rest).map fun (before, after) => (c :: before, after)

/-- The characters with a property that is written by its name, or as
`name=value`, `name:value` or `name!=value`. The three marks mean the same; what
has another value is written with the capital of the escape. -/
def propertyWritten? (text : List Char) : Option CharClass :=
  match cutAt? ['!', '='] text <|> cutAt? [':'] text <|> cutAt? ['='] text with
  | some (name, value) =>
    (Unicode.propertyValue? (.ofList name) (.ofList value)).map CharClass.ofRanges
  | none => (Unicode.property? (.ofList text)).map CharClass.ofRanges

namespace Read

/-! ## Classes and case -/

/-- A class closed under case where the flags say so. -/
def folded (set : CharClass) : Read CharClass := do
  let flags ← flags
  if flags.ignoreCase then
    return if flags.unicode then set.foldCase else set.foldAscii
  return set

/-- A class or its complement. Only Unicode classes have one, because the
complement of an ASCII class has bytes that are no characters. -/
def signed (negated : Bool) (set : CharClass) : Read CharClass := do
  if negated then
    if (← flags).unicode then return set.outside else throw .needsUnicode
  return set

/-! ## The kinds of escapes -/

/-- The character with a code point, when there is one. -/
def scalar (n : Nat) : Read Char :=
  if h : n.isValidChar then return Char.ofNatAux n h else throw .badEscape

/-- Takes exactly a number of hexadecimal digits. -/
def hexDigits : Nat → Read (List Char)
  | 0 => return []
  | count + 1 => do
    match ← peek? with
    | some c =>
      if CharClass.asciiHex.contains c then
        advance
        return c :: (← hexDigits count)
      else throw .badEscape
    | none => throw .badEscape

/-- Reads a character by its number after `\x`, `\u` or `\U`: any number of
hexadecimal digits in braces, or else exactly `width` of them. Two digits
without braces name a byte, which is a character of its own only in ASCII. -/
def numbered (width : Nat) : Read Char := do
  advance
  if (← peek?) = some '\x7b' then
    advance
    let digits ← takeAll CharClass.asciiHex.contains
    if digits.isEmpty ∨ (← peek?) ≠ some '\x7d' then throw .badEscape
    advance
    scalar (hexValue digits)
  else
    let n := hexValue (← hexDigits width)
    if width = 2 ∧ 0x80 ≤ n ∧ !(← flags).unicode then throw .needsUnicode
    scalar n

/-- The class of a letter escape, whose capital stands for the complement. -/
def lettered (c : Char) : Read CharClass := do
  match CharClass.escaped? (← flags).unicode c.toLower with
  | none => throw .badEscape
  | some set => signed c.isUpper set

/-- Reads a property after `\p` or `\P`: a name of one letter, or a name in
braces. -/
def property (negated : Bool) : Read CharClass := do
  advance
  let text ← do
    if (← peek?) = some '\x7b' then
      advance
      let text ← takeAll (· != '\x7d')
      if (← rest).isEmpty then throw .badEscape
      skip 1
      pure text
    else
      let letter := (← rest).take 1
      advance
      pure letter
  if !(← flags).unicode then throw .needsUnicode
  match propertyWritten? text with
  | none => throw .badEscape
  | some set => signed negated (← folded set)

/-- Reads what may follow `\b`: a kind of word edge in braces. Braces that hold
no name are left to be read as a repetition. -/
def edgeAfterB : Read WordEdge := do
  let start ← rest
  if start.head? = some '\x7b' then
    advance
    match ← peek? with
    | none => throw .badEscape
    | some c =>
      if isEdgeChar c then
        let name ← takeAll isEdgeChar
        if (← peek?) = some '\x7d' then
          skip 1
          match edgeNamed? (String.ofList name) with
          | some side => return side
          | none => throw .badEscape
        else throw .badEscape
      else
        jump start
        return .edge
  else return .edge

/-- Reads the escape after a backslash. -/
def escape : Read Escape := do
  match ← peek? with
  | none => throw .badEscape
  | some c =>
    let unicode := (← flags).unicode
    if CharClass.asciiDigit.contains c then throw .backReference
    match c with
    | 'x' => return .literal (← numbered 2)
    | 'u' => return .literal (← numbered 4)
    | 'U' => return .literal (← numbered 8)
    | 'p' => return .set (← property false)
    | 'P' => return .set (← property true)
    | _ =>
      skip 1
      if isPlainEscape c then return .literal c
      match c with
      | 'a' => return .literal '\x07'
      | 'f' => return .literal '\x0c'
      | 't' => return .literal '\t'
      | 'n' => return .literal '\n'
      | 'r' => return .literal '\r'
      | 'v' => return .literal '\x0b'
      | 'A' => return .look .textStart
      | 'z' => return .look .textEnd
      | 'b' => return .look (.word (← edgeAfterB) unicode)
      | 'B' => return .look (.word .inside unicode)
      | '<' => return .look (.word .start unicode)
      | '>' => return .look (.word .stop unicode)
      | c => return .set (← lettered c)

end Read

end Packrat.Regex
