import Packrat.Unicode.Property.Derived
import Packrat.Unicode.Script
/-!
# Breaks

Where a text may be broken between user characters, words or sentences depends
on a value that each of the three kinds gives a character. Most values follow
from other properties; characters of no value here have the value `Other`, which
has no table.

## Main definitions

* `graphemeBreak?` — the characters with a value for user characters.
* `wordBreak?` — the characters with a value for words.
* `sentenceBreak?` — the characters with a value for sentences.
-/

namespace Packrat.Unicode

/-! ## Characters that all three kinds tell apart -/

/-- The carriage return. -/
def carriageReturn : Ranges := [(0xd, 0xd)]

/-- The line feed. -/
def lineFeed : Ranges := [(0xa, 0xa)]

/-- The character that joins the characters around it. -/
def joiner : Ranges := [(0x200d, 0x200d)]

/-- The letters that make flags in pairs. -/
def regionalLetters : Ranges := flagged "ri"

/-! ## User characters -/

/-- The precomposed Hangul syllables without a final consonant. -/
def openSyllables : Ranges := (List.range 399).map fun i => (0xac00 + 28 * i, 0xac00 + 28 * i)

/-- The precomposed Hangul syllables with a final consonant. -/
def closedSyllables : Ranges := Ranges.diff [(0xac00, 0xd7a3)] openSyllables

/-- Marks and modifiers, which belong to the character before them. -/
def graphemeExtended : Ranges := (graphemeExtend.union (flagged "emod")).diff joiner

/-- Controls, signs of format and separators, which combine with nothing. -/
def graphemeControl : Ranges :=
  ((inCategories ["Zl", "Zp", "Cc", "Cf"]).union (assigned.compl.inter ignorable)).diff
    (.unionAll [carriageReturn, lineFeed, joiner, .ofLines ["200c"], flagged "pcm",
      graphemeExtend])

/-- The characters that belong to the one after them. -/
def graphemePrepended : Ranges :=
  (flagged "pcm").union
    (.ofLines ["d4e 111c2-111c3 113d1 1193f 11941 11a3a 11a84-11a89 11d46 11f02"])

/-- Marks that take room and still belong to the character before them. -/
def graphemeSpacing : Ranges :=
  ((inCategories ["Mc"]).union (.ofLines ["e33 eb3"])).diff
    (graphemeExtended.union (.ofLines [
      "102b-102c 1038 1062-1064 1067-106d 1083 1087-108c 108f 109a-109c 1a61 1a63-1a64 aa7b",
      "aa7d 11720-11721"]))

/-- The characters with a value for user characters. -/
def graphemeBreak? : String → Option Ranges
  | "control" | "cn" => some graphemeControl
  | "cr" => some carriageReturn
  | "extend" | "ex" => some graphemeExtended
  | "l" => some (.ofLines ["1100-115f a960-a97c"])
  | "lf" => some lineFeed
  | "lv" => some openSyllables
  | "lvt" => some closedSyllables
  | "prepend" | "pp" => some graphemePrepended
  | "regionalindicator" | "ri" => some regionalLetters
  | "spacingmark" | "sm" => some graphemeSpacing
  | "t" => some (.ofLines ["11a8-11ff d7cb-d7fb"])
  | "v" => some (.ofLines ["1160-11a7 d7b0-d7c6 16d63 16d67-16d6a"])
  | "zwj" => some joiner
  | _ => none

/-! ## Words -/

/-- The characters of a script given one of its names. -/
def inScript (name : String) : Ranges := (script? name).getD []

/-- Marks and modifiers, which belong to the word around them. -/
def wordExtended : Ranges := graphemeExtended.union (inCategories ["Mc"])

/-- Signs of format that are no marks, no separators and no numbers. -/
def wordFormat : Ranges :=
  (inCategories ["Cf"]).diff
    (.unionAll [graphemeExtend, joiner,
      .ofLines ["600-605 6dd 70f 890-891 8e2 200b-200c 110bd 110cd"]])

/-- The characters of words in Katakana. -/
def wordKatakana : Ranges :=
  (inScript "kana").union (.ofLines ["3031-3035 309b-309c 30a0 30fc ff70"])

/-- The Hebrew letters. -/
def hebrewLetters : Ranges := (inScript "hebr").inter (inCategories ["Lo"])

/-- Characters of scripts that put no space between words. -/
def unspaced : Ranges := .ofLines [
  "e01-e30 e32-e33 e40-e46 e81-e82 e84 e86-e8a e8c-ea3 ea5 ea7-eb0 eb2-eb3 ebd ec0-ec4 ec6",
  "edc-edf 1000-102a 103f 1050-1055 105a-105d 1061 1065-1066 106e-1070 1075-1081 108e 1780-17b3",
  "17d7 17dc 1950-196d 1970-1974 1980-19ab 19b0-19c9 1a20-1a54 1aa7 a9e0-a9e4 a9e6-a9ef",
  "a9fa-a9fe aa60-aa76 aa7a aa7e-aaaf aab1 aab5-aab6 aab9-aabd aac0 aac2 aadb-aadd 11700-1171a",
  "11740-11746"]

/-- The letters of words that are not told apart otherwise. -/
def wordLetters : Ranges :=
  (alphabetic.union (.ofLines [
    "2c2-2c5 2d2-2d7 2de-2df 2e5-2eb 2ed 2ef-2ff 55a-55c 55e 58a 5f3 70f a708-a716 a720-a721",
    "a789-a78a ab5b"])).diff
    (.unionAll [flagged "ideo", wordKatakana, inScript "hira", wordExtended, hebrewLetters,
      unspaced])

/-- The digits and what belongs to numbers. -/
def wordNumeric : Ranges :=
  (inCategories ["Nd"]).union (.ofLines ["600-605 66b 6dd 890-891 8e2 19da 110bd 110cd"])

/-- The characters with a value for words. -/
def wordBreak? : String → Option Ranges
  | "aletter" | "le" => some wordLetters
  | "cr" => some carriageReturn
  | "doublequote" | "dq" => some (.ofLines ["22"])
  | "extend" => some wordExtended
  | "extendnumlet" | "ex" => some ((inCategories ["Pc"]).union (.ofLines ["202f"]))
  | "format" | "fo" => some wordFormat
  | "hebrewletter" | "hl" => some hebrewLetters
  | "katakana" | "ka" => some wordKatakana
  | "lf" => some lineFeed
  | "midletter" | "ml" => some midLetter
  | "midnum" | "mn" =>
    some (.ofLines ["2c 3b 37e 589 60c-60d 66c 7f8 2044 fe50 fe54 ff0c ff1b"])
  | "midnumlet" | "mb" => some midNumLet
  | "newline" | "nl" => some (.ofLines ["b-c 85 2028-2029"])
  | "numeric" | "nu" => some wordNumeric
  | "regionalindicator" | "ri" => some regionalLetters
  | "singlequote" | "sq" => some (.ofLines ["27"])
  | "wsegspace" => some ((inCategories ["Zs"]).diff (.ofLines ["a0 2007 202f"]))
  | "zwj" => some joiner
  | _ => none

/-! ## Sentences -/

/-- The characters that end lines, besides carriage return and line feed. -/
def sentenceSeparators : Ranges := .ofLines ["85 2028-2029"]

/-- The full stops, which need not end a sentence. -/
def fullStops : Ranges := .ofLines ["2e 2024 fe52 ff0e"]

/-- The marks that end a sentence. -/
def sentenceEnds : Ranges := (flagged "sterm").diff fullStops

/-- Marks, which belong to the sentence around them. -/
def sentenceExtended : Ranges := .unionAll [graphemeExtend, inCategories ["Mc"], joiner]

/-- The Georgian letters, whose case makes no difference to a sentence, in
lower case. -/
def georgianLower : Ranges := .ofLines ["10d0-10fa 10fd-10ff"]

/-- The lower case letters of a sentence. -/
def sentenceLower : Ranges := lowercase.diff (graphemeExtend.union georgianLower)

/-- The upper case letters of a sentence. -/
def sentenceUpper : Ranges :=
  (uppercase.union (inCategories ["Lt"])).diff (.ofLines ["1c90-1cba 1cbd-1cbf"])

/-- The letters of a sentence that have no case. -/
def sentenceLetters : Ranges :=
  (alphabetic.union (.ofLines ["5f3"])).diff
    (.unionAll [sentenceLower, sentenceUpper, sentenceExtended])

/-- The characters with a value for sentences. -/
def sentenceBreak? : String → Option Ranges
  | "aterm" | "at" => some fullStops
  | "close" | "cl" =>
    some (((inCategories ["Ps", "Pe", "Pi", "Pf"]).union
      (.ofLines ["22 27 275b-2760 2e00-2e01 2e06-2e08 2e0b 1f676-1f678"])).diff
      (fullStops.union sentenceEnds))
  | "cr" => some carriageReturn
  | "extend" | "ex" => some sentenceExtended
  | "format" | "fo" =>
    some ((inCategories ["Cf"]).diff
      (.unionAll [graphemeExtend, joiner,
        .ofLines ["600-605 6dd 890-891 8e2 200c 110bd 110cd"]]))
  | "lf" => some lineFeed
  | "lower" | "lo" => some sentenceLower
  | "numeric" | "nu" => some (wordNumeric.union (.ofLines ["66c"]))
  | "oletter" | "le" => some sentenceLetters
  | "scontinue" | "sc" =>
    some (.ofLines [
      "2c-2d 3a-3b 37e 55d 60c-60d 7f8 1802 1808 2013-2014 3001 fe10-fe11 fe13-fe14 fe31-fe32",
      "fe50-fe51 fe54-fe55 fe58 fe63 ff0c-ff0d ff1a-ff1b ff64"])
  | "sep" | "se" => some sentenceSeparators
  | "sp" => some (spaceRanges.diff (.unionAll [sentenceSeparators, carriageReturn, lineFeed]))
  | "sterm" | "st" => some sentenceEnds
  | "upper" | "up" => some sentenceUpper
  | _ => none

end Packrat.Unicode
