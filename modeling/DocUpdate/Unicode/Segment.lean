import DocUpdate.Unicode.Property
import DocUpdate.Unicode.Script

/-!
# Text boundaries

The part that characters play in finding the ends of what a reader sees as one character, of
words and of sentences.
-/

namespace DocUpdate.Unicode

open Category Property

namespace Boundary

def scriptOf (name : String) : CharSet :=
  .unions ((Script.table.filter (·.1.contains name)).map Script.chars)

def carriageReturn : CharSet := .single '\r'

def lineFeed : CharSet := .single '\n'

def joiner : CharSet := .ofTable "200d"

/-- Marks, those with a place of their own among them. -/
def extend : CharSet := (CharSet.unions [graphemeExtend, charsOf [.mc], emojiModifier]).diff joiner

/-- Digits, and signs that are set around digits. -/
def numbersAndSigns : CharSet :=
  .unions [charsOf [.nd],
    .ofTable "600-605 66b 6dd 890-891 8e2 19da 110bd 110cd"]

end Boundary

open Boundary

/-! ## Characters as a reader sees them -/

namespace Grapheme

def prepended : CharSet :=
  .unions [prependedConcatenationMark,
    .ofTable "d4e 111c2-111c3 113d1 1193f 11941 11a3a 11a84-11a89 11d46 11f02"]

def extending : CharSet := .unions [graphemeExtend, emojiModifier]

/-- Controls, separators of lines and of paragraphs, and characters without a form of their own. -/
def control : CharSet :=
  CharSet.diff
    (.unions [charsOf [.zl, .zp, .cc, .cf], (charsOf [.cn]).inter defaultIgnorable])
    (.unions [carriageReturn, lineFeed, joinControl, prepended, extending])

def spacingMark : CharSet :=
  CharSet.diff (.unions [charsOf [.mc], .ofTable "e33 eb3"])
    (.unions [extending,
      .ofTable
        "102b-102c 1038 1062-1064 1067-106d 1083 1087-108c 108f 109a-109c 1a61 1a63-1a64
        aa7b aa7d 11720-11721"])

/-- Syllables of two letters come first in every block of 28. -/
def syllableOfTwo : CharSet := .ofTable "ac00-d788/1c"

def syllableOfThree : CharSet := (CharSet.ofTable "ac00-d7a3").diff syllableOfTwo

/-- The values of Grapheme_Cluster_Break. -/
def values : List (List String × CharSet) :=
  [(["CR"], carriageReturn), (["LF"], lineFeed), (["Control", "CN"], control),
    (["Extend", "EX"], extending), (["ZWJ"], joiner), (["Prepend", "PP"], prepended),
    (["SpacingMark", "SM"], spacingMark), (["Regional_Indicator", "RI"], regionalIndicator),
    (["L"], .ofTable "1100-115f a960-a97c"),
    (["V"], .ofTable "1160-11a7 d7b0-d7c6 16d63 16d67-16d6a"),
    (["T"], .ofTable "11a8-11ff d7cb-d7fb"),
    (["LV"], syllableOfTwo), (["LVT"], syllableOfThree)]

end Grapheme

/-! ## Words -/

namespace WordPart

def katakana : CharSet :=
  .unions [scriptOf "Katakana", .ofTable "3031-3035 309b-309c 30a0 30fc ff70"]

def hebrew : CharSet := (scriptOf "Hebrew").inter (charsOf [.lo])

/-- Scripts that are written without marks between words. -/
def unspaced : CharSet :=
  .ofTable
    "e01-e3a e40-e4e e81-e82 e84 e86-e8a e8c-ea3 ea5 ea7-ebd ec0-ec4 ec6 ec8-ece edc-edf 1000-103f
    1050-108f 109a-109f 1780-17d3 17d7 17dc-17dd 1950-196d 1970-1974 1980-19ab 19b0-19c9 19da
    19de-19df 1a20-1a5e 1a60-1a7c 1aa0-1aad a9e0-a9ef a9fa-a9fe aa60-aac2 aadb-aadf 11700-1171a
    1171d-1172b 1173a-1173b 1173f-11746"

def letter : CharSet :=
  CharSet.diff
    (.unions [alphabetic,
      .ofTable
        "2c2-2c5 2d2-2d7 2de-2df 2e5-2eb 2ed 2ef-2ff 55a-55c 55e 58a 5f3 70f a708-a716
        a720-a721 a789-a78a ab5b"])
    (.unions [ideographic, katakana, unspaced, scriptOf "Hiragana", extend, hebrew,
      numbersAndSigns])

def format : CharSet :=
  (charsOf [.cf]).diff
    (.unions [joinControl, extend, letter, numbersAndSigns, .ofTable "200b"])

/-- The values of Word_Break. -/
def values : List (List String × CharSet) :=
  [(["CR"], carriageReturn), (["LF"], lineFeed), (["Newline", "NL"], .ofTable "b-c 85 2028-2029"),
    (["Extend"], extend), (["ZWJ"], joiner), (["Regional_Indicator", "RI"], regionalIndicator),
    (["Format", "FO"], format), (["Katakana", "KA"], katakana), (["Hebrew_Letter", "HL"], hebrew),
    (["ALetter", "LE"], letter), (["Single_Quote", "SQ"], .single '\''),
    (["Double_Quote", "DQ"], .single '"'),
    (["MidNumLet", "MB"], .ofTable "2e 2018-2019 2024 fe52 ff07 ff0e"),
    (["MidLetter", "ML"], .ofTable "3a b7 387 55f 5f4 2027 fe13 fe55 ff1a"),
    (["MidNum", "MN"],
      .ofTable "2c 3b 37e 589 60c-60d 66c 7f8 2044 fe10 fe14 fe50 fe54 ff0c ff1b"),
    (["Numeric", "NU"], numbersAndSigns),
    (["ExtendNumLet", "EX"], .unions [charsOf [.pc], .ofTable "202f"]),
    (["WSegSpace"], (charsOf [.zs]).diff (.ofTable "a0 2007 202f"))]

end WordPart

/-! ## Sentences -/

namespace SentencePart

def extending : CharSet := .unions [graphemeExtend, charsOf [.mc], joiner]

def separator : CharSet := .ofTable "85 2028-2029"

def fullStop : CharSet := .ofTable "2e 2024 fe52 ff0e"

def number : CharSet := .unions [numbersAndSigns, .ofTable "66c"]

/-- Small letters of an alphabet in which a sentence does not start with a capital letter count
as neither. -/
def lower : CharSet := lowercase.diff (.unions [graphemeExtend, .ofTable "10d0-10fa 10fd-10ff"])

def upper : CharSet :=
  CharSet.diff (.unions [charsOf [.lt], uppercase]) (.ofTable "1c90-1cba 1cbd-1cbf")

/-- The values of Sentence_Break. -/
def values : List (List String × CharSet) :=
  [(["CR"], carriageReturn), (["LF"], lineFeed), (["Extend", "EX"], extending),
    (["Sep", "SE"], separator),
    (["Sp", "SP"], space.diff (.unions [separator, carriageReturn, lineFeed])),
    (["Format", "FO"], (charsOf [.cf]).diff (.unions [extending, joinControl, number])),
    (["Lower", "LO"], lower), (["Upper", "UP"], upper),
    (["OLetter", "LE"],
      CharSet.diff (.unions [alphabetic, .ofTable "5f3"])
        (.unions [lower, upper, extending, number])),
    (["Numeric", "NU"], number), (["ATerm", "AT"], fullStop),
    (["STerm", "ST"], sentenceTerminal.diff fullStop),
    (["SContinue", "SC"],
      .ofTable
        "2c-2d 3a-3b 37e 55d 60c-60d 7f8 1802 1808 2013-2014 3001 fe10-fe11 fe13-fe14 fe31-fe32
        fe50-fe51 fe54-fe55 fe58 fe63 ff0c-ff0d ff1a-ff1b ff64"),
    (["Close", "CL"],
      .unions [charsOf [.ps, .pe, .pi, .pf],
        .ofTable "22 27 275b-2760 2e00-2e01 2e06-2e08 2e0b 1f676-1f678"])]

end SentencePart

end DocUpdate.Unicode
