import Blockflow.Text.Property.Binary

/-!
# Boundaries

The part that each character plays where a text is cut into clusters of characters, into words and
into sentences, as of Unicode 16.
-/

namespace Blockflow.Text.Property

/-! ### Clusters -/

/-- The characters at which every cluster ends. -/
def clusterControl : CharSet :=
  (lineSeparator ∪ paragraphSeparator ∪ control ∪ format ∪
    unassigned.inter defaultIgnorable).without
    (concatenationMark ∪ .ofHex "A D 200C-200D E0020-E007F")

/-- The characters that a cluster takes in. -/
def clusterExtend : CharSet := (graphemeExtend ∪ emojiModifier).without (.single '\u200D')

/-- The characters that a cluster starts with. -/
def clusterPrepend : CharSet :=
  concatenationMark ∪
    .ofHex "D4E 111C2-111C3 113D1 1193F 11941 11A84-11A89 11D46 11F02"

/-- The marks with room that a cluster takes in. -/
def clusterSpacing : CharSet :=
  (spacingMark ∪ .ofHex "E33 EB3").without (graphemeExtend ∪
    .ofHex
      "102B-102C 1038 1062-1064 1067-106D 1083 1087-108C 108F 109A-109C 1A61 1A63-1A64 AA7B AA7D
      11720-11721")

/-- The syllables of Hangul that end in a vowel. There are 399 of them, 28 numbers apart. -/
def syllable : CharSet := .ofList ((List.range 399).map fun i ↦ 0xAC00 + 28 * i)

/-- The syllables of Hangul that end in a consonant. -/
def closedSyllable : CharSet := (CharSet.range 0xAC00 0xD7A3).without syllable

/-- The parts that characters play in clusters, by their names. -/
def graphemeBreaks : List (List String × CharSet) :=
  [(["cn", "control"], clusterControl),
    (["cr"], .single '\r'),
    (["ex", "extend"], clusterExtend),
    (["l"], .ofHex "1100-115F A960-A97C"),
    (["lf"], .single '\n'),
    (["lv"], syllable),
    (["lvt"], closedSyllable),
    (["pp", "prepend"], clusterPrepend),
    (["ri", "regionalindicator"], regionalIndicator),
    (["sm", "spacingmark"], clusterSpacing),
    (["t"], .ofHex "11A8-11FF D7CB-D7FB"),
    (["v"], .ofHex "1160-11A7 D7B0-D7C6 16D63 16D67-16D6A"),
    (["zwj"], .single '\u200D')]

/-! ### Words -/

/-- The characters that join the one in front of them in a word. -/
def wordExtend : CharSet :=
  (graphemeExtend ∪ spacingMark ∪ emojiModifier).without (.single '\u200D')

/-- The characters of Katakana in words. -/
def kana : CharSet := .ofHex
    "3031-3035 309B-309C 30A0-30FA 30FC-30FF 31F0-31FF 32D0-32FE 3300-3357 FF66-FF9D 1AFF0-1AFF3
    1AFF5-1AFFB 1AFFD-1AFFE 1B000 1B120-1B122 1B155 1B164-1B167"

/-- The letters of Hebrew. -/
def hebrewLetter : CharSet := .ofHex
    "5D0-5EA 5EF-5F2 FB1D FB1F-FB28 FB2A-FB36 FB38-FB3C FB3E FB40-FB41 FB43-FB44 FB46-FB4F"

/-- The controls of format in words. -/
def wordFormat : CharSet := format.without (concatenationMark ∪ .ofHex "200B-200D E0020-E007F")

/-- The digits in words, and the marks that stand before digits. -/
def wordNumeric : CharSet :=
  decimalNumber ∪ concatenationMark.without (.single '\u070F') ∪
    .ofHex "66B 19DA"

/-- The connectors in words. -/
def wordConnector : CharSet := connectorPunctuation ∪ .single '\u202F'

/-- The characters that count as letters of words only. -/
def innerLetter : CharSet := .ofHex
    "B8 2C2-2C5 2D2-2D7 2DE-2DF 2E5-2EB 2ED 2EF-2FF 55A-55C 55E 58A 5F3 70F A708-A716 A720-A721
    A789-A78A AB5B"

/-- The letters of scripts that set no blanks between words. -/
def unspacedLetter : CharSet := .ofHex
    "E01-E30 E32-E33 E40-E46 E81-E82 E84 E86-E8A E8C-EA3 EA5 EA7-EB0 EB2-EB3 EBD EC0-EC4 EC6
    EDC-EDF 1000-102A 103F 1050-1055 105A-105D 1061 1065-1066 106E-1070 1075-1081 108E 1780-17B3
    17D7 17DC 1950-196D 1970-1974 1980-19AB 19B0-19C9 1A20-1A54 1AA7 3041-3096 309D-309F
    A9E0-A9E4 A9E6-A9EF A9FA-A9FE AA60-AA76 AA7A AA7E-AAAF AAB1 AAB5-AAB6 AAB9-AABD AAC0 AAC2
    AADB-AADD 11700-1171A 11740-11746 1B001-1B11F 1B132 1B150-1B152"

/-- The letters of words. -/
def wordLetter : CharSet :=
  (alphabetic ∪ innerLetter).without
    (ideographic ∪ kana ∪ hebrewLetter ∪ wordExtend ∪ unspacedLetter)

/-- The parts that characters play in words, by their names. -/
def wordBreaks : List (List String × CharSet) :=
  [(["aletter", "le"], wordLetter),
    (["cr"], .single '\r'),
    (["doublequote", "dq"], .ofHex "22"),
    (["extend"], wordExtend),
    (["extendnumlet", "ex"], wordConnector),
    (["format", "fo"], wordFormat),
    (["hebrewletter", "hl"], hebrewLetter),
    (["katakana", "ka"], kana),
    (["lf"], .single '\n'),
    (["midletter", "ml"], .ofHex "3A B7 387 55F 5F4 2027 FE13 FE55 FF1A"),
    (["midnum", "mn"], .ofHex "2C 3B 37E 589 60C-60D 66C 7F8 2044 FE50 FE54 FF0C FF1B"),
    (["midnumlet", "mb"], .ofHex "2E 2018-2019 2024 FE52 FF07 FF0E"),
    (["newline", "nl"], .ofHex "B-C 85 2028-2029"),
    (["numeric", "nu"], wordNumeric),
    (["regionalindicator", "ri"], regionalIndicator),
    (["singlequote", "sq"], .ofHex "27"),
    (["wsegspace"], .ofHex "20 1680 2000-2006 2008-200A 205F 3000"),
    (["zwj"], .single '\u200D')]

/-! ### Sentences -/

/-- The characters that join the one in front of them in a sentence. -/
def sentenceExtend : CharSet := graphemeExtend ∪ spacingMark ∪ .ofHex "200D"

/-- The small letters in sentences. -/
def sentenceLower : CharSet := lowercase.without (sentenceExtend ∪ .ofHex "10D0-10FA 10FD-10FF")

/-- The capital letters in sentences. -/
def sentenceUpper : CharSet :=
  (uppercase ∪ titlecaseLetter).without (.ofHex "1C90-1CBA 1CBD-1CBF")

/-- The other letters in sentences. -/
def sentenceLetter : CharSet :=
  (alphabetic ∪ .single '\u05F3').without (sentenceLower ∪ sentenceUpper ∪ sentenceExtend)

/-- The brackets and quotes around sentences. -/
def sentenceClose : CharSet :=
  (openPunctuation ∪ closePunctuation ∪ initialPunctuation ∪ finalPunctuation ∪ quotationMark ∪
    .ofHex "275B-2760 2E00-2E01 2E06-2E08 2E0B 1F676-1F678").without
    (.ofHex "FF02 FF07")

/-- The parts that characters play in sentences, by their names. -/
def sentenceBreaks : List (List String × CharSet) :=
  [(["aterm", "at"], .ofHex "2E 2024 FE52 FF0E"),
    (["close", "cl"], sentenceClose),
    (["cr"], .single '\r'),
    (["extend", "ex"], sentenceExtend),
    (["format", "fo"], wordFormat ∪ .ofHex "70F 200B"),
    (["lf"], .single '\n'),
    (["lower", "lo"], sentenceLower),
    (["numeric", "nu"], wordNumeric ∪ .single '\u066C'),
    (["oletter", "le"], sentenceLetter),
    (["scontinue", "sc"], .ofHex
      "2C-2D 3A-3B 37E 55D 60C-60D 7F8 1802 1808 2013-2014 3001 FE10-FE11 FE13-FE14 FE31-FE32
      FE50-FE51 FE54-FE55 FE58 FE63 FF0C-FF0D FF1A-FF1B FF64"),
    (["sep", "se"], .ofHex "85 2028-2029"),
    (["sp"], blank.without (.ofHex "A D 85 2028-2029")),
    (["sterm", "st"], sentenceTerminal.without (.ofHex "2E 2024 FE52 FF0E")),
    (["upper", "up"], sentenceUpper)]

end Blockflow.Text.Property
