import FeatureFlags.Pattern.Property
import FeatureFlags.Pattern.Script

/-!
**Where text may be parted: classes of characters for graphemes, words and sentences.**

What a reader sees as one character, a word and a sentence each end between characters of certain
classes. A class is stated through categories, scripts and other properties, and a table of the
rest; what is in no class is in the class of other characters, which has no set here.

* `graphemeBreaks`, `wordBreaks`, `sentenceBreaks`: the classes of each kind with their names.
-/

namespace FeatureFlags.CharSet

/-- The set of a script. -/
def ofScript (name : String) : CharSet := (named? scripts name).getD empty

/-- The ten regional letters of which two make a flag. -/
def regionalIndicator : CharSet := .ofTexts ["1F1E6-1F1FF"]

/-- The marks that change the tone of a picture of a person. -/
def emojiModifier : CharSet := .ofTexts ["1F3FB-1F3FF"]

/-- The joiner of zero width. -/
def joiner : CharSet := .ofTexts ["200D"]

/-! ### Graphemes -/

/-- The invisible characters that part graphemes. -/
def graphemeControl : CharSet :=
  (unions
    [ofCategories ["zl", "zp", "cc", "cf"], defaultIgnorable.inter assigned.compl]).diff
    (unions [.ofTexts ["A D 200C-200D"], prependedMark, graphemeExtend])

/-- The syllables of a leading consonant and a vowel. -/
def syllableOfTwo : CharSet :=
  ofRanges ((List.range 399).map fun index => (0xAC00 + 28 * index, 0xAC00 + 28 * index))

/-- The marks with width that belong to the character before them. -/
def spacingMark : CharSet :=
  ((ofCategories ["mc"]).union (.ofTexts ["E33 EB3"])).diff
    (unions
      [graphemeExtend,
        .ofTexts
          ["102B-102C 1038 1062-1064 1067-106D 1083 1087-108C 108F 109A-109C 1A61 1A63-1A64 AA7B",
            "AA7D 11720-11721"]])

/-- The classes of characters within a grapheme. -/
def graphemeBreaks : List NamedSet := [
  ⟨["control", "cn"], graphemeControl⟩,
  ⟨["cr"], .ofTexts ["D"]⟩,
  ⟨["lf"], .ofTexts ["A"]⟩,
  ⟨["extend", "ex"], graphemeExtend.union emojiModifier⟩,
  ⟨["zwj"], joiner⟩,
  ⟨["regionalindicator", "ri"], regionalIndicator⟩,
  ⟨["prepend", "pp"],
    prependedMark.union
      (.ofTexts ["D4E 111C2-111C3 113D1 1193F 11941 11A3A 11A84-11A89 11D46 11F02"])⟩,
  ⟨["spacingmark", "sm"], spacingMark⟩,
  ⟨["l"], .ofTexts ["1100-115F A960-A97C"]⟩,
  ⟨["v"], .ofTexts ["1160-11A7 D7B0-D7C6 16D63 16D67-16D6A"]⟩,
  ⟨["t"], .ofTexts ["11A8-11FF D7CB-D7FB"]⟩,
  ⟨["lv"], syllableOfTwo⟩,
  ⟨["lvt"], (range '가' '힣').diff syllableOfTwo⟩]

/-! ### Words -/

/-- The characters that belong to the one before them when text is parted into words or
sentences. -/
def breakExtend : CharSet := unions [graphemeExtend, ofCategories ["mc"], emojiModifier]

/-- The digits of numbers, with what stands before or in them. -/
def breakNumeric : CharSet :=
  unions [digit, .ofTexts ["66B"], prependedMark.diff (.ofTexts ["70F"])]

/-- The letters of the katakana syllabary, with the marks used among them. -/
def katakanaLetter : CharSet :=
  (ofScript "katakana").union (.ofTexts ["3031-3035 309B-309C 30A0 30FC FF70"])

/-- The letters of the Hebrew alphabet. -/
def hebrewLetter : CharSet := (ofScript "hebrew").inter (ofCategories ["lo"])

/-- The ideographs, which are words by themselves. -/
def ideographic : CharSet := (named? properties "ideographic").getD empty

/-- The letters of scripts that are written without blanks between words. -/
def unspacedLetter : CharSet :=
  .ofTexts
    ["E01-E30 E32-E33 E40-E46 E81-E82 E84 E86-E8A E8C-EA3 EA5 EA7-EB0 EB2-EB3 EBD EC0-EC4 EC6",
     "EDC-EDF 1000-102A 103F 1050-1055 105A-105D 1061 1065-1066 106E-1070 1075-1081 108E 1780-17B3",
     "17D7 17DC 1950-196D 1970-1974 1980-19AB 19B0-19C9 1A20-1A54 1AA7 A9E0-A9E4 A9E6-A9EF",
     "A9FA-A9FE AA60-AA76 AA7A AA7E-AAAF AAB1 AAB5-AAB6 AAB9-AABD AAC0 AAC2 AADB-AADD 11700-1171A",
     "11740-11746"]

/-- The letters of words in scripts that leave blanks between words. -/
def wordLetter : CharSet :=
  (alphabetic.union
    (.ofTexts
      ["B8 2C2-2C5 2D2-2D7 2DE-2DF 2E5-2EB 2ED 2EF-2FF 55A-55C 55E 58A 5F3 70F A708-A716 A720-A721",
        "A789-A78A AB5B"])).diff
    (unions
      [ideographic, katakanaLetter, unspacedLetter, ofScript "hiragana", breakExtend,
        hebrewLetter])

/-- The classes of characters within a word. -/
def wordBreaks : List NamedSet := [
  ⟨["cr"], .ofTexts ["D"]⟩,
  ⟨["lf"], .ofTexts ["A"]⟩,
  ⟨["newline", "nl"], .ofTexts ["B-C 85 2028-2029"]⟩,
  ⟨["extend"], breakExtend⟩,
  ⟨["zwj"], joiner⟩,
  ⟨["regionalindicator", "ri"], regionalIndicator⟩,
  ⟨["format", "fo"],
    (ofCategories ["cf"]).diff
      (unions [.ofTexts ["200B-200D"], prependedMark, breakExtend])⟩,
  ⟨["katakana", "ka"], katakanaLetter⟩,
  ⟨["hebrewletter", "hl"], hebrewLetter⟩,
  ⟨["aletter", "le"], wordLetter⟩,
  ⟨["singlequote", "sq"], .ofTexts ["27"]⟩,
  ⟨["doublequote", "dq"], .ofTexts ["22"]⟩,
  ⟨["midnumlet", "mb"], .ofTexts ["2E 2018-2019 2024 FE52 FF07 FF0E"]⟩,
  ⟨["midletter", "ml"], .ofTexts ["3A B7 387 55F 5F4 2027 FE13 FE55 FF1A"]⟩,
  ⟨["midnum", "mn"],
    .ofTexts ["2C 3B 37E 589 60C-60D 66C 7F8 2044 FE10 FE14 FE50 FE54 FF0C FF1B"]⟩,
  ⟨["numeric", "nu"], breakNumeric⟩,
  ⟨["extendnumlet", "ex"], .ofTexts ["5F 202F 203F-2040 2054 FE33-FE34 FE4D-FE4F FF3F"]⟩,
  ⟨["wsegspace"], .ofTexts ["20 1680 2000-2006 2008-200A 205F 3000"]⟩]

/-! ### Sentences -/

/-- The lowercase letters of scripts with two cases. -/
def sentenceLower : CharSet :=
  lowercase.diff (graphemeExtend.union (.ofTexts ["10D0-10FA 10FD-10FF"]))

/-- The uppercase letters of scripts with two cases. -/
def sentenceUpper : CharSet :=
  (uppercase.union (ofCategories ["lt"])).diff (.ofTexts ["1C90-1CBA 1CBD-1CBF"])

/-- The points, which may end a sentence or not. -/
def fullStop : CharSet := .ofTexts ["2E 2024 FE52 FF0E"]

/-- The other characters that end a sentence. -/
def sentenceEnd : CharSet := ((named? properties "sentenceterminal").getD empty).diff fullStop

/-- The characters that belong to the one before them in a sentence. -/
def sentenceExtend : CharSet := unions [graphemeExtend, ofCategories ["mc"], joiner]

/-- The classes of characters within a sentence. -/
def sentenceBreaks : List NamedSet := [
  ⟨["cr"], .ofTexts ["D"]⟩,
  ⟨["lf"], .ofTexts ["A"]⟩,
  ⟨["sep", "se"], .ofTexts ["85 2028-2029"]⟩,
  ⟨["extend", "ex"], sentenceExtend⟩,
  ⟨["format", "fo"],
    (ofCategories ["cf"]).diff (unions [.ofTexts ["200C-200D"], breakNumeric, sentenceExtend])⟩,
  ⟨["sp"], space.diff (.ofTexts ["A D 85 2028-2029"])⟩,
  ⟨["lower", "lo"], sentenceLower⟩,
  ⟨["upper", "up"], sentenceUpper⟩,
  ⟨["oletter", "le"],
    (alphabetic.union (.ofTexts ["5F3"])).diff
      (unions [sentenceLower, sentenceUpper, sentenceExtend])⟩,
  ⟨["numeric", "nu"], breakNumeric.union (.ofTexts ["66C"])⟩,
  ⟨["aterm", "at"], fullStop⟩,
  ⟨["sterm", "st"], sentenceEnd⟩,
  ⟨["close", "cl"],
    (ofCategories ["ps", "pe", "pi", "pf"]).union
      (.ofTexts ["22 27 275B-2760 2E00-2E01 2E06-2E08 2E0B 1F676-1F678"])⟩,
  ⟨["scontinue", "sc"],
    .ofTexts
      ["2C-2D 3A-3B 37E 55D 60C-60D 7F8 1802 1808 2013-2014 3001 FE10-FE11 FE13-FE14 FE31-FE32",
        "FE50-FE51 FE54-FE55 FE58 FE63 FF0C-FF0D FF1A-FF1B FF64"]⟩]

end FeatureFlags.CharSet
