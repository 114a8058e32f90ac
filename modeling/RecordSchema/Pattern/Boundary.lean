import RecordSchema.Pattern.CharSet
import RecordSchema.Pattern.Property.Binary
import RecordSchema.Pattern.Property.Category
import RecordSchema.Pattern.Property.Script

namespace RecordSchema

/-!
# Classes for the boundaries of text

Text is cut into what a reader takes for characters, into words and into
sentences.  For each of the three purposes every character belongs to one class.
Most classes are built from categories, scripts and other properties, with a few
characters that are listed one by one.
-/

namespace Pattern

namespace CharSet

/-- The set of the code points that one line lists. -/
def ofLine (line : String) : CharSet :=
  ofTable [line]

/-- The characters in one of several sets. -/
def unions (sets : List CharSet) : CharSet :=
  ofRanges (sets.flatMap fun set => set.ranges)

end CharSet

/-- Signs that stand before the number they span. -/
def numberSigns : CharSet :=
  CharSet.ofLine "600-605 6dd 890-891 8e2 110bd 110cd"

/-- Marks that extend the character before them, with the modifiers of emoji. -/
def extendingMarks : CharSet :=
  CharSet.ofTable (propertyGraphemeExtend ++ propertyEmojiModifier)

/-- Marks that take room of their own, with those that extend the character before them. -/
def followingMarks : CharSet :=
  CharSet.ofTable (propertyGraphemeExtend ++ categorySpacingMark)

/-- Format characters; the joiners are treated apart. -/
def plainFormats : CharSet :=
  ((CharSet.ofTable categoryFormat).difference numberSigns).difference
    (CharSet.ofTable (["200c-200d"] ++ propertyGraphemeExtend))

/-- Decimal digits, the marks within numbers and the signs before them. -/
def numericCharacters : CharSet :=
  CharSet.unions [CharSet.ofTable (["66b-66c", "19da"] ++ categoryDecimalNumber), numberSigns]

/-- Marks and letters that stand before the character they belong to. -/
def graphemePrepend : CharSet :=
  CharSet.unions [numberSigns,
    CharSet.ofLine
      "70f d4e 111c2-111c3 113d1 1193f 11941 11a3a 11a84-11a89 11d46 11f02"]

/-- Marks that take room of their own. -/
def graphemeSpacingMark : CharSet :=
  CharSet.union (CharSet.ofLine "e33 eb3")
    (((CharSet.ofTable categorySpacingMark).difference extendingMarks).difference
      (CharSet.ofTable
        ["102b-102c 1038 1062-1064 1067-106d 1083 1087-108c 108f 109a-109c 1a61 1a63-1a64",
          "aa7b aa7d 11720-11721"]))

/-- Characters that stand alone. -/
def graphemeControl : CharSet :=
  let reserved := (CharSet.ofTable categoryUnassigned).intersection
    (CharSet.ofTable propertyDefaultIgnorableCodePoint)
  let controls := CharSet.unions [reserved, plainFormats,
    CharSet.ofTable (categoryLineSeparator ++ categoryParagraphSeparator ++ categoryControl)]
  (controls.difference graphemePrepend).difference (CharSet.ofLine "a d")

/-- Hangul syllables without a final consonant: one in 28 of the syllables. -/
def graphemeOpenSyllable : CharSet :=
  ⟨(List.range 399).map fun place => (0xAC00 + 28 * place, 0xAC00 + 28 * place)⟩

/-- Hangul syllables with a final consonant. -/
def graphemeClosedSyllable : CharSet :=
  ⟨(List.range 399).map fun place => (0xAC01 + 28 * place, 0xAC1B + 28 * place)⟩

/-- The classes of characters as a reader takes them, each with its names in loose form. -/
def graphemeClasses : List (List String × CharSet) :=
  [
    (["cn", "control"], graphemeControl),
    (["cr"], CharSet.ofLine "d"),
    (["ex", "extend"], extendingMarks),
    (["l"], CharSet.ofLine "1100-115f a960-a97c"),
    (["lf"], CharSet.ofLine "a"),
    (["lv"], graphemeOpenSyllable),
    (["lvt"], graphemeClosedSyllable),
    (["pp", "prepend"], graphemePrepend),
    (["regionalindicator", "ri"], CharSet.ofTable propertyRegionalIndicator),
    (["sm", "spacingmark"], graphemeSpacingMark),
    (["t"], CharSet.ofLine "11a8-11ff d7cb-d7fb"),
    (["v"], CharSet.ofLine "1160-11a7 d7b0-d7c6 16d63 16d67-16d6a"),
    (["zwj"], CharSet.ofLine "200d")
  ]

/-- Katakana and the marks written with it. -/
def wordKatakana : CharSet :=
  CharSet.ofTable (["3031-3035 309b-309c 30a0 30fc ff70"] ++ scriptKatakana)

/-- The letters of the Hebrew script. -/
def wordHebrewLetter : CharSet :=
  (CharSet.ofTable scriptHebrew).intersection (CharSet.ofTable categoryOtherLetter)

/-- Marks within words: those that extend a character and those that take room. -/
def wordExtend : CharSet :=
  CharSet.unions [extendingMarks, followingMarks]

/-- The scripts that are written without blanks between words. -/
def unspacedScripts : List String :=
  scriptHiragana ++ scriptThai ++ scriptLao ++ scriptMyanmar ++ scriptKhmer ++ scriptTaiLe ++
    scriptNewTaiLue ++ scriptTaiTham ++ scriptTaiViet ++ scriptAhom

/-- Letters of scripts with blanks between words, and signs used as letters. -/
def wordLetter : CharSet :=
  let letters := (CharSet.ofTable propertyAlphabetic).difference
    (CharSet.ofTable (propertyIdeographic ++ unspacedScripts))
  let plain := letters.difference (CharSet.unions [wordKatakana, wordHebrewLetter, wordExtend])
  CharSet.unions [plain,
    CharSet.ofTable
      ["2c2-2c5 2d2-2d7 2de-2df 2e5-2eb 2ed 2ef-2ff 55a-55c 55e 58a 5f3 70f a708-a716",
        "a720-a721 a789-a78a ab5b"]]

/-- The classes for words, each with its names in loose form. -/
def wordClasses : List (List String × CharSet) :=
  [
    (["aletter", "le"], wordLetter),
    (["cr"], CharSet.ofLine "d"),
    (["doublequote", "dq"], CharSet.ofLine "22"),
    (["ex", "extendnumlet"], CharSet.ofLine "5f 202f 203f-2040 2054 fe33-fe34 fe4d-fe4f ff3f"),
    (["extend"], wordExtend),
    (["fo", "format"], plainFormats.difference (CharSet.ofLine "70f 200b")),
    (["hebrewletter", "hl"], wordHebrewLetter),
    (["ka", "katakana"], wordKatakana),
    (["lf"], CharSet.ofLine "a"),
    (["mb", "midnumlet"], CharSet.ofLine "2e 2018-2019 2024 fe52 ff07 ff0e"),
    (["midletter", "ml"], CharSet.ofLine "3a b7 387 55f 5f4 2027 fe13 fe55 ff1a"),
    (["midnum", "mn"],
      CharSet.ofLine "2c 3b 37e 589 60c-60d 66c 7f8 2044 fe50 fe54 ff0c ff1b"),
    (["newline", "nl"], CharSet.ofLine "b-c 85 2028-2029"),
    (["nu", "numeric"], numericCharacters.difference (CharSet.ofLine "66c")),
    (["regionalindicator", "ri"], CharSet.ofTable propertyRegionalIndicator),
    (["singlequote", "sq"], CharSet.ofLine "27"),
    (["wsegspace"],
      (CharSet.ofTable categorySpaceSeparator).difference (CharSet.ofLine "a0 2007 202f")),
    (["zwj"], CharSet.ofLine "200d")
  ]

/-- Full stops, which may also stand within a sentence. -/
def sentenceFullStop : CharSet :=
  CharSet.ofLine "2e 2024 fe52 ff0e"

/-- Signs that end a sentence. -/
def sentenceTerminal : CharSet :=
  (CharSet.ofTable propertySentenceTerminal).difference sentenceFullStop

/-- Marks within sentences and the joiner. -/
def sentenceExtend : CharSet :=
  CharSet.union followingMarks (CharSet.ofLine "200d")

/-- Small letters; Georgian letters count as letters without case. -/
def sentenceLower : CharSet :=
  (CharSet.ofTable propertyLowercase).difference
    (CharSet.ofTable (["10d0-10fa 10fd-10ff"] ++ propertyGraphemeExtend))

/-- Capital letters; Georgian letters count as letters without case. -/
def sentenceUpper : CharSet :=
  (CharSet.ofTable (propertyUppercase ++ categoryTitlecaseLetter)).difference
    (CharSet.ofLine "1c90-1cba 1cbd-1cbf")

/-- Letters without case. -/
def sentenceOtherLetter : CharSet :=
  CharSet.union (CharSet.ofLine "5f3")
    ((CharSet.ofTable propertyAlphabetic).difference
      (CharSet.unions [sentenceLower, sentenceUpper, sentenceExtend]))

/-- Brackets and quotation marks. -/
def sentenceClose : CharSet :=
  let marks := CharSet.ofTable (["22 27 275b-2760 2e00-2e01 2e06-2e08 2e0b 1f676-1f678"] ++
    categoryOpenPunctuation ++ categoryClosePunctuation ++ categoryInitialPunctuation ++
    categoryFinalPunctuation)
  marks.difference (CharSet.unions [sentenceFullStop, sentenceTerminal])

/-- The classes for sentences, each with its names in loose form. -/
def sentenceClasses : List (List String × CharSet) :=
  [
    (["at", "aterm"], sentenceFullStop),
    (["cl", "close"], sentenceClose),
    (["cr"], CharSet.ofLine "d"),
    (["ex", "extend"], sentenceExtend),
    (["fo", "format"], plainFormats),
    (["le", "oletter"], sentenceOtherLetter),
    (["lf"], CharSet.ofLine "a"),
    (["lo", "lower"], sentenceLower),
    (["nu", "numeric"], numericCharacters),
    (["sc", "scontinue"],
      CharSet.ofTable
        ["2c-2d 3a-3b 37e 55d 60c-60d 7f8 1802 1808 2013-2014 3001 fe10-fe11 fe13-fe14",
          "fe31-fe32 fe50-fe51 fe54-fe55 fe58 fe63 ff0c-ff0d ff1a-ff1b ff64"]),
    (["se", "sep"], CharSet.ofLine "85 2028-2029"),
    (["sp"],
      (CharSet.ofTable propertyWhiteSpace).difference (CharSet.ofLine "a d 85 2028-2029")),
    (["st", "sterm"], sentenceTerminal),
    (["up", "upper"], sentenceUpper)
  ]

end Pattern

end RecordSchema
