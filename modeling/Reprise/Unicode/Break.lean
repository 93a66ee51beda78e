import Reprise.Unicode.Property

/-!
# Where graphemes, words and sentences may end (Unicode 16)

Three properties sort characters by what they do to the ends of graphemes, words and sentences.
Most of their values follow from the general category and other properties; the tables hold the
rest.  A character without a value of its own has the value `Other`, which cannot be asked for.
-/

namespace Reprise.Unicode.Break

open Text Category

/-! ## Tables -/

/-- Letters that combine with the letter after them. -/
def prepended : CodeSet := .ofText ["zGe1yxzj2Md1xHd111Do1y96Rs1Jr1"]

/-- Spacing marks that begin a grapheme of their own. -/
def freeSpacing : CodeSet := .ofText ["Axb2b1x9327l13621a3yK4112xAwm111XB22"]

/-- Leading consonants of Hangul syllables. -/
def leadingJamo : CodeSet := .ofText ["AE0z0xCw0t"]

/-- Vowels of Hangul syllables, and of other scripts that join vowels. -/
def vowelJamo : CodeSet := .ofText ["AH0y8xNM8nxBIs134"]

/-- Trailing consonants of Hangul syllables. -/
def trailingJamo : CodeSet := .ofText ["AJ8yoxNKbxh"]

/-- Katakana letters and the marks between and behind them. -/
def katakanaLike : CodeSet := .ofText [
    "Ixh5z523yr14DggCgxf1yoxPwexoxIyi4171211Ev3xi1e4"]

/-- Letters of the Hebrew script. -/
def hebrewLetters : CodeSet := .ofText ["xKgr44xZFa11a1d151112121a"]

/-- Signs that hold words together like letters. -/
def letterLike : CodeSet := .ofText [
    "S24c66257111hOq311xb1z81Er1xD-of92z72+g1"]

/-- Letters of scripts that write words without spaces. -/
def unspacedLetters : CodeSet := .ofText [
    "zM1xg12c7xq211151o111a12912511l4F0xbk1g6443132734dc1xThxkx3141Hju25bxc4qymxlyi1BIpym63+G051a",
    "a5z1n313xi1132252111o3Xx2rx57xCBqEvi1t3"]

/-- Signs that join letters. -/
def midLetter : CodeSet := .ofText ["xq1zs1Sf1Kn1Ak1CNi1xTLb1y11C41"]

/-- Signs that join digits. -/
def midNumber : CodeSet := .ofText ["xc1e1W21Ma1A22yu1Ib1Cyb1xTMb131Bn1e1"]

/-- Signs that join letters and digits. -/
def midBoth : CodeSet := .ofText ["xe1D-92a1xTNd1Bk161"]

/-- Quotation marks that are no opening or closing punctuation. -/
def quotesBesides : CodeSet := .ofText ["x2141FVj6xQv24321zOza3"]

/-- Signs behind which a sentence goes on. -/
def sentenceContinues : CodeSet := .ofText [
    "xc2c2W21Ku1Be2La1Aw9151ywa2z-c1xPMe212s2t22221a1B82c2y81"]

/-! ## Characters that the properties share -/

def carriageReturn : CodeSet := .single '\r'

def lineFeed : CodeSet := .single '\n'

def joiner : CodeSet := .single '\u200d'

/-- Formats that enclose digits, and so count as digits. -/
def numberMarks : CodeSet := prependedMark.diff (.ofRange 0x70f 0x70f)

/-- Digits, the marks around them, the decimal separator, and a New Tai Lue digit one that is no
decimal digit. -/
def numeric : CodeSet := .unions [decimalNumber.chars, numberMarks, .ofCodes [0x66b, 0x19da]]

/-! ## Graphemes -/

def graphemeExtending : CodeSet := graphemeExtend.union emojiModifier

def graphemeControl : CodeSet :=
  .diff
    (.unions [charsOf [control, format, lineSeparator, paragraphSeparator],
      unassigned.chars.inter defaultIgnorable])
    (.unions [carriageReturn, lineFeed, joinControl, prependedMark, graphemeExtending])

def spacingMarks : CodeSet :=
  .diff (.unions [spacingMark.chars, .single '\u0e33', .single '\u0eb3'])
    (graphemeExtending.union freeSpacing)

/-- Hangul syllables without a trailing consonant: every 28th. -/
def openSyllables : CodeSet := .ofCodes ((List.range 399).map (0xac00 + 28 * ·))

def closedSyllables : CodeSet := (CodeSet.ofRange 0xac00 0xd7a3).diff openSyllables

/-! ## Words -/

def wordExtending : CodeSet :=
  (CodeSet.unions [graphemeExtending, spacingMark.chars]).diff joiner

def wordLetters : CodeSet :=
  alphabetic.diff
      (.unions [ideographic, katakanaLike, hebrewLetters, wordExtending, unspacedLetters])
    |>.union letterLike

/-! ## Sentences -/

/-- Georgian letters, whose cases do not mark the start of a sentence. -/
def georgianLetters : CodeSet :=
  .unions [.ofRange 0x10d0 0x10fa, .ofRange 0x10fd 0x10ff, .ofRange 0x1c90 0x1cba,
    .ofRange 0x1cbd 0x1cbf]

def sentenceExtending : CodeSet := .unions [graphemeExtend, spacingMark.chars, joiner]

def sentenceUpper : CodeSet := (uppercase.union titleLetter.chars).diff georgianLetters

def sentenceLower : CodeSet := lowercase.diff (georgianLetters.union sentenceExtending)

def sentenceLetters : CodeSet :=
  (alphabetic.union (CodeSet.single '\u05f3')).diff
    (.unions [sentenceUpper, sentenceLower, sentenceExtending])

/-- Spaces that do not separate. -/
def unbrokenSpaces : CodeSet := .ofCodes [0xa0, 0x2007, 0x202f]

/-- Full stops, which may also end an abbreviation. -/
def fullStops : CodeSet :=
  .unions [.single '.', .single '\u2024', .single '\ufe52', .single '\uff0e']

def sentenceEnds : CodeSet := sentenceTerminal.diff fullStops

def separators : CodeSet := .unions [.single '\x85', .ofRange 0x2028 0x2029]

/-! ## The properties -/

/-- A value of a property: its long name, its short names, and the characters that have it. -/
abbrev Value := Property

/-- A property with values: its names and its values. -/
structure Valued where
  names : List String
  values : List Value

def graphemeClusterBreak : Valued where
  names := ["Grapheme_Cluster_Break", "GCB"]
  values := [
    ⟨"CR", [], carriageReturn⟩, ⟨"LF", [], lineFeed⟩, ⟨"Control", ["CN"], graphemeControl⟩,
    ⟨"Extend", ["EX"], graphemeExtending⟩, ⟨"ZWJ", [], joiner⟩,
    ⟨"Regional_Indicator", ["RI"], regionalIndicator⟩,
    ⟨"Prepend", ["PP"], prependedMark.union prepended⟩, ⟨"SpacingMark", ["SM"], spacingMarks⟩,
    ⟨"L", [], leadingJamo⟩, ⟨"V", [], vowelJamo⟩, ⟨"T", [], trailingJamo⟩,
    ⟨"LV", [], openSyllables⟩, ⟨"LVT", [], closedSyllables⟩]

def wordBreak : Valued where
  names := ["Word_Break", "WB"]
  values := [
    ⟨"CR", [], carriageReturn⟩, ⟨"LF", [], lineFeed⟩,
    ⟨"Newline", ["NL"], separators.union (.ofRange 0xb 0xc)⟩, ⟨"Extend", [], wordExtending⟩,
    ⟨"ZWJ", [], joiner⟩,
    ⟨"Format", ["FO"], format.chars.diff
      (.unions [.ofRange 0x200b 0x200d, prependedMark, wordExtending])⟩,
    ⟨"Katakana", ["KA"], katakanaLike⟩, ⟨"Hebrew_Letter", ["HL"], hebrewLetters⟩,
    ⟨"ALetter", ["LE"], wordLetters⟩, ⟨"Single_Quote", ["SQ"], .ofRange 0x27 0x27⟩,
    ⟨"Double_Quote", ["DQ"], .ofRange 0x22 0x22⟩, ⟨"MidNumLet", ["MB"], midBoth⟩,
    ⟨"MidLetter", ["ML"], midLetter⟩, ⟨"MidNum", ["MN"], midNumber⟩, ⟨"Numeric", ["NU"], numeric⟩,
    ⟨"ExtendNumLet", ["EX"], connectorPunctuation.chars.union (.ofRange 0x202f 0x202f)⟩,
    ⟨"Regional_Indicator", ["RI"], regionalIndicator⟩,
    ⟨"WSegSpace", [], spaceSeparator.chars.diff unbrokenSpaces⟩]

def sentenceBreak : Valued where
  names := ["Sentence_Break", "SB"]
  values := [
    ⟨"CR", [], carriageReturn⟩, ⟨"LF", [], lineFeed⟩, ⟨"Sep", ["SE"], separators⟩,
    ⟨"Extend", ["EX"], sentenceExtending⟩,
    ⟨"Format", ["FO"], format.chars.diff
      (.unions [joinControl, numberMarks, sentenceExtending])⟩,
    ⟨"Sp", [], whiteSpace.diff (.unions [carriageReturn, lineFeed, separators])⟩,
    ⟨"Lower", ["LO"], sentenceLower⟩, ⟨"Upper", ["UP"], sentenceUpper⟩,
    ⟨"OLetter", ["LE"], sentenceLetters⟩,
    ⟨"Numeric", ["NU"], numeric.union (.ofRange 0x66c 0x66c)⟩, ⟨"ATerm", ["AT"], fullStops⟩,
    ⟨"SContinue", ["SC"], sentenceContinues⟩, ⟨"STerm", ["ST"], sentenceEnds⟩,
    ⟨"Close", ["CL"],
      (charsOf [openPunctuation, closePunctuation, initialPunctuation, finalPunctuation]).union
        quotesBesides⟩]

/-- The properties whose values are sets of characters. -/
def valuedProperties : List Valued := [graphemeClusterBreak, wordBreak, sentenceBreak]

end Reprise.Unicode.Break
