import SchemaContract.Text.Blank
import SchemaContract.Unicode.Category
import SchemaContract.Unicode.Data.Property
import SchemaContract.Unicode.Normalization

/-!
# Properties

The properties that a code point has or has not. Many follow from the general category and a table
of what is added to it.
-/

namespace SchemaContract.Unicode

/-! ## Tables -/

def otherAlphabetic : List (Nat × Nat) := ranges Data.otherAlphabetic

def otherLowercase : List (Nat × Nat) := ranges Data.otherLowercase

def otherUppercase : List (Nat × Nat) := ranges Data.otherUppercase

def otherMath : List (Nat × Nat) := ranges Data.otherMath

def otherGraphemeExtend : List (Nat × Nat) := ranges Data.otherGraphemeExtend

def otherIdStart : List (Nat × Nat) := ranges Data.otherIdStart

def otherIdContinue : List (Nat × Nat) := ranges Data.otherIdContinue

def joinControl : List (Nat × Nat) := ranges Data.joinControl

/-! ## Derived properties -/

def isIn (categories : List Category) (n : Nat) : Bool := categories.contains (categoryOf n)

def isAlphabetic (n : Nat) : Bool :=
  isIn (Category.letters ++ [.letterNumber]) n || isWithin otherAlphabetic n

def isLowercase (n : Nat) : Bool :=
  categoryOf n == .lowercaseLetter || isWithin otherLowercase n

def isUppercase (n : Nat) : Bool :=
  categoryOf n == .uppercaseLetter || isWithin otherUppercase n

def isMath (n : Nat) : Bool := categoryOf n == .mathSymbol || isWithin otherMath n

def isGraphemeExtend (n : Nat) : Bool :=
  isIn [.nonspacingMark, .enclosingMark] n || isWithin otherGraphemeExtend n

/-- The pattern syntax character 2E2F is a letter that begins no identifier. -/
def isIdStart (n : Nat) : Bool :=
  (isIn (Category.letters ++ [.letterNumber]) n && n != 0x2E2F) || isWithin otherIdStart n

def isIdContinue (n : Nat) : Bool :=
  isIdStart n ||
    isIn [.nonspacingMark, .spacingMark, .decimalNumber, .connectorPunctuation] n ||
    isWithin otherIdContinue n

/-- A letter or a digit of some script. -/
def isAlphanumeric (n : Nat) : Bool :=
  if n < 0x80 then (Char.ofNat n).isAlphanum else isAlphabetic n || isIn Category.numbers n

/-- A character inside a word; the ASCII ones need no look at the tables. -/
def isWord (n : Nat) : Bool :=
  if n < 0x80 then (Char.ofNat n).isAlphanum || n == 0x5F
  else
    isAlphabetic n || isIn (Category.marks ++ [.decimalNumber, .connectorPunctuation]) n ||
      isWithin joinControl n

/-! ## Named properties -/

inductive Property where
  | asciiHexDigit
  | alphabetic
  | bidiControl
  | bidiMirrored
  | caseIgnorable
  | cased
  | dash
  | defaultIgnorableCodePoint
  | deprecated
  | diacritic
  | emoji
  | emojiComponent
  | emojiModifier
  | emojiModifierBase
  | emojiPresentation
  | extendedPictographic
  | extender
  | graphemeBase
  | graphemeExtend
  | graphemeLink
  | hexDigit
  | hyphen
  | idContinue
  | idStart
  | ideographic
  | idsBinaryOperator
  | idsTrinaryOperator
  | joinControl
  | logicalOrderException
  | lowercase
  | math
  | noncharacterCodePoint
  | otherAlphabetic
  | otherGraphemeExtend
  | otherIdContinue
  | otherIdStart
  | otherLowercase
  | otherMath
  | otherUppercase
  | patternSyntax
  | patternWhiteSpace
  | prependedConcatenationMark
  | quotationMark
  | radical
  | regionalIndicator
  | sentenceTerminal
  | softDotted
  | terminalPunctuation
  | unifiedIdeograph
  | uppercase
  | variationSelector
  | whiteSpace
  | xidContinue
  | xidStart
  deriving DecidableEq, Repr

namespace Property

def all : List Property :=
  [.asciiHexDigit, .alphabetic, .bidiControl, .bidiMirrored, .caseIgnorable, .cased, .dash,
   .defaultIgnorableCodePoint, .deprecated, .diacritic, .emoji, .emojiComponent, .emojiModifier,
   .emojiModifierBase, .emojiPresentation, .extendedPictographic, .extender, .graphemeBase,
   .graphemeExtend, .graphemeLink, .hexDigit, .hyphen, .idContinue, .idStart, .ideographic,
   .idsBinaryOperator, .idsTrinaryOperator, .joinControl, .logicalOrderException, .lowercase,
   .math, .noncharacterCodePoint, .otherAlphabetic, .otherGraphemeExtend, .otherIdContinue,
   .otherIdStart, .otherLowercase, .otherMath, .otherUppercase, .patternSyntax,
   .patternWhiteSpace, .prependedConcatenationMark, .quotationMark, .radical, .regionalIndicator,
   .sentenceTerminal, .softDotted, .terminalPunctuation, .unifiedIdeograph, .uppercase,
   .variationSelector, .whiteSpace, .xidContinue, .xidStart]

/-- The names of a property, in small letters and without separators. -/
def names : Property → List String
  | .asciiHexDigit => ["ahex", "asciihexdigit"]
  | .alphabetic => ["alpha", "alphabetic"]
  | .bidiControl => ["bidic", "bidicontrol"]
  | .bidiMirrored => ["bidim", "bidimirrored"]
  | .caseIgnorable => ["ci", "caseignorable"]
  | .cased => ["cased"]
  | .dash => ["dash"]
  | .defaultIgnorableCodePoint => ["di", "defaultignorablecodepoint"]
  | .deprecated => ["dep", "deprecated"]
  | .diacritic => ["dia", "diacritic"]
  | .emoji => ["emoji"]
  | .emojiComponent => ["ecomp", "emojicomponent"]
  | .emojiModifier => ["emod", "emojimodifier"]
  | .emojiModifierBase => ["ebase", "emojimodifierbase"]
  | .emojiPresentation => ["epres", "emojipresentation"]
  | .extendedPictographic => ["extpict", "extendedpictographic"]
  | .extender => ["ext", "extender"]
  | .graphemeBase => ["grbase", "graphemebase"]
  | .graphemeExtend => ["grext", "graphemeextend"]
  | .graphemeLink => ["grlink", "graphemelink"]
  | .hexDigit => ["hex", "hexdigit"]
  | .hyphen => ["hyphen"]
  | .idContinue => ["idc", "idcontinue"]
  | .idStart => ["ids", "idstart"]
  | .ideographic => ["ideo", "ideographic"]
  | .idsBinaryOperator => ["idsb", "idsbinaryoperator"]
  | .idsTrinaryOperator => ["idst", "idstrinaryoperator"]
  | .joinControl => ["joinc", "joincontrol"]
  | .logicalOrderException => ["loe", "logicalorderexception"]
  | .lowercase => ["lower", "lowercase"]
  | .math => ["math"]
  | .noncharacterCodePoint => ["nchar", "noncharactercodepoint"]
  | .otherAlphabetic => ["oalpha", "otheralphabetic"]
  | .otherGraphemeExtend => ["ogrext", "othergraphemeextend"]
  | .otherIdContinue => ["oidc", "otheridcontinue"]
  | .otherIdStart => ["oids", "otheridstart"]
  | .otherLowercase => ["olower", "otherlowercase"]
  | .otherMath => ["omath", "othermath"]
  | .otherUppercase => ["oupper", "otheruppercase"]
  | .patternSyntax => ["patsyn", "patternsyntax"]
  | .patternWhiteSpace => ["patws", "patternwhitespace"]
  | .prependedConcatenationMark => ["pcm", "prependedconcatenationmark"]
  | .quotationMark => ["qmark", "quotationmark"]
  | .radical => ["radical"]
  | .regionalIndicator => ["ri", "regionalindicator"]
  | .sentenceTerminal => ["sterm", "sentenceterminal"]
  | .softDotted => ["sd", "softdotted"]
  | .terminalPunctuation => ["term", "terminalpunctuation"]
  | .unifiedIdeograph => ["uideo", "unifiedideograph"]
  | .uppercase => ["upper", "uppercase"]
  | .variationSelector => ["vs", "variationselector"]
  | .whiteSpace => ["space", "whitespace", "wspace"]
  | .xidContinue => ["xidc", "xidcontinue"]
  | .xidStart => ["xids", "xidstart"]

def ofName? (s : String) : Option Property := all.find? fun p => p.names.contains s

def holds (p : Property) (n : Nat) : Bool :=
  match p with
  | .asciiHexDigit => isWithin (ranges Data.asciiHexDigit) n
  | .alphabetic => isAlphabetic n
  | .bidiControl => isWithin (ranges Data.bidiControl) n
  | .bidiMirrored => isWithin (ranges Data.bidiMirrored) n
  | .caseIgnorable =>
    isIn [.nonspacingMark, .enclosingMark, .format, .modifierLetter, .modifierSymbol] n ||
      isWithin (ranges Data.otherCaseIgnorable) n
  | .cased => isLowercase n || isUppercase n || categoryOf n == .titlecaseLetter
  | .dash => isWithin (ranges Data.dash) n
  | .defaultIgnorableCodePoint => isWithin (ranges Data.defaultIgnorableCodePoint) n
  | .deprecated => isWithin (ranges Data.deprecated) n
  | .diacritic => isWithin (ranges Data.diacritic) n
  | .emoji => isWithin (ranges Data.emoji) n
  | .emojiComponent => isWithin (ranges Data.emojiComponent) n
  | .emojiModifier => isWithin (ranges Data.emojiModifier) n
  | .emojiModifierBase => isWithin (ranges Data.emojiModifierBase) n
  | .emojiPresentation => isWithin (ranges Data.emojiPresentation) n
  | .extendedPictographic => isWithin (ranges Data.extendedPictographic) n
  | .extender => isWithin (ranges Data.extender) n
  | .graphemeBase =>
    !isIn [.control, .format, .surrogate, .privateUse, .unassigned, .lineSeparator,
      .paragraphSeparator] n && !isGraphemeExtend n
  | .graphemeExtend => isGraphemeExtend n
  | .graphemeLink => combiningClassOf n == 9
  | .hexDigit => isWithin (ranges Data.hexDigit) n
  | .hyphen => isWithin (ranges Data.hyphen) n
  | .idContinue => isIdContinue n
  | .idStart => isIdStart n
  | .ideographic => isWithin (ranges Data.ideographic) n
  | .idsBinaryOperator => isWithin (ranges Data.idsBinaryOperator) n
  | .idsTrinaryOperator => isWithin (ranges Data.idsTrinaryOperator) n
  | .joinControl => isWithin Unicode.joinControl n
  | .logicalOrderException => isWithin (ranges Data.logicalOrderException) n
  | .lowercase => isLowercase n
  | .math => isMath n
  | .noncharacterCodePoint => isWithin (ranges Data.noncharacterCodePoint) n
  | .otherAlphabetic => isWithin Unicode.otherAlphabetic n
  | .otherGraphemeExtend => isWithin Unicode.otherGraphemeExtend n
  | .otherIdContinue => isWithin Unicode.otherIdContinue n
  | .otherIdStart => isWithin Unicode.otherIdStart n
  | .otherLowercase => isWithin Unicode.otherLowercase n
  | .otherMath => isWithin Unicode.otherMath n
  | .otherUppercase => isWithin Unicode.otherUppercase n
  | .patternSyntax => isWithin (ranges Data.patternSyntax) n
  | .patternWhiteSpace => isWithin (ranges Data.patternWhiteSpace) n
  | .prependedConcatenationMark => isWithin (ranges Data.prependedConcatenationMark) n
  | .quotationMark => isWithin (ranges Data.quotationMark) n
  | .radical => isWithin (ranges Data.radical) n
  | .regionalIndicator => isWithin (ranges Data.regionalIndicator) n
  | .sentenceTerminal => isWithin (ranges Data.sentenceTerminal) n
  | .softDotted => isWithin (ranges Data.softDotted) n
  | .terminalPunctuation => isWithin (ranges Data.terminalPunctuation) n
  | .unifiedIdeograph => isWithin (ranges Data.unifiedIdeograph) n
  | .uppercase => isUppercase n
  | .variationSelector => isWithin (ranges Data.variationSelector) n
  | .whiteSpace => isWithin Text.blankRanges n
  | .xidContinue => isIdContinue n && !isWithin (ranges Data.notXidContinue) n
  | .xidStart => isIdStart n && !isWithin (ranges Data.notXidStart) n

end Property

end SchemaContract.Unicode
