import SchemaContract.Text.Quoted
import SchemaContract.Unicode.Data.Width
import SchemaContract.Unicode.Direction

/-!
# Columns of a text

The number of terminal columns that a text fills: none for combining marks and format characters,
two for wide characters, one for all others. Sequences of characters that show as one sign count
once, so a text is read from its end, and what was read last decides how much the next character
adds.
-/

namespace SchemaContract.Text

open Unicode

def wide : List (Nat × Nat) := ranges Data.wide

/-- Wide signs that are narrow with the selector for text behind them. -/
def narrowed : List (Nat × Nat) := ranges Data.narrowed

def within (low high n : Nat) : Bool := low ≤ n && n ≤ high

def hangulFiller : Nat := 0x115F

/-- Format characters, and vowels and finals that are drawn into the letter before. -/
def isDrawnElsewhere (n : Nat) : Bool :=
  [0x605, 0x70F, 0x890, 0x891, 0x8E2, 0xA8FA, 0xCC0, 0xCC7, 0xCC8, 0xCCA, 0xCCB, 0x1B3B, 0x1B3D,
    0x1B43].contains n ||
  within 0x1160 0x11FF n || within 0xD7B0 0xD7C6 n || within 0xD7CB 0xD7FB n

/-- The sign that joins the consonants of the Tifinagh script, which has a place of its own. -/
def tifinaghJoiner : Nat := 0x2D7F

def columnsOf (n : Nat) : Int :=
  if n ≤ 0xA0 || n = tifinaghJoiner then 1
  else if n = hangulFiller then 2
  else if Property.defaultIgnorableCodePoint.holds n || isDrawnElsewhere n ||
      (isGraphemeExtend n && !isHalfwidthSoundMark n) then 0
  else if isWithin wide n then 2
  else 1

/-! ## Sequences -/

/-- What the text behind a place begins with. -/
inductive Beginning where
  | plain
  | lineFeed
  | emoji
  | joinedEmoji
  | joinedKeycap
  | skinTone
  | flagLetter
  | alef
  | lamed
  | joinedLamed
  | ya
  | joinedYa
  | vowelBeforeYa
  | tifinagh
  | joinedTifinagh
  | tifinaghBehindJoiner
  | lisuTone
  | turkic
  | joinedTurkic
  | khmer
  deriving DecidableEq, Repr

/-- The selectors that ask for an emoji or for a plain sign. -/
inductive Selector where
  | emoji
  | text
  deriving DecidableEq, Repr

/-- The beginning of the text behind a place, and a selector in front of it. -/
structure Ahead where
  beginning : Beginning
  selector : Option Selector
  deriving DecidableEq, Repr

def Ahead.of (b : Beginning) : Ahead := ⟨b, none⟩

namespace Beginning

def isJoinedEmoji (b : Beginning) : Bool := b == .joinedEmoji || b == .joinedKeycap

/-- Letters that are seen through a joiner, with those that have one in front. -/
def joined? : Beginning → Option Beginning
  | .lamed | .joinedLamed => some .joinedLamed
  | .ya | .joinedYa => some .joinedYa
  | .tifinagh | .joinedTifinagh => some .joinedTifinagh
  | .turkic | .joinedTurkic => some .joinedTurkic
  | .vowelBeforeYa => some .vowelBeforeYa
  | .tifinaghBehindJoiner => some .tifinaghBehindJoiner
  | .lisuTone => some .lisuTone
  | .khmer => some .khmer
  | _ => none

/-- Whether a selector for text leaves the beginning in view. -/
def isSeenThrough (b : Beginning) : Bool := b.joined?.isSome || b == .alef

end Beginning

def isKhmerLetter (n : Nat) : Bool :=
  within 0x1780 0x1782 n || within 0x1784 0x1787 n || within 0x1789 0x178C n ||
    within 0x178E 0x1793 n || within 0x1795 0x1798 n || within 0x179B 0x179D n ||
    [0x17A0, 0x17A2, 0x17A7, 0x17AB, 0x17AC, 0x17AF].contains n

def isAlef (n : Nat) : Bool :=
  [0x622, 0x623, 0x625, 0x627, 0x671, 0x672, 0x673, 0x675, 0x773, 0x774].contains n ||
    within 0x870 0x882 n

def isLam (n : Nat) : Bool :=
  within 0x6B5 0x6B8 n || [0x644, 0x76A, 0x8A6, 0x8C7].contains n

def isTifinagh (n : Nat) : Bool := within 0x2D31 0x2D65 n || n == 0x2D6F

def isFlagLetter (n : Nat) : Bool := within 0x1F1E6 0x1F1FF n

def beginningOf (n : Nat) : Beginning :=
  if n ≤ 0xA0 then (if n = 0x0A then .lineFeed else .plain)
  else if Property.emojiModifier.holds n then .skinTone
  else if isFlagLetter n then .flagLetter
  else if Property.emojiPresentation.holds n then .emoji
  else if isAlef n then .alef
  else if n = 0x5DC then .lamed
  else if n = 0x1A10 then .ya
  else if isTifinagh n then .tifinagh
  else if within 0xA4FC 0xA4FD n then .lisuTone
  else if n = 0x10C03 then .turkic
  else if isKhmerLetter n then .khmer
  else .plain

/-- A character that the selector makes an emoji. -/
def becomesEmoji (n : Nat) : Bool :=
  Property.emoji.holds n && !isFlagLetter n && !Property.emojiModifier.holds n

/-- Characters of no width that letters are seen through. -/
def isSeenAcross (n : Nat) : Bool :=
  [0x34F, 0x17B4, 0x17B5, 0x180F].contains n || within 0x180B 0x180D n || within 0xFE00 0xFE0F n ||
    within 0xE0100 0xE01EF n

def joiner : Nat := 0x200D

def textSelector : Nat := 0xFE0E

def emojiSelector : Nat := 0xFE0F

/-- What a character adds if it makes up a sequence with the beginning behind it, and the beginning
it gives. -/
def inSequence? (n : Nat) (b : Beginning) : Option (Int × Beginning) :=
  let only (sign : Nat) (columns : Int) (next : Beginning) : Option (Int × Beginning) :=
    if n = sign then some (columns, next) else none
  match b with
  | .lineFeed => only 0x0D 0 .plain
  | .alef =>
    if isLam n then some (0, .plain)
    else if columnsOf n = 0 ∧ joiningOf n = .transparent then some (0, .alef)
    else none
  | .joinedLamed => only 0x5D0 0 .plain
  | .joinedYa => only 0x1A17 0 .vowelBeforeYa
  | .vowelBeforeYa => only 0x1A15 0 .plain
  | .tifinagh => only tifinaghJoiner 1 .tifinaghBehindJoiner
  | .joinedTifinagh =>
    if n = tifinaghJoiner then some (1, .tifinaghBehindJoiner)
    else if isTifinagh n then some (0, .plain)
    else none
  | .tifinaghBehindJoiner => if isTifinagh n then some (-1, .plain) else none
  | .lisuTone => if within 0xA4F8 0xA4FB n then some (0, .plain) else none
  | .joinedTurkic => only 0x10C32 0 .plain
  | .khmer => only 0x17D2 (-1) .plain
  | .skinTone =>
    if Property.emojiModifierBase.holds n then some (0, .emoji) else only joiner 0 .joinedEmoji
  | .emoji => only joiner 0 .joinedEmoji
  | .joinedEmoji =>
    if n = 0x20E3 then some (0, .joinedKeycap)
    else if Property.emojiModifier.holds n then some (0, .skinTone)
    else if beginningOf n = .emoji then some (0, .emoji)
    else none
  | _ => none

/-- What a character adds in front of a text, and what the text begins with then. -/
def columnsBefore (n : Nat) (a : Ahead) : Int × Ahead :=
  if a.selector = some .emoji ∧ becomesEmoji n then
    (if a.beginning.isJoinedEmoji then 0 else 2, .of .emoji)
  else if n = emojiSelector then
    let seen := a.beginning.isSeenThrough || a.beginning.isJoinedEmoji
    (0, ⟨if seen then a.beginning else .plain, some .emoji⟩)
  else if n = textSelector then
    (0, ⟨if a.beginning.isSeenThrough then a.beginning else .plain, some .text⟩)
  else if a.selector = some .text ∧ isWithin narrowed n then (1, .of .plain)
  else
    match if n = joiner then a.beginning.joined? else none, inSequence? n a.beginning with
    | some b, _ => (0, .of b)
    | none, some (columns, b) => (columns, .of b)
    | none, none =>
      if a.beginning.joined?.isSome ∧ isSeenAcross n then (0, .of a.beginning)
      else (columnsOf n, .of (beginningOf n))

/-- The columns of a text with those of what its last characters begin. -/
def columnsFrom : List Char → Int × Ahead
  | [] => (0, .of .plain)
  | c :: rest =>
    let (columns, ahead) := columnsFrom rest
    let (more, ahead) := columnsBefore c.toNat ahead
    (columns + more, ahead)

def columns (s : String) : Nat := (columnsFrom s.toList).1.toNat

end SchemaContract.Text
