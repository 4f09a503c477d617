import SchemaContract.Format.HostMapping
import SchemaContract.Format.Hostname
import SchemaContract.Format.Punycode
import SchemaContract.Unicode.Category
import SchemaContract.Unicode.Direction

/-!
# International host names

A host name with letters beyond ASCII is mapped and cut into labels; a label that begins with `xn--`
stands for the one it encodes. Each label has to be well formed by itself, with joiners only where
they have an effect; if a letter is written from right to left, the labels must not mix directions;
the encoded labels have to fit; and some characters are bound to their surroundings.
-/

namespace SchemaContract.Format

open Unicode

/-- The label that a label stands for. -/
def labelOf? (label : List Nat) : Option (List Nat) :=
  match label with
  | 0x78 :: 0x6E :: 0x2D :: 0x2D :: encoded =>
    match Punycode.decode? encoded with
    | some decoded =>
      if decoded.all Punycode.isBasic || HostMapping.mapped decoded != decoded then none
      else some decoded
    | none => none
  | _ => some label

/-! ## Joiners -/

/-- The combining class of the signs that join letters. -/
def viramaClass : Nat := 9

def isVirama (n : Nat) : Bool := combiningClassOf n == viramaClass

/-- Whether the letters nearest to a place, with transparent ones skipped, join across it. -/
def joinsAcross (before after : List Nat) : Bool :=
  let next (text : List Nat) : Option Joining :=
    (text.dropWhile fun n => joiningOf n == .transparent).head?.map joiningOf
  (next before == some .leftJoining || next before == some .dualJoining) &&
    (next after == some .rightJoining || next after == some .dualJoining)

/-- Whether the joiners of a text stand where they may; the first argument holds the characters
before it, last first. -/
def hasGoodJoiners : List Nat → List Nat → Bool
  | _, [] => true
  | before, n :: rest =>
    (match n with
      | 0x200C => before.head?.any isVirama || joinsAcross before rest
      | 0x200D => before.head?.any isVirama
      | _ => true) && hasGoodJoiners (n :: before) rest

def isGoodLabel (label : List Nat) : Bool :=
  !label.isEmpty && label.head? != some 0x2D && label.getLast? != some 0x2D &&
    (label.drop 2).take 2 != [0x2D, 0x2D] && label.all HostMapping.isAllowed &&
    !(label.head?.any fun n => Category.marks.contains (categoryOf n)) && hasGoodJoiners [] label

/-! ## Directions -/

/-- The directions of a label but for the nonspacing marks at its end. -/
def withoutFinalMarks (directions : List Direction) : List Direction :=
  (directions.reverse.dropWhile (· == .nonspacingMark)).reverse

/-- The directions that both kinds of labels may hold. -/
def neutralDirections : List Direction :=
  [.europeanNumber, .europeanSeparator, .europeanTerminator, .commonSeparator, .nonspacingMark,
   .boundaryNeutral, .otherNeutral]

/-- The directions of letters and numbers in a label that is written from right to left. -/
def directionsFromRight : List Direction := [.rightToLeft, .arabicLetter, .arabicNumber]

/-- A label that does not mix directions. -/
def isOneWay (label : List Nat) : Bool :=
  let directions := label.map directionOf
  let last := (withoutFinalMarks directions).getLast?
  match directions with
  | .leftToRight :: _ =>
    directions.all (fun d => d == .leftToRight || neutralDirections.contains d) &&
      last.any fun d => d == .leftToRight || d == .europeanNumber
  | .rightToLeft :: _ | .arabicLetter :: _ =>
    directions.all (fun d => (directionsFromRight ++ neutralDirections).contains d) &&
      last.any (fun d => directionsFromRight.contains d || d == .europeanNumber) &&
      !(directions.contains .arabicNumber && directions.contains .europeanNumber)
  | _ => false

/-! ## Lengths -/

/-- The number of characters of the encoded label. -/
def encodedLength (label : List Nat) : Nat :=
  if label.all Punycode.isBasic then label.length else 4 + (Punycode.encode label).length

/-! ## Surroundings -/

def within (low high n : Nat) : Bool := low ≤ n && n ≤ high

def isKanaOrIdeograph (n : Nat) : Bool :=
  within 0x3040 0x309F n || (within 0x30A0 0x30FF n && n != 0x30FB) || within 0x4E00 0x9FFF n

/-- Letters and marks that no host name may hold all the same. -/
def isRefused (n : Nat) : Bool :=
  [0x640, 0x7FA, 0x302E, 0x302F, 0x303B].contains n || within 0x3031 0x3035 n

/-- Whether the characters of a text fit their neighbours: a middle dot stands between two `l`, a
Greek numeral sign before a Greek letter, the Hebrew signs behind a Hebrew letter. -/
def fitNeighbours : Option Nat → List Nat → Bool
  | _, [] => true
  | before, n :: rest =>
    (match n with
      | 0xB7 => before == some 0x6C && rest.head? == some 0x6C
      | 0x375 => rest.head?.any (within 0x370 0x3FF)
      | 0x5F3 | 0x5F4 => before.any (within 0x590 0x5FF)
      | _ => !isRefused n) && fitNeighbours (some n) rest

/-- Whether the characters of a host name fit together: a katakana middle dot needs kana or
ideographs, and the two sets of Arabic digits do not mix. -/
def fitTogether (host : List Nat) : Bool :=
  fitNeighbours none host && (!host.contains 0x30FB || host.any isKanaOrIdeograph) &&
    !(host.any (within 0x660 0x669) && host.any (within 0x6F0 0x6F9))

def labelsOf (host : List Nat) : List (List Nat) :=
  (Text.pieces '.' (host.map Char.ofNat)).map (·.map Char.toNat)

def isInternationalHostname (cs : List Char) : Bool :=
  match (labelsOf (HostMapping.mapped (cs.map Char.toNat))).mapM labelOf? with
  | none => false
  | some labels =>
    labels.all isGoodLabel &&
      (!labels.any (·.any fun n => directionsFromRight.contains (directionOf n)) ||
        labels.all isOneWay) &&
      labels.all (encodedLength · ≤ maxLabel) &&
      labels.foldl (fun n label => n + encodedLength label + 1) 0 ≤ maxHostname + 1 &&
      fitTogether (List.intercalate [0x2E] labels)

end SchemaContract.Format
