import SchemaContract.Text.Hex
import SchemaContract.Text.Pieces

/-!
# Network addresses

The written forms of IPv4 and IPv6 addresses.
-/

namespace SchemaContract.Address

/-- A decimal number from 0 to 255 without leading zeros. -/
def isOctet (cs : List Char) : Bool :=
  match cs with
  | [] => false
  | '0' :: _ :: _ => false
  | cs => cs.all Char.isDigit && cs.length ≤ 3 && Text.decimalValue cs ≤ 255

def isIpv4 (cs : List Char) : Bool :=
  let parts := Text.pieces '.' cs
  parts.length == 4 && parts.all isOctet

/-! ## IPv6 -/

/-- What can come next in an IPv6 address: a group with or without a colon before it, the double
colon for groups left out, octets instead of the last two groups, or a colon with nothing behind
it. -/
inductive Item where
  | group (colon : Bool) (value : Nat)
  | gap
  | octets (colon : Bool)
  | colon
  deriving DecidableEq, Repr

/-- The group or the octets behind a colon, or without one. -/
def numberItem (colon : Bool) (cs : List Char) : Option Item × List Char :=
  let digits := (cs.take 4).takeWhile Text.isHexDigit
  match digits.length, cs.drop digits.length with
  | 0, _ => (if colon then some .colon else none, cs)
  | 4, rest => (some (.group colon ((Text.hexNumber? digits).getD 0)), rest)
  | _, [] => (none, [])
  | _, '.' :: _ => (some (.octets colon), cs)
  | _, rest => (some (.group colon ((Text.hexNumber? digits).getD 0)), rest)

/-- The next item, nothing if the address ends here. Digits at the end of the text are read over. -/
def nextItem (cs : List Char) : Option Item × List Char :=
  match cs with
  | ':' :: ':' :: rest => (some .gap, rest)
  | ':' :: rest => numberItem true rest
  | _ => numberItem false cs

def readOctet (cs : List Char) : Option (Nat × List Char) :=
  match cs with
  | '0' :: rest => some (0, rest)
  | _ =>
    let digits := (cs.take 3).takeWhile Char.isDigit
    let n := Text.decimalValue digits
    if digits.isEmpty ∨ n > 255 then none else some (n, cs.drop digits.length)

/-- So many octets, each behind a point. -/
def readOctets : Nat → List Char → Option (List Nat × List Char)
  | 0, cs => some ([], cs)
  | n + 1, '.' :: cs =>
    match readOctet cs with
    | none => none
    | some (v, rest) => (readOctets n rest).map fun r => (v :: r.1, r.2)
  | _, _ => none

/-- The groups of an address in reverse, and how many of them stand before the double colon. -/
structure Groups where
  found : List Nat
  gap : Option Nat

/-- Whether the next group is the first one or stands right behind the double colon, so that no
colon comes before it. -/
def Groups.atGap (g : Groups) : Bool := g.gap == some g.found.length

def maxGroups : Nat := 8

/-- Reads items up to the end of the address or to the last group. -/
def readItems : Nat → Groups → List Char → Option (Groups × List Char)
  | 0, g, cs => some (g, cs)
  | steps + 1, g, cs =>
    if g.found.length = maxGroups then some (g, cs)
    else
      match nextItem cs with
      | (none, rest) => some (g, rest)
      | (some .colon, _) => none
      | (some .gap, rest) =>
        if g.gap.isSome then none else readItems steps { g with gap := some g.found.length } rest
      | (some (.group colon v), rest) =>
        if colon == (g.found.isEmpty || g.atGap) then none
        else readItems steps { g with found := v :: g.found } rest
      | (some (.octets colon), rest) =>
        if g.found.length + 2 > maxGroups ∨ colon = g.atGap then none
        else
          match readOctets 4 ('.' :: rest) with
          | some ([a, b, c, d], rest) =>
            some ({ g with found := (256 * c + d) :: (256 * a + b) :: g.found }, rest)
          | _ => none

/-- All eight groups, with zeros in place of the double colon. -/
def Groups.complete? (g : Groups) : Option (List Nat) :=
  match g.gap with
  | none => if g.found.length = maxGroups then some g.found.reverse else none
  | some k =>
    let missing := maxGroups - g.found.length
    if missing = 0 then none
    else some (g.found.reverse.take k ++ List.replicate missing 0 ++ g.found.reverse.drop k)

/-- What stands at the front of a text: an address, the start of a wrong one, or nothing of the
kind. -/
inductive Reading where
  | found (groups : List Nat) (rest : List Char)
  | wrong
  | nothing
  deriving DecidableEq, Repr

/-- Reads an address at the front. It may be followed by anything, but not by the end. -/
def readIpv6 (cs : List Char) : Reading :=
  match (readItems (maxGroups + 1) ⟨[], none⟩ cs).bind fun r => r.1.complete?.map (·, r.2) with
  | some (groups, rest) => .found groups rest
  | none =>
    match nextItem cs with
    | (none, rest) => if rest.length = cs.length then .nothing else .wrong
    | (some (.octets false), _) => .nothing
    | _ => .wrong

/-- Eight groups, or fewer with one double colon for the groups left out. -/
def isIpv6 (cs : List Char) : Bool :=
  match readIpv6 (cs ++ [']']) with
  | .found _ rest => rest == [']']
  | _ => false

/-- The position and the length of the longest row of zeros, the first one of several. -/
def longestZeros : Nat → List Nat → Nat × Nat
  | _, [] => (0, 0)
  | i, v :: vs =>
    let here := ((v :: vs).takeWhile (· == 0)).length
    let later := longestZeros (i + 1) vs
    if later.2 ≤ here then (i, here) else later

def groupsText (groups : List Nat) : List Char :=
  ((groups.map fun g => Text.hexDigits g).intersperse [':']).flatten

/-- The shortest text of an address: two or more zeros in a row become a double colon, and the
addresses that stand for IPv4 ones show their octets. -/
def ipv6Text (groups : List Nat) : List Char :=
  match groups with
  | [0, 0, 0, 0, 0, 0xFFFF, a, b] =>
    "::ffff:".toList ++
      (([a / 256, a % 256, b / 256, b % 256].map fun n => Nat.toDigits 10 n).intersperse
        ['.']).flatten
  | _ =>
    let (start, count) := longestZeros 0 groups
    if count ≤ 1 then groupsText groups
    else groupsText (groups.take start) ++ [':', ':'] ++ groupsText (groups.drop (start + count))

end SchemaContract.Address
