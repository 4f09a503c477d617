import SchemaContract.Text.Hex

/-!
# Dates, times and durations

The forms of RFC 3339, with leap seconds where they may occur, and the durations of its appendix.
-/

namespace SchemaContract.Format

/-- The value of a digit in a field. The six characters behind the nine go on counting up to 15. -/
def fieldDigit? (c : Char) : Option Nat :=
  if '0' ≤ c ∧ c ≤ '?' then some (c.toNat - 48) else none

/-- The number of a field with two digits. -/
def pair? : List Char → Option Nat
  | [a, b] =>
    match fieldDigit? a, fieldDigit? b with
    | some m, some n => some (10 * m + n)
    | _, _ => none
  | _ => none

def year? (cs : List Char) : Option Nat :=
  match pair? (cs.take 2), pair? (cs.drop 2) with
  | some m, some n => some (100 * m + n)
  | _, _ => none

def isLeapYear (y : Nat) : Bool := (y % 4 == 0 && y % 100 != 0) || y % 400 == 0

def daysIn (year month : Nat) : Nat :=
  match month with
  | 2 => if isLeapYear year then 29 else 28
  | 4 | 6 | 9 | 11 => 30
  | _ => 31

/-- Year, month and day with hyphens between them. -/
def isDate (cs : List Char) : Bool :=
  cs.length == 10 && (cs.drop 4).head? == some '-' && (cs.drop 7).head? == some '-' &&
  match year? (cs.take 4), pair? ((cs.drop 5).take 2), pair? (cs.drop 8) with
  | some y, some m, some d => 1 ≤ m && m ≤ 12 && 1 ≤ d && d ≤ daysIn y m
  | _, _, _ => false

/-- Hour and minute with a colon between them, in minutes. -/
def clock? (cs : List Char) : Option Nat :=
  if cs.length = 5 ∧ (cs.drop 2).head? = some ':' then
    match pair? (cs.take 2), pair? (cs.drop 3) with
    | some h, some m => if h ≤ 23 ∧ m ≤ 59 then some (60 * h + m) else none
    | _, _ => none
  else none

/-- The offset of a zone in minutes. -/
def zone? (cs : List Char) : Option Int :=
  match cs with
  | ['Z'] => some 0
  | ['z'] => some 0
  | '+' :: rest => (clock? rest).map fun n => (n : Int)
  | '-' :: rest => (clock? rest).map fun n => -(n : Int)
  | _ => none

def minutesOfDay : Int := 1440

/-- Drops a point with digits behind it. -/
def dropFraction? (cs : List Char) : Option (List Char) :=
  match cs with
  | '.' :: rest =>
    let digits := rest.takeWhile Char.isDigit
    if digits.isEmpty then none else some (rest.drop digits.length)
  | _ => some cs

/-- A time of day with a zone. A leap second comes at the end of the last minute of a day in UTC. -/
def isTime (cs : List Char) : Bool :=
  match clock? (cs.take 5), (cs.drop 5).head?, pair? ((cs.drop 6).take 2),
      (dropFraction? (cs.drop 8)).bind zone? with
  | some minute, some ':', some second, some offset =>
    second ≤ 59 ||
      (second == 60 && ((minute : Int) - offset) % minutesOfDay == minutesOfDay - 1)
  | _, _, _, _ => false

def isDateTime (cs : List Char) : Bool :=
  isDate (cs.take 10) && ((cs.drop 10).head? == some 'T' || (cs.drop 10).head? == some 't') &&
    isTime (cs.drop 11)

/-- Reads amounts whose units come from the list, in order and each at most once; gives the units
read, or nothing if something else is there. -/
def amounts : List Char → List Char → Option (List Char)
  | [], cs => if cs.isEmpty then some [] else none
  | unit :: units, cs =>
    if cs.isEmpty then some []
    else
      let digits := cs.takeWhile Char.isDigit
      match cs.drop digits.length with
      | c :: rest =>
        if c = unit ∧ !digits.isEmpty then (amounts units rest).map (unit :: ·)
        else amounts units cs
      | [] => none

/-- Weeks stand alone among the date units. -/
def isDuration (cs : List Char) : Bool :=
  match cs with
  | 'P' :: rest =>
    let date := rest.takeWhile (· != 'T')
    match amounts ['Y', 'M', 'W', 'D'] date, rest.drop date.length with
    | some units, [] => !units.isEmpty && (units == ['W'] || !units.contains 'W')
    | some units, _ :: time =>
      (units == ['W'] || !units.contains 'W') &&
        match amounts ['H', 'M', 'S'] time with
        | some times => !times.isEmpty
        | none => false
    | none, _ => false
  | _ => false

end SchemaContract.Format
