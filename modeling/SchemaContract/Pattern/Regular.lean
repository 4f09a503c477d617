import SchemaContract.Pattern.CharSet
import SchemaContract.Pattern.Place

/-!
# Regular expressions

The expressions that can be matched in one pass. `Regular.ends` takes places in order of preference
and gives those that the matches from them end at, in order of preference and each once, so a loop
never enters a place twice and its work is bounded by the number of places. A round that reads
nothing is the last one of an unbounded loop.
-/

namespace SchemaContract.Pattern

inductive Regular where
  | empty
  | set (set : CharSet)
  | anchor (anchor : Anchor)
  | seq (first second : Regular)
  | either (first second : Regular)
  | exactly (count : Nat) (body : Regular)
  | atMost (count : Nat) (greedy : Bool) (body : Regular)
  | many (greedy : Bool) (body : Regular)
  deriving Repr

/-- Adds a place to those already found, which come last first. -/
def addNew (found : List Place) (p : Place) : List Place :=
  if p.isAmong found then found else p :: found

def distinct (ps : List Place) : List Place := (ps.foldl addNew []).reverse

/-- Adds to the ends already found, last first, those of any number of rounds from a place. The
first argument bounds the number of rounds. -/
def manyFrom (step : Place → List Place) (greedy : Bool) :
    Nat → List Place → Place → List Place
  | 0, found, p => addNew found p
  | rounds + 1, found, p =>
    if p.isAmong found then found
    else
      let goOn (found : List Place) (q : Place) : List Place :=
        if p.position < q.position then manyFrom step greedy rounds found q else addNew found p
      if greedy then addNew ((step p).foldl goOn found) p else (step p).foldl goOn (p :: found)

/-- Adds the ends of at most so many rounds, each with the rounds that were left there. -/
def upToFrom (step : Place → List Place) (greedy : Bool) :
    Nat → List (Nat × Place) → Place → List (Nat × Place)
  | 0, found, p => (0, p) :: found
  | rounds + 1, found, p =>
    if found.any fun f => f.1 == rounds + 1 && f.2.position == p.position then found
    else
      let next := step p
      if greedy then (rounds + 1, p) :: next.foldl (upToFrom step greedy rounds) found
      else next.foldl (upToFrom step greedy rounds) ((rounds + 1, p) :: found)

/-- The ends of exactly so many rounds. -/
def exactlyFrom (step : List Place → List Place) : Nat → List Place → List Place
  | 0, ps => ps
  | rounds + 1, ps => if ps.isEmpty then [] else exactlyFrom step rounds (step ps)

namespace Regular

def sequence : List Regular → Regular
  | [] => .empty
  | [r] => r
  | r :: rest => .seq r (sequence rest)

def choice : List Regular → Regular
  | [] => .empty
  | [r] => r
  | r :: rest => .either r (choice rest)

def repeated (low : Nat) (high : Option Nat) (greedy : Bool) (r : Regular) : Regular :=
  match low, high with
  | 0, none => .many greedy r
  | 0, some h => .atMost h greedy r
  | l, none => .seq (.exactly l r) (.many greedy r)
  | l, some h => if h ≤ l then .exactly l r else .seq (.exactly l r) (.atMost (h - l) greedy r)

/-- The ends of the matches from the given places. -/
def ends : Regular → List Place → List Place
  | .empty, ps => ps
  | .set s, ps => ps.filterMap fun p => (p.advance?.filter fun r => s.has r.1).map (·.2)
  | .anchor a, ps => ps.filter a.holds
  | .seq a b, ps => b.ends (a.ends ps)
  | .either a b, ps => distinct (ps.flatMap fun p => a.ends [p] ++ b.ends [p])
  | .exactly count r, ps => exactlyFrom r.ends count ps
  | .atMost count greedy r, ps =>
    distinct ((ps.foldl (upToFrom (fun p => r.ends [p]) greedy count) []).map (·.2)).reverse
  | .many greedy r, ps =>
    let rounds := ps.foldl (fun n p => max n (p.after.length + 1)) 0
    (ps.foldl (manyFrom (fun p => r.ends [p]) greedy rounds) []).reverse

/-- Whether some part of a text matches. -/
def isFoundIn (r : Regular) (text : List Char) : Bool := !(r.ends (Place.all text)).isEmpty

/-! ## Cost -/

/-- The bytes that an automaton for the expression takes. -/
def cost : Regular → Nat
  | .empty => 32
  | .set s => s.cost
  | .anchor _ => 32
  | .seq a b => a.cost + b.cost
  | .either a b => a.cost + b.cost + 64
  | .exactly count r => count * r.cost
  | .atMost count _ r => count * (r.cost + 64)
  | .many _ r => r.cost + 64

def maxCost : Nat := 10485760

def isAffordable (r : Regular) : Bool := r.cost ≤ maxCost

end Regular

end SchemaContract.Pattern
