import SchemaContract.Pattern.Regular

/-!
# The matching machine

Patterns with a memory run on a machine. A thread of it has a place in the program and one in the
text; where the program forks, the second way is put on a stack and taken when the first one fails.
The number of times this may happen is limited. Jumps are relative to the instruction that jumps, so
that programs can be put together.
-/

namespace SchemaContract.Pattern

inductive Instruction where
  | regular (expression : Regular)
  | edge (edge : Edge)
  | fork (first second : Int)
  | jump (offset : Int)
  | mark (slot : Nat)
  | restore (slot : Nat)
  | reset (counter : Nat)
  | round (low : Nat) (high : Option Nat) (greedy : Bool) (counter : Nat) (past : Int)
  | readingRound (low : Nat) (greedy : Bool) (counter slot : Nat) (past : Int)
  | back (count : Nat)
  | refuse
  | same (group : Nat) (insensitive : Bool)
  | isSet (group : Nat)
  | hold
  | commit
  | atSearchStart
  deriving Repr

/-- One way through a program: its next instruction and place, the places in its slots, its
counters, and the heights of the stack that it holds on to. -/
structure Thread where
  next : Int
  place : Place
  slots : List (Option Place)
  counters : List Nat
  held : List Nat
  deriving Repr

namespace Thread

def slot? (t : Thread) (k : Nat) : Option Place := (t.slots[k]?).join

def counter (t : Thread) (k : Nat) : Nat := (t.counters[k]?).getD 0

def go (t : Thread) (offset : Int) : Thread := { t with next := t.next + offset }

def proceed (t : Thread) : Thread := t.go 1

def atPlace (t : Thread) (p : Place) : Thread := { t with place := p }

def setSlot (t : Thread) (k : Nat) (p : Place) : Thread :=
  { t with slots := t.slots.set k (some p) }

def setCounter (t : Thread) (k n : Nat) : Thread := { t with counters := t.counters.set k n }

end Thread

/-- The slots of the place where a group begins and of the one where it ends. -/
def openingSlot (group : Nat) : Nat := 2 * group

def closingSlot (group : Nat) : Nat := 2 * group + 1

/-- The text that a group holds. -/
def Thread.held? (t : Thread) (group : Nat) : Option (List Char) :=
  match t.slot? (openingSlot group), t.slot? (closingSlot group) with
  | some first, some last => some (last.textSince first)
  | _, _ => none

/-! ## Back references -/

def bytesOf (text : List Char) : Nat := text.foldl (fun n c => n + c.utf8Size) 0

/-- Whether the characters of a text begin with those of another one but for their case. -/
def beginsWithCases : List Char → List Char → Bool
  | _, [] => true
  | [], _ :: _ => false
  | c :: rest, d :: sought =>
    Unicode.folded c.toNat == Unicode.folded d.toNat && beginsWithCases rest sought

/-- Whether a text holds another one but for the case of its letters. -/
def holdsCases : List Char → List Char → Bool
  | [], sought => sought.isEmpty
  | c :: rest, sought => beginsWithCases (c :: rest) sought || holdsCases rest sought

/-- Whether two texts of as many bytes are the same but for the case of their letters. ASCII is only
the same as ASCII. -/
def sameButCase (found sought : List Char) : Bool :=
  if found.all (·.toNat < 0x80) then found.map Char.toLower == sought.map Char.toLower
  else holdsCases found sought

/-- The place behind so many bytes, if a character ends there. -/
def Place.skipBytes? : Nat → Nat → Place → Option Place
  | 0, bytes, p => if bytes = 0 then some p else none
  | steps + 1, bytes, p =>
    if bytes = 0 then some p
    else
      match p.advance? with
      | some (c, next) =>
        if c.utf8Size ≤ bytes then Place.skipBytes? steps (bytes - c.utf8Size) next else none
      | none => none

/-- The place behind a text that stands at a place. -/
def Place.skip? (p : Place) (insensitive : Bool) (text : List Char) : Option Place :=
  match Place.skipBytes? (bytesOf text) (bytesOf text) p with
  | some q =>
    let found := q.textSince p
    if found == text || (insensitive && sameButCase found text) then some q else none
  | none => none

/-! ## Steps -/

/-- What an instruction does: the thread goes on, possibly with another one put aside; it fails; it
fails with all the threads up to the one behind it; or it drops the threads above a height. -/
inductive Effect where
  | goOn (thread : Thread)
  | forked (thread aside : Thread)
  | failed
  | refused
  | committed (height : Nat) (thread : Thread)

/-- The first place goes on, the second one is put aside. -/
def forkedAt (t : Thread) (first second : Int) : Effect := .forked (t.go first) (t.go second)

def Thread.goOnIf (t : Thread) (condition : Bool) : Effect :=
  if condition then .goOn t.proceed else .failed

/-- The effect of an instruction on a thread, with the height of the stack. -/
def Instruction.effect (i : Instruction) (height : Nat) (t : Thread) : Effect :=
  match i with
  | .regular r =>
    match r.ends [t.place] with
    | [] => .failed
    | p :: _ => .goOn (t.atPlace p).proceed
  | .edge e => t.goOnIf (e.holds t.place)
  | .fork first second => forkedAt t first second
  | .jump offset => .goOn (t.go offset)
  | .mark slot => .goOn (t.setSlot slot t.place).proceed
  | .restore slot => .goOn (t.atPlace ((t.slot? slot).getD t.place)).proceed
  | .reset counter => .goOn (t.setCounter counter 0).proceed
  | .round low high greedy counter past =>
    let n := t.counter counter
    let counted := t.setCounter counter (n + 1)
    if high == some n then .goOn (t.go past)
    else if n < low then .goOn counted.proceed
    else if greedy then forkedAt counted 1 past
    else forkedAt counted past 1
  | .readingRound low greedy counter slot past =>
    let n := t.counter counter
    let counted := t.setCounter counter (n + 1)
    let marked := counted.setSlot slot t.place
    if n > 0 ∧ (t.slot? slot).map (·.position) = some t.place.position then .failed
    else if n < low then .goOn counted.proceed
    else if greedy then forkedAt marked 1 past
    else forkedAt marked past 1
  | .back count =>
    match Place.back? count t.place with
    | some p => .goOn (t.atPlace p).proceed
    | none => .failed
  | .refuse => .refused
  | .same group insensitive =>
    match (t.held? group).bind (t.place.skip? insensitive) with
    | some p => .goOn (t.atPlace p).proceed
    | none => .failed
  | .isSet group => t.goOnIf (t.slot? (openingSlot group)).isSome
  | .hold => .goOn { t.proceed with held := height :: t.held }
  | .commit =>
    match t.held with
    | [] => .goOn t.proceed
    | kept :: rest => .committed kept { t.proceed with held := rest }
  | .atSearchStart => t.goOnIf (t.place.position == 0)

/-! ## Runs -/

structure Program where
  code : Array Instruction
  slots : Nat
  counters : Nat
  deriving Repr

/-- What becomes of a thread: it reaches the end of the program, or it fails and leaves the threads
that were put aside. -/
inductive Course where
  | arrived
  | stopped (aside : List Thread)

def instructionAt? (code : Array Instruction) (next : Int) : Option Instruction :=
  if next < 0 then none else code[next.toNat]?

/-- Follows a thread until it arrives or fails. The first argument bounds the number of steps. -/
def follow (code : Array Instruction) : Nat → Thread → List Thread → Course
  | 0, _, aside => .stopped aside
  | steps + 1, t, aside =>
    match instructionAt? code t.next with
    | none => .arrived
    | some i =>
      match i.effect aside.length t with
      | .goOn t => follow code steps t aside
      | .forked t other => follow code steps t (other :: aside)
      | .failed => .stopped aside
      | .refused => .stopped ((aside.dropWhile fun other => other.next != t.next + 1).drop 1)
      | .committed height t => follow code steps t (aside.drop (aside.length - height))

inductive Verdict where
  | found
  | absent
  | exhausted
  deriving DecidableEq, Repr

/-- Takes up the threads that were put aside. The first argument is the number of times that this
may happen. -/
def resume (code : Array Instruction) (steps : Nat) : Nat → List Thread → Verdict
  | _, [] => .absent
  | 0, _ :: _ => .exhausted
  | left + 1, t :: aside =>
    match follow code steps t aside with
    | .arrived => .found
    | .stopped aside => resume code steps left aside

/-- The number of times that a search may take up a thread. -/
def maxResumptions : Nat := 1000000

/-- More steps than any thread takes by itself: a bound on those of the programs that fit into
memory. -/
def maxSteps : Nat := Nat.pow 10 15

def Program.search (p : Program) (text : List Char) : Verdict :=
  let t : Thread :=
    ⟨0, Place.start text, List.replicate p.slots none, List.replicate p.counters 0, []⟩
  match follow p.code maxSteps t [] with
  | .arrived => .found
  | .stopped aside => resume p.code maxSteps maxResumptions aside

end SchemaContract.Pattern
