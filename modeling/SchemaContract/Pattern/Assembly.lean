import SchemaContract.Pattern.Machine
import SchemaContract.Pattern.Node

/-!
# Assembling programs

A tree becomes a program part by part. Regular parts stay in one piece where no other part depends
on which of their matches is taken: at the beginning of a sequence if their width is fixed, and at
its end.
-/

namespace SchemaContract.Pattern

structure InUse where
  slots : Nat
  counters : Nat

abbrev Assembly := StateT InUse Option

namespace Assembly

def newSlot : Assembly Nat := do
  let used ← get
  set { used with slots := used.slots + 1 }
  return used.slots

def newCounter : Assembly Nat := do
  let used ← get
  set { used with counters := used.counters + 1 }
  return used.counters

def regular (ns : List Node) : Assembly (List Instruction) :=
  if ns.isEmpty then return []
  else
    match Node.allRegular? ns with
    | some rs =>
      let r := Regular.sequence rs
      if r.isAffordable then return [.regular r] else failure
    | none => failure

def forkTo (greedy : Bool) (inside past : Int) : Instruction :=
  if greedy then .fork inside past else .fork past inside

def either (a b : List Instruction) : List Instruction :=
  .fork 1 (a.length + 2) :: a ++ .jump (b.length + 1) :: b

/-- The code of a look around, with that of its body. A look behind needs a fixed width. -/
def look (ahead negated : Bool) (body : Node) (inner : List Instruction) :
    Assembly (List Instruction) := do
  let inner ←
    if ahead then pure inner
    else if body.isFixed then pure (.back body.minWidth :: inner)
    else failure
  if negated then return .fork 1 (inner.length + 2) :: inner ++ [.refuse]
  else
    let slot ← newSlot
    return .mark slot :: inner ++ [.restore slot]

def repetition (low : Nat) (high : Option Nat) (greedy : Bool) (width : Nat)
    (inner : List Instruction) : Assembly (List Instruction) := do
  let size : Int := inner.length
  if high.isNone ∧ width = 0 then
    let counter ← newCounter
    let slot ← newSlot
    return .reset counter :: .readingRound low greedy counter slot (size + 2) :: inner ++
      [.jump (-size - 1)]
  else if low = 0 ∧ high.isNone then
    return forkTo greedy 1 (size + 2) :: inner ++ [.jump (-size - 1)]
  else if low = 1 ∧ high.isNone then
    return inner ++ [forkTo greedy (-size) 1]
  else
    let counter ← newCounter
    return .reset counter :: .round low high greedy counter (size + 2) :: inner ++
      [.jump (-size - 1)]

def conditional (condition yes no : List Instruction) : List Instruction :=
  .hold :: .fork 1 (condition.length + yes.length + 3) :: condition ++ .commit :: yes ++
    .jump (no.length + 1) :: no

end Assembly

/-- A node whose one match is known to be the right one. -/
def Node.isSettled (n : Node) : Bool := n.isRegular && n.isFixed

mutual

/-- The code of a node. `bound` tells that parts behind it may depend on which match is taken. -/
def Node.code (bound : Bool) (n : Node) : Assembly (List Instruction) :=
  if !bound && n.isRegular then Assembly.regular [n]
  else
    match n with
    | .empty => return []
    | .set s => return [.regular (.set s)]
    | .anchor a => return [.regular (.anchor a)]
    | .edge e => return [.edge e]
    | .seq parts => do
      let opening := (parts.takeWhile Node.isSettled).length
      let others := (parts.drop opening).reverse
      let closing := (others.takeWhile (if bound then Node.isSettled else Node.isRegular)).length
      let first ← Assembly.regular (parts.take opening)
      let middle ← Node.codeWithin opening (parts.length - opening - closing) parts
      let last ← Assembly.regular (parts.drop (parts.length - closing))
      return first ++ middle ++ last
    | .either branches => Node.codeOfBranches bound branches
    | .repeated low high greedy body =>
      if low = 0 ∧ high = some 1 then do
        let inner ← body.code bound
        return Assembly.forkTo greedy 1 (inner.length + 1) :: inner
      else do
        let inner ← body.code true
        Assembly.repetition low high greedy body.minWidth inner
    | .group none body => body.code bound
    | .group (some number) body => do
      let inner ← body.code bound
      return .mark (openingSlot number) :: inner ++ [.mark (closingSlot number)]
    | .look ahead negated body =>
      if ahead || body.isFixed then do
        let inner ← body.code false
        Assembly.look ahead negated body inner
      else
        match body with
        | .either branches => Node.codeOfLooksBehind negated branches
        | _ => failure
    | .atomic body => do
      let inner ← body.code false
      return .hold :: inner ++ [.commit]
    | .same number insensitive => return [.same number insensitive]
    | .isSet number => return [.isSet number]
    | .choose condition yes no => do
      let condition ← condition.code bound
      let yes ← yes.code bound
      let no ← no.code bound
      return Assembly.conditional condition yes no
    | .dropBefore => return []
    | .atSearchStart => return [.atSearchStart]

/-- The code of so many nodes of a list, behind those that are skipped. -/
def Node.codeWithin (skipped count : Nat) : List Node → Assembly (List Instruction)
  | [] => return []
  | n :: rest =>
    match skipped, count with
    | _, 0 => return []
    | skipped + 1, count => Node.codeWithin skipped count rest
    | 0, count + 1 => do
      let first ← n.code true
      let others ← Node.codeWithin 0 count rest
      return first ++ others

def Node.codeOfBranches (bound : Bool) : List Node → Assembly (List Instruction)
  | [] => return []
  | [n] => n.code bound
  | n :: rest => do
    let first ← n.code bound
    let others ← Node.codeOfBranches bound rest
    return Assembly.either first others

/-- The code of a look behind each of the alternatives, which may have different widths. -/
def Node.codeOfLooksBehind (negated : Bool) : List Node → Assembly (List Instruction)
  | [] => return []
  | [n] => do
    let inner ← n.code false
    Assembly.look false negated n inner
  | n :: rest => do
    let inner ← n.code false
    let first ← Assembly.look false negated n inner
    let others ← Node.codeOfLooksBehind negated rest
    return if negated then first ++ others else Assembly.either first others

end

/-- A pattern that matches at the beginning of a text only. -/
def Node.isAnchored : Node → Bool
  | .seq (.anchor .textStart :: _) => true
  | .anchor .textStart => true
  | _ => false

/-- The code that tries all places of a text in turn. -/
def anywhere : List Instruction :=
  [.fork 3 1, .regular (.set .anything), .jump (-2)]

/-- The program of a tree whose groups have numbers up to the given one. -/
def Node.program? (n : Node) (groups : Nat) : Option Program :=
  match (n.code false).run ⟨openingSlot (groups + 1), 0⟩ with
  | some (code, used) =>
    let start := if n.isAnchored then [] else anywhere
    some ⟨(start ++ code).toArray, used.slots, used.counters⟩
  | none => none

end SchemaContract.Pattern
