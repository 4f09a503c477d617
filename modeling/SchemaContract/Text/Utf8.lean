/-!
# UTF-8

The bytes of characters: a leading byte and up to three more. `Utf8.fault` finds where some bytes
stop being characters.
-/

namespace SchemaContract.Text.Utf8

/-- Where bytes that are no characters begin, and how many of them look like the start of one. None
are given where the bytes end too early. -/
structure Fault where
  index : Nat
  length : Option Nat
  deriving DecidableEq, Repr

def Fault.message (f : Fault) : String :=
  match f.length with
  | some n =>
    "invalid utf-8 sequence of " ++ toString n ++ " bytes from index " ++ toString f.index
  | none => "incomplete utf-8 byte sequence from index " ++ toString f.index

def inRange (low high : Nat) (b : UInt8) : Bool := low ≤ b.toNat && b.toNat ≤ high

/-- The ranges of the bytes behind a leading byte. A narrow second range shuts out longer forms than
needed, surrogates, and numbers past the last character. -/
def continuations? (b : UInt8) : Option (List (Nat × Nat)) :=
  let n := b.toNat
  if n < 0x80 then some []
  else if 0xC2 ≤ n ∧ n ≤ 0xDF then some [(0x80, 0xBF)]
  else if n = 0xE0 then some [(0xA0, 0xBF), (0x80, 0xBF)]
  else if n = 0xED then some [(0x80, 0x9F), (0x80, 0xBF)]
  else if 0xE1 ≤ n ∧ n ≤ 0xEF then some [(0x80, 0xBF), (0x80, 0xBF)]
  else if n = 0xF0 then some [(0x90, 0xBF), (0x80, 0xBF), (0x80, 0xBF)]
  else if n = 0xF4 then some [(0x80, 0x8F), (0x80, 0xBF), (0x80, 0xBF)]
  else if 0xF1 ≤ n ∧ n ≤ 0xF3 then some [(0x80, 0xBF), (0x80, 0xBF), (0x80, 0xBF)]
  else none

/-- How many bytes at the front lie in the ranges given for them. -/
def fitting : List (Nat × Nat) → List UInt8 → Nat
  | r :: ranges, b :: bytes => if inRange r.1 r.2 b then fitting ranges bytes + 1 else 0
  | _, _ => 0

/-- The fault of the bytes from an index on, after so many that have been looked at already; the end
if there is none. -/
def faultFrom : Nat → Nat → List UInt8 → Fault
  | i, _, [] => ⟨i, none⟩
  | i, seen + 1, _ :: rest => faultFrom (i + 1) seen rest
  | i, 0, b :: rest =>
    match continuations? b with
    | none => ⟨i, some 1⟩
    | some ranges =>
      let n := fitting ranges rest
      if n = ranges.length then faultFrom (i + 1) n rest
      else if n = rest.length then ⟨i, none⟩
      else ⟨i, some (n + 1)⟩

/-- Where some bytes stop being characters. -/
def fault (bytes : List UInt8) : Fault := faultFrom 0 0 bytes

end SchemaContract.Text.Utf8
