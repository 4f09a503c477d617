/-!
# Base64

The standard alphabet with padding. Four characters hold three bytes; padding shortens the last
group, whose unused bits are zero.
-/

namespace SchemaContract.Text

def base64Value? (c : Char) : Option Nat :=
  if 'A' ≤ c ∧ c ≤ 'Z' then some (c.toNat - 65)
  else if 'a' ≤ c ∧ c ≤ 'z' then some (c.toNat - 71)
  else if c.isDigit then some (c.toNat + 4)
  else if c = '+' then some 62
  else if c = '/' then some 63
  else none

def base64Decode? : List Char → Option (List UInt8)
  | [] => some []
  | [a, b, '=', '='] =>
    match base64Value? a, base64Value? b with
    | some a, some b => if b % 16 = 0 then some [UInt8.ofNat (4 * a + b / 16)] else none
    | _, _ => none
  | [a, b, c, '='] =>
    match base64Value? a, base64Value? b, base64Value? c with
    | some a, some b, some c =>
      if c % 4 = 0 then
        some [UInt8.ofNat (4 * a + b / 16), UInt8.ofNat (b % 16 * 16 + c / 4)]
      else none
    | _, _, _ => none
  | a :: b :: c :: d :: rest =>
    match base64Value? a, base64Value? b, base64Value? c, base64Value? d, base64Decode? rest with
    | some a, some b, some c, some d, some bytes =>
      some (UInt8.ofNat (4 * a + b / 16) :: UInt8.ofNat (b % 16 * 16 + c / 4) ::
        UInt8.ofNat (c % 4 * 64 + d) :: bytes)
    | _, _, _, _, _ => none
  | _ => none

end SchemaContract.Text
