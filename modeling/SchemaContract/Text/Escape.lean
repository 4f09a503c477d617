import SchemaContract.Text.Hex

/-!
# Percent escapes
-/

namespace SchemaContract.Text

/-- The bytes of a text, with each escape read as one byte. A percent sign without two digits stands
for itself. -/
def escapedBytes : List Char → List UInt8
  | [] => []
  | '%' :: x :: y :: rest =>
    match hexNumber? [x, y] with
    | some n => UInt8.ofNat n :: escapedBytes rest
    | none => '%'.toNat.toUInt8 :: escapedBytes (x :: y :: rest)
  | c :: rest => (String.ofList [c]).toByteArray.toList ++ escapedBytes rest

/-- The text that an escaped text stands for, unless its bytes are no characters. -/
def unescape? (cs : List Char) : Option (List Char) :=
  if cs.contains '%' then (String.fromUTF8? (escapedBytes cs).toByteArray).map String.toList
  else some cs

end SchemaContract.Text
