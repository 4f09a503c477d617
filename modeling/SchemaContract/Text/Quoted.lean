import SchemaContract.Text.Hex
import SchemaContract.Unicode.Property

/-!
# Quoted texts

A text between double quotes. The quote, the backslash and the usual control characters have
escapes of two characters; other characters that would not show as themselves are written by their
code point.
-/

namespace SchemaContract.Text

/-- The voiced sound marks of halfwidth katakana, which extend a letter but stand by themselves. -/
def isHalfwidthSoundMark (n : Nat) : Bool := n == 0xFF9E || n == 0xFF9F

/-- A character that shows nothing of its own, or combines with the one before it. -/
def isHidden (n : Nat) : Bool :=
  if n < 0x7F then n < 0x20
  else
    Unicode.isIn (Unicode.Category.others ++ Unicode.Category.separators) n ||
      (Unicode.isGraphemeExtend n && !isHalfwidthSoundMark n)

def quotedChar (c : Char) : List Char :=
  match c with
  | '"' => ['\\', '"']
  | '\\' => ['\\', '\\']
  | '\n' => ['\\', 'n']
  | '\r' => ['\\', 'r']
  | '\t' => ['\\', 't']
  | '\x00' => ['\\', '0']
  | c =>
    if isHidden c.toNat then ['\\', 'u', '\x7b'] ++ hexDigits c.toNat ++ ['\x7d'] else [c]

def quoted (s : String) : String :=
  String.ofList (['"'] ++ s.toList.flatMap quotedChar ++ ['"'])

/-- A text between quotes as it stands. -/
def inQuotes (s : String) : String := "\"" ++ s ++ "\""

end SchemaContract.Text
