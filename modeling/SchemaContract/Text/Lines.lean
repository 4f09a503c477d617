/-!
# Lines

Problems are joined into one text with a newline between them, and the text splits back into lines:
a line ends at a newline, loses one carriage return before it, and an empty rest is no line.
-/

namespace SchemaContract.Text

/-- The lines of a text; the second argument holds the characters of the open line, last first. -/
def lineChars : List Char → List Char → List (List Char)
  | [], [] => []
  | [], open_ => [open_.reverse]
  | '\n' :: rest, open_ =>
    (match open_ with
      | '\r' :: before => before.reverse
      | _ => open_.reverse) :: lineChars rest []
  | c :: rest, open_ => lineChars rest (c :: open_)

def lines (s : String) : List String := (lineChars s.toList []).map String.ofList

def unlines (ls : List String) : String := String.intercalate "\n" ls

end SchemaContract.Text
