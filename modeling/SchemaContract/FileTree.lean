/-!
# File trees

What a program finds in a directory, as a value. A path is walked from the working directory, and
symbolic links in it are followed. Absolute paths and paths above the working directory lead out of
the tree, where nothing is known to be.
-/

namespace SchemaContract

/-- Why the system refuses to open or to read something. -/
inductive SystemFault where
  | notFound
  | denied
  | notDirectory
  | isDirectory
  | nameTooLong
  | tooManyLinks
  | zeroInName
  | notUnicode
  | other (text : String)
  deriving DecidableEq, Repr

def SystemFault.message : SystemFault → String
  | .notFound => "No such file or directory (os error 2)"
  | .denied => "Permission denied (os error 13)"
  | .notDirectory => "Not a directory (os error 20)"
  | .isDirectory => "Is a directory (os error 21)"
  | .nameTooLong => "File name too long (os error 36)"
  | .tooManyLinks => "Too many levels of symbolic links (os error 40)"
  | .zeroInName => "file name contained an unexpected NUL byte"
  | .notUnicode => "stream did not contain valid UTF-8"
  | .other text => text

/-- What stands under a name. A locked file or directory is one that may not be read. -/
inductive Entry where
  | file (content : ByteArray)
  | directory (entries : List (String × Entry))
  | link (target : String)
  | lockedFile
  | lockedDirectory
  deriving Inhabited

namespace Entry

abbrev Directory := List (String × Entry)

def find? (name : String) (entries : Directory) : Option Entry :=
  (entries.find? fun e => e.1 == name).map (·.2)

/-- Puts an entry under a name, which keeps its place if it is there already. -/
def set (name : String) (entry : Entry) : Directory → Directory
  | [] => [(name, entry)]
  | e :: rest => if e.1 == name then (name, entry) :: rest else e :: set name entry rest

def directory? : Entry → Option Directory
  | .directory es => some es
  | _ => none

/-- Puts an entry under a path, made from what stands there, with the directories above it. -/
def put (make : Option Entry → Entry) : List String → Directory → Directory
  | [], entries => entries
  | [name], entries => set name (make (find? name entries)) entries
  | name :: rest, entries =>
    let inner := ((find? name entries).bind directory?).getD []
    set name (.directory (put make rest inner)) entries

/-- The most bytes of a name. -/
def maxName : Nat := 255

/-- The most links that one path may lead through. -/
def maxLinks : Nat := 40

/-- The parts of a path between the slashes. -/
def partsOf (path : String) : List String := path.splitOn "/"

/-- Walks the parts of a path. The entries above are those of the directories walked through, the
innermost first. -/
def walk (links : Nat) (above : List Entry) (here : Entry) (parts : List String) :
    Except SystemFault Entry :=
  match parts with
  | [] => .ok here
  | part :: rest =>
    match here with
    | .directory entries =>
      if part = "" ∨ part = "." then walk links above here rest
      else if part = ".." then
        match above with
        | [] => .error .notFound
        | up :: outer => walk links outer up rest
      else if part.utf8ByteSize > maxName then .error .nameTooLong
      else
        match find? part entries with
        | none => .error .notFound
        | some (.link target) =>
          match links with
          | 0 => .error .tooManyLinks
          | links + 1 =>
            if target.startsWith "/" then .error .notFound
            else walk links above here (partsOf target ++ rest)
        | some entry => walk links (here :: above) entry rest
    | .lockedDirectory => .error .denied
    | _ => .error .notDirectory
termination_by (links, parts.length)

def lookup (root : Entry) (path : String) : Except SystemFault Entry :=
  if path.toList.contains '\x00' then .error .zeroInName
  else if path = "" ∨ path.startsWith "/" then .error .notFound
  else walk maxLinks [] root (partsOf path)

def readText : Entry → Except SystemFault String
  | .file content =>
    match String.fromUTF8? content with
    | some text => .ok text
    | none => .error .notUnicode
  | .lockedFile | .lockedDirectory => .error .denied
  | .directory _ => .error .isDirectory
  | .link _ => .error .notFound

end Entry

/-- How a program sees files: what each path leads to. -/
abbrev Files := String → Except SystemFault Entry

end SchemaContract
