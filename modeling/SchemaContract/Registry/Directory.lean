import SchemaContract.Registry

/-!
# Schemas of a directory

Every regular file below a directory whose name ends in `.schema.json` holds a schema. Its name is
the path from the directory without that ending. Links are not followed, and one that is named as a
schema file stops the load, whatever it leads to.

A file is read up to one byte past the limit, so that one which has grown since it was looked at
cannot slip in, nor be cut.
-/

namespace SchemaContract

/-- A schema file that was found, with the name of its schema and the path to it. -/
structure SchemaFile where
  name : String
  path : String
  entry : Entry

namespace SchemaFile

def suffix : String := ".schema.json"

/-- The name of a file without the ending of schema files. -/
def stem? (fileName : String) : Option String :=
  let cs := fileName.toList
  let ending := suffix.toList
  if ending.isSuffixOf cs then some (String.ofList (cs.take (cs.length - ending.length))) else none

def join (directory name : String) : String :=
  if directory.endsWith "/" then directory ++ name else directory ++ "/" ++ name

/-- A schema file under its name; files of other names, and of the ending alone, are none. -/
def ofFile (directory start fileName : String) (entry : Entry) : List SchemaFile :=
  match stem? fileName with
  | some stem =>
    if stem = "" then [] else [⟨start ++ stem, join directory fileName, entry⟩]
  | none => []

mutual

/-- The schema files that an entry of a directory leads to. The names of the schemas start with the
way from the outermost directory. -/
def ofEntry (directory start fileName : String) : Entry → Except LoadFault (List SchemaFile)
  | .link _ => if (stem? fileName).isSome then .error (.link fileName) else .ok []
  | .directory entries => ofEntries (join directory fileName) (start ++ fileName ++ "/") entries
  | .lockedDirectory => .error (.unreadable (join directory fileName) .denied)
  | .file content => .ok (ofFile directory start fileName (.file content))
  | .lockedFile => .ok (ofFile directory start fileName .lockedFile)

def ofEntries (directory start : String) :
    List (String × Entry) → Except LoadFault (List SchemaFile)
  | [] => .ok []
  | (fileName, entry) :: rest =>
    match ofEntry directory start fileName entry with
    | .error fault => .error fault
    | .ok found =>
      match ofEntries directory start rest with
      | .error fault => .error fault
      | .ok others => .ok (found ++ others)

end

def below (path : String) : Except SystemFault Entry → Except LoadFault (List SchemaFile)
  | .ok (.directory entries) => ofEntries path "" entries
  | .ok .lockedDirectory => .error (.unreadable path .denied)
  | .ok _ => .error (.unreadable path .notDirectory)
  | .error fault => .error (.unreadable path fault)

def comesBefore (a b : SchemaFile) : Bool := a.name ≤ b.name

end SchemaFile

/-- What makes two files one and the same. -/
structure FileIdentity where
  device : Nat
  node : Nat
  deriving DecidableEq, Repr

/-- A file as a reader meets it: what its path led to when it was looked at, what was opened, the
length that was told then, and the bytes that are there to be read. -/
structure Opened where
  inspected : FileIdentity
  opened : FileIdentity
  length : Nat
  content : ByteArray

namespace Opened

/-- A file that nobody else touches. -/
def still (content : ByteArray) : Opened := ⟨⟨0, 0⟩, ⟨0, 0⟩, content.size, content⟩

/-- The largest count of bytes. -/
def maxCount : Nat := Nat.pow 2 64 - 1

/-- The most bytes that are taken from a file: one past the limit. -/
def readLimit (limit : Nat) : Nat := min (limit + 1) maxCount

/-- The text of a schema file of at most so many bytes. -/
def read (limit : Nat) (path : String) (f : Opened) : Except LoadFault String :=
  if f.inspected ≠ f.opened then .error (.changed path)
  else if f.length > limit then .error (.tooLarge f.length path)
  else
    let bytes := f.content.extract 0 (readLimit limit)
    match String.fromUTF8? bytes with
    | none => .error (.unread path .notUnicode)
    | some text => if bytes.size > limit then .error (.grown path) else .ok text

end Opened

namespace SchemaFile

def readText (limit : Nat) (f : SchemaFile) : Except LoadFault String :=
  match f.entry with
  | .file content => (Opened.still content).read limit f.path
  | _ => .error (.unopened f.path .denied)

def readSchema (limit : Nat) (f : SchemaFile) : Except BuildFault Json :=
  match f.readText limit with
  | .error fault => .error (.load fault)
  | .ok text =>
    match Json.parse text with
    | .ok v => .ok v
    | .error e => .error (.notJson e)

/-- The schemas in files, by name, up to the first fault. -/
def readSchemas (limit : Nat) : List SchemaFile → List (String × Json) →
    Except BuildFault (List (String × Json))
  | [], members => .ok members
  | f :: fs, members =>
    match f.readSchema limit with
    | .error fault => .error fault
    | .ok v => readSchemas limit fs (Json.putMember f.name v members)

end SchemaFile

namespace Registry

def ofDirectory (config : Config) (files : Files) (path : String) : Except BuildFault Registry :=
  match SchemaFile.below path (files path) with
  | .error fault => .error (.load fault)
  | .ok found =>
    if found.length > config.maxFiles then
      .error (.load (.tooMany config.maxFiles found.length))
    else
      match SchemaFile.readSchemas config.maxFileBytes
          (found.mergeSort SchemaFile.comesBefore) [] with
      | .error fault => .error fault
      | .ok members => build config (.object members)

end Registry

end SchemaContract
