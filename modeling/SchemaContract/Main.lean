import SchemaContract.CommandLine

/-!
# The program

Reads what its arguments name from the disk, runs the command on it, and prints.
-/

namespace SchemaContract.CommandLine

/-- The deepest directories that are read. -/
def maxDirectories : Nat := 2048

def faultOf : IO.Error → SystemFault
  | .noFileOrDirectory _ _ _ => .notFound
  | .permissionDenied _ _ _ => .denied
  | .inappropriateType _ _ _ => .notDirectory
  | e => .other (toString e)

def readFile (entry : IO.FS.DirEntry) : IO Entry := do
  try return .file (← IO.FS.readBinFile entry.path)
  catch _ => return .lockedFile

/-- What directory entries hold, down to so many directories. What is neither a file nor a directory
nor a link is left out. -/
def readEntries : Nat → List IO.FS.DirEntry → IO Entry.Directory
  | 0, _ => return []
  | depth + 1, found => do
    let mut entries : List (String × Entry) := []
    for e in found do
      match (← e.path.symlinkMetadata).type with
      | .symlink => entries := (e.fileName, .link "") :: entries
      | .file => entries := (e.fileName, ← readFile e) :: entries
      | .dir =>
        let inner ←
          try pure (.directory (← readEntries depth (← e.path.readDir).toList))
          catch _ => pure .lockedDirectory
        entries := (e.fileName, inner) :: entries
      | .other => pure ()
    return entries.reverse

def readPath (path : String) : IO (Except SystemFault Entry) := do
  try
    let there := (← IO.currentDir) / path
    if path.isEmpty then return .error .notFound
    else if ← there.isDir then
      return .ok (.directory (← readEntries maxDirectories (← there.readDir).toList))
    else return .ok (.file (← IO.FS.readBinFile path))
  catch e => return .error (faultOf e)

end SchemaContract.CommandLine

open SchemaContract.CommandLine in
def main (arguments : List String) : IO UInt32 := do
  let known ← (Request.ofArguments arguments).paths.mapM fun path => do
    return (path, ← readPath path)
  let output := run (fun path => (known.lookup path).getD (.error .notFound)) arguments
  IO.print output.stdout
  IO.eprint output.stderr
  return UInt32.ofNat output.exit.code
