import ScreenForm.App.Command

/-!
# The program

Takes a view of the files that an application names, runs the command on it, and
writes what has changed.
-/

namespace ScreenForm

namespace Files

/-- The error code of reading a directory as a file. -/
def directoryCode : UInt32 := 21

/-- Adds what is at a path, if anything is. -/
def view (files : Files) (path : String) : IO Files := do
  try
    return files.addFile path (← IO.FS.readFile path)
  catch
    | .inappropriateType _ code _ =>
      return if code = directoryCode then files.addDirectory path else files
    | _ => return files

/-- Writes the files at the paths that the second view shows changed. -/
def writeChanges (before after : Files) (paths : List String) : IO Unit :=
  paths.forM fun path => do
    if let .ok text := after.read path then
      if (before.read path).toOption ≠ some text then IO.FS.writeFile path text

end Files

/-- The paths that matter to an application: its own, those that it names, and their
directories. -/
def Config.pathsFrom (files : Files) (path : String) : List String :=
  match Config.load files path with
  | .ok config => config.paths ++ config.paths.map FilePath.parent
  | .error _ => []

/-- Runs the command on the files that are there. The result is its status. -/
def Command.execute (arguments : List String) : IO UInt32 := do
  let mut files : Files := {}
  let mut paths : List String := []
  if let .ok (path, _) := CommandLine.parse arguments then
    files ← files.view path
    paths := Config.pathsFrom files path
    files ← paths.foldlM Files.view files
  let result := Command.run files arguments
  files.writeChanges result.files paths
  IO.print result.output
  IO.eprint result.errors
  return result.status.toUInt32

end ScreenForm

def main (arguments : List String) : IO UInt32 :=
  ScreenForm.Command.execute arguments
