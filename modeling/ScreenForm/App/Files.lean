import ScreenForm.Text.Split

/-!
# Files

The files that an application can read, by their paths, and the ways in which a
path can fail to lead to one. A path is walked name by name, and the first name
that does not lead on decides the fault.
-/

namespace ScreenForm

inductive FileFault where
  | notFound
  | isDirectory
  | notDirectory
  | nameTooLong
  | nulCharacter
  deriving Repr, DecidableEq, Inhabited

def FileFault.message : FileFault → String
  | notFound => "No such file or directory (os error 2)"
  | isDirectory => "Is a directory (os error 21)"
  | notDirectory => "Not a directory (os error 20)"
  | nameTooLong => "File name too long (os error 36)"
  | nulCharacter => "file name contained an unexpected NUL byte"

namespace FilePath

def isAbsolute (path : String) : Bool :=
  path.toList.head? = some '/'

/-- The path of something in a directory. -/
def join (directory path : String) : String :=
  if isAbsolute path || directory.isEmpty then path
  else if directory.toList.getLast? = some '/' then directory ++ path
  else directory ++ "/" ++ path

/-- A reversed path without slashes, and names that mean the same directory, at its end. -/
def trimReversed : List Char → List Char
  | ['/'] => ['/']
  | '/' :: cs => trimReversed cs
  | '.' :: '/' :: cs => trimReversed ('/' :: cs)
  | cs => cs

/-- The directory that holds what the path leads to. -/
def parent (path : String) : String :=
  String.ofList
    (trimReversed ((trimReversed path.toList.reverse).dropWhile (· ≠ '/'))).reverse

/-- The names on a path, the first one `/` if the path is absolute. -/
def names (path : String) : List String :=
  let steps := (Text.wordsBy (· = '/') path.toList).map String.ofList
  if isAbsolute path then "/" :: steps else steps

/-- Where a name leads to from a place. There is nothing above the root, and above the directory
that the application runs in there are the places that start with `..`. -/
def step (place : List String) (name : String) : List String :=
  if name = "." then place
  else if name ≠ ".." then place ++ [name]
  else if place = ["/"] then place
  else if place.isEmpty || place.getLast? = some ".." then place ++ [name]
  else place.dropLast

def place (path : String) : List String :=
  (names path).foldl step []

/-- The places that a walk along names starts from and passes through. -/
def passed (place : List String) : List String → List (List String)
  | [] => []
  | name :: rest => place :: passed (step place name) rest

end FilePath

structure Files where
  /-- The place of each file, and its text. -/
  entries : List (List String × String) := []
  /-- The places of the directories below the root and below the one that the application runs
  in. -/
  directories : List (List String) := []
  deriving Repr, DecidableEq, Inhabited

namespace Files

/-- The files with the directories that lead to a path. -/
def withWay (files : Files) (path : String) : Files :=
  { files with directories := FilePath.passed [] (FilePath.names path) ++ files.directories }

def addDirectory (files : Files) (path : String) : Files :=
  let files := files.withWay path
  { files with directories := FilePath.place path :: files.directories }

def addFile (files : Files) (path text : String) : Files :=
  let files := files.withWay path
  { files with entries := (FilePath.place path, text) :: files.entries }

def ofList (files : List (String × String)) : Files :=
  files.foldr (fun f fs => fs.addFile f.1 f.2) {}

/-- The directories below the root that every system has. -/
def systemDirectories : List String :=
  ["bin", "dev", "etc", "home", "lib", "opt", "proc", "root", "run", "sys", "tmp", "usr", "var"]

/-- The root and the directory that the application runs in are always there, and so are those
above. -/
def isDirectory (files : Files) (place : List String) : Bool :=
  place.all (· = "..") || place = ["/"] || systemDirectories.any (place = ["/", ·]) ||
    files.directories.contains place

/-- The place of the file that is always empty, whatever is written to it. -/
def nullPlace : List String :=
  ["/", "dev", "null"]

/-- The text of the file at a place. -/
def text? (files : Files) (place : List String) : Option String :=
  if place = nullPlace then some "" else files.entries.lookup place

/-- Names take at most this many bytes. -/
def maxNameSize : Nat := 255

/-- Paths take at most this many bytes. -/
def maxPathSize : Nat := 4095

/-- Where names lead to from a place, if all but the last step are directories. -/
def walk (files : Files) (place : List String) : List String → Except FileFault (List String)
  | [] => .ok place
  | name :: rest =>
    if (files.text? place).isSome then .error .notDirectory
    else if !files.isDirectory place then .error .notFound
    else if maxNameSize < name.utf8ByteSize then .error .nameTooLong
    else files.walk (FilePath.step place name) rest

/-- Where a path leads to. -/
def follow (files : Files) (path : String) : Except FileFault (List String) :=
  if path.toList.contains '\x00' then .error .nulCharacter
  else if maxPathSize < path.utf8ByteSize then .error .nameTooLong
  else files.walk [] (FilePath.names path)

/-- The text of a file. -/
def read (files : Files) (path : String) : Except FileFault String := do
  let place ← files.follow path
  match files.text? place with
  | some text => if path.toList.getLast? = some '/' then throw .notDirectory else return text
  | none => throw (if files.isDirectory place && !path.isEmpty then .isDirectory else .notFound)

/-- The files with an empty one at a path, in place of what there was. -/
def create (files : Files) (path : String) : Except FileFault Files := do
  let place ← files.follow path
  if path.isEmpty then throw .notFound
  if files.isDirectory place || path.toList.getLast? = some '/' then throw .isDirectory
  return { files with entries := (place, "") :: files.entries.filter (·.1 ≠ place) }

def exists? (files : Files) (path : String) : Bool :=
  match files.follow path with
  | .ok place => (files.text? place).isSome || files.isDirectory place
  | .error _ => false

end Files

end ScreenForm
