import ScreenForm.App.Files
import ScreenForm.Dialog.Basic
import ScreenForm.Toml.Document

/-!
# Application files

A TOML file names the description, the palettes, the strings and the dialogs of
an application:

    ui = "mail.ui"
    palette = "mail.palette"

    [strings]
    FROM = "Your email address"

    [log]
    file = "mail.log"
    level = "debug"

    [dialogs.confirm]
    ui = "confirm.ui"
    header = "Really send?"
    height = 8

Its paths are relative to the directory that it is in. Nothing that it does not
know may stand in it.
-/

namespace ScreenForm

inductive ConfigError where
  | read (path : String) (fault : FileFault)
  | parse (path : String)
  deriving Repr, DecidableEq, Inhabited

def ConfigError.message : ConfigError → String
  | read path fault => s!"Failed to read {path}: {fault.message}"
  | parse path => s!"Failed to parse {path}: TOML parse error"

/-- A dialog of an application, with the paths of its texts. -/
structure DialogConfig where
  ui : String
  palette : Option String := none
  header : Option String := none
  width : Option Nat := none
  height : Option Nat := none
  deriving Repr, DecidableEq, Inhabited

structure Config where
  ui : String
  palette : Option String
  dialogPalette : Option String
  /-- Keys and texts, in the order of the keys. -/
  strings : List (String × String)
  logFile : Option String
  logLevel : String
  /-- Dialogs by name, in the order of the names. -/
  dialogs : List (String × DialogConfig)
  /-- The directory of the application file. -/
  directory : String
  deriving Repr, DecidableEq, Inhabited

/-- What a console is made of. -/
structure FormSource where
  palette : String
  description : String
  strings : StringTable
  dialogPalette : String
  deriving Repr, DecidableEq, Inhabited

namespace Config

open Toml

/-! ## Values -/

def string? : Value → Option String
  | .string s => some s
  | _ => none

/-- A number of cells. -/
def cells? : Value → Option Nat
  | .integer (.ofNat n) => if n ≤ maxCells then some n else none
  | _ => none

/-- The key under which a date-time stands for a table. -/
def dateTimeKey : String := "$__toml_private_datetime"

/-- The keys and values of a table. A date-time is a table of its text. -/
def entries? : Value → Option Entries
  | .table _ entries => some entries
  | .dateTime d => some [(dateTimeKey, .string (String.ofList d.text))]
  | _ => none

/-- The fields of a record, which are all among those that it knows. They can also be listed in
their order, and then more can follow. -/
def fields? (known : List String) : Value → Option Entries
  | .array items => some (known.zip items)
  | v => (entries? v).filter (·.all (known.contains ·.1))

/-- A field that need not be there. -/
def field? {α : Type} (entries : Entries) (name : String) (decode : Value → Option α) :
    Option (Option α) :=
  match entries.lookup name with
  | none => some none
  | some v => (decode v).map some

/-- A table of any keys, in the order of the keys. -/
def sorted? {α : Type} (decode : Value → Option α) (v : Value) : Option (List (String × α)) := do
  let decoded ← (← entries? v).mapM fun e => (decode e.2).map (e.1, ·)
  return decoded.mergeSort fun a b => a.1 ≤ b.1

def dialog? (v : Value) : Option DialogConfig := do
  let entries ← fields? ["ui", "palette", "header", "width", "height"] v
  return {
    ui := ← string? (← entries.lookup "ui")
    palette := ← field? entries "palette" string?
    header := ← field? entries "header" string?
    width := ← field? entries "width" cells?
    height := ← field? entries "height" cells? }

def defaultLevel : String := "info"

def log? (v : Value) : Option (Option String × String) := do
  let entries ← fields? ["file", "level"] v
  return (← field? entries "file" string?, (← field? entries "level" string?).getD defaultLevel)

def ofEntries? (directory : String) (entries : Entries) : Option Config := do
  let known := ["ui", "palette", "dialog_palette", "strings", "log", "dialogs"]
  let entries ← fields? known (.table .header entries)
  let log := (← field? entries "log" log?).getD (none, defaultLevel)
  return {
    ui := ← string? (← entries.lookup "ui")
    palette := ← field? entries "palette" string?
    dialogPalette := ← field? entries "dialog_palette" string?
    strings := (← field? entries "strings" (sorted? string?)).getD []
    logFile := log.1
    logLevel := log.2
    dialogs := (← field? entries "dialogs" (sorted? dialog?)).getD []
    directory }

/-! ## Files -/

def readFile (files : Files) (path : String) : Except ConfigError String :=
  (files.read path).mapError (.read path)

def load (files : Files) (path : String) : Except ConfigError Config := do
  let source ← readFile files path
  match (Document.parse source).bind (ofEntries? (FilePath.parent path)) with
  | some config => return config
  | none => throw (.parse path)

/-- A path of the application file, from where the application runs. -/
def resolve (c : Config) (path : String) : String :=
  FilePath.join c.directory path

/-- The text of a file that need not be named. -/
def readNamed (c : Config) (files : Files) (path : Option String) :
    Except ConfigError (Option String) :=
  match path with
  | some path => (readFile files (c.resolve path)).map some
  | none => .ok none

def logPath (c : Config) : Option String :=
  c.logFile.map c.resolve

/-- The paths that the application reads or writes. -/
def paths (c : Config) : List String :=
  let named := [some c.ui, c.palette, c.dialogPalette, c.logFile] ++
    c.dialogs.flatMap fun d => [some d.2.ui, d.2.palette]
  (named.filterMap id).map c.resolve

def stringTable (c : Config) : StringTable :=
  ⟨c.strings⟩

def formSource (c : Config) (files : Files) : Except ConfigError FormSource := do
  let description ← readFile files (c.resolve c.ui)
  let palette ← c.readNamed files c.palette
  let dialogPalette ← c.readNamed files c.dialogPalette
  return {
    palette := palette.getD ""
    description
    strings := c.stringTable
    dialogPalette := dialogPalette.getD Theme.dialogPalette }

/-- The dialog of a name, with the strings of the application. -/
def dialogPlan? {H E : Type} (c : Config) (files : Files) (name : String) :
    Option (Except ConfigError (DialogPlan H E)) :=
  (c.dialogs.lookup name).map fun d => do
    let description ← readFile files (c.resolve d.ui)
    let palette ← c.readNamed files d.palette
    return {
      description
      palette
      header := d.header
      width := d.width.getD 40
      height := d.height
      strings := c.stringTable }

end Config

end ScreenForm
