import ScreenForm.App.Handlers
import ScreenForm.App.LogFilter
import ScreenForm.Form.Outline

/-!
# The command

    CONFIG [--check] [--log-level LEVEL]

The command loads an application. With `--check` it makes the console and every
dialog and writes their outlines; without it the application would run on a
terminal, which there is none of here.
-/

namespace ScreenForm

/-- What the arguments of the command say. -/
structure CommandLine where
  config : Option String := none
  check : Bool := false
  logLevel : Option String := none
  deriving Repr, DecidableEq, Inhabited

/-- What the command leaves: its status, what it has written, and the files. -/
structure CommandResult where
  status : Nat
  output : String
  errors : String
  files : Files
  deriving Repr, DecidableEq, Inhabited

/-- Why arguments are refused. -/
inductive UsageFault where
  /-- An argument has no value, or a path is empty. -/
  | missingValue (argument : String)
  | unexpected
  deriving Repr, DecidableEq, Inhabited

def UsageFault.message : UsageFault → String
  | missingValue argument =>
    s!"error: a value is required for '{argument}' but none was supplied\n\n" ++
      "For more information, try '--help'.\n"
  | unexpected => "error: expected CONFIG [--check] [--log-level LEVEL]\n"

namespace CommandLine

def missingPath : UsageFault := .missingValue "<CONFIG>"

def missingLevel : UsageFault := .missingValue "--log-level <LOG_LEVEL>"

def setConfig (c : CommandLine) (path : String) : Except UsageFault CommandLine :=
  if c.config.isSome then .error .unexpected
  else if path.isEmpty then .error missingPath
  else .ok { c with config := some path }

def setCheck (c : CommandLine) : Except UsageFault CommandLine :=
  if c.check then .error .unexpected else .ok { c with check := true }

def setLevel (c : CommandLine) (level : String) : Except UsageFault CommandLine :=
  if c.logLevel.isSome then .error .unexpected else .ok { c with logLevel := some level }

def isOption (argument : String) : Bool :=
  match argument.toList with
  | '-' :: _ :: _ => true
  | _ => false

/-- The level of an option that has it after an equals sign. -/
def attachedLevel? (argument : String) : Option String :=
  match Text.splitAtWord "--log-level=".toList argument.toList with
  | some ([], level) => some (String.ofList level)
  | _ => none

/-- What stands in place of a level, when it is an option. -/
def levelFault (argument : String) : UsageFault :=
  if ["--", "--check", "--log-level"].contains argument || (attachedLevel? argument).isSome then
    missingLevel
  else .unexpected

/-- Adds arguments. After `--` all of them are paths. -/
def addAll (c : CommandLine) : List String → Except UsageFault CommandLine
  | [] => .ok c
  | "--" :: rest => rest.foldlM setConfig c
  | "--check" :: rest => do (← c.setCheck).addAll rest
  | ["--log-level"] => .error missingLevel
  | "--log-level" :: level :: rest =>
    if isOption level then .error (levelFault level) else do (← c.setLevel level).addAll rest
  | argument :: rest =>
    match attachedLevel? argument with
    | some level => do (← c.setLevel level).addAll rest
    | none =>
      if isOption argument then .error .unexpected else do (← c.setConfig argument).addAll rest

/-- The arguments as a whole. There has to be a path. -/
def parse (arguments : List String) : Except UsageFault (String × CommandLine) := do
  let c ← ({} : CommandLine).addAll arguments
  match c.config with
  | some path => return (path, c)
  | none => throw .unexpected

end CommandLine

/-- What can stop the command. -/
inductive CommandError where
  | config (cause : ConfigError)
  | log (fault : FileFault)
  | form (cause : FormError)
  | noTerminal
  deriving Repr, DecidableEq, Inhabited

def CommandError.message : CommandError → String
  | config cause => cause.message
  | log fault => fault.message
  | form cause => cause.message
  | noTerminal => "No such device or address (os error 6)"

namespace Command

/-- The command at work: what it has written so far, and the files. -/
structure Progress where
  output : String := ""
  errors : String := ""
  files : Files
  deriving Repr, DecidableEq, Inhabited

abbrev CommandM := ExceptT CommandError (StateM Progress)

def liftWith {ε α : Type} (cause : ε → CommandError) : Except ε α → CommandM α
  | .ok a => pure a
  | .error e => throw (cause e)

/-- Writes a line. -/
def writeLine (s : String) : CommandM Unit :=
  modify fun p => { p with output := p.output ++ s ++ "\n" }

/-- Makes the log file, if the application names one, and reads the level of the log. -/
def openLog (config : Config) (level : String) : CommandM Unit := do
  match config.logPath with
  | none => return ()
  | some path =>
    let files ← liftWith .log ((← get).files.create path)
    modify fun p => { p with files, errors := p.errors ++ String.join (LogFilter.notices level) }

/-- Makes every dialog, and writes its outline. -/
def checkDialogs (app : App) (base : Palette) : CommandM Unit :=
  app.config.dialogs.forM fun (name, _) => do
    let plan : Option (Except ConfigError (DialogPlan Unit Unit)) :=
      app.config.dialogPlan? app.files name
    match plan with
    | none => return ()
    | some plan =>
      let plan ← liftWith .config plan
      let dialog ← liftWith .form (plan.build base)
      writeLine s!"dialog {name}:"
      writeLine dialog.form.outline

/-- Makes the console and its dialogs, and writes their outlines if they are to be checked. -/
def runWith (path : String) (line : CommandLine) : CommandM Unit := do
  let config ← liftWith .config (Config.load (← get).files path)
  openLog config (line.logLevel.getD config.logLevel)
  let files := (← get).files
  let source ← liftWith .config (config.formSource files)
  let app : App := ⟨config, files⟩
  let console : Console AppHandler Unit ←
    liftWith .form (Console.create source (.console app))
  if line.check then
    writeLine console.form.outline
    checkDialogs app console.dialogBase
  else throw .noTerminal

/-- Runs the command on some files. -/
def run (files : Files) (arguments : List String) : CommandResult :=
  match CommandLine.parse arguments with
  | .error fault => ⟨2, "", fault.message, files⟩
  | .ok (path, line) =>
    let (result, progress) := (runWith path line).run.run { files }
    match result with
    | .ok () => ⟨0, progress.output, progress.errors, progress.files⟩
    | .error e =>
      ⟨1, progress.output, progress.errors ++ "Error: " ++ e.message ++ "\n", progress.files⟩

end Command

end ScreenForm
