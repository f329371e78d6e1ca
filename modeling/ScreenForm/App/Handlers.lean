import ScreenForm.App.Config
import ScreenForm.Console.Run

/-!
# The handlers of an application

The console of an application responds to everything: a press opens the dialog
of the responder's name, `quit` and `exit` stop, and anything else shows in the
footer. A dialog ends with any press or with Escape, and its named edits show in
the footer then.
-/

namespace ScreenForm

/-- An application: its configuration and its files. -/
structure App where
  config : Config
  files : Files
  deriving Repr, DecidableEq, Inhabited

namespace App

variable {H E W : Type}

/-- The label of a widget without its margins. -/
def label (c : Context H E) (widget : Nat) : String :=
  String.ofList (Text.trim (((c.form.tree.widget widget).label?).getD "").toList)

/-- Responds to a press. A dialog gets its handler and its end callback from outside. -/
def press (app : App) (handler : H) (onEnd : E) (responder : String) (widget : Nat)
    (c : Context H E) : Except RuntimeError (Context H E) :=
  let plan : Option (Except ConfigError (DialogPlan H E)) :=
    app.config.dialogPlan? app.files responder
  match plan with
  | some (.ok plan) => c.openDialog { plan with handler := some handler, onEnd := some onEnd }
  | some (.error e) => .ok (c.setInfo e.message)
  | none =>
    if responder = "quit" || responder = "exit" then
      .ok (c.stop (some (label c widget ++ " pressed")))
    else .ok (c.setInfo s!"{label c widget} ({responder})")

def respond (app : App) (handler : H) (onEnd : E) (responder : String) (widget : Nat)
    (event : Event) : Act H E W Response := do
  match event with
  | .press =>
    Act.attempt (app.press handler onEnd responder widget)
    return .handled
  | .edit _ after =>
    Act.change (·.setTooltip s!"{after.length} characters")
    return .handled
  | .focus | .key _ => return .notHandled

/-- Escape stops the application, and so does Control with `c`. -/
def fallback (key : Key) : Act H E W Response := do
  if key.code = .escape || key = { code := .char 'c', control := true } then
    Act.change (·.stop none)
    return .handled
  else return .notHandled

/-- A press in a dialog ends it. -/
def respondInDialog : Act H E W Response := do
  Act.attempt (·.endDialog)
  return .handled

/-- Escape ends a dialog. -/
def fallbackInDialog (key : Key) : Act H E W Response := do
  if key.code = .escape then
    Act.attempt (·.endDialog)
    return .handled
  else return .notHandled

/-- The named edits of a form with their texts. -/
def editReport (f : Form) : List String :=
  f.names.names.filterMap fun name => (f.editText name).toOption.map fun text => s!"{name}={text}"

/-- Shows the edits of a dialog that has ended. -/
def reportEdits (f : Form) (c : Context H E) : Context H E :=
  let report := editReport f
  if report.isEmpty then c else c.setInfo (", ".intercalate report)

end App

/-- The handlers of an application. -/
inductive AppHandler where
  | console (app : App)
  | dialog
  deriving Repr, DecidableEq, Inhabited

/-- How the handlers of an application behave. Its dialogs all have the same end callback. -/
def App.behaviour : Behaviour AppHandler Unit Unit where
  implements handler kind _ :=
    match handler with
    | .console _ => return true
    | .dialog => return kind = .press
  respond responder widget event := do
    match (← get).handler with
    | .console app => app.respond .dialog () responder widget event
    | .dialog => App.respondInDialog
  fallback key := do
    match (← get).handler with
    | .console _ => App.fallback key
    | .dialog => App.fallbackInDialog key
  onEnd _ form := modify fun s => { s with context := App.reportEdits form s.context }

namespace Console

/-- A console made of a source, with its first handler. -/
def create {H E : Type} (source : FormSource) (handler : H) :
    Except FormError (Console H E) := do
  let layer ← liftError (Layer.parse source.palette)
  let form ← Form.parse source.description (.ofLayer layer) source.strings
  return (← Console.ofForm form source.dialogPalette).pushHandler handler

end Console

end ScreenForm
