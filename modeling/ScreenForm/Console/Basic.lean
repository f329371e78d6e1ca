import ScreenForm.Console.Context
import ScreenForm.Console.Frame
import ScreenForm.Screen.Script

/-!
# Consoles

A console shows a form, and perhaps a dialog over it, on a screen and passes
input on. While a dialog is shown, all events are its own. In each step the
console

1. tells the focused widget if the focus has moved,
2. draws a frame, with the footer text of the focused widget,
3. takes a batch of input and handles its keys one by one, and
4. tells the edit that was focused when the batch came if its text has changed.

A key goes to the responder of the focused widget, then to the widgets, then to
the movement of the focus with Tab, and at last to the fallback of the handler;
the first that has a use for it ends its way.
-/

namespace ScreenForm

/-- What a console does with its dialogs, and what it turns to handlers and end callbacks for. -/
inductive Deed (H E : Type) where
  /-- It asked a handler whether it has a responder. -/
  | asked (handler : H) (kind : EventKind) (responder : String)
  /-- It told a handler of an event of a widget. -/
  | told (handler : H) (context : Context H E) (responder : String) (widget : Nat) (event : Event)
  /-- It offered a key to a handler that nothing else had handled. -/
  | offered (handler : H) (context : Context H E) (key : Key)
  | opened (dialog : Dialog H E)
  | closed (dialog : Dialog H E)
  /-- It let an end callback take leave of a dialog with this form. -/
  | tookLeave (callback : E) (context : Context H E) (form : Form)

/-- The part of a console that events and requests are about. -/
structure Stage (H E : Type) where
  form : Form
  handlers : List H
  dialog : Option (Dialog H E)
  control : Control H E

/-- A deed of a console, with the stage before and after it. -/
structure Entry (H E : Type) where
  deed : Deed H E
  before : Stage H E
  after : Stage H E

structure Console (H E : Type) where
  form : Form
  /-- The handlers, the top one first. -/
  handlers : List H
  dialog : Option (Dialog H E)
  control : Control H E
  /-- The palette below the one of each dialog. -/
  dialogBase : Palette
  running : Bool
  /-- Columns and rows of the screen. -/
  size : Nat × Nat
  /-- The focused widget that was told last, in which generation. -/
  lastFocus : Option (Nat × Nat)
  /-- Grows whenever events begin to go to another form. -/
  generation : Nat
  /-- What the console has done, the last deed first. -/
  journal : List (Entry H E) := []

/-- A console at work: with its screen, and the world of its handlers. -/
structure Session (H E W : Type) where
  console : Console H E
  screen : Screen
  world : W

/-- What a console does. What it has done before an error stays done. -/
abbrev SessionM (H E W : Type) := ExceptT FormError (StateM (Session H E W))

namespace Console

variable {H E : Type}

/-- A console for a form, without handlers. -/
def ofForm (form : Form) (dialogPalette : String) : Except FormError (Console H E) := do
  let top ← liftError (Layer.parse dialogPalette)
  return {
    form := form
    handlers := []
    dialog := none
    control := {}
    dialogBase := form.palette.addLayer top
    running := false
    size := (0, 0)
    lastFocus := none
    generation := 0 }

def stage (c : Console H E) : Stage H E :=
  ⟨c.form, c.handlers, c.dialog, c.control⟩

/-- The console as it is after a deed, which goes into the journal. -/
def become (c : Console H E) (deed : Deed H E) (after : Console H E) : Console H E :=
  { after with journal := ⟨deed, c.stage, after.stage⟩ :: c.journal }

def pushHandler (c : Console H E) (h : H) : Console H E :=
  { c with handlers := h :: c.handlers }

def popHandler (c : Console H E) : Console H E :=
  { c with handlers := c.handlers.tail }

/-- The form that events go to. -/
def routedForm (c : Console H E) : Form :=
  match c.dialog with
  | some d => d.form
  | none => c.form

/-- The handlers that events go to. -/
def routedHandlers (c : Console H E) : List H :=
  match c.dialog with
  | some d => d.handlers
  | none => c.handlers

def scope (c : Console H E) : Scope :=
  if c.dialog.isSome then .dialog else .console

/-- What the handlers that events go to get to see. -/
def context (c : Console H E) : Context H E :=
  ⟨c.routedForm, c.control, c.scope⟩

/-- The console with another form in the place that events go to. -/
def setRoutedForm (c : Console H E) (form : Form) : Console H E :=
  match c.dialog with
  | some d => { c with dialog := some { d with form } }
  | none => { c with form }

def setRoutedHandlers (c : Console H E) (handlers : List H) : Console H E :=
  match c.dialog with
  | some d => { c with dialog := some { d with handlers } }
  | none => { c with handlers }

def setRoutedTree (c : Console H E) (tree : Tree) : Console H E :=
  c.setRoutedForm { c.routedForm with tree }

/-- The focused widget of the form that events go to. -/
def focused? (c : Console H E) : Option Nat :=
  c.routedForm.tree.focused? c.routedForm.root

/-- Moves the focus as Tab does. -/
def stepFocus? (c : Console H E) (d : Direction) : Option (Console H E) :=
  (c.routedForm.tree.stepFocus? c.routedForm.root d).map c.setRoutedTree

/-- The console without its dialog, which has ended. -/
def detach (c : Console H E) (dialog : Dialog H E) : Console H E :=
  c.become (.closed dialog) { c with
    dialog := none
    control := { c.control with endRequested := false, dialogShown := false }
    generation := c.generation + 1 }

/-- The console with a new dialog over it. -/
def attach (c : Console H E) (dialog : Dialog H E) : Console H E :=
  c.become (.opened dialog) { c with
    dialog := some dialog
    control := { c.control with dialogShown := true }
    generation := c.generation + 1 }

/-- Stops the console, and keeps the message for the end of its run. -/
def stop (c : Console H E) (message : Option String) : Console H E :=
  { c with
    control := { c.control with stopRequested := true, finalMessage := message }
    running := false }

/-- Stops a running console if that was asked for. -/
def heedStop (c : Console H E) : Console H E :=
  if c.control.stopRequested then { c with running := false } else c

def footerText (c : Console H E) : FooterText :=
  ⟨c.control.info, c.control.tooltip⟩

/-- The console without footer text. -/
def dropFooter (c : Console H E) : Console H E :=
  { c with control := { c.control with info := none, tooltip := none } }

/-- Fills in the footer text that no handler has set from the keys of the focused widget. -/
def refreshFooter (c : Console H E) : Console H E :=
  match c.focused? with
  | none => c
  | some id =>
    let about := c.routedForm.tree.about id
    let textOf (key : Option String) : Option String :=
      key.bind fun key => (c.routedForm.string key).toOption
    { c with control := { c.control with
        info := c.control.info.or (textOf about.info)
        tooltip := c.control.tooltip.or (textOf about.tooltip) } }

/-- The focused edit and its text, with the generation that it belongs to. -/
def editSnapshot (c : Console H E) : Option (Nat × Nat × String) := do
  let id ← c.focused?
  let text ← (c.routedForm.tree.widget id).editText?
  return (c.generation, id, text)

/-- Paints the console as it is, unless that stops the program. -/
def render? (c : Console H E) (text : FooterText) (b : Buffer) : Option Buffer :=
  Frame.render? c.form (c.dialog.map (·.toPanel)) text b

end Console

end ScreenForm
