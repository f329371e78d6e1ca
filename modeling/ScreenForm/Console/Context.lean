import ScreenForm.Dialog.Basic
import ScreenForm.Widget.Key

/-!
# What handlers see and do

A handler responds to events. It does not touch the console itself: it gets a
`Context`, reads and changes the form that the event came from, and leaves
requests in it, which the console meets once the event is over.
-/

namespace ScreenForm

inductive Event where
  | press
  /-- The text of an edit has changed. -/
  | edit (before after : String)
  | focus
  | key (key : Key)
  deriving Repr, DecidableEq, Inhabited

def Event.kind : Event → EventKind
  | press => .press
  | edit .. => .edit
  | focus => .focus
  | key _ => .key

/-- Whether a handler is done with an event, or leaves it to what comes next. -/
inductive Response where
  | handled
  | notHandled
  deriving Repr, DecidableEq, Inhabited

/-- The form that an event came from. -/
inductive Scope where
  | console
  | dialog
  deriving Repr, DecidableEq, Inhabited

/-- The requests that handlers have left, and whether a dialog is shown. -/
structure Control (H E : Type) where
  stopRequested : Bool := false
  /-- What to tell when the console has stopped. -/
  finalMessage : Option String := none
  /-- Text for the left side of the footer of the next frame. -/
  info : Option String := none
  /-- Text for the right side of the footer of the next frame. -/
  tooltip : Option String := none
  /-- A dialog to open. -/
  pending : Option (DialogPlan H E) := none
  endRequested : Bool := false
  dialogShown : Bool := false

structure Context (H E : Type) where
  form : Form
  control : Control H E
  scope : Scope

namespace Context

variable {H E : Type}

def setInfo (c : Context H E) (text : String) : Context H E :=
  { c with control := { c.control with info := some text } }

def setTooltip (c : Context H E) (text : String) : Context H E :=
  { c with control := { c.control with tooltip := some text } }

/-- Asks the console to stop. -/
def stop (c : Context H E) (message : Option String) : Context H E :=
  { c with control := { c.control with stopRequested := true, finalMessage := message } }

/-- Asks for a dialog. There can only be one, unless the one that is shown is about to end. -/
def openDialog (c : Context H E) (plan : DialogPlan H E) : Except RuntimeError (Context H E) :=
  if (c.control.dialogShown && !c.control.endRequested) || c.control.pending.isSome then
    .error .dialogAlreadyActive
  else .ok { c with control := { c.control with pending := some plan } }

/-- Asks for the end of the dialog that is shown. -/
def endDialog (c : Context H E) : Except RuntimeError (Context H E) :=
  if c.control.dialogShown then .ok { c with control := { c.control with endRequested := true } }
  else .error .noActiveDialog

def setText (c : Context H E) (name text : String) : Except RuntimeError (Context H E) :=
  (c.form.setText name text).map fun form => { c with form }

def setEditText (c : Context H E) (name text : String) : Except RuntimeError (Context H E) :=
  (c.form.setEditText name text).map fun form => { c with form }

end Context

/-- What a responding handler works on: itself, its context, and the world that all handlers of an
application share. -/
structure Scene (H E W : Type) where
  handler : H
  context : Context H E
  world : W

/-- What a handler does. What it has done before an error stays done. -/
abbrev Act (H E W : Type) := ExceptT FormError (StateM (Scene H E W))

/-- What an end callback works on. -/
structure Farewell (H E W : Type) where
  context : Context H E
  world : W

namespace Act

variable {H E W α : Type}

def context : Act H E W (Context H E) :=
  return (← get).context

/-- Does something to the context that cannot fail. -/
def change (f : Context H E → Context H E) : Act H E W Unit :=
  modify fun s => { s with context := f s.context }

/-- Does something to the context. If it fails, the context stays as it was. -/
def attempt (f : Context H E → Except RuntimeError (Context H E)) : Act H E W Unit := do
  let s ← get
  match f s.context with
  | .ok context => set { s with context }
  | .error e => throw (.runtimeError e)

end Act

/-- What the handlers and the end callbacks of an application do. -/
structure Behaviour (H E W : Type) where
  /-- Whether the handler has a responder of this name for such events. -/
  implements : H → EventKind → String → StateM W Bool
  /-- Responds to an event of a widget, for which the handler has a responder of this name. -/
  respond : String → Nat → Event → Act H E W Response
  /-- Takes a key that nothing else has handled. -/
  fallback : Key → Act H E W Response
  /-- Takes leave of a dialog with this form. -/
  onEnd : E → Form → ExceptT FormError (StateM (Farewell H E W)) Unit

end ScreenForm
