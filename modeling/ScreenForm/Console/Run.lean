import ScreenForm.Console.Basic

/-!
# Running a console

What a console does with events and requests, step by step. All of it depends on
the `Behaviour` of the handlers.
-/

namespace ScreenForm

namespace SessionM

variable {H E W α : Type}

def console : SessionM H E W (Console H E) :=
  return (← get).console

def modifyConsole (f : Console H E → Console H E) : SessionM H E W Unit :=
  modify fun s => { s with console := f s.console }

def modifyControl (f : Control H E → Control H E) : SessionM H E W Unit :=
  modifyConsole fun c => { c with control := f c.control }

/-- Lets the top handler of the form that events go to act. -/
def actWith (handler : H) (below : List H) (deed : Context H E → Deed H E) (act : Act H E W α) :
    SessionM H E W α := do
  let s ← get
  let c := s.console
  let (result, scene) := act.run.run { handler, context := c.context, world := s.world }
  let after : Console H E :=
    { (c.setRoutedForm scene.context.form).setRoutedHandlers (scene.handler :: below) with
      control := scene.context.control }
  set { s with console := c.become (deed c.context) after, world := scene.world }
  liftExcept result
where
  liftExcept : Except FormError α → SessionM H E W α
    | .ok a => pure a
    | .error e => throw e

/-- Lets an end callback act on the form of the console. -/
def takeLeave (b : Behaviour H E W) (callback : E) (dialog : Form) : SessionM H E W Unit := do
  let s ← get
  let c := s.console
  let context : Context H E := ⟨c.form, c.control, .console⟩
  let (result, farewell) := (b.onEnd callback dialog).run.run { context, world := s.world }
  let after : Console H E :=
    { c with form := farewell.context.form, control := farewell.context.control }
  set { s with
    console := c.become (.tookLeave callback context dialog) after
    world := farewell.world }
  actWith.liftExcept result

def implements (b : Behaviour H E W) (handler : H) (kind : EventKind) (responder : String) :
    SessionM H E W Bool :=
  modifyGet fun s =>
    let c := s.console
    let (answer, world) := (b.implements handler kind responder).run s.world
    (answer, { s with console := c.become (.asked handler kind responder) c, world })

/-- Tells the top handler of an event of a widget. -/
def tell (b : Behaviour H E W) (handler : H) (below : List H) (responder : String) (widget : Nat)
    (event : Event) : SessionM H E W Response :=
  actWith handler below (.told handler · responder widget event) (b.respond responder widget event)

/-- Offers a key to the top handler. -/
def offer (b : Behaviour H E W) (handler : H) (below : List H) (key : Key) :
    SessionM H E W Response :=
  actWith handler below (.offered handler · key) (b.fallback key)

end SessionM

namespace Console

variable {H E W : Type} (b : Behaviour H E W)

open SessionM

/-- Brings an event to the responder that the widget binds it to. It is an error if the handler
does not have it, except for a key, which the widgets can take. -/
def dispatch (widget : Nat) (event : Event) : SessionM H E W Response := do
  let c ← console
  match (c.routedForm.tree.about widget).events.get? event.kind with
  | none => return .notHandled
  | some responder =>
    match c.routedHandlers with
    | [] =>
      if event.kind = .key then return .notHandled
      else throw (.runtimeError (.noHandler event.kind responder))
    | handler :: below =>
      if ← implements b handler event.kind responder then
        tell b handler below responder widget event
      else if event.kind = .key then return .notHandled
      else throw (.runtimeError (.missingResponder event.kind responder))

/-- Brings a key to the fallback of the top handler. -/
def fallbackKey (key : Key) : SessionM H E W Unit := do
  match (← console).routedHandlers with
  | [] => return ()
  | handler :: below => let _ ← offer b handler below key

/-- Ends the dialog if that was asked for. Its end callback sees the console without it. -/
def applyEnd : SessionM H E W Unit := do
  let c ← console
  if c.control.endRequested then
    match c.dialog with
    | none => modifyControl fun control => { control with endRequested := false }
    | some dialog =>
      modifyConsole (·.detach dialog)
      match dialog.onEnd with
      | some callback => takeLeave b callback dialog.form
      | none => return ()

/-- Opens the dialog that was asked for. -/
def applyOpen : SessionM H E W Unit := do
  let c ← console
  match c.control.pending with
  | none => return ()
  | some plan =>
    modifyControl fun control => { control with pending := none }
    match plan.build c.dialogBase with
    | .error e => throw e
    | .ok dialog => modifyConsole (·.attach dialog)

/-- Meets the requests of the handlers: first an end, and then an opening. -/
def applyRequests : SessionM H E W Unit := do
  applyEnd b
  applyOpen

/-- Opens a dialog at once. -/
def openDialog (plan : DialogPlan H E) : SessionM H E W Unit := do
  if (← console).dialog.isSome then throw (.runtimeError .dialogAlreadyActive)
  modifyControl fun control => { control with pending := some plan }
  applyRequests b

/-- Ends the dialog at once. -/
def endDialog : SessionM H E W Unit := do
  if (← console).dialog.isNone then throw (.runtimeError .noActiveDialog)
  modifyControl fun control => { control with endRequested := true }
  applyRequests b

/-- Presses the widget of this name, as a key on it would. -/
def press (name : String) : SessionM H E W Response := do
  let c ← console
  match c.routedForm.widget name with
  | .error e => throw (.runtimeError e)
  | .ok widget =>
    match c.routedForm.tree.activate? widget with
    | none => return .notHandled
    | some tree =>
      modifyConsole (·.setRoutedTree tree)
      let response ← dispatch b widget .press
      applyRequests b
      return response

/-- Whether an error says that nobody can respond to an event. -/
def isUnanswered : FormError → Bool
  | .runtimeError (.missingResponder ..) | .runtimeError (.noHandler ..) => true
  | _ => false

/-- Tells the focused widget if the focus has moved. It need not have a responder. -/
def fireFocus : SessionM H E W Unit := do
  let c ← console
  let current := c.focused?.map (c.generation, ·)
  if current ≠ c.lastFocus then
    modifyConsole fun c => { c with lastFocus := current }
    match current with
    | none => return ()
    | some (_, widget) =>
      tryCatch (do let _ ← dispatch b widget .focus) fun e =>
        if isUnanswered e then pure () else throw e

/-- Tells an edit if its text is not what it was, unless events go to another form by now. -/
def fireEdit (snapshot : Nat × Nat × String) : SessionM H E W Unit := do
  let (generation, widget, before) := snapshot
  let c ← console
  if generation = c.generation then
    match (c.routedForm.tree.widget widget).editText? with
    | none => return ()
    | some after =>
      if after ≠ before then
        let _ ← dispatch b widget (.edit before after)

/-- The direction in which a key moves the focus through the whole form. -/
def tabDirection? : KeyCode → Option Direction
  | .tab => some .forward
  | .backTab => some .backward
  | _ => none

/-- Handles a key for which the focused widget has no responder. -/
def passKey (key : Key) : SessionM H E W Unit := do
  let c ← console
  let form := c.routedForm
  let (tree, outcome) := form.tree.keypress form.root key
  modifyConsole (·.setRoutedTree tree)
  match outcome with
  | .consumed => return ()
  | .pressed widget => let _ ← dispatch b widget .press
  | .unhandled =>
    let c ← console
    match (tabDirection? key.code).bind c.stepFocus? with
    | some moved => modifyConsole fun _ => moved
    | none => fallbackKey b key

def handleKey (key : Key) : SessionM H E W Unit := do
  match (← console).focused? with
  | none => passKey b key
  | some widget =>
    match ← dispatch b widget (.key key) with
    | .handled => return ()
    | .notHandled => passKey b key

def handleInput : Input → SessionM H E W Unit
  | .resize columns rows => modifyConsole fun c => { c with size := (columns, rows) }
  | .key key => do
    handleKey b key
    applyRequests b

/-- Handles a batch of input, up to the request to stop. -/
def handleBatch : List Input → SessionM H E W Unit
  | [] => return ()
  | input :: rest => do
    handleInput b input
    if !(← console).control.stopRequested then handleBatch rest

/-- Draws a frame with the footer text, which is gone after it. -/
def drawFrame : SessionM H E W Unit := do
  modifyConsole (·.refreshFooter)
  modify fun s => { s with screen := s.screen.draw (s.console.render? s.console.footerText) }
  modifyConsole (·.dropFooter)

/-- Takes the next batch of input from the screen. -/
def pollBatch : SessionM H E W (List Input) := do
  let s ← get
  match s.screen.poll? with
  | none => throw .inputExhausted
  | some (batch, screen) =>
    set { s with screen }
    return batch

/-- One step of a console. -/
def step : SessionM H E W Unit := do
  fireFocus b
  applyRequests b
  modifyConsole (·.heedStop)
  if !(← console).control.stopRequested then
    drawFrame
    let batch ← pollBatch
    let snapshot := (← console).editSnapshot
    handleBatch b batch
    match snapshot with
    | some snapshot =>
      fireEdit b snapshot
      applyRequests b
    | none => pure ()
    modifyConsole (·.heedStop)

/-- Takes steps while the console runs, at most this many. -/
def stepWhileRunning : Nat → SessionM H E W Unit
  | 0 => return ()
  | n + 1 => do
    if (← console).running then
      step b
      stepWhileRunning n

/-- Makes a console ready to run on its screen. -/
def start : SessionM H E W Unit :=
  modify fun s => { s with
    console := { s.console with
      size := s.screen.size
      control := { s.console.control with stopRequested := false, finalMessage := none }
      running := true } }

/-- Runs until a handler asks for a stop, and gives its message. Each step but the last takes a
batch of input, so there cannot be more than one step beyond the batches. -/
def run : SessionM H E W (Option String) := do
  start
  let batches := (← get).screen.queue.length
  tryCatch (stepWhileRunning b (batches + 1)) fun e => do
    modifyConsole fun c => { c with running := false }
    throw e
  let message := (← console).control.finalMessage
  modifyControl fun control => { control with finalMessage := none }
  return message

end Console

end ScreenForm
