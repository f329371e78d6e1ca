import Mathlib.Logic.Relation
import ScreenForm.Console.Run
import ScreenForm.Proofs.Form.Focus
/-!
# The moves of a console

`Move` lists all that a console does at once, and a `Path` is a sequence of
moves. Whatever a console does with events and requests, and wherever an error
ends it, is a path (`perform_path`), so what each move keeps is kept by all runs.

Of the handlers and end callbacks we only use that they act through their
context (`Behaviour.ActsBy`).
-/

namespace ScreenForm

open Relation (ReflTransGen)

variable {H E W α β : Type} {R : Form → Form → Prop}

/-! ## What handlers do -/

/-- What one call on a context makes of it. Of the form it makes what `R` allows. -/
inductive Context.Call (R : Form → Form → Prop) (c : Context H E) : Context H E → Prop
  | form {form : Form} (changed : R c.form form) : Call R c { c with form }
  | setInfo (text : String) : Call R c (c.setInfo text)
  | setTooltip (text : String) : Call R c (c.setTooltip text)
  | stop (message : Option String) : Call R c (c.stop message)
  | openDialog {plan : DialogPlan H E} {c' : Context H E} (asked : c.openDialog plan = .ok c') : Call R c c'
  | endDialog {c' : Context H E} (asked : c.endDialog = .ok c') : Call R c c'

/-- Handlers and end callbacks have no way to their context but the calls on it, whether they fail or not. -/
structure Behaviour.ActsBy (b : Behaviour H E W) (R : Form → Form → Prop) : Prop where
  respond : ∀ responder widget event (scene : Scene H E W),
    ReflTransGen (Context.Call R) scene.context ((b.respond responder widget event).run.run scene).2.context
  fallback : ∀ key (scene : Scene H E W),
    ReflTransGen (Context.Call R) scene.context ((b.fallback key).run.run scene).2.context
  onEnd : ∀ callback dialog (farewell : Farewell H E W),
    ReflTransGen (Context.Call R) farewell.context ((b.onEnd callback dialog).run.run farewell).2.context

namespace Context

variable {c c' : Context H E}

/-- No call shows or ends a dialog at once, and none asks for the end of one that is not shown. -/
theorem Call.control (h : Call R c c') : c'.control.dialogShown = c.control.dialogShown ∧
    (c'.control.endRequested = true → c.control.endRequested = true ∨ c.control.dialogShown = true) := by
  cases h with
  | form | setInfo | setTooltip | stop => exact ⟨rfl, .inl⟩
  | openDialog asked =>
    unfold Context.openDialog at asked
    split at asked
    · cases asked
    · cases asked
      exact ⟨rfl, .inl⟩
  | endDialog asked =>
    unfold Context.endDialog at asked
    split at asked
    · next hs =>
      cases asked
      exact ⟨rfl, fun _ => .inr hs⟩
    · cases asked

theorem dialogShown_of_calls (h : ReflTransGen (Call R) c c') : c'.control.dialogShown = c.control.dialogShown := by
  induction h with
  | refl => rfl
  | tail _ hc ih => rw [hc.control.1, ih]

theorem endRequested_of_calls (h : ReflTransGen (Call R) c c') (he : c'.control.endRequested = true) :
    c.control.endRequested = true ∨ c.control.dialogShown = true := by
  induction h with
  | refl => exact .inl he
  | tail hcs hc ih =>
    -- Whether a dialog is shown does not change between the calls.
    rcases hc.control.2 he with he | hs
    · exact ih he
    · exact .inr (dialogShown_of_calls hcs ▸ hs)

/-- Of the form the calls make what `R` allows. -/
theorem form_of_calls (h : ReflTransGen (Call R) c c') : ReflTransGen R c.form c'.form := by
  induction h with
  | refl => exact .refl
  | tail _ hcall ih =>
    cases hcall with
    | form changed => exact ih.tail changed
    | setInfo | setTooltip | stop => exact ih
    | openDialog asked =>
      unfold Context.openDialog at asked
      split at asked <;> cases asked
      exact ih
    | endDialog asked =>
      unfold Context.endDialog at asked
      split at asked <;> cases asked
      exact ih

end Context

/-- The deed is a question to this handler, or a call of it with this context. -/
inductive Deed.Calls (handler : H) (context : Context H E) : Deed H E → Prop
  | asked (kind : EventKind) (responder : String) : Calls handler context (.asked handler kind responder)
  | told (responder : String) (widget : Nat) (event : Event) :
      Calls handler context (.told handler context responder widget event)
  | offered (key : Key) : Calls handler context (.offered handler context key)

/-- If the deed tells a handler of an event, then of one that the widget binds to the responder. -/
def Deed.Bound : Deed H E → Prop
  | told _ context responder widget event => (context.form.tree.about widget).events.get? event.kind = some responder
  | _ => True

namespace Console

/-- The consoles differ only in what is on the screen, and what belongs to the run. -/
structure Aside (c c' : Console H E) : Prop where
  form : c'.form = c.form
  handlers : c'.handlers = c.handlers
  dialog : c'.dialog = c.dialog
  generation : c'.generation = c.generation
  journal : c'.journal = c.journal
  pending : c'.control.pending = c.control.pending
  endRequested : c'.control.endRequested = c.control.endRequested
  dialogShown : c'.control.dialogShown = c.control.dialogShown

theorem Aside.refl (c : Console H E) : c.Aside c := ⟨rfl, rfl, rfl, rfl, rfl, rfl, rfl, rfl⟩

theorem aside_refreshFooter (c : Console H E) : c.Aside c.refreshFooter := by
  unfold refreshFooter
  split
  · exact .refl c
  · exact ⟨rfl, rfl, rfl, rfl, rfl, rfl, rfl, rfl⟩

theorem aside_heedStop (c : Console H E) : c.Aside c.heedStop := by
  unfold heedStop
  split
  · exact ⟨rfl, rfl, rfl, rfl, rfl, rfl, rfl, rfl⟩
  · exact .refl c

/-- The console after its top handler has acted and left this context. -/
def acted (c : Console H E) (deed : Deed H E) (context : Context H E) (handlers : List H) : Console H E :=
  c.become deed { (c.setRoutedForm context.form).setRoutedHandlers handlers with control := context.control }

/-- The context of an end callback. -/
def leaving (c : Console H E) : Context H E := ⟨c.form, c.control, .console⟩

/-- The console after an end callback has left this context. -/
def left (c : Console H E) (callback : E) (dialog : Form) (context : Context H E) : Console H E :=
  c.become (.tookLeave callback c.leaving dialog) { c with form := context.form, control := context.control }

/-- The console without the plan that was asked for. -/
def takePlan (c : Console H E) : Console H E :=
  { c with control := { c.control with pending := none } }

end Console

/-- One thing that a console does. -/
inductive Move (R : Form → Form → Prop) (s : Session H E W) : Session H E W → Prop
  | aside {c : Console H E} (same : s.console.Aside c) (screen : Screen) (world : W) :
      Move R s ⟨c, screen, world⟩
  | used (u : FormUse) : Move R s { s with console := s.console.setRoutedForm (s.console.routedForm.use u) }
  | asked {handler : H} {below : List H} (top : s.console.routedHandlers = handler :: below) (kind : EventKind)
      (responder : String) (world : W) :
      Move R s { s with console := s.console.become (.asked handler kind responder) s.console, world }
  | acted {handler : H} {below : List H} (top : s.console.routedHandlers = handler :: below) {deed : Deed H E}
      (called : deed.Calls handler s.console.context) {context : Context H E}
      (calls : ReflTransGen (Context.Call R) s.console.context context) (handler' : H) (world : W) (bound : deed.Bound) :
      Move R s { s with console := s.console.acted deed context (handler' :: below), world }
  | endDropped (requested : s.console.control.endRequested = true) (dialog : s.console.dialog = none) :
      Move R s { s with
        console := { s.console with control := { s.console.control with endRequested := false } } }
  | ended {d : Dialog H E} (requested : s.console.control.endRequested = true) (dialog : s.console.dialog = some d)
      (onEnd : d.onEnd = none) : Move R s { s with console := s.console.detach d }
  | endedWith {d : Dialog H E} {callback : E} (requested : s.console.control.endRequested = true)
      (dialog : s.console.dialog = some d) (onEnd : d.onEnd = some callback) {context : Context H E}
      (calls : ReflTransGen (Context.Call R) (s.console.detach d).leaving context) (world : W) :
      Move R s { s with console := (s.console.detach d).left callback d.form context, world }
  | planned (plan : DialogPlan H E) (dialog : s.console.dialog = none) :
      Move R s { s with console := { s.console with control := { s.console.control with pending := some plan } } }
  | endAsked (dialog : s.console.dialog.isSome) :
      Move R s { s with console := { s.console with control := { s.console.control with endRequested := true } } }
  | planDropped (settled : s.console.control.endRequested = false) : Move R s { s with console := s.console.takePlan }
  | opened {plan : DialogPlan H E} {d : Dialog H E} (settled : s.console.control.endRequested = false)
      (pending : s.console.control.pending = some plan) (built : plan.build s.console.dialogBase = .ok d) :
      Move R s { s with console := s.console.takePlan.attach d }

abbrev Path (R : Form → Form → Prop) : Session H E W → Session H E W → Prop := ReflTransGen (Move R)

/-! ## Runs of the monad -/

namespace SessionM

/-- The session after this, whether it fails or not. -/
def after (m : SessionM H E W α) (s : Session H E W) : Session H E W := (m.run.run s).2

/-- From this session it goes along a path. -/
def Leads (R : Form → Form → Prop) (m : SessionM H E W α) (s : Session H E W) : Prop := Path R s (m.after s)

variable {s : Session H E W} {m : SessionM H E W α} {f : α → SessionM H E W β}

theorem run_bind (m : SessionM H E W α) (f : α → SessionM H E W β) (s : Session H E W) :
    (m >>= f).run.run s = match m.run.run s with
      | (.ok a, s') => (f a).run.run s'
      | (.error e, s') => (.error e, s') := by
  rw [ExceptT.run_bind, StateT.run_bind]
  rcases h : m.run.run s with ⟨_ | a, s'⟩ <;> rfl

theorem Leads.bind (hm : Leads R m s) (hf : ∀ a s', m.run.run s = (.ok a, s') → Leads R (f a) s') :
    Leads R (m >>= f) s := by
  unfold Leads after at hm ⊢
  rw [run_bind]
  rcases h : m.run.run s with ⟨_ | a, s'⟩
  · rw [h] at hm
    exact hm
  · rw [h] at hm
    exact hm.trans (hf a s' h)

theorem leads_pure (a : α) : Leads R (pure a) s := .refl

theorem leads_throw (e : FormError) : Leads R (throw e : SessionM H E W α) s := .refl

theorem leads_console {f : Console H E → SessionM H E W α} (h : Leads R (f s.console) s) :
    Leads R (console >>= f) s := h

theorem after_console (f : Console H E → SessionM H E W α) (s : Session H E W) :
    (console >>= f).after s = (f s.console).after s := rfl

theorem leads_modifyConsole {f : Console H E → Console H E} (h : Move R s { s with console := f s.console }) :
    Leads R (modifyConsole f) s := .single h

theorem run_tryCatch (m : SessionM H E W α) (h : FormError → SessionM H E W α) (s : Session H E W) :
    (tryCatch m h).run.run s = match m.run.run s with
      | (.ok a, s') => (.ok a, s')
      | (.error e, s') => (h e).run.run s' := by
  rw [ExceptT.run_tryCatch, StateT.run_bind]
  rcases hr : m.run.run s with ⟨_ | a, s'⟩ <;> rfl

theorem Leads.tryCatch {h : FormError → SessionM H E W α} (hm : Leads R m s)
    (hh : ∀ e s', m.run.run s = (.error e, s') → Leads R (h e) s') : Leads R (tryCatch m h) s := by
  unfold Leads after at hm ⊢
  rw [run_tryCatch]
  rcases hr : m.run.run s with ⟨e | a, s'⟩
  · rw [hr] at hm
    exact hm.trans (hh e s' hr)
  · rw [hr] at hm
    exact hm

theorem after_liftExcept (x : Except FormError α) (s : Session H E W) :
    (actWith.liftExcept x : SessionM H E W α).after s = s := by
  cases x <;> rfl

theorem after_actWith (handler : H) (below : List H) (deed : Context H E → Deed H E) (act : Act H E W α)
    (s : Session H E W) :
    (actWith handler below deed act).after s =
      { s with
        console := s.console.acted (deed s.console.context)
          (act.run.run ⟨handler, s.console.context, s.world⟩).2.context
          ((act.run.run ⟨handler, s.console.context, s.world⟩).2.handler :: below)
        world := (act.run.run ⟨handler, s.console.context, s.world⟩).2.world } :=
  after_liftExcept ..

theorem after_takeLeave (b : Behaviour H E W) (callback : E) (dialog : Form) (s : Session H E W) :
    (takeLeave b callback dialog).after s =
      { s with
        console := s.console.left callback dialog
          ((b.onEnd callback dialog).run.run ⟨s.console.leaving, s.world⟩).2.context
        world := ((b.onEnd callback dialog).run.run ⟨s.console.leaving, s.world⟩).2.world } :=
  after_liftExcept ..

end SessionM

/-! ## What leads along a path -/

namespace Console

open SessionM

variable {b : Behaviour H E W} (hb : b.ActsBy R) {s : Session H E W}

theorem leads_implements {handler : H} {below : List H} (top : s.console.routedHandlers = handler :: below)
    (kind : EventKind) (responder : String) : Leads R (implements b handler kind responder) s :=
  .single (.asked top kind responder _)

theorem leads_modifyConsole_aside {f : Console H E → Console H E} (h : s.console.Aside (f s.console)) :
    Leads R (modifyConsole f : SessionM H E W Unit) s :=
  .single (.aside h s.screen s.world)

include hb

theorem leads_tell {handler : H} {below : List H} (top : s.console.routedHandlers = handler :: below)
    {responder : String} {widget : Nat} {event : Event}
    (bound : (s.console.routedForm.tree.about widget).events.get? event.kind = some responder) :
    Leads R (SessionM.tell b handler below responder widget event) s := by
  rw [Leads, SessionM.tell, after_actWith]
  exact .single (.acted top (.told responder widget event)
    (hb.respond responder widget event ⟨handler, s.console.context, s.world⟩) _ _ bound)

theorem leads_offer {handler : H} {below : List H} (top : s.console.routedHandlers = handler :: below) (key : Key) :
    Leads R (offer b handler below key) s := by
  rw [Leads, SessionM.offer, after_actWith]
  exact .single (.acted top (.offered key) (hb.fallback key ⟨handler, s.console.context, s.world⟩) _ _ trivial)

theorem leads_dispatch (widget : Nat) (event : Event) : Leads R (dispatch b widget event) s := by
  refine leads_console ?_
  split
  · exact leads_pure _
  next responder bound =>
  split
  · split
    · exact leads_pure _
    · exact leads_throw _
  · next handler below top =>
    refine (leads_implements top _ _).bind fun answer s' h => ?_
    obtain rfl : _ = s' := congrArg Prod.snd h
    split
    · exact leads_tell hb (by exact top) (by exact bound)
    · split
      · exact leads_pure _
      · exact leads_throw _

theorem leads_fallbackKey (key : Key) : Leads R (fallbackKey b key) s := by
  refine leads_console ?_
  split
  · exact leads_pure _
  · next handler below top => exact (leads_offer hb top key).bind fun _ _ _ => leads_pure _

omit hb in
theorem after_applyEnd (s : Session H E W) : (applyEnd b).after s =
    if s.console.control.endRequested then
      match s.console.dialog with
      | none => { s with
          console := { s.console with control := { s.console.control with endRequested := false } } }
      | some d =>
        match d.onEnd with
        | none => { s with console := s.console.detach d }
        | some callback => (takeLeave b callback d.form).after { s with console := s.console.detach d }
    else s := by
  rw [applyEnd, after_console]
  split
  · cases s.console.dialog with
    | none => rfl
    | some d => cases ho : d.onEnd <;> simp only [ho] <;> rfl
  · rfl

omit hb in
theorem run_applyEnd (h : s.console.control.endRequested = false) : (applyEnd b).run.run s = (.ok (), s) := by
  show (if s.console.control.endRequested = true then _ else _ : SessionM H E W Unit).run.run s = _
  rw [if_neg (by simp [h])]
  rfl

theorem leads_applyEnd : Leads R (applyEnd b) s := by
  rw [Leads, after_applyEnd]
  split
  · next hreq =>
    split
    · next hd => exact .single (.endDropped hreq hd)
    · next d hd =>
      split
      · next hn => exact .single (.ended hreq hd hn)
      · next callback hc =>
        rw [after_takeLeave]
        exact .single (.endedWith hreq hd hc (hb.onEnd callback d.form ⟨(s.console.detach d).leaving, s.world⟩) _)
  · exact .refl

/-- Once the end of a dialog is seen to, it is not asked for any more. -/
theorem settled_applyEnd : ((applyEnd b).after s).console.control.endRequested = false := by
  rw [after_applyEnd]
  split
  · split
    · rfl
    · next d _ =>
      split
      · rfl
      · next callback _ =>
        rw [after_takeLeave, ← Bool.not_eq_true]
        intro he
        -- The end callback finds no dialog to ask the end of.
        have hcalls := hb.onEnd callback d.form ⟨(s.console.detach d).leaving, s.world⟩
        rcases Context.endRequested_of_calls hcalls he with he | hs
        · cases he
        · cases hs
  · next hreq => simpa using hreq

omit hb in
theorem leads_applyOpen (settled : s.console.control.endRequested = false) :
    Leads R (applyOpen : SessionM H E W Unit) s := by
  refine leads_console ?_
  split
  · exact leads_pure _
  · next plan hp =>
    cases hbuild : plan.build s.console.dialogBase with
    | error e => exact .single (.planDropped settled)
    | ok d => exact .single (.opened settled hp hbuild)

theorem leads_applyRequests : Leads R (applyRequests b) s :=
  -- If the end callback fails, no dialog is opened, and the plan for it stays.
  (leads_applyEnd hb).bind fun _ s' h => by
    obtain rfl : _ = s' := congrArg Prod.snd h
    exact leads_applyOpen (settled_applyEnd hb)

theorem leads_openDialog (plan : DialogPlan H E) : Leads R (openDialog b plan) s := by
  refine leads_console ?_
  dsimp only
  split
  · exact leads_throw _
  · next hd =>
    have hmove : Leads R (modifyControl fun control => { control with pending := some plan }) s :=
      .single (.planned plan (by simpa using hd))
    exact hmove.bind fun _ _ _ => leads_applyRequests hb

theorem leads_endDialog : Leads R (endDialog b) s := by
  refine leads_console ?_
  dsimp only
  split
  · exact leads_throw _
  · next hd =>
    have hmove : Leads R (modifyControl fun control => { control with endRequested := true }) s :=
      .single (.endAsked (Option.isSome_iff_ne_none.2 (by simpa using hd)))
    exact hmove.bind fun _ _ _ => leads_applyRequests hb

omit hb in
/-- Pressing a widget, offering a key and stepping are uses of the form that events go to. -/
theorem leads_setRoutedTree {tree : Tree} (u : FormUse)
    (hu : s.console.routedForm.use u = { s.console.routedForm with tree }) :
    Leads R (modifyConsole (·.setRoutedTree tree)) s := by
  refine leads_modifyConsole ?_
  have hmove := Move.used (R := R) (s := s) u
  rwa [hu] at hmove

theorem leads_press (name : String) : Leads R (press b name) s := by
  refine leads_console ?_
  split
  · exact leads_throw _
  · next widget _ =>
    split
    · exact leads_pure _
    · next tree ht =>
      refine (leads_setRoutedTree (.activate widget) (by simp [Form.use, ht])).bind fun _ _ _ => ?_
      refine (leads_dispatch hb _ _).bind fun _ _ _ => ?_
      exact (leads_applyRequests hb).bind fun _ _ _ => leads_pure _

theorem leads_fireFocus : Leads R (fireFocus b) s := by
  refine leads_console ?_
  dsimp only
  split
  · refine Leads.bind (leads_modifyConsole_aside ⟨rfl, rfl, rfl, rfl, rfl, rfl, rfl, rfl⟩) fun _ _ _ => ?_
    split
    · exact leads_pure _
    · refine Leads.tryCatch ((leads_dispatch hb _ _).bind fun _ _ _ => leads_pure _) fun e _ _ => ?_
      split
      · exact leads_pure _
      · exact leads_throw _
  · exact leads_pure _

theorem leads_fireEdit (snapshot : Nat × Nat × String) : Leads R (fireEdit b snapshot) s := by
  refine leads_console ?_
  split
  · split
    · exact leads_pure _
    · split
      · exact (leads_dispatch hb _ _).bind fun _ _ _ => leads_pure _
      · exact leads_pure _
  · exact leads_pure _

theorem leads_passKey (key : Key) : Leads R (passKey b key) s := by
  refine leads_console ?_
  dsimp only
  refine (leads_setRoutedTree (.key key) rfl).bind fun _ s' _ => ?_
  split
  · exact leads_pure _
  · exact (leads_dispatch hb _ _).bind fun _ _ _ => leads_pure _
  · refine leads_console ?_
    split
    · next moved hm =>
      obtain ⟨d, -, hm⟩ := Option.bind_eq_some_iff.1 hm
      obtain ⟨tree, ht, rfl⟩ := Option.map_eq_some_iff.1 hm
      exact leads_setRoutedTree (.step d) (by simp [Form.use, ht])
    · exact leads_fallbackKey hb key

theorem leads_handleKey (key : Key) : Leads R (handleKey b key) s := by
  refine leads_console ?_
  split
  · exact leads_passKey hb key
  · refine (leads_dispatch hb _ _).bind fun response _ _ => ?_
    cases response with
    | handled => exact leads_pure _
    | notHandled => exact leads_passKey hb key

theorem leads_handleInput (input : Input) : Leads R (handleInput b input) s := by
  cases input with
  | resize columns rows => exact leads_modifyConsole_aside ⟨rfl, rfl, rfl, rfl, rfl, rfl, rfl, rfl⟩
  | key key => exact (leads_handleKey hb key).bind fun _ _ _ => leads_applyRequests hb

theorem leads_handleBatch (inputs : List Input) : Leads R (handleBatch b inputs) s := by
  induction inputs generalizing s with
  | nil => exact leads_pure _
  | cons input rest ih =>
    refine (leads_handleInput hb input).bind fun _ s' _ => leads_console ?_
    split
    · exact ih
    · exact leads_pure _

omit hb in
theorem leads_drawFrame : Leads R (drawFrame : SessionM H E W Unit) s := by
  refine (leads_modifyConsole_aside (aside_refreshFooter _)).bind fun _ s' _ => ?_
  refine Leads.bind (.single (.aside (.refl s'.console) _ _)) fun _ _ _ => ?_
  exact leads_modifyConsole_aside ⟨rfl, rfl, rfl, rfl, rfl, rfl, rfl, rfl⟩

omit hb in
theorem leads_pollBatch : Leads R (pollBatch : SessionM H E W (List Input)) s := by
  refine Leads.bind (m := get) .refl fun s' _ h => ?_
  cases h
  split
  · exact leads_throw _
  · exact .single (.aside (.refl s.console) _ _)

theorem leads_step : Leads R (step b) s := by
  refine (leads_fireFocus hb).bind fun _ _ _ => (leads_applyRequests hb).bind fun _ _ _ => ?_
  refine (leads_modifyConsole_aside (aside_heedStop _)).bind fun _ _ _ => leads_console ?_
  split
  · refine leads_drawFrame.bind fun _ _ _ => leads_pollBatch.bind fun batch _ _ => leads_console ?_
    refine (leads_handleBatch hb batch).bind fun _ _ _ => ?_
    split
    · refine (leads_fireEdit hb _).bind fun _ _ _ => (leads_applyRequests hb).bind fun _ _ _ => ?_
      exact leads_modifyConsole_aside (aside_heedStop _)
    · exact leads_modifyConsole_aside (aside_heedStop _)
  · exact leads_pure _

theorem leads_stepWhileRunning (n : Nat) : Leads R (stepWhileRunning b n) s := by
  induction n generalizing s with
  | zero => exact leads_pure _
  | succ n ih =>
    refine leads_console ?_
    split
    · exact (leads_step hb).bind fun _ _ _ => ih
    · exact leads_pure _

omit hb in
theorem leads_start : Leads R (start : SessionM H E W Unit) s :=
  leads_modifyConsole_aside (f := fun c => { c with
    size := s.screen.size
    control := { c.control with stopRequested := false, finalMessage := none }
    running := true }) ⟨rfl, rfl, rfl, rfl, rfl, rfl, rfl, rfl⟩

theorem leads_run : Leads R (run b) s := by
  -- What the steps have done before an error is a path too, and stopping only adds to it.
  refine leads_start.bind fun _ s' _ => Leads.bind (m := get) .refl fun s'' _ _ => ?_
  refine (Leads.tryCatch (leads_stepWhileRunning hb _) fun e _ _ => ?_).bind fun _ _ _ => leads_console ?_
  · refine (leads_modifyConsole_aside ⟨rfl, rfl, rfl, rfl, rfl, rfl, rfl, rfl⟩).bind fun _ _ _ => leads_throw _
  · refine Leads.bind (leads_modifyConsole_aside ⟨rfl, rfl, rfl, rfl, rfl, rfl, rfl, rfl⟩) fun _ _ _ => leads_pure _

end Console

end ScreenForm
