import ScreenForm.Proofs.Console.Move
/-!
# What all that a console does obeys

A relation between the sessions before and after each of a few things that a
console does to meet an event (`Admits`) holds between those before and after
all that is made of them, and so do the errors that they end with (`Obeys`). For
what comes before the requests are met, it need only allow less (`AdmitsCalls`).
-/

namespace ScreenForm

variable {H E W α β : Type}

/-- A handler or an end callback ends with this error. -/
inductive Behaviour.Raises (b : Behaviour H E W) (e : FormError) : Prop
  | respond (responder : String) (widget : Nat) (event : Event) (scene : Scene H E W)
      (error : ((b.respond responder widget event).run.run scene).1 = .error e)
  | fallback (key : Key) (scene : Scene H E W) (error : ((b.fallback key).run.run scene).1 = .error e)
  | onEnd (callback : E) (dialog : Form) (farewell : Farewell H E W)
      (error : ((b.onEnd callback dialog).run.run farewell).1 = .error e)

/-- The consoles differ neither in what they have done nor in what belongs to stopping. -/
structure Console.Silent (c c' : Console H E) : Prop where
  journal : c'.journal = c.journal
  running : c'.running = c.running
  stopRequested : c'.control.stopRequested = c.control.stopRequested
  finalMessage : c'.control.finalMessage = c.control.finalMessage

/-- Nor do they differ in the text for the footer. -/
structure Console.Mute (c c' : Console H E) : Prop extends c.Silent c' where
  footerText : c'.footerText = c.footerText

/-- The responder is the one that the widget binds to such events. -/
def Console.Binds (c : Console H E) (widget : Nat) (event : Event) (responder : String) : Prop :=
  (c.routedForm.tree.about widget).events.get? event.kind = some responder

/-- The relation allows each thing that a console does to bring an event to the top handler of what is shown, and the
errors are allowed that can come of it. -/
structure AdmitsCalls (b : Behaviour H E W) (Q : Session H E W → Session H E W → Prop) (F : FormError → Prop) :
    Prop where
  refl : ∀ s, Q s s
  trans : ∀ {s s' s''}, Q s s' → Q s' s'' → Q s s''
  routed : ∀ (s : Session H E W) form, Q s { s with console := s.console.setRoutedForm form }
  marked : ∀ (s : Session H E W) lastFocus, Q s { s with console := { s.console with lastFocus } }
  asked : ∀ (s : Session H E W) handler below kind responder, s.console.routedHandlers = handler :: below →
    Q s ((SessionM.implements b handler kind responder).after s)
  told : ∀ (s : Session H E W) handler below responder widget event, s.console.routedHandlers = handler :: below →
    s.console.Binds widget event responder →
    Q s ((SessionM.tell b handler below responder widget event).after s)
  offered : ∀ (s : Session H E W) handler below key, s.console.routedHandlers = handler :: below →
    Q s ((SessionM.offer b handler below key).after s)
  runtime : ∀ e, F (.runtimeError e)
  raised : ∀ e, b.Raises e → F e

/-- The relation allows each thing that a console does to meet an event, and the errors are allowed that can come
of it. -/
structure Admits (b : Behaviour H E W) (Q : Session H E W → Session H E W → Prop) (F : FormError → Prop) : Prop where
  refl : ∀ s, Q s s
  trans : ∀ {s s' s''}, Q s s' → Q s' s'' → Q s s''
  mute : ∀ s (c : Console H E), s.console.Mute c → Q s { s with console := c }
  asked : ∀ s handler kind responder, Q s ((SessionM.implements b handler kind responder).after s)
  told : ∀ (s : Session H E W) handler below responder widget event, s.console.Binds widget event responder →
    Q s ((SessionM.tell b handler below responder widget event).after s)
  offered : ∀ s handler below key, Q s ((SessionM.offer b handler below key).after s)
  closed : ∀ (s : Session H E W) d, s.console.control.endRequested = true → s.console.dialog = some d →
    Q s { s with console := s.console.detach d }
  left : ∀ s callback dialog, Q s ((SessionM.takeLeave b callback dialog).after s)
  opened : ∀ (s : Session H E W) d, Q s { s with console := s.console.attach d }
  runtime : ∀ e, F (.runtimeError e)
  raised : ∀ e, b.Raises e → F e
  built : ∀ (plan : DialogPlan H E) base e, plan.build base = .error e → F e

theorem Console.mute_setRoutedForm (c : Console H E) (form : Form) : c.Mute (c.setRoutedForm form) := by
  unfold setRoutedForm
  split <;> exact ⟨⟨rfl, rfl, rfl, rfl⟩, rfl⟩

theorem Admits.calls {b : Behaviour H E W} {Q : Session H E W → Session H E W → Prop} {F : FormError → Prop}
    (ha : Admits b Q F) : AdmitsCalls b Q F where
  refl := ha.refl
  trans := ha.trans
  routed s _ := ha.mute s _ (Console.mute_setRoutedForm ..)
  marked s _ := ha.mute s _ ⟨⟨rfl, rfl, rfl, rfl⟩, rfl⟩
  asked s handler _ kind responder _ := ha.asked s handler kind responder
  told s handler below responder widget event _ bound := ha.told s handler below responder widget event bound
  offered s handler below key _ := ha.offered s handler below key
  runtime := ha.runtime
  raised := ha.raised

/-- A weaker relation allows it too, if it holds of what is done in turn. -/
theorem Admits.mono {b : Behaviour H E W} {Q Q' : Session H E W → Session H E W → Prop} {F : FormError → Prop}
    (ha : Admits b Q F) (weaker : ∀ {s s'}, Q s s' → Q' s s')
    (trans : ∀ {s s' s''}, Q' s s' → Q' s' s'' → Q' s s'') : Admits b Q' F where
  refl s := weaker (ha.refl s)
  trans := trans
  mute s c h := weaker (ha.mute s c h)
  asked s handler kind responder := weaker (ha.asked s handler kind responder)
  told s handler below responder widget event bound := weaker (ha.told s handler below responder widget event bound)
  offered s handler below key := weaker (ha.offered s handler below key)
  closed s d requested shown := weaker (ha.closed s d requested shown)
  left s callback dialog := weaker (ha.left s callback dialog)
  opened s d := weaker (ha.opened s d)
  runtime := ha.runtime
  raised := ha.raised
  built := ha.built

namespace SessionM

/-- From this session it goes on as the relation says, and if it fails, with an allowed error. -/
structure Obeys (Q : Session H E W → Session H E W → Prop) (F : FormError → Prop) (m : SessionM H E W α)
    (s : Session H E W) : Prop where
  after : Q s (m.after s)
  fails : ∀ e, (m.run.run s).1 = .error e → F e

theorem fst_actWith (handler : H) (below : List H) (deed : Context H E → Deed H E) (act : Act H E W α)
    (s : Session H E W) :
    ((actWith handler below deed act).run.run s).1 = (act.run.run ⟨handler, s.console.context, s.world⟩).1 := by
  unfold actWith
  rw [run_bind]
  show ((actWith.liftExcept (act.run.run ⟨handler, s.console.context, s.world⟩).1 : SessionM H E W α).run.run _).1 = _
  rcases (act.run.run ⟨handler, s.console.context, s.world⟩).1 with _ | _ <;> rfl

theorem fst_takeLeave (b : Behaviour H E W) (callback : E) (dialog : Form) (s : Session H E W) :
    ((takeLeave b callback dialog).run.run s).1 =
      ((b.onEnd callback dialog).run.run ⟨s.console.leaving, s.world⟩).1 := by
  unfold takeLeave
  rw [run_bind]
  show ((actWith.liftExcept ((b.onEnd callback dialog).run.run ⟨s.console.leaving, s.world⟩).1 :
    SessionM H E W Unit).run.run _).1 = _
  rcases ((b.onEnd callback dialog).run.run ⟨s.console.leaving, s.world⟩).1 with _ | _ <;> rfl

variable {b : Behaviour H E W} {Q : Session H E W → Session H E W → Prop} {F : FormError → Prop}
  {s : Session H E W} {m : SessionM H E W α} {f : α → SessionM H E W β}

theorem obeys_console {f : Console H E → SessionM H E W α} (h : Obeys Q F (f s.console) s) :
    Obeys Q F (console >>= f) s := ⟨h.after, h.fails⟩

theorem obeys_pure (refl : ∀ s, Q s s) (a : α) : Obeys Q F (pure a) s := ⟨refl s, nofun⟩

theorem obeys_throw (refl : ∀ s, Q s s) {e : FormError} (he : F e) : Obeys Q F (throw e : SessionM H E W α) s := by
  refine ⟨refl s, fun e' h => ?_⟩
  cases h
  exact he

theorem Obeys.bind (hm : Obeys Q F m s) (trans : ∀ {s s' s''}, Q s s' → Q s' s'' → Q s s'')
    (hf : ∀ a s', m.run.run s = (.ok a, s') → Obeys Q F (f a) s') : Obeys Q F (m >>= f) s := by
  obtain ⟨hafter, hfails⟩ := hm
  rcases h : m.run.run s with ⟨e | a, s'⟩
  · refine ⟨?_, fun e' he => ?_⟩
    · rw [SessionM.after, run_bind, h]
      rwa [SessionM.after, h] at hafter
    · rw [run_bind, h] at he
      cases he
      exact hfails e (by rw [h])
  · rw [SessionM.after, h] at hafter
    refine ⟨?_, fun e' he => ?_⟩
    · rw [SessionM.after, run_bind, h]
      exact trans hafter (hf a s' h).after
    · rw [run_bind, h] at he
      exact (hf a s' h).fails e' he

theorem Obeys.tryCatch {h : FormError → SessionM H E W α} (hm : Obeys Q F m s)
    (trans : ∀ {s s' s''}, Q s s' → Q s' s'' → Q s s'')
    (hh : ∀ e s', m.run.run s = (.error e, s') → Obeys Q F (h e) s') : Obeys Q F (tryCatch m h) s := by
  obtain ⟨hafter, hfails⟩ := hm
  rcases hr : m.run.run s with ⟨e | a, s'⟩
  · rw [SessionM.after, hr] at hafter
    refine ⟨?_, fun e' he => ?_⟩
    · rw [SessionM.after, run_tryCatch, hr]
      exact trans hafter (hh e s' hr).after
    · rw [run_tryCatch, hr] at he
      exact (hh e s' hr).fails e' he
  · refine ⟨?_, fun e' he => ?_⟩
    · rw [SessionM.after, run_tryCatch, hr]
      rwa [SessionM.after, hr] at hafter
    · rw [run_tryCatch, hr] at he
      cases he

theorem obeys_tell (ha : AdmitsCalls b Q F) {handler : H} {below : List H}
    (top : s.console.routedHandlers = handler :: below) {responder : String} {widget : Nat} {event : Event}
    (bound : s.console.Binds widget event responder) : Obeys Q F (tell b handler below responder widget event) s :=
  ⟨ha.told s handler below responder widget event top bound, fun e he => by
    rw [SessionM.tell, fst_actWith] at he
    exact ha.raised e (.respond _ _ _ _ he)⟩

theorem obeys_offer (ha : AdmitsCalls b Q F) {handler : H} {below : List H}
    (top : s.console.routedHandlers = handler :: below) (key : Key) : Obeys Q F (offer b handler below key) s :=
  ⟨ha.offered s handler below key top, fun e he => by
    rw [offer, fst_actWith] at he
    exact ha.raised e (.fallback _ _ he)⟩

theorem obeys_mute (ha : Admits b Q F) {f : Console H E → Console H E} (h : s.console.Mute (f s.console)) :
    Obeys Q F (modifyConsole f) s :=
  ⟨ha.mute s _ h, nofun⟩

theorem obeys_takeLeave (ha : Admits b Q F) (callback : E) (dialog : Form) :
    Obeys Q F (takeLeave b callback dialog) s :=
  ⟨ha.left s callback dialog, fun e he => by
    rw [fst_takeLeave] at he
    exact ha.raised e (.onEnd _ _ _ he)⟩

end SessionM

namespace Console

open SessionM

theorem running_setRoutedHandlers (c : Console H E) (handlers : List H) :
    (c.setRoutedHandlers handlers).running = c.running := by
  unfold setRoutedHandlers
  split <;> rfl

theorem running_acted (c : Console H E) (deed : Deed H E) (context : Context H E) (handlers : List H) :
    (c.acted deed context handlers).running = c.running :=
  (running_setRoutedHandlers ..).trans (mute_setRoutedForm ..).running

theorem silent_refreshFooter (c : Console H E) : c.Silent c.refreshFooter := by
  unfold refreshFooter
  split <;> exact ⟨rfl, rfl, rfl, rfl⟩

variable {b : Behaviour H E W} {Q : Session H E W → Session H E W → Prop} {F : FormError → Prop} {s : Session H E W}

/-! ## Events -/

section

variable (ha : AdmitsCalls b Q F)
include ha

theorem obeys_dispatch (widget : Nat) (event : Event) : Obeys Q F (dispatch b widget event) s := by
  refine obeys_console ?_
  split
  · exact obeys_pure ha.refl _
  · next responder bound =>
    split
    · split
      · exact obeys_pure ha.refl _
      · exact obeys_throw ha.refl (ha.runtime _)
    · next handler below top =>
      refine Obeys.bind ⟨ha.asked s handler below _ _ top, fun _ h => by cases h⟩ ha.trans fun answer s' h => ?_
      obtain rfl : _ = s' := congrArg Prod.snd h
      split
      · exact obeys_tell ha (by exact top) bound
      · split
        · exact obeys_pure ha.refl _
        · exact obeys_throw ha.refl (ha.runtime _)

theorem obeys_fallbackKey (key : Key) : Obeys Q F (fallbackKey b key) s := by
  refine obeys_console ?_
  split
  · exact obeys_pure ha.refl _
  · next handler below top => exact (obeys_offer ha top key).bind ha.trans fun _ _ _ => obeys_pure ha.refl _

theorem obeys_setRoutedTree (tree : Tree) : Obeys Q F (modifyConsole (·.setRoutedTree tree)) s :=
  ⟨ha.routed s _, nofun⟩

theorem obeys_fireFocus : Obeys Q F (fireFocus b) s := by
  refine obeys_console ?_
  dsimp only
  split
  · refine Obeys.bind ⟨ha.marked s _, nofun⟩ ha.trans fun _ s' _ => ?_
    split
    · exact obeys_pure ha.refl _
    · next generation widget _ =>
      have htell : Obeys Q F (do let _ ← dispatch b widget .focus) s' :=
        (obeys_dispatch ha _ _).bind ha.trans fun _ _ _ => obeys_pure ha.refl _
      refine htell.tryCatch ha.trans fun e _ he => ?_
      split
      · exact obeys_pure ha.refl _
      · exact obeys_throw ha.refl (htell.fails e (by rw [he]))
  · exact obeys_pure ha.refl _

theorem obeys_fireEdit (snapshot : Nat × Nat × String) : Obeys Q F (fireEdit b snapshot) s := by
  refine obeys_console ?_
  split
  · split
    · exact obeys_pure ha.refl _
    · split
      · exact (obeys_dispatch ha _ _).bind ha.trans fun _ _ _ => obeys_pure ha.refl _
      · exact obeys_pure ha.refl _
  · exact obeys_pure ha.refl _

theorem obeys_passKey (key : Key) : Obeys Q F (passKey b key) s := by
  refine obeys_console ?_
  dsimp only
  refine (obeys_setRoutedTree ha _).bind ha.trans fun _ s' _ => ?_
  split
  · exact obeys_pure ha.refl _
  · exact (obeys_dispatch ha _ _).bind ha.trans fun _ _ _ => obeys_pure ha.refl _
  · refine obeys_console ?_
    split
    · next moved hm =>
      obtain ⟨d, -, hm⟩ := Option.bind_eq_some_iff.1 hm
      obtain ⟨tree, -, rfl⟩ := Option.map_eq_some_iff.1 hm
      exact ⟨ha.routed s' _, nofun⟩
    · exact obeys_fallbackKey ha key

theorem obeys_handleKey (key : Key) : Obeys Q F (handleKey b key) s := by
  refine obeys_console ?_
  split
  · exact obeys_passKey ha key
  · refine (obeys_dispatch ha _ _).bind ha.trans fun response _ _ => ?_
    cases response with
    | handled => exact obeys_pure ha.refl _
    | notHandled => exact obeys_passKey ha key

end

/-! ## Requests -/

variable (ha : Admits b Q F)
include ha

theorem obeys_applyEnd : Obeys Q F (applyEnd b) s := by
  refine obeys_console ?_
  split
  · next requested =>
    split
    · exact obeys_mute ha ⟨⟨rfl, rfl, rfl, rfl⟩, rfl⟩
    · next d hd =>
      have hclosed : Obeys Q F (modifyConsole (·.detach d)) s := ⟨ha.closed s d requested hd, nofun⟩
      refine hclosed.bind ha.trans fun _ s' _ => ?_
      split
      · exact obeys_takeLeave ha _ _
      · exact obeys_pure ha.refl _
  · exact obeys_pure ha.refl _

theorem obeys_applyOpen : Obeys Q F applyOpen s := by
  refine obeys_console ?_
  split
  · exact obeys_pure ha.refl _
  · next plan _ =>
    refine Obeys.bind (obeys_mute ha ⟨⟨rfl, rfl, rfl, rfl⟩, rfl⟩) ha.trans fun _ s' _ => ?_
    split
    · next e he => exact obeys_throw ha.refl (ha.built plan _ e he)
    · next d _ => exact ⟨ha.opened s' d, nofun⟩

theorem obeys_applyRequests : Obeys Q F (applyRequests b) s :=
  (obeys_applyEnd ha).bind ha.trans fun _ _ _ => obeys_applyOpen ha

theorem obeys_openDialog (plan : DialogPlan H E) : Obeys Q F (openDialog b plan) s := by
  refine obeys_console ?_
  dsimp only
  split
  · exact obeys_throw ha.refl (ha.runtime _)
  · exact (obeys_mute ha ⟨⟨rfl, rfl, rfl, rfl⟩, rfl⟩).bind ha.trans fun _ _ _ => obeys_applyRequests ha

theorem obeys_endDialog : Obeys Q F (endDialog b) s := by
  refine obeys_console ?_
  dsimp only
  split
  · exact obeys_throw ha.refl (ha.runtime _)
  · exact (obeys_mute ha ⟨⟨rfl, rfl, rfl, rfl⟩, rfl⟩).bind ha.trans fun _ _ _ => obeys_applyRequests ha

theorem obeys_press (name : String) : Obeys Q F (press b name) s := by
  refine obeys_console ?_
  split
  · exact obeys_throw ha.refl (ha.runtime _)
  · split
    · exact obeys_pure ha.refl _
    · refine (obeys_setRoutedTree ha.calls _).bind ha.trans fun _ _ _ => ?_
      refine (obeys_dispatch ha.calls _ _).bind ha.trans fun _ _ _ => ?_
      exact (obeys_applyRequests ha).bind ha.trans fun _ _ _ => obeys_pure ha.refl _

theorem obeys_handleInput (input : Input) : Obeys Q F (handleInput b input) s := by
  cases input with
  | resize columns rows => exact obeys_mute ha (f := fun c => { c with size := (columns, rows) }) ⟨⟨rfl, rfl, rfl, rfl⟩, rfl⟩
  | key key => exact (obeys_handleKey ha.calls key).bind ha.trans fun _ _ _ => obeys_applyRequests ha

theorem obeys_handleBatch (inputs : List Input) : Obeys Q F (handleBatch b inputs) s := by
  induction inputs generalizing s with
  | nil => exact obeys_pure ha.refl _
  | cons input rest ih =>
    refine (obeys_handleInput ha input).bind ha.trans fun _ s' _ => obeys_console ?_
    split
    · exact ih
    · exact obeys_pure ha.refl _

end Console

end ScreenForm
