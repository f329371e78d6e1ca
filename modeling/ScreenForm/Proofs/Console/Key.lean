import ScreenForm.Proofs.Console.EditEvent
import ScreenForm.Proofs.Console.Obey
import ScreenForm.Proofs.Form.Step
/-!
# Who takes a key

A key goes to the responder of the focused widget, to the widgets, to the movement of the focus
and to the fallback of the top handler, in this order. Exactly one of them takes it (`performAll_takes_key`), and
what the others have tried leaves no trace.
-/

namespace ScreenForm

variable {H E W : Type}

theorem Form.lasts_inUse : Lasts H E Form.InUse Form.InUse :=
  ⟨fun _ u h => .used h u, fun _ u h => .used h u, fun _ _ _ h => .built h⟩

/-- Whether the deed is more than a question to a handler. -/
def Deed.acts : Deed H E → Bool
  | asked .. => false
  | _ => true

namespace Console

open SessionM

/-! ## Events of widgets -/

/-- The consoles differ only in the questions that have been asked. -/
structure Asks (c c' : Console H E) : Prop where
  done : Done Deed.acts [] c c'
  same : { c' with journal := c.journal } = c

/-- The top handler has been told of an event of a widget, once, through the responder that the widget binds it to. The
result is the answer of the responder. -/
inductive Told (b : Behaviour H E W) (widget : Nat) (event : Event) (p : Session H E W) :
    Except FormError Response → Session H E W → Prop
  | intro {handler : H} {below : List H} {responder : String} {world : W}
      (top : p.console.routedHandlers = handler :: below)
      (bound : (p.console.routedForm.tree.about widget).events.get? event.kind = some responder)
      (implemented : (b.implements handler event.kind responder).run p.world = (true, world))
      {e : Entry H E} (tells : e.deed = .told handler p.console.context responder widget event) {q : Session H E W}
      (done : Done Deed.acts [e] p.console q.console) :
      Told b widget event p ((b.respond responder widget event).run.run ⟨handler, p.console.context, world⟩).1 q

/-- Nobody can be told of the event: there is no handler, or the top one does not have the responder. -/
def Lacks (b : Behaviour H E W) (kind : EventKind) (responder : String) (p : Session H E W) : Prop :=
  p.console.routedHandlers = [] ∨ ∃ handler below world, p.console.routedHandlers = handler :: below ∧
    (b.implements handler kind responder).run p.world = (false, world)

/-- What comes of an event that is brought to the responder that the widget binds it to. -/
inductive Brings (b : Behaviour H E W) (widget : Nat) (event : Event) (p : Session H E W) :
    Except FormError Response → Session H E W → Prop
  | told {result : Except FormError Response} {q : Session H E W} (told : Told b widget event p result q) :
      Brings b widget event p result q
  | unbound (unbound : (p.console.routedForm.tree.about widget).events.get? event.kind = none) :
      Brings b widget event p (.ok .notHandled) p
  | unanswered {responder : String}
      (bound : (p.console.routedForm.tree.about widget).events.get? event.kind = some responder)
      (lacks : Lacks b event.kind responder p) {q : Session H E W} (asks : p.console.Asks q.console)
      {result : Except FormError Response} (failed : if event.kind = .key then result = .ok .notHandled
        else ∃ e, result = .error e ∧ isUnanswered e = true) : Brings b widget event p result q

/-! ## The way of a key -/

/-- What the widgets of the form that events go to make of a key. -/
def keypress (c : Console H E) (key : Key) : Tree × KeyOutcome :=
  c.routedForm.tree.keypress c.routedForm.root key

/-- What Tab makes of the form that events go to, on the tree itself, and whether it has moved the focus. -/
def stepInPlace (c : Console H E) (d : Direction) : Tree × Bool :=
  c.routedForm.tree.stepInPlace c.routedForm.root d

/-- No responder has taken the key. If the focused widget has one, `q` is what it has left. -/
inductive Passed (b : Behaviour H E W) (key : Key) (p : Session H E W) : Session H E W → Prop
  | unfocused (unfocused : p.console.focused? = none) : Passed b key p p
  | declined {widget : Nat} {q : Session H E W} (focused : p.console.focused? = some widget)
      (run : (dispatch b widget (.key key)).run.run p = (.ok .notHandled, q))
      (brings : Brings b widget (.key key) p (.ok .notHandled) q) : Passed b key p q

/-- Who takes a key. -/
inductive Taker where
  | responder
  | widgets
  | tab
  | fallback
  | nobody

/-- What comes of a key that no responder has taken. What the widgets and Tab have tried in vain has left the tree
as it was. -/
inductive Passes (b : Behaviour H E W) (key : Key) (q : Session H E W) :
    Taker → Except FormError Unit × Session H E W → Prop
  | consumed {tree : Tree} (kit : q.console.keypress key = (tree, .consumed)) :
      Passes b key q .widgets (.ok (), { q with console := q.console.setRoutedTree tree })
  | pressed {tree : Tree} {widget : Nat} (kit : q.console.keypress key = (tree, .pressed widget))
      {result : Except FormError Response} {r : Session H E W}
      (run : (dispatch b widget .press).run.run { q with console := q.console.setRoutedTree tree } = (result, r))
      (brings : Brings b widget .press { q with console := q.console.setRoutedTree tree } result r) :
      Passes b key q .widgets (result.map fun _ => (), r)
  | moved (kit : q.console.keypress key = (q.console.routedForm.tree, .unhandled)) {d : Direction}
      (tab : tabDirection? key.code = some d) {tree : Tree} (moved : q.console.stepInPlace d = (tree, true)) :
      Passes b key q .tab (.ok (), { q with console := q.console.setRoutedTree tree })
  | offered (kit : q.console.keypress key = (q.console.routedForm.tree, .unhandled))
      (stuck : ∀ d, tabDirection? key.code = some d → q.console.stepInPlace d = (q.console.routedForm.tree, false))
      {handler : H} {below : List H} (top : q.console.routedHandlers = handler :: below)
      {result : Except FormError Response} {r : Session H E W}
      (run : (SessionM.offer b handler below key).run.run q = (result, r)) {e : Entry H E}
      (offers : e.deed = .offered handler q.console.context key) (done : Done Deed.acts [e] q.console r.console) :
      Passes b key q .fallback (result.map fun _ => (), r)
  | dropped (kit : q.console.keypress key = (q.console.routedForm.tree, .unhandled))
      (stuck : ∀ d, tabDirection? key.code = some d → q.console.stepInPlace d = (q.console.routedForm.tree, false))
      (top : q.console.routedHandlers = []) : Passes b key q .nobody (.ok (), q)

/-- What comes of a key, and who takes it. -/
inductive Takes (b : Behaviour H E W) (key : Key) (p : Session H E W) :
    Taker → Except FormError Unit × Session H E W → Prop
  | responder {widget : Nat} (focused : p.console.focused? = some widget) {result : Except FormError Response}
      {q : Session H E W} (run : (dispatch b widget (.key key)).run.run p = (result, q))
      (settled : result ≠ .ok .notHandled) (told : Told b widget (.key key) p result q) :
      Takes b key p .responder (result.map fun _ => (), q)
  | passed {q : Session H E W} (passed : Passed b key p q) {taker : Taker} {outcome : Except FormError Unit × Session H E W}
      (passes : Passes b key q taker outcome) : Takes b key p taker outcome

/-! ## Events are brought once -/

variable {b : Behaviour H E W} {p q : Session H E W} {result : Except FormError Response}

theorem asks_refl (c : Console H E) : c.Asks c := ⟨done_nil rfl, rfl⟩

/-- A handler that acts is called once. -/
theorem done_actWith {α : Type} (handler : H) (below : List H) (deed : Context H E → Deed H E) (act : Act H E W α)
    (s : Session H E W) (h : (deed s.console.context).acts = true) : ∃ e, e.deed = deed s.console.context ∧
      Done Deed.acts [e] s.console ((actWith handler below deed act).after s).console := by
  rw [after_actWith]
  exact ⟨_, rfl, done_become_self h⟩

/-- Asking a handler for a responder goes into the journal. -/
theorem run_implements (handler : H) (kind : EventKind) (responder : String) (p : Session H E W) :
    (implements b handler kind responder).run.run p = (.ok ((b.implements handler kind responder).run p.world).1, { p with
      console := p.console.become (.asked handler kind responder) p.console
      world := ((b.implements handler kind responder).run p.world).2 }) := rfl

section Brought

variable {widget : Nat} {event : Event} {responder : String}
    (hbound : (p.console.routedForm.tree.about widget).events.get? event.kind = some responder)

include hbound

/-- Without anyone to tell, a key is left to the widgets, and any other event is an error. -/
theorem brings_of_lacks (hlacks : Lacks b event.kind responder p) (hasks : p.console.Asks q.console) {e : FormError}
    (he : isUnanswered e = true) :
    Brings b widget event p ((if event.kind = .key then return .notHandled else throw e :
      SessionM H E W Response).run.run q).1 ((if event.kind = .key then return .notHandled else throw e :
      SessionM H E W Response).run.run q).2 := by
  by_cases hkind : event.kind = .key
  · rw [if_pos hkind]
    exact .unanswered hbound hlacks hasks (by rw [if_pos hkind]; rfl)
  · rw [if_neg hkind]
    exact .unanswered hbound hlacks hasks (by rw [if_neg hkind]; exact ⟨e, rfl, he⟩)

/-- A handler that has the responder is told, in the world that it has left when it was asked. -/
theorem brings_of_implements {handler : H} {below : List H} (htop : p.console.routedHandlers = handler :: below)
    {world : W} (himplements : (b.implements handler event.kind responder).run p.world = (true, world))
    {s : Session H E W} (hasked : Done Deed.acts [] p.console s.console)
    (hcontext : s.console.context = p.console.context) (hworld : s.world = world) :
    Brings b widget event p ((SessionM.tell b handler below responder widget event).run.run s).1
      ((SessionM.tell b handler below responder widget event).run.run s).2 := by
  obtain ⟨e, he, hdone⟩ := done_actWith handler below (.told handler · responder widget event)
    (b.respond responder widget event) s rfl
  rw [SessionM.tell, fst_actWith, hcontext, hworld]
  rw [hcontext] at he
  exact .told (.intro htop hbound himplements he (hasked.trans hdone))

end Brought

theorem brings_dispatch (widget : Nat) (event : Event) (p : Session H E W) :
    Brings b widget event p ((dispatch b widget event).run.run p).1 ((dispatch b widget event).run.run p).2 := by
  rw [dispatch, run_console]
  split
  · next hunbound => exact .unbound hunbound
  next responder hbound =>
  split
  · next htop => exact brings_of_lacks hbound (.inl htop) (asks_refl _) rfl
  next handler below htop =>
  rw [run_bind, run_implements]
  rcases himplements : (b.implements handler event.kind responder).run p.world with ⟨_ | _, world⟩
  · dsimp only
    rw [if_neg (by decide)]
    have hasks : p.console.Asks (p.console.become (.asked handler event.kind responder) p.console) :=
      ⟨done_become rfl, rfl⟩
    exact brings_of_lacks hbound (.inr ⟨handler, below, world, htop, himplements⟩) hasks rfl
  · dsimp only
    rw [if_pos rfl]
    exact brings_of_implements hbound htop himplements (done_become rfl) rfl rfl

theorem run_dispatch_of_unbound {widget : Nat} {event : Event}
    (unbound : (p.console.routedForm.tree.about widget).events.get? event.kind = none) :
    (dispatch b widget event).run.run p = (.ok .notHandled, p) := by
  rw [dispatch, run_console, unbound]
  rfl

/-- A responder that takes a key, or fails on it, has been told of it. -/
theorem Brings.told_of_key {widget : Nat} {key : Key} (h : Brings b widget (.key key) p result q)
    (settled : result ≠ .ok .notHandled) : Told b widget (.key key) p result q := by
  cases h with
  | told told => exact told
  | unbound => exact (settled rfl).elim
  | unanswered _ _ _ failed =>
    rw [if_pos (show (Event.key key).kind = .key from rfl)] at failed
    exact (settled failed).elim

/-! ## One taker -/

theorem Passed.unique {q' : Session H E W} {key : Key} (h : Passed b key p q) (h' : Passed b key p q') : q = q' := by
  cases h with
  | unfocused hfocused =>
    cases h' with
    | unfocused => rfl
    | declined focused =>
      rw [hfocused] at focused
      cases focused
  | declined hfocused hrun =>
    cases h' with
    | unfocused focused =>
      rw [hfocused] at focused
      cases focused
    | declined focused run =>
      rw [hfocused] at focused
      cases focused
      rw [hrun] at run
      cases run
      rfl

/-- A key that a responder has taken does not come past it. -/
theorem Passed.not_settled {q' : Session H E W} {key : Key} (h : Passed b key p q) {widget : Nat}
    (focused : p.console.focused? = some widget) (run : (dispatch b widget (.key key)).run.run p = (result, q'))
    (settled : result ≠ .ok .notHandled) : False := by
  cases h with
  | unfocused hfocused =>
    rw [hfocused] at focused
    cases focused
  | declined hfocused hrun =>
    rw [hfocused] at focused
    cases focused
    rw [hrun] at run
    cases run
    exact settled rfl

theorem Passes.unique {taker taker' : Taker} {outcome outcome' : Except FormError Unit × Session H E W} {key : Key}
    (h : Passes b key q taker outcome) (h' : Passes b key q taker' outcome') : taker = taker' := by
  cases h with
  | consumed kit | pressed kit =>
    cases h' with
    | consumed | pressed => rfl
    | moved kit' | offered kit' | dropped kit' =>
      rw [kit] at kit'
      cases kit'
  | moved kit tab moved =>
    cases h' with
    | consumed kit' | pressed kit' =>
      rw [kit] at kit'
      cases kit'
    | moved => rfl
    | offered _ stuck | dropped _ stuck =>
      have hstuck := stuck _ tab
      rw [moved] at hstuck
      cases hstuck
  | offered kit stuck top =>
    cases h' with
    | consumed kit' | pressed kit' =>
      rw [kit] at kit'
      cases kit'
    | moved _ tab moved =>
      have hstuck := stuck _ tab
      rw [moved] at hstuck
      cases hstuck
    | offered => rfl
    | dropped _ _ top' =>
      rw [top] at top'
      cases top'
  | dropped kit stuck top =>
    cases h' with
    | consumed kit' | pressed kit' =>
      rw [kit] at kit'
      cases kit'
    | moved _ tab moved =>
      have hstuck := stuck _ tab
      rw [moved] at hstuck
      cases hstuck
    | offered _ _ top' =>
      rw [top] at top'
      cases top'
    | dropped => rfl

theorem Takes.unique {taker taker' : Taker} {outcome outcome' : Except FormError Unit × Session H E W} {key : Key}
    (h : Takes b key p taker outcome) (h' : Takes b key p taker' outcome') : taker = taker' := by
  cases h with
  | responder focused run settled =>
    cases h' with
    | responder => rfl
    | passed passed => exact (passed.not_settled focused run settled).elim
  | passed passed passes =>
    cases h' with
    | responder focused run settled => exact (passed.not_settled focused run settled).elim
    | passed passed' passes' =>
      obtain rfl := passed.unique passed'
      exact passes.unique passes'

/-! ## The stages -/

theorem run_modifyConsole {α : Type} (g : Console H E → Console H E) (f : Unit → SessionM H E W α) (s : Session H E W) :
    (modifyConsole g >>= f).run.run s = (f ()).run.run { s with console := g s.console } := rfl

/-- A call whose answer is not used. -/
theorem run_drop {α : Type} (m : SessionM H E W α) (s : Session H E W) :
    (m >>= fun _ => pure ()).run.run s = ((m.run.run s).1.map fun _ => (), (m.run.run s).2) := by
  rw [run_bind]
  rcases m.run.run s with ⟨_ | a, s'⟩ <;> rfl

theorem stepInPlace_of_stepFocus? (c : Console H E) {d : Direction}
    (h : c.routedForm.tree.stepFocus? c.routedForm.root d = none) : c.stepInPlace d = (c.routedForm.tree, false) := by
  rw [stepInPlace, Tree.stepInPlace_eq, h]
  rfl

/-- What neither the widgets nor Tab use goes to the fallback of the top handler. -/
theorem passes_offer {key : Key} (kit : q.console.keypress key = (q.console.routedForm.tree, .unhandled))
    (stuck : ∀ d, tabDirection? key.code = some d → q.console.stepInPlace d = (q.console.routedForm.tree, false))
    {handler : H} {below : List H} (top : q.console.routedHandlers = handler :: below) :
    Passes b key q .fallback ((fallbackKey b key).run.run q) := by
  obtain ⟨e, he, hdone⟩ := done_actWith handler below (.offered handler · key) (b.fallback key) q rfl
  rw [fallbackKey, run_console, top]
  dsimp only
  rw [run_drop]
  exact .offered kit stuck top rfl he hdone

theorem passes_fallbackKey {key : Key} (kit : q.console.keypress key = (q.console.routedForm.tree, .unhandled))
    (stuck : ∀ d, tabDirection? key.code = some d → q.console.stepInPlace d = (q.console.routedForm.tree, false)) :
    ∃ taker, Passes b key q taker ((fallbackKey b key).run.run q) := by
  cases htop : q.console.routedHandlers with
  | nil =>
    rw [fallbackKey, run_console, htop]
    exact ⟨.nobody, .dropped kit stuck htop⟩
  | cons handler below => exact ⟨.fallback, passes_offer kit stuck htop⟩

/-- What Tab does not use goes to the fallback. -/
theorem passes_tab {key : Key} (kit : q.console.keypress key = (q.console.routedForm.tree, .unhandled)) :
    ∃ taker, Passes b key q taker ((match (tabDirection? key.code).bind q.console.stepFocus? with
      | some moved => modifyConsole fun _ => moved
      | none => fallbackKey b key : SessionM H E W Unit).run.run q) := by
  cases htab : tabDirection? key.code with
  | none => exact passes_fallbackKey kit (by rw [htab]; nofun)
  | some d =>
    rw [Option.bind_some, stepFocus?]
    cases hstep : q.console.routedForm.tree.stepFocus? q.console.routedForm.root d with
    | none =>
      refine passes_fallbackKey kit fun d' hd' => ?_
      obtain rfl : d = d' := Option.some.inj (htab.symm.trans hd')
      exact q.console.stepInPlace_of_stepFocus? hstep
    | some tree =>
      refine ⟨.tab, .moved kit htab ?_⟩
      rw [stepInPlace, Tree.stepInPlace_eq, hstep]
      rfl

/-- A key that the widgets do not use has left the form as it was. -/
theorem passes_passKey (hform : q.console.routedForm.InUse) (key : Key) :
    ∃ taker, Passes b key q taker ((passKey b key).run.run q) := by
  rw [passKey, run_console]
  rcases hkit : q.console.keypress key with ⟨tree, outcome⟩
  have hkit' := hkit
  rw [keypress] at hkit'
  simp only [hkit']
  cases outcome with
  | consumed => exact ⟨.widgets, .consumed hkit⟩
  | pressed widget =>
    rw [run_modifyConsole, run_drop]
    exact ⟨.widgets, .pressed hkit rfl (brings_dispatch ..)⟩
  | unhandled =>
    have hself := Tree.keypress_of_unhandled hform.attentive.tree.ordered hform.sized
      (hform.attentive.dressed.lt hform.attentive.body_lt) (congrArg Prod.snd hkit')
    obtain rfl : tree = q.console.routedForm.tree := (Prod.mk.inj (hkit'.symm.trans hself)).1
    have hsame : q.console.setRoutedTree q.console.routedForm.tree = q.console := q.console.setRoutedForm_routedForm
    rw [run_modifyConsole, hsame]
    exact passes_tab hkit

/-- A key is taken by the first that has a use for it. -/
theorem takes_handleKey (hb : b.ActsBy Form.Used) (hforms : p.console.Always (Stage.Shows Form.InUse Form.InUse))
    (key : Key) : ∃ taker, Takes b key p taker ((handleKey b key).run.run p) := by
  rw [handleKey, run_console]
  cases hfocused : p.console.focused? with
  | none =>
    obtain ⟨taker, hpasses⟩ := passes_passKey (b := b) (shows_routedForm hforms.stage) key
    exact ⟨taker, .passed (.unfocused hfocused) hpasses⟩
  | some widget =>
    have hbrings := brings_dispatch (b := b) widget (.key key) p
    have hpath : Path Form.Used p ((dispatch b widget (.key key)).after p) := leads_dispatch hb widget (.key key)
    dsimp only
    rw [run_bind]
    unfold after at hpath
    rcases hrun : (dispatch b widget (.key key)).run.run p with ⟨result, q⟩
    rw [hrun] at hbrings hpath
    rcases result with e | _ | _
    · exact ⟨.responder, .responder hfocused hrun nofun (hbrings.told_of_key nofun)⟩
    · exact ⟨.responder, .responder hfocused hrun nofun (hbrings.told_of_key nofun)⟩
    · -- The responder may have used the form, so it is still one that keys can be brought to.
      have hforms' := hpath.keeps (fun _ _ h hm => hm.shows Form.lasts_inUse h) hforms
      obtain ⟨taker, hpasses⟩ := passes_passKey (b := b) (shows_routedForm hforms'.stage) key
      exact ⟨taker, .passed (.declined hfocused hrun hbrings) hpasses⟩

end Console

/-! ## Runs -/

/-- At any time of a run of a console for a form that is made of a description, with a dialog or without one, a key is
taken once. If the focused widget has a responder that takes it, nothing else happens. Or else the widgets use it, with
one press event if that presses a widget, or Tab moves the focus, or the fallback of the top handler gets it, with the
form as the responder has left it; and of these it is only one. -/
theorem performAll_takes_key {b : Behaviour H E W} (hb : b.ActsBy Form.Used) (description : String) (palette : Palette)
    (strings : StringTable) (f : Form) (hf : Form.parse description palette strings = .ok f) (dialogPalette : String)
    (s : Session H E W) (hs : Console.ofForm f dialogPalette = .ok s.console) (demands : List (Demand H E W))
    (p : Session H E W) (hp : Path Form.Used (Demand.performAll b demands s) p) (key : Key) :
    ∃ taker, Console.Takes b key p taker ((Console.handleKey b key).run.run p) ∧
      ∀ taker' outcome, Console.Takes b key p taker' outcome → taker' = taker := by
  have hforms : p.console.Always (Stage.Shows Form.InUse Form.InUse) :=
    hp.keeps (fun _ _ h hm => hm.shows Form.lasts_inUse h) (performAll_shows hb Form.lasts_inUse (.parsed hf) hs demands)
  obtain ⟨taker, htakes⟩ := Console.takes_handleKey hb hforms key
  exact ⟨taker, htakes, fun taker' outcome h => h.unique htakes⟩

/-- When the focus has moved from the field to the button, the fallback of the dialog handler takes Escape. -/
theorem performAll_takes_key_escape : ∃ (f : Form) (c : Console AppHandler Unit),
    Form.parse "Edt Name [me] #e &key=typed\nBtn [Go] #go &press=close" {} {} = .ok f ∧ Console.ofForm f "" = .ok c ∧
    let p := Demand.performAll App.behaviour [.pushHandler .dialog, .focus .forward] ⟨c, default, ()⟩
    p.console.routedHandlers = [.dialog] ∧
      Console.Takes App.behaviour { code := .escape } p .fallback
        ((Console.handleKey App.behaviour { code := .escape }).run.run p) := by
  let description := "Edt Name [me] #e &key=typed\nBtn [Go] #go &press=close"
  let key : Key := { code := .escape }
  let moved (f : Form) : Session AppHandler Unit Unit :=
    Demand.performAll App.behaviour [.pushHandler .dialog, .focus .forward]
      ⟨⟨f, [], none, {}, f.palette.addLayer {}, false, (0, 0), none, 0, []⟩, default, ()⟩
  have hfacts : (Form.parse description {} {}).toOption.map (fun f => decide
      ((moved f).console.focused? = some 1 ∧
        ((moved f).console.routedForm.tree.about 1).events.get? .key = none ∧
        (moved f).console.keypress key = ((moved f).console.routedForm.tree, .unhandled) ∧
        (moved f).console.routedHandlers = [.dialog])) = some true := by decide +kernel
  cases hf : Form.parse description {} {} with
  | error e =>
    rw [hf] at hfacts
    cases hfacts
  | ok f =>
    rw [hf] at hfacts
    obtain ⟨hfocused, hunbound, hkit, htop⟩ := of_decide_eq_true (Option.some.inj hfacts)
    obtain ⟨taker, htakes, hunique⟩ := performAll_takes_key (App.behaviour_actsBy Form.Used) description {} {} f hf ""
      ⟨_, default, ()⟩ rfl [.pushHandler .dialog, .focus .forward] _ .refl key
    have hfallback : Console.Takes App.behaviour key (moved f) .fallback
        ((Console.fallbackKey App.behaviour key).run.run (moved f)) :=
      .passed (.declined hfocused (Console.run_dispatch_of_unbound hunbound) (.unbound hunbound))
        (Console.passes_offer hkit nofun htop)
    obtain rfl := hunique .fallback _ hfallback
    exact ⟨f, _, rfl, rfl, htop, htakes⟩

end ScreenForm
