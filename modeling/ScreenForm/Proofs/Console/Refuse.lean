import ScreenForm.Proofs.App.Handlers
import ScreenForm.Proofs.Console.EditEvent
import ScreenForm.Proofs.Console.Obey
import ScreenForm.Proofs.Form.Access
import ScreenForm.Proofs.Form.Answer
/-!
# What a refusal leaves

A console that refuses a demand, and a context that refuses a call, are what they
were. So nothing of it is left for a later step to meet, although a dialog that is
asked for is noted before it is built (`refused_without_trace`).
-/

namespace ScreenForm

variable {H E W α β : Type}

/-! ## Names and texts -/

theorem NameTable.get_eq_error_iff {t : NameTable} {name : String} {e : RuntimeError} :
    t.get name = .error e ↔ t.contains name = false ∧ e = .undefinedId name := by
  unfold get contains
  cases t.entries.lookup name with
  | none => simp [eq_comm]
  | some w => simp

theorem Tree.activate?_eq_none_iff {t : Tree} {w : Nat} : t.activate? w = none ↔ (t.widget w).isClickable = false := by
  constructor
  · intro h
    by_contra hclick
    exact activate?_ne_none (Bool.not_eq_false _ ▸ hclick) h
  · intro hstill
    cases hact : t.activate? w with
    | none => rfl
    | some t' =>
      rw [isClickable_of_activate? hact] at hstill
      cases hstill

namespace Form

variable {f : Form} {name text : String} {e : RuntimeError}

/-- A widget that there is not, or one that cannot be changed so. -/
theorem change_eq_error_iff {write : Widget → Option Widget} {missing : String → RuntimeError} :
    f.change name write missing = .error e ↔ f.names.contains name = false ∧ e = .undefinedId name ∨
      ∃ w, f.widget name = .ok w ∧ write (f.tree.widget w) = none ∧ e = missing name := by
  unfold change
  cases hw : f.widget name with
  | error e' =>
    obtain ⟨hn, rfl⟩ := NameTable.get_eq_error_iff.1 hw
    show Except.error (RuntimeError.undefinedId name) = Except.error e ↔ _
    simp [hn, eq_comm]
  | ok w =>
    have hn : f.names.contains name ≠ false := fun hn => by
      have herror := NameTable.get_eq_error_iff.2 ⟨hn, rfl⟩
      cases hw.symm.trans herror
    dsimp only [bind, Except.bind, pure, Except.pure, throw, throwThe, MonadExceptOf.throw]
    cases hwrite : write (f.tree.widget w) with
    | none => simp [hn, hwrite, eq_comm]
    | some w' => simp [hn, hwrite]

end Form

/-! ## Calls of handlers -/

theorem Context.withForm_eq_error_iff {c : Context H E} {made : Except RuntimeError Form} {e : RuntimeError} :
    (made.map fun form => { c with form }) = .error e ↔ made = .error e := by
  cases made <;> simp [Except.map]

/-- A call on a context that can be refused. -/
inductive Request (H E : Type) where
  | openDialog (plan : DialogPlan H E)
  | endDialog
  | setText (name text : String)
  | setEditText (name text : String)

namespace Request

def call : Request H E → Context H E → Except RuntimeError (Context H E)
  | openDialog plan, c => c.openDialog plan
  | endDialog, c => c.endDialog
  | setText name text, c => c.setText name text
  | setEditText name text, c => c.setEditText name text

/-- Why a context refuses a call. -/
inductive Refused (c : Context H E) : Request H E → RuntimeError → Prop
  | shown {plan : DialogPlan H E} (dialog : c.control.dialogShown = true) (stays : c.control.endRequested = false) :
      Refused c (.openDialog plan) .dialogAlreadyActive
  | pending {plan : DialogPlan H E} (pending : c.control.pending.isSome) :
      Refused c (.openDialog plan) .dialogAlreadyActive
  | nothingShown (free : c.control.dialogShown = false) : Refused c .endDialog .noActiveDialog
  | unknown {name text : String} (unknown : c.form.names.contains name = false) :
      Refused c (.setText name text) (.undefinedId name)
  | noText {name text : String} {w : Nat} (named : c.form.widget name = .ok w)
      (other : (c.form.tree.widget w).text? = none) : Refused c (.setText name text) (.notText name)
  | unknownEdit {name text : String} (unknown : c.form.names.contains name = false) :
      Refused c (.setEditText name text) (.undefinedId name)
  | noEdit {name text : String} {w : Nat} (named : c.form.widget name = .ok w)
      (other : (c.form.tree.widget w).editText? = none) : Refused c (.setEditText name text) (.notEditable name)

theorem call_eq_error_iff {r : Request H E} {c : Context H E} {e : RuntimeError} :
    r.call c = .error e ↔ r.Refused c e := by
  cases r with
  | openDialog plan =>
    show c.openDialog plan = _ ↔ _
    unfold Context.openDialog
    constructor
    · intro h
      split at h
      · next hbusy =>
        cases h
        rw [Bool.or_eq_true, Bool.and_eq_true, Bool.not_eq_true'] at hbusy
        rcases hbusy with ⟨hshown, hstays⟩ | hpending
        · exact .shown hshown hstays
        · exact .pending hpending
      · cases h
    · intro h
      cases h with
      | shown hshown hstays => rw [if_pos (by simp [hshown, hstays])]
      | pending hpending => rw [if_pos (by simp [hpending])]
  | endDialog =>
    show c.endDialog = _ ↔ _
    unfold Context.endDialog
    constructor
    · intro h
      split at h
      · cases h
      · next hfree =>
        cases h
        exact .nothingShown (Bool.eq_false_iff.2 hfree)
    · intro h
      cases h with
      | nothingShown hfree => rw [if_neg (by simp [hfree])]
  | setText name text =>
    rw [show call (.setText name text) c = c.setText name text from rfl, Context.setText, Context.withForm_eq_error_iff,
      Form.setText, Form.change_eq_error_iff]
    constructor
    · rintro (⟨hn, rfl⟩ | ⟨w, hw, hwrite, rfl⟩)
      · exact .unknown hn
      · exact .noText hw (Widget.setText?_eq_none_iff.1 hwrite)
    · intro h
      cases h with
      | unknown hn => exact .inl ⟨hn, rfl⟩
      | noText hw hother => exact .inr ⟨_, hw, Widget.setText?_eq_none_iff.2 hother, rfl⟩
  | setEditText name text =>
    rw [show call (.setEditText name text) c = c.setEditText name text from rfl, Context.setEditText,
      Context.withForm_eq_error_iff, Form.setEditText, Form.change_eq_error_iff]
    constructor
    · rintro (⟨hn, rfl⟩ | ⟨w, hw, hwrite, rfl⟩)
      · exact .unknownEdit hn
      · exact .noEdit hw (Widget.setEditText?_eq_none_iff.1 hwrite)
    · intro h
      cases h with
      | unknownEdit hn => exact .inl ⟨hn, rfl⟩
      | noEdit hw hother => exact .inr ⟨_, hw, Widget.setEditText?_eq_none_iff.2 hother, rfl⟩

end Request

namespace Act

variable {f : Context H E → Except RuntimeError (Context H E)} {scene : Scene H E W} {e : RuntimeError}

theorem run_attempt_of_error (h : f scene.context = .error e) :
    (attempt f : Act H E W Unit).run.run scene = (.error (.runtimeError e), scene) := by
  have hget : (get : Act H E W (Scene H E W)).run.run scene = (.ok scene, scene) := rfl
  rw [attempt, ExceptT.run_bind, StateT.run_bind, hget]
  show StateT.run (ExceptT.run _) scene = _
  rw [h]
  rfl

theorem run_attempt_bind_of_error (h : f scene.context = .error e) (k : Unit → Act H E W α) :
    (attempt f >>= k).run.run scene = (.error (.runtimeError e), scene) := by
  rw [ExceptT.run_bind, StateT.run_bind, run_attempt_of_error h]
  rfl

theorem run_tryCatch_attempt_of_error (h : f scene.context = .error e) (rescue : FormError → Act H E W Unit) :
    (tryCatch (attempt f) rescue).run.run scene = (rescue (.runtimeError e)).run.run scene := by
  rw [ExceptT.run_tryCatch, StateT.run_bind, run_attempt_of_error h]
  rfl

end Act

/-! ## Demands -/

/-- No request is still to be met. -/
structure Console.Settled (c : Console H E) : Prop where
  pending : c.control.pending = none
  endRequested : c.control.endRequested = false

/-- Why a dialog cannot be built: some line of its palette is wrong, or else something in its description. -/
inductive DialogPlan.Faulty (plan : DialogPlan H E) (base : Palette) : FormError → Prop
  | palette {text : String} {e : StyleError} (given : plan.palette = some text) (wrong : Layer.parse text = .error e) :
      Faulty plan base (.styleError e)
  | description {palette : Palette} {e : FormError} (read : plan.paletteOver base = .ok palette)
      (wrong : Form.parse plan.description palette plan.strings = .error e) : Faulty plan base e

theorem DialogPlan.paletteOver_eq_error_iff {plan : DialogPlan H E} {base : Palette} {e : StyleError} :
    plan.paletteOver base = .error e ↔ ∃ text, plan.palette = some text ∧ Layer.parse text = .error e := by
  unfold paletteOver
  cases plan.palette with
  | none => simp
  | some text =>
    dsimp only
    cases hp : Layer.parse text <;> simp [Except.map, hp]

theorem DialogPlan.build_eq_error_iff {plan : DialogPlan H E} {base : Palette} {e : FormError} :
    plan.build base = .error e ↔ plan.Faulty base e := by
  unfold build
  constructor
  · intro h
    rcases hp : plan.paletteOver base with e' | palette <;> rw [hp] at h
    · cases h
      obtain ⟨text, hgiven, hwrong⟩ := paletteOver_eq_error_iff.1 hp
      exact .palette hgiven hwrong
    · replace h : (Form.parse plan.description palette plan.strings >>= fun _ => _) = Except.error e := h
      rcases hf : Form.parse plan.description palette plan.strings with e' | form <;> rw [hf] at h <;> cases h
      exact .description hp hf
  · intro h
    cases h with
    | palette hgiven hwrong =>
      rw [paletteOver_eq_error_iff.2 ⟨_, hgiven, hwrong⟩]
      rfl
    | description hread hwrong =>
      rw [hread]
      show (Form.parse _ _ _ >>= fun _ => _) = _
      rw [hwrong]
      rfl

/-- What a console answers to a demand that it refuses. -/
inductive Demand.Refused (c : Console H E) : Demand H E W → Except FormError Unit → Prop
  | shown {plan : DialogPlan H E} (dialog : c.dialog.isSome) :
      Refused c (.openDialog plan) (.error (.runtimeError .dialogAlreadyActive))
  | faulty {plan : DialogPlan H E} {e : FormError} (free : c.dialog = none) (faulty : plan.Faulty c.dialogBase e) :
      Refused c (.openDialog plan) (.error e)
  | nothingShown (free : c.dialog = none) : Refused c .endDialog (.error (.runtimeError .noActiveDialog))
  | unknown {name : String} (unknown : c.routedForm.names.contains name = false) :
      Refused c (.press name) (.error (.runtimeError (.undefinedId name)))
  | still {name : String} {w : Nat} (named : c.routedForm.widget name = .ok w)
      (other : (c.routedForm.tree.widget w).isClickable = false) : Refused c (.press name) (.ok ())

namespace Console

open SessionM

variable {b : Behaviour H E W} {s : Session H E W}

/-- On a console without a request a dialog that cannot be built leaves no request. -/
theorem run_openDialog (hs : s.console.Settled) (plan : DialogPlan H E) : (openDialog b plan).run.run s =
    if s.console.dialog.isSome then (.error (.runtimeError .dialogAlreadyActive), s)
    else match plan.build s.console.dialogBase with
      | .error e => (.error e, s)
      | .ok d => (.ok (), { s with console := s.console.attach d }) := by
  rw [openDialog, run_console]
  split
  · rfl
  · let noted : Session H E W :=
      { s with console := { s.console with control := { s.console.control with pending := some plan } } }
    have hend : noted.console.control.endRequested = false := hs.endRequested
    have htaken : (modifyControl fun control => { control with pending := none } : SessionM H E W Unit).run.run noted =
        (.ok (), s) := by
      show (Except.ok (), { s with
        console := { s.console with control := { s.console.control with pending := none } } }) = (Except.ok (), s)
      rw [← hs.pending]
    show (applyRequests b).run.run noted = _
    rw [applyRequests, run_bind, run_applyEnd hend]
    show (applyOpen : SessionM H E W Unit).run.run noted = _
    rw [applyOpen, run_console]
    show (modifyControl (fun control => { control with pending := none }) >>= fun _ => _).run.run noted = _
    rw [run_bind, htaken]
    cases plan.build s.console.dialogBase <;> rfl

theorem run_endDialog_of_none (h : s.console.dialog = none) :
    (endDialog b).run.run s = (.error (.runtimeError .noActiveDialog), s) := by
  rw [endDialog, run_console, h]
  rfl

theorem run_press_of_unknown {name : String} (h : s.console.routedForm.names.contains name = false) :
    (press b name).run.run s = (.error (.runtimeError (.undefinedId name)), s) := by
  have hw : s.console.routedForm.widget name = .error (.undefinedId name) := NameTable.get_eq_error_iff.2 ⟨h, rfl⟩
  rw [press, run_console, hw]
  rfl

theorem run_press_of_still {name : String} {w : Nat} (hw : s.console.routedForm.widget name = .ok w)
    (h : (s.console.routedForm.tree.widget w).isClickable = false) :
    (press b name).run.run s = (.ok .notHandled, s) := by
  rw [press, run_console, hw]
  dsimp only
  rw [Tree.activate?_eq_none_iff.2 h]
  rfl

/-- A handler whose call is refused fails, and the console has asked it for nothing else. -/
theorem run_actWith_refused {handler : H} {below : List H} (top : s.console.routedHandlers = handler :: below)
    {r : Request H E} {e : RuntimeError} (h : r.Refused s.console.context e) (deed : Context H E → Deed H E)
    (k : Unit → Act H E W α) : (actWith handler below deed (Act.attempt r.call >>= k)).run.run s =
      (.error (.runtimeError e), { s with console := s.console.become (deed s.console.context) s.console }) := by
  let scene : Scene H E W := ⟨handler, s.console.context, s.world⟩
  have hrefused : r.call scene.context = .error e := Request.call_eq_error_iff.2 h
  have hrun := Act.run_attempt_bind_of_error hrefused k
  refine Prod.ext ?_ ?_
  · rw [fst_actWith, hrun]
  · show (actWith handler below deed (Act.attempt r.call >>= k)).after s = _
    rw [after_actWith, hrun]
    have hafter : (s.console.setRoutedForm s.console.routedForm).setRoutedHandlers (handler :: below) = s.console := by
      rw [setRoutedForm_routedForm, ← top, setRoutedHandlers_routedHandlers]
    show { s with console := s.console.acted (deed s.console.context) s.console.context (handler :: below) } = _
    rw [acted]
    dsimp only [context]
    rw [hafter]

end Console

namespace Demand

open Console

variable {b : Behaviour H E W} {s : Session H E W} {demand : Demand H E W}

theorem run_perform_refused (hs : s.console.Settled) {answer : Except FormError Unit}
    (h : demand.Refused s.console answer) : (demand.perform b).run.run s = (answer, s) := by
  cases h with
  | shown dialog =>
    show (Console.openDialog b _).run.run s = _
    rw [run_openDialog hs, if_pos dialog]
  | faulty free faulty =>
    show (Console.openDialog b _).run.run s = _
    rw [run_openDialog hs, if_neg (by simp [free]), DialogPlan.build_eq_error_iff.2 faulty]
  | nothingShown free => exact run_endDialog_of_none free
  | unknown unknown =>
    show (Console.press b _ >>= fun _ => pure ()).run.run s = _
    rw [SessionM.run_bind, run_press_of_unknown unknown]
  | still named other =>
    show (Console.press b _ >>= fun _ => pure ()).run.run s = _
    rw [SessionM.run_bind, run_press_of_still named other]
    rfl

theorem refused_of_openDialog (hs : s.console.Settled) {plan : DialogPlan H E} {e : FormError} {t : Session H E W}
    (h : (Console.openDialog b plan).run.run s = (.error e, t)) :
    t = s ∧ (openDialog plan : Demand H E W).Refused s.console (.error e) := by
  rw [run_openDialog hs] at h
  split at h
  · next dialog =>
    cases h
    exact ⟨rfl, .shown dialog⟩
  · next free =>
    split at h
    · next hbuild =>
      cases h
      exact ⟨rfl, .faulty (by simpa using free) (DialogPlan.build_eq_error_iff.1 hbuild)⟩
    · cases h

end Demand

/-- A console on which no request is left refuses to open a dialog if one is shown, or if the palette or the
description of the new one is wrong, to end a dialog if none is shown, and to press what has no such name or cannot be
pressed. It stays exactly what it was then, so that whatever is asked of it later goes as if the refused demand had not
been made, and there is no other way for the opening of a dialog to fail. The calls of a handler are refused where they
are not in order. A refused call leaves the handler and its context as they were, whether it gives up or goes on, and
all that becomes of the console is that it has called the handler. -/
theorem refused_without_trace (b : Behaviour H E W) {s : Session H E W} (hs : s.console.Settled) :
    (∀ (demand : Demand H E W) answer, demand.Refused s.console answer →
      (demand.perform b).run.run s = (answer, s) ∧
        ∀ later, Demand.performAll b (demand :: later) s = Demand.performAll b later s) ∧
    (∀ plan e t, (Console.openDialog b plan).run.run s = (.error e, t) →
      t = s ∧ (Demand.openDialog plan : Demand H E W).Refused s.console (.error e)) ∧
    (∀ name w, s.console.routedForm.widget name = .ok w → (s.console.routedForm.tree.widget w).isClickable = false →
      (Console.press b name).run.run s = (.ok .notHandled, s)) ∧
    (∀ (r : Request H E) c e, r.call c = .error e ↔ r.Refused c e) ∧
    (∀ (r : Request H E) e (scene : Scene H E W), r.Refused scene.context e →
      (∀ {α : Type} (k : Unit → Act H E W α),
        (Act.attempt r.call >>= k).run.run scene = (.error (.runtimeError e), scene)) ∧
      ∀ rescue : FormError → Act H E W Unit,
        (tryCatch (Act.attempt r.call) rescue).run.run scene = (rescue (.runtimeError e)).run.run scene) ∧
    ∀ (r : Request H E) e handler below, s.console.routedHandlers = handler :: below →
      r.Refused s.console.context e → ∀ deed {α : Type} (k : Unit → Act H E W α),
        (SessionM.actWith handler below deed (Act.attempt r.call >>= k)).run.run s =
          (.error (.runtimeError e), { s with console := s.console.become (deed s.console.context) s.console }) := by
  refine ⟨fun demand answer h => ?_, fun plan e t => Demand.refused_of_openDialog hs,
    fun name w => Console.run_press_of_still, fun r c e => Request.call_eq_error_iff, fun r e scene h => ?_,
    fun r e handler below top h deed _ => Console.run_actWith_refused top h deed⟩
  · have hrun := Demand.run_perform_refused (b := b) hs h
    refine ⟨hrun, fun later => ?_⟩
    rw [Demand.performAll, List.foldl_cons, SessionM.after, hrun]
    rfl
  · have herror := Request.call_eq_error_iff.2 h
    exact ⟨Act.run_attempt_bind_of_error herror, Act.run_tryCatch_attempt_of_error herror⟩

/-- The second line of the description is wrong, an edit cannot be pressed, and a handler made for dialogs finds none to
end. -/
theorem refused_without_trace_misspelt :
    let form := ((Form.parse "Edt A [x] #a\nBtn [Go] #go &press=go" {} {}).toOption).getD default
    let c : Console AppHandler Unit :=
      { form, handlers := [.dialog], dialog := none, control := {}, dialogBase := form.palette.addLayer {},
        running := false, size := (0, 0), lastFocus := none, generation := 0 }
    let s : Session AppHandler Unit Unit := ⟨c, default, ()⟩
    let plan : DialogPlan AppHandler Unit := { description := "Txt Sure?\nBut [OK]" }
    s.console.Settled ∧
      (Console.openDialog App.behaviour plan).run.run s = (.error (.syntaxError (.unrecognizedWidget "But" 2)), s) ∧
      (Console.press App.behaviour "a").run.run s = (.ok .notHandled, s) ∧
      (SessionM.tell App.behaviour .dialog [] "go" 1 .press).run.run s = (.error (.runtimeError .noActiveDialog),
        { s with console := s.console.become (.told .dialog s.console.context "go" 1 .press) s.console }) := by
  intro form c s plan
  have hs : s.console.Settled := ⟨rfl, rfl⟩
  obtain ⟨hdemands, -, hstill, -, -, hcalls⟩ := refused_without_trace App.behaviour hs
  have hparse : Form.parse plan.description c.dialogBase plan.strings =
      .error (.syntaxError (.unrecognizedWidget "But" 2)) := by decide +kernel
  refine ⟨hs, (hdemands (.openDialog plan) _ (.faulty rfl (.description rfl hparse))).1, ?_, ?_⟩
  · exact hstill "a" 0 (by decide +kernel) (by decide +kernel)
  · let handled (_ : Unit) : Act AppHandler Unit Unit Response := pure .handled
    exact hcalls .endDialog _ .dialog [] rfl (.nothingShown rfl) (.told .dialog · "go" 1 .press) handled

end ScreenForm
