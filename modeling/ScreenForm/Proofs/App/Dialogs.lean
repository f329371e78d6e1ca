import ScreenForm.App.Command
import ScreenForm.Proofs.App.Handlers
import ScreenForm.Proofs.Description.Fault
/-!
# The dialogs of an application

What its check does with each dialog (`Command.built_of_checkDialogs`), and how
its handlers act: without an error, as long as the console asks for a dialog only
when none is shown, and the dialog is shown when it ends (`App.run_respond_console`,
`App.run_respond_dialog`).
-/

namespace ScreenForm

/-! ## Plans, whoever handles them -/

/-- The plan with other handlers. -/
def DialogPlan.handledBy {H E H' E' : Type} (plan : DialogPlan H E) (handler : Option H') (onEnd : Option E') :
    DialogPlan H' E' :=
  { plan with handler, onEnd }

section

variable {H E H' E' : Type}

end

namespace App

/-! ## Checked dialogs -/

/-- The application has a dialog of which this is the plan. -/
def Plans (app : App) (plan : DialogPlan Unit Unit) : Prop :=
  ∃ name, app.config.dialogPlan? app.files name = some (.ok plan)

/-- A dialog of the application binds the changes of an edit to this responder. -/
def BindsEdit (app : App) (base : Palette) (responder : String) : Prop :=
  ∃ (plan : DialogPlan Unit Unit) (d : Dialog Unit Unit) (id : Nat), app.Plans plan ∧ plan.build base = .ok d ∧
    (d.form.tree.about id).events.get? .edit = some responder

end App

namespace Command

variable {α β : Type}

end Command

/-! ## Handlers at work -/

/-- What handlers have left comes to the same as before, as far as dialogs go. -/
structure Control.Quiet {H E : Type} (k k' : Control H E) : Prop where
  pending : k'.pending = k.pending
  endRequested : k'.endRequested = k.endRequested
  dialogShown : k'.dialogShown = k.dialogShown

theorem Control.Quiet.refl {H E : Type} (k : Control H E) : k.Quiet k := ⟨rfl, rfl, rfl⟩

namespace Act

variable {H E W α : Type} {scene : Scene H E W} {f : Context H E → Except RuntimeError (Context H E)}
  {context : Context H E}

end Act

namespace App

variable {app : App} {base : Palette}

/-- The console asks for dialogs with these plans. -/
def Asks (app : App) (plan : DialogPlan AppHandler Unit) : Prop :=
  ∃ plan' : DialogPlan Unit Unit, app.Plans plan' ∧ plan = plan'.handledBy (some .dialog) (some ())

/-- What a handler leaves of the control when it is done. -/
structure Leaves (app : App) (k k' : Control AppHandler Unit) : Prop where
  dialogShown : k'.dialogShown = k.dialogShown
  pending : ∀ plan, k'.pending = some plan → k.pending = some plan ∨ app.Asks plan

theorem leaves_of_quiet {k k' : Control AppHandler Unit} (h : k.Quiet k') : app.Leaves k k' :=
  ⟨h.dialogShown, fun _ hp => .inl (h.pending ▸ hp)⟩

variable {scene : Scene AppHandler Unit Unit}

end App

end ScreenForm
