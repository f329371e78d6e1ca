import ScreenForm.Proofs.Console.Move
/-!
# Runs of a console

A host calls a console in any order, and goes on with it after an error. What
every move and every edit of the console's own form and handlers keeps holds
after any sequence of `Demand`s (`performAll_keeps`).
-/

namespace ScreenForm

open Relation (ReflTransGen)

variable {H E W : Type} {R : Form → Form → Prop}

/-- What moves keep holds at the end of a path. -/
theorem Path.keeps {P : Session H E W → Prop} (hmove : ∀ s s', P s → Move R s s' → P s') {s s' : Session H E W}
    (hp : Path R s s') (h : P s) : P s' := by
  induction hp with
  | refl => exact h
  | tail _ hm ih => exact hmove _ _ ih hm

theorem Console.eq_of_ofForm {form : Form} {dialogPalette : String} {c : Console H E}
    (h : ofForm form dialogPalette = .ok c) : ∃ base, c =
      { form, handlers := [], dialog := none, control := {}, dialogBase := base, running := false, size := (0, 0),
        lastFocus := none, generation := 0 } := by
  obtain ⟨top, -, hc⟩ := Except.bind_eq_ok.1 h
  cases hc
  exact ⟨_, rfl⟩

/-! ## Stages -/

namespace Console

variable {P : Stage H E → Prop} {c c' : Console H E}

/-- The stage of a console, and the ones before and after each of its deeds. -/
def stages (c : Console H E) : List (Stage H E) :=
  c.stage :: c.journal.flatMap fun e => [e.before, e.after]

/-- All stages that are known of the console are so. -/
def Always (P : Stage H E → Prop) (c : Console H E) : Prop := ∀ st ∈ c.stages, P st

theorem Always.stage (h : c.Always P) : P c.stage := h _ List.mem_cons_self

theorem Always.congr (h : c.Always P) (hj : c'.journal = c.journal) (hs : P c'.stage) : c'.Always P := by
  rw [Always, stages, hj]
  exact List.forall_mem_cons.2 ⟨hs, (List.forall_mem_cons.1 h).2⟩

theorem Always.become (h : c.Always P) {deed : Deed H E} {after : Console H E} (ha : P after.stage) :
    (c.become deed after).Always P := by
  have hold : ∀ st ∈ c.journal.flatMap fun e => [e.before, e.after], P st := (List.forall_mem_cons.1 h).2
  -- The stages are those of before, with the new one for what the console is and for what the deed led to.
  exact List.forall_mem_cons.2 ⟨ha, List.forall_mem_cons.2 ⟨h.stage, List.forall_mem_cons.2 ⟨ha, hold⟩⟩⟩

theorem always_of_ofForm {form : Form} {dialogPalette : String} (h : ofForm form dialogPalette = .ok c)
    (hP : P ⟨form, [], none, {}⟩) : c.Always P := by
  obtain ⟨base, rfl⟩ := eq_of_ofForm h
  exact List.forall_mem_singleton.2 hP

theorem journal_setRoutedForm (c : Console H E) (form : Form) : (c.setRoutedForm form).journal = c.journal := by
  unfold setRoutedForm
  split <;> rfl

end Console

/-! ## Demands -/

/-- What a host can ask of a console. -/
inductive Demand (H E W : Type) where
  | openDialog (plan : DialogPlan H E)
  | endDialog
  | press (name : String)
  | step
  | run
  | focus (direction : Direction)
  | batch (inputs : List Input)
  /-- The focus event of a step. -/
  | focusEvent
  /-- The edit event of a step. -/
  | editEvent (snapshot : Nat × Nat × String)
  | stop (message : Option String)
  /-- Uses the form of the console, or the one of its dialog. -/
  | use (scope : Scope) (u : FormUse)
  | pushHandler (handler : H)
  | popHandler
  /-- Leaves the console alone. Meanwhile the screen and the world may change. -/
  | wait (screen : Screen) (world : W)

namespace Demand

/-- Whether the host goes past a dialog to what is the console's own. -/
def isOwn : Demand H E W → Bool
  | use .console _ | pushHandler _ | popHandler => true
  | _ => false

open SessionM

def perform (b : Behaviour H E W) : Demand H E W → SessionM H E W Unit
  | openDialog plan => Console.openDialog b plan
  | endDialog => Console.endDialog b
  | press name => do let _ ← Console.press b name
  | step => Console.step b
  | run => do let _ ← Console.run b
  | focus d => modifyConsole fun c => (c.stepFocus? d).getD c
  | batch inputs => Console.handleBatch b inputs
  | focusEvent => do
    Console.fireFocus b
    Console.applyRequests b
  | editEvent snapshot => do
    Console.fireEdit b snapshot
    Console.applyRequests b
  | stop message => modifyConsole (·.stop message)
  | use .console u => modifyConsole fun c => { c with form := c.form.use u }
  | use .dialog u => modifyConsole fun c =>
    { c with dialog := c.dialog.map fun d => { d with form := d.form.use u } }
  | pushHandler handler => modifyConsole (·.pushHandler handler)
  | popHandler => modifyConsole (·.popHandler)
  | wait screen world => modify fun s => { s with screen, world }

/-- The session after some demands, of which some may fail. -/
def performAll (b : Behaviour H E W) (demands : List (Demand H E W)) (s : Session H E W) : Session H E W :=
  demands.foldl (fun s demand => (demand.perform b).after s) s

/-- A change of what is the console's own. -/
inductive Edit (s : Session H E W) : Session H E W → Prop
  | form (u : FormUse) : Edit s { s with console := { s.console with form := s.console.form.use u } }
  | handlers (handlers : List H) : Edit s { s with console := { s.console with handlers } }

variable {b : Behaviour H E W}

theorem perform_edit {demand : Demand H E W} (h : demand.isOwn = true) (s : Session H E W) :
    Edit s ((demand.perform b).after s) := by
  cases demand with
  | use scope u =>
    cases scope with
    | console => exact .form u
    | dialog => cases h
  | pushHandler handler => exact .handlers _
  | popHandler => exact .handlers _
  | _ => cases h

variable (hb : b.ActsBy R)
include hb

/-- What a console does by itself is a path. -/
theorem perform_path {demand : Demand H E W} (h : demand.isOwn = false) (s : Session H E W) :
    Path R s ((demand.perform b).after s) := by
  cases demand with
  | openDialog plan => exact Console.leads_openDialog hb plan
  | endDialog => exact Console.leads_endDialog hb
  | press name => exact (Console.leads_press hb name).bind fun _ _ _ => leads_pure _
  | step => exact Console.leads_step hb
  | run => exact (Console.leads_run hb).bind fun _ _ _ => leads_pure _
  | focus d =>
    show Path R s { s with console := (s.console.stepFocus? d).getD s.console }
    cases ht : s.console.routedForm.tree.stepFocus? s.console.routedForm.root d with
    | none =>
      rw [Console.stepFocus?, ht]
      exact .refl
    | some tree =>
      rw [Console.stepFocus?, ht]
      exact Console.leads_setRoutedTree (.step d) (by simp [Form.use, ht])
  | batch inputs => exact Console.leads_handleBatch hb inputs
  | focusEvent => exact (Console.leads_fireFocus hb).bind fun _ _ _ => Console.leads_applyRequests hb
  | editEvent snapshot => exact (Console.leads_fireEdit hb snapshot).bind fun _ _ _ => Console.leads_applyRequests hb
  | stop message => exact Console.leads_modifyConsole_aside ⟨rfl, rfl, rfl, rfl, rfl, rfl, rfl, rfl⟩
  | use scope u =>
    cases scope with
    | console => cases h
    | dialog =>
      show Path R s { s with console := { s.console with
        dialog := s.console.dialog.map fun d => { d with form := d.form.use u } } }
      cases hd : s.console.dialog with
      | none =>
        rw [Option.map_none, ← hd]
      | some d =>
        have hmove := Move.used (R := R) (s := s) u
        simp only [Console.setRoutedForm, Console.routedForm, hd] at hmove
        exact .single hmove
  | pushHandler handler => cases h
  | popHandler => cases h
  | wait screen world => exact .single (.aside (.refl s.console) screen world)

/-- What moves and edits keep holds after all demands. -/
theorem performAll_keeps {P : Session H E W → Prop} (hmove : ∀ s s', P s → Move R s s' → P s')
    (hedit : ∀ s s', P s → Edit s s' → P s') (demands : List (Demand H E W)) {s : Session H E W} (h : P s) :
    P (performAll b demands s) := by
  -- A demand is one edit or a path of moves, and `P` is kept on either.
  induction demands generalizing s with
  | nil => exact h
  | cons demand demands ih =>
    refine ih ?_
    cases ho : demand.isOwn with
    | true => exact hedit _ _ h (perform_edit ho s)
    | false => exact (perform_path hb ho s).keeps hmove h

end Demand

end ScreenForm
