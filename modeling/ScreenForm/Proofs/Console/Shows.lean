import ScreenForm.Proofs.Console.Demand
import ScreenForm.Proofs.Form.Focus
/-!
# The forms of a console

What stays true of a form in use, and is true of the form of every dialog that
opens, is true of all forms of a console at all times (`performAll_shows`), as
long as handlers only use the forms that they see.
-/

namespace ScreenForm

open Relation (ReflTransGen)

variable {H E W : Type} {P Q : Form → Prop}

namespace Form

/-- The form after some use of it. -/
def Used (f f' : Form) : Prop := ∃ u, f' = f.use u

/-- No use of a form ends it. -/
def Stable (P : Form → Prop) : Prop := ∀ f u, P f → P (f.use u)

theorem Stable.uses (h : Stable P) {f f' : Form} (hf : ReflTransGen Used f f') (hp : P f) : P f' := by
  induction hf with
  | refl => exact hp
  | tail _ hu ih =>
    obtain ⟨u, rfl⟩ := hu
    exact h _ u ih

theorem Stable.foldl (h : Stable P) {f : Form} (hp : P f) (uses : List FormUse) : P (uses.foldl use f) := by
  induction uses generalizing f with
  | nil => exact hp
  | cons u uses ih => exact ih (h f u hp)

end Form

namespace Stage

/-- The forms of a stage. -/
def forms (st : Stage H E) : List Form :=
  st.form :: (st.dialog.map (·.form)).toList

/-- `P` is true of the form of the console, and `Q` of the one of its dialog. -/
structure Shows (P Q : Form → Prop) (st : Stage H E) : Prop where
  form : P st.form
  dialog : ∀ d, st.dialog = some d → Q d.form

theorem Shows.forms {st : Stage H E} (h : st.Shows P P) : ∀ f ∈ st.forms, P f := by
  intro f hf
  simp only [Stage.forms, List.mem_cons, Option.mem_toList, Option.map_eq_some_iff] at hf
  rcases hf with rfl | ⟨d, hd, rfl⟩
  · exact h.form
  · exact h.dialog d hd

end Stage

/-- Of all forms that handlers see and use, `P` is true of those of a console and `Q` of those of its dialogs. -/
structure Lasts (H E : Type) (P Q : Form → Prop) : Prop where
  form : Form.Stable P
  dialog : Form.Stable Q
  built : ∀ (plan : DialogPlan H E) base d, plan.build base = .ok d → Q d.form

namespace Console

variable {c : Console H E}

theorem shows_routedForm (h : c.stage.Shows P P) : P c.routedForm := by
  unfold routedForm
  split
  · next d hd => exact h.dialog d hd
  · exact h.form

theorem shows_setRoutedForm (hl : Lasts H E P Q) (h : c.stage.Shows P Q) {f : Form}
    (hf : ReflTransGen Form.Used c.routedForm f) : (c.setRoutedForm f).stage.Shows P Q := by
  unfold routedForm at hf
  unfold setRoutedForm
  cases hd : c.dialog with
  | some d =>
    rw [hd] at hf
    exact ⟨h.form, by rintro d' ⟨⟩; exact hl.dialog.uses hf (h.dialog d hd)⟩
  | none =>
    rw [hd] at hf
    exact ⟨hl.form.uses hf h.form, nofun⟩

theorem shows_setRoutedHandlers (h : c.stage.Shows P Q) (handlers : List H) :
    (c.setRoutedHandlers handlers).stage.Shows P Q := by
  unfold setRoutedHandlers
  split
  · next d hd => exact ⟨h.form, by rintro d' ⟨⟩; exact h.dialog d hd⟩
  · exact ⟨h.form, h.dialog⟩

end Console

theorem Move.shows {s s' : Session H E W} (hl : Lasts H E P Q) (hm : Move Form.Used s s')
    (h : s.console.Always (Stage.Shows P Q)) : s'.console.Always (Stage.Shows P Q) := by
  have hst := h.stage
  cases hm with
  | aside same screen world =>
    refine h.congr same.journal ⟨?_, fun d hd => hst.dialog d (same.dialog.symm.trans hd)⟩
    exact (congrArg P same.form).mpr hst.form
  | used u =>
    exact h.congr (Console.journal_setRoutedForm ..) (Console.shows_setRoutedForm hl hst (.single ⟨u, rfl⟩))
  | asked top kind responder world => exact h.become hst
  | @acted _ below _ _ _ context calls handler' world =>
    have hform := Console.shows_setRoutedForm hl hst (Context.form_of_calls calls)
    have hafter := Console.shows_setRoutedHandlers hform (handler' :: below)
    exact h.become ⟨hafter.form, hafter.dialog⟩
  | endDropped requested dialog => exact h.congr rfl ⟨hst.form, hst.dialog⟩
  | ended requested dialog onEnd => exact h.become ⟨hst.form, nofun⟩
  | @endedWith d _ _ _ _ _ calls world =>
    have hdetach : (s.console.detach d).Always (Stage.Shows P Q) := h.become ⟨hst.form, nofun⟩
    exact hdetach.become ⟨hl.form.uses (Context.form_of_calls calls) hst.form, nofun⟩
  | planned plan dialog => exact h.congr rfl ⟨hst.form, hst.dialog⟩
  | endAsked dialog => exact h.congr rfl ⟨hst.form, hst.dialog⟩
  | planDropped settled => exact h.congr rfl ⟨hst.form, hst.dialog⟩
  | opened settled pending built =>
    have htaken : s.console.takePlan.Always (Stage.Shows P Q) := h.congr rfl ⟨hst.form, hst.dialog⟩
    exact htaken.become ⟨hst.form, by rintro d' ⟨⟩; exact hl.built _ _ _ built⟩

theorem Demand.Edit.shows {s s' : Session H E W} (hl : Lasts H E P Q) (he : Demand.Edit s s')
    (h : s.console.Always (Stage.Shows P Q)) : s'.console.Always (Stage.Shows P Q) := by
  have hst := h.stage
  cases he with
  | form u => exact h.congr rfl ⟨hl.form _ u hst.form, hst.dialog⟩
  | handlers => exact h.congr rfl ⟨hst.form, hst.dialog⟩

theorem performAll_shows {b : Behaviour H E W} (hb : b.ActsBy Form.Used) (hl : Lasts H E P Q) {f : Form} (hf : P f)
    {dialogPalette : String} {s : Session H E W} (hs : Console.ofForm f dialogPalette = .ok s.console)
    (demands : List (Demand H E W)) : (Demand.performAll b demands s).console.Always (Stage.Shows P Q) :=
  Demand.performAll_keeps (P := fun s => s.console.Always (Stage.Shows P Q)) hb (fun _ _ h hm => hm.shows hl h)
    (fun _ _ h he => he.shows hl h) demands (Console.always_of_ofForm hs ⟨hf, nofun⟩)

end ScreenForm
