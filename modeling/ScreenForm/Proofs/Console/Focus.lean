import ScreenForm.Proofs.App.Handlers
import ScreenForm.Proofs.Console.Shows
import ScreenForm.Proofs.Dialog.Panel
/-!
# The focus in a run

As long as handlers only use the forms that they see, every form of a console
keeps its focus on a widget (`performAll_focused?`).
-/

namespace ScreenForm

variable {H E W : Type}

/-- Every container with a child that can take the focus has it on such a child, and a widget has the
focus if one of the body can. -/
structure Form.Minds (f : Form) : Prop where
  attends : ∀ id, f.tree.Attends id
  focused?_isSome_iff : (f.tree.focused? f.root).isSome ↔ ∃ n, f.tree.Reaches f.body n ∧ (f.tree.widget n).isFocusable

theorem Form.Attentive.minds {f : Form} (h : f.Attentive) : f.Minds :=
  ⟨h.tree.attends, h.focused?_isSome_iff⟩

theorem Form.stable_attentive : Stable Attentive := fun _ u h => h.careful (h.use u)

theorem lasts_attentive : Lasts H E Form.Attentive Form.Attentive :=
  ⟨Form.stable_attentive, Form.stable_attentive, fun _ _ _ => DialogPlan.build_attentive⟩

/-- A form that is made of a description has its focus on the first widget of the description that can
have it. Whatever is done with the form, and however a console for it goes on, it has its focus on a
widget as long as there is one for it, and so has the form of each dialog. -/
theorem performAll_focused? {b : Behaviour H E W} (hb : b.ActsBy Form.Used) (description : String) (palette : Palette)
    (strings : StringTable) (f : Form) (hf : Form.parse description palette strings = .ok f) :
    (f.tree.focused? f.root = (f.tree.walk f.root).find? (fun n => (f.tree.widget n).isFocusable) ∧
      ∀ n m, f.tree.focused? f.root = some n → f.tree.Reaches f.root m → (f.tree.widget m).isFocusable →
        (f.tree.about n).line ≤ (f.tree.about m).line) ∧
    (∀ uses : List FormUse, (uses.foldl Form.use f).Minds) ∧
    ∀ (dialogPalette : String) (s : Session H E W) (demands : List (Demand H E W)),
      Console.ofForm f dialogPalette = .ok s.console →
      ∀ st ∈ (Demand.performAll b demands s).console.stages, ∀ g ∈ st.forms, g.Minds := by
  have ha := Form.parse_attentive hf
  refine ⟨⟨Form.parse_focused? hf, fun n m => Form.parse_focused?_le hf⟩, fun uses => ?_, ?_⟩
  · exact (Form.stable_attentive.foldl ha uses).minds
  · intro dialogPalette s demands hs st hst g hg
    exact ((performAll_shows hb lasts_attentive ha hs demands st hst).forms g hg).minds

theorem performAll_focused?_nested : ∃ (f : Form) (c : Console AppHandler Unit),
    Form.parse "Txt top\nPle\nBtn [Go] #go\nEnd\nEdt Name [me] #e" {} {} = .ok f ∧ Console.ofForm f "" = .ok c ∧
    f.tree.focused? f.root = (f.tree.walk f.root).find? (fun n => (f.tree.widget n).isFocusable) ∧
    ([FormUse.step .forward, .setEditText "e" "x"].foldl Form.use f).Minds ∧
    ∀ st ∈ (Demand.performAll App.behaviour [.focus .forward, .press "go"] ⟨c, default, ()⟩).console.stages,
      ∀ g ∈ st.forms, g.Minds := by
  have hok : (Form.parse "Txt top\nPle\nBtn [Go] #go\nEnd\nEdt Name [me] #e" {} {}).isOk := by decide +kernel
  cases hf : Form.parse "Txt top\nPle\nBtn [Go] #go\nEnd\nEdt Name [me] #e" {} {} with
  | error e =>
    rw [hf] at hok
    cases hok
  | ok f =>
    have h := performAll_focused? (W := Unit) (App.behaviour_actsBy Form.Used) _ {} {} f hf
    exact ⟨f, _, rfl, rfl, h.1.1, h.2.1 _, h.2.2 "" ⟨_, default, ()⟩ _ rfl⟩

end ScreenForm
