import ScreenForm.Proofs.Console.Route
import ScreenForm.Proofs.Form.Group
/-!
# Radio buttons in a run

No form of a console ever has two checked radio buttons in one group, and none loses the checked button of a
group without getting another one (`performAll_radios`): the form of the console at no time, and the form of
a dialog not while it is shown.
-/

namespace ScreenForm

open Relation (ReflTransGen)

variable {H E W : Type}

/-- At most one radio button of each group is checked, and a press picks one. -/
structure Form.Radios (f : Form) : Prop where
  sole : f.tree.Sole
  kept : ∀ (uses : List FormUse) group, f.tree.checkedIn group ≠ [] →
    (uses.foldl Form.use f).tree.checkedIn group ≠ []
  picks : ∀ id group, (f.tree.widget id).group? = some group → f.Picks id group

theorem Form.Attentive.radios {f : Form} (h : f.Attentive) (hsole : f.tree.Sole) : f.Radios :=
  ⟨hsole, fun uses _ => (f.settles_uses uses).ne_nil, fun _ _ => h.picks⟩

theorem lasts_sole : Lasts H E (fun f => f.Attentive ∧ f.tree.Sole) (fun f => f.Attentive ∧ f.tree.Sole) where
  form f u h := ⟨Form.stable_attentive f u h.1, Form.stable_sole f u h.2⟩
  dialog f u h := ⟨Form.stable_attentive f u h.1, Form.stable_sole f u h.2⟩
  built _ _ _ h := ⟨DialogPlan.build_attentive h, DialogPlan.build_sole h⟩

/-! ## From one session to a later one -/

theorem Form.settles_of_used {f f' : Form} (h : ReflTransGen Form.Used f f') : f.tree.Settles f'.tree := by
  induction h with
  | refl => exact .refl _
  | tail _ hu ih =>
    obtain ⟨u, rfl⟩ := hu
    exact ih.trans (Form.settles_use _ u)

namespace Console

variable {c : Console H E}

theorem settles_setRoutedForm {g : Form} (h : ReflTransGen Form.Used c.routedForm g) :
    c.form.tree.Settles (c.setRoutedForm g).form.tree := by
  cases hd : c.dialog with
  | some d => simpa only [setRoutedForm, hd] using Tree.Settles.refl _
  | none =>
    rw [routedForm, hd] at h
    simpa only [setRoutedForm, hd] using Form.settles_of_used h

theorem form_setRoutedHandlers (c : Console H E) (handlers : List H) :
    (c.setRoutedHandlers handlers).form = c.form := by
  unfold setRoutedHandlers
  split <;> rfl

end Console

/-- The console's own form has not lost a checked button, and neither has the form that events go to, if it is the
same form. -/
structure Session.Settles (s s' : Session H E W) : Prop where
  own : s.console.form.tree.Settles s'.console.form.tree
  routed : s.console.generation < s'.console.generation ∨ s'.console.generation = s.console.generation ∧
    s.console.routedForm.tree.Settles s'.console.routedForm.tree

theorem Session.Settles.refl (s : Session H E W) : s.Settles s := ⟨.refl _, .inr ⟨rfl, .refl _⟩⟩

theorem Session.Settles.trans {s s' s'' : Session H E W} (h : s.Settles s') (h' : s'.Settles s'') : s.Settles s'' := by
  refine ⟨h.own.trans h'.own, ?_⟩
  rcases h.routed with hlt | ⟨heq, hs⟩
  · rcases h'.routed with hlt' | ⟨heq', -⟩
    · exact .inl (Nat.lt_trans hlt hlt')
    · exact .inl (heq'.symm ▸ hlt)
  · rcases h'.routed with hlt' | ⟨heq', hs'⟩
    · exact .inl (heq ▸ hlt')
    · exact .inr ⟨heq'.trans heq, hs.trans hs'⟩

theorem Move.settles {s s' : Session H E W} (hm : Move Form.Used s s') : s.Settles s' := by
  constructor
  · cases hm with
    | aside same screen world =>
      rw [same.form]
      exact .refl _
    | used u => exact Console.settles_setRoutedForm (.single ⟨u, rfl⟩)
    | @acted _ below _ _ _ context calls handler' world =>
      show s.console.form.tree.Settles
        ((s.console.setRoutedForm context.form).setRoutedHandlers (handler' :: below)).form.tree
      rw [Console.form_setRoutedHandlers]
      exact Console.settles_setRoutedForm (Context.form_of_calls calls)
    | endedWith requested dialog onEnd calls world => exact Form.settles_of_used (Context.form_of_calls calls)
    | asked | endDropped | ended | planned | endAsked | planDropped | opened => exact .refl _
  · rcases hm.stays_or_swapped fun _ u => ⟨u, rfl⟩ with hstays | hswapped
    · exact .inr ⟨hstays.generation, Form.settles_of_used hstays.form⟩
    · exact .inl hswapped.generation

theorem Demand.Edit.settles {s s' : Session H E W} (he : Demand.Edit s s') : s.Settles s' := by
  cases he with
  | form u =>
    refine ⟨Form.settles_use _ u, .inr ⟨rfl, ?_⟩⟩
    cases hd : s.console.dialog with
    | some d => simpa only [Console.routedForm, hd] using Tree.Settles.refl _
    | none => simpa only [Console.routedForm, hd] using Form.settles_use _ u
  | handlers => exact ⟨.refl _, .inr ⟨rfl, .refl _⟩⟩

theorem Demand.performAll_settles {b : Behaviour H E W} (hb : b.ActsBy Form.Used) (demands : List (Demand H E W))
    (s : Session H E W) : s.Settles (performAll b demands s) :=
  performAll_keeps (P := s.Settles) hb (fun _ _ h hm => h.trans hm.settles) (fun _ _ h he => h.trans he.settles)
    demands (.refl s)

/-! ## Runs -/

/-- In a form that is made of a description the checked radio button of a group is the one of the last line that
checks one of it. Whatever is done with the form, and however a console for it goes on, no group has two checked
buttons or loses its one, and neither does a group of a dialog. -/
theorem performAll_radios {b : Behaviour H E W} (hb : b.ActsBy Form.Used) (description : String) (palette : Palette)
    (strings : StringTable) (f : Form) (hf : Form.parse description palette strings = .ok f) :
    (∃ text, strings.substituteChars description.toList = .ok text ∧ ∀ group,
      f.tree.checkedLines group = (Form.checkingLines (Form.numberedLines text) group).getLast?.toList) ∧
    (∀ uses : List FormUse, (uses.foldl Form.use f).Radios) ∧
    ∀ (dialogPalette : String) (s : Session H E W) (demands : List (Demand H E W)),
      Console.ofForm f dialogPalette = .ok s.console →
      (∀ st ∈ (Demand.performAll b demands s).console.stages, ∀ g ∈ st.forms, g.Radios) ∧
      ∀ more : List (Demand H E W),
        (Demand.performAll b demands s).Settles (Demand.performAll b more (Demand.performAll b demands s)) := by
  have hstart : f.Attentive ∧ f.tree.Sole := ⟨Form.parse_attentive hf, Form.parse_sole hf⟩
  refine ⟨Form.parse_checkedLines hf, fun uses => ?_, fun dialogPalette s demands hs => ⟨?_, fun more => ?_⟩⟩
  · obtain ⟨hattentive, hsole⟩ := (lasts_sole (H := H) (E := E)).form.foldl hstart uses
    exact hattentive.radios hsole
  · intro st hst g hg
    obtain ⟨hattentive, hsole⟩ := (performAll_shows hb lasts_sole hstart hs demands st hst).forms g hg
    exact hattentive.radios hsole
  · exact Demand.performAll_settles hb more _

/-- Two lines check a button of `g`, and the second one is inside a pile. -/
theorem performAll_radios_nested : ∃ (f : Form) (c : Console AppHandler Unit),
    Form.parse "Rdo [A] #a group=g state=True\nPle\nRdo [B] group=g state=True\nRdo [C] #c group=h\nEnd" {} {} =
      .ok f ∧
    Console.ofForm f "" = .ok c ∧
    f.tree.checkedLines "g" = [3] ∧ f.tree.checkedLines "h" = [] ∧
    ([FormUse.activate 0, .step .forward].foldl Form.use f).Radios ∧
    (∀ st ∈ (Demand.performAll App.behaviour [.press "a", .press "c"] ⟨c, default, ()⟩).console.stages,
      ∀ g ∈ st.forms, g.Radios) ∧
    (Demand.performAll App.behaviour [.press "a"] ⟨c, default, ()⟩).Settles
      (Demand.performAll App.behaviour [.press "c"]
        (Demand.performAll App.behaviour [.press "a"] ⟨c, default, ()⟩)) := by
  have hok : ((Form.parse "Rdo [A] #a group=g state=True\nPle\nRdo [B] group=g state=True\nRdo [C] #c group=h\nEnd"
      {} {}).toOption.map fun f => (f.tree.checkedLines "g", f.tree.checkedLines "h")) = some ([3], []) := by
    decide +kernel
  cases hf : Form.parse "Rdo [A] #a group=g state=True\nPle\nRdo [B] group=g state=True\nRdo [C] #c group=h\nEnd"
      {} {} with
  | error e =>
    rw [hf] at hok
    cases hok
  | ok f =>
    rw [hf] at hok
    have hlines := Prod.mk.inj (Option.some.inj hok)
    have h := performAll_radios (W := Unit) (App.behaviour_actsBy Form.Used) _ {} {} f hf
    exact ⟨f, _, rfl, rfl, hlines.1, hlines.2, h.2.1 _, (h.2.2 "" ⟨_, default, ()⟩ _ rfl).1,
      (h.2.2 "" ⟨_, default, ()⟩ _ rfl).2 _⟩

end ScreenForm
