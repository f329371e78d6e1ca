import ScreenForm.Proofs.App.Handlers
import ScreenForm.Proofs.Console.Shows
import ScreenForm.Proofs.Form.Checked
/-!
# What is checked stays so

What was checked of a description is true of the forms of a console all the time
that it runs (`performAll_checked`). So handlers hear of no event that its widget
cannot produce, and the footer finds the text of each key.
-/

namespace ScreenForm

open Description
open Relation (ReflTransGen)

variable {H E W : Type} {s s' : Session H E W}

theorem lasts_checked : Lasts H E Form.Checked Form.Checked :=
  ⟨fun _ u h => h.use u, fun _ u h => h.use u, fun _ _ _ => DialogPlan.build_checked⟩

theorem Form.stable_keeps (f : Form) : Stable f.Keeps := fun g u h => h.trans (g.keeps_use u)

/-! ## Dialogs -/

/-- The dialog that the last of these deeds opened, unless it has been closed. -/
def Console.lastOpened? : List (Entry H E) → Option (Dialog H E)
  | [] => none
  | e :: past =>
    match e.deed with
    | .opened d => some d
    | .closed _ => none
    | _ => lastOpened? past

/-- The dialog that is shown is the last one that was opened, and has its widgets. -/
def Console.Recalls (c : Console H E) : Prop :=
  ∀ d, c.dialog = some d → ∃ d₀, lastOpened? c.journal = some d₀ ∧ d₀.form.Keeps d.form

namespace Console

variable {c c' : Console H E}

theorem Recalls.congr (h : c.Recalls) (hj : lastOpened? c'.journal = lastOpened? c.journal)
    (hd : ∀ d', c'.dialog = some d' → ∃ d, c.dialog = some d ∧ d.form.Keeps d'.form) : c'.Recalls := by
  intro d' hd'
  obtain ⟨d, hd, hk⟩ := hd d' hd'
  obtain ⟨d₀, h₀, hk₀⟩ := h d hd
  exact ⟨d₀, hj.trans h₀, hk₀.trans hk⟩

theorem Recalls.of_dialog (h : c.Recalls) (hj : lastOpened? c'.journal = lastOpened? c.journal)
    (hd : c'.dialog = c.dialog) :
    c'.Recalls :=
  h.congr hj fun d' hd' => ⟨d', hd ▸ hd', .refl _⟩

theorem recalls_of_none (h : c.dialog = none) : c.Recalls := fun _ hd => nomatch h.symm.trans hd

theorem keeps_setRoutedForm {f : Form} (hf : ReflTransGen Form.Used c.routedForm f) {d' : Dialog H E}
    (hd' : (c.setRoutedForm f).dialog = some d') : ∃ d, c.dialog = some d ∧ d.form.Keeps d'.form := by
  unfold routedForm at hf
  unfold setRoutedForm at hd'
  cases hd : c.dialog with
  | none =>
    rw [hd] at hd'
    cases hd'
  | some d =>
    rw [hd] at hf hd'
    cases hd'
    exact ⟨d, rfl, (Form.stable_keeps d.form).uses hf (.refl _)⟩

theorem keeps_setRoutedHandlers {handlers : List H} {d' : Dialog H E}
    (hd' : (c.setRoutedHandlers handlers).dialog = some d') : ∃ d, c.dialog = some d ∧ d'.form = d.form := by
  unfold setRoutedHandlers at hd'
  cases hd : c.dialog with
  | none =>
    rw [hd] at hd'
    cases hd'
  | some d =>
    rw [hd] at hd'
    cases hd'
    exact ⟨d, rfl, rfl⟩

end Console

theorem Move.recalls (hm : Move Form.Used s s') (h : s.console.Recalls) : s'.console.Recalls := by
  cases hm with
  | aside same screen world => exact h.of_dialog (congrArg _ same.journal) same.dialog
  | used u =>
    exact h.congr (congrArg _ (Console.journal_setRoutedForm ..))
      fun _ => Console.keeps_setRoutedForm (.single ⟨u, rfl⟩)
  | asked => exact h.of_dialog rfl rfl
  | acted top called calls =>
    refine h.congr (by cases called <;> rfl) fun d' hd' => ?_
    obtain ⟨d, hd, heq⟩ := Console.keeps_setRoutedHandlers hd'
    rw [heq]
    exact Console.keeps_setRoutedForm (Context.form_of_calls calls) hd
  | endDropped | planned | endAsked | planDropped => exact h.of_dialog rfl rfl
  | ended | endedWith => exact Console.recalls_of_none rfl
  | @opened plan d settled pending built =>
    rintro _ ⟨⟩
    exact ⟨d, rfl, .refl _⟩

theorem Demand.Edit.recalls (he : Demand.Edit s s') (h : s.console.Recalls) : s'.console.Recalls := by
  cases he with
  | form | handlers => exact h.of_dialog rfl rfl

/-! ## Events -/

/-- If the deed tells a handler of an event, then of one that the widget binds to the responder and can produce. -/
def Deed.Apt : Deed H E → Prop
  | told _ context responder widget event =>
    (context.form.tree.about widget).events.get? event.kind = some responder ∧
      event.kind.accepts (context.form.tree.widget widget)
  | _ => True

theorem Deed.Calls.apt {handler : H} {context : Context H E} {deed : Deed H E} (h : deed.Calls handler context)
    (hc : context.form.Checked) (bound : deed.Bound) : deed.Apt := by
  cases h with
  | told => exact ⟨bound, hc.accepts _ _ _ bound⟩
  | asked | offered => trivial

/-- All forms are checked, and handlers have heard of no events that do not fit. -/
structure Session.Apt (s : Session H E W) : Prop where
  forms : s.console.Always (Stage.Shows Form.Checked Form.Checked)
  told : ∀ e ∈ s.console.journal, e.deed.Apt

theorem Move.apt (hm : Move Form.Used s s') (h : s.Apt) : s'.Apt := by
  refine ⟨hm.shows lasts_checked h.forms, ?_⟩
  have htold := h.told
  cases hm with
  | aside same screen world => rwa [same.journal]
  | used u => rwa [Console.journal_setRoutedForm]
  | acted top called calls handler' world bound =>
    exact List.forall_mem_cons.2 ⟨called.apt (Console.shows_routedForm h.forms.stage) bound, htold⟩
  | endDropped | planned | endAsked | planDropped => exact htold
  | asked | ended | opened => exact List.forall_mem_cons.2 ⟨trivial, htold⟩
  | endedWith => exact List.forall_mem_cons.2 ⟨trivial, List.forall_mem_cons.2 ⟨trivial, htold⟩⟩

theorem Demand.Edit.apt (he : Demand.Edit s s') (h : s.Apt) : s'.Apt := by
  refine ⟨he.shows lasts_checked h.forms, ?_⟩
  cases he with
  | form | handlers => exact h.told

/-! ## The footer -/

namespace Console

variable {c : Console H E} {id : Nat} {key : String}

theorem string_of_checked (hc : c.routedForm.Checked)
    (hk : (c.routedForm.tree.about id).info = some key ∨ (c.routedForm.tree.about id).tooltip = some key) :
    ∃ text, c.routedForm.string key = .ok text :=
  hc.defined id key hk

/-- The footer shows the text of the focused widget, if no handler has set another one. -/
theorem info_refreshFooter (hc : c.routedForm.Checked) (hf : c.focused? = some id)
    (hk : (c.routedForm.tree.about id).info = some key) :
    ∃ text, c.routedForm.string key = .ok text ∧ c.refreshFooter.control.info = c.control.info.or (some text) := by
  obtain ⟨text, htext⟩ := string_of_checked hc (.inl hk)
  exact ⟨text, htext, by simp [refreshFooter, hf, hk, htext, Except.toOption]⟩

theorem tooltip_refreshFooter (hc : c.routedForm.Checked) (hf : c.focused? = some id)
    (hk : (c.routedForm.tree.about id).tooltip = some key) :
    ∃ text, c.routedForm.string key = .ok text ∧
      c.refreshFooter.control.tooltip = c.control.tooltip.or (some text) := by
  obtain ⟨text, htext⟩ := string_of_checked hc (.inr hk)
  exact ⟨text, htext, by simp [refreshFooter, hf, hk, htext, Except.toOption]⟩

end Console

/-! ## Runs -/

/-- What is true of the console of `f` from the start: its form keeps its widgets, and so do its dialogs, all forms are
checked, and handlers have heard of no events that do not fit. -/
structure Session.Sound (f : Form) (s : Session H E W) : Prop extends s.Apt where
  keeps : s.console.Always (Stage.Shows f.Keeps fun _ => True)
  recalls : s.console.Recalls

theorem Form.lasts_keeps (f : Form) : Lasts H E f.Keeps fun _ => True :=
  ⟨f.stable_keeps, fun _ _ _ => trivial, fun _ _ _ _ => trivial⟩

theorem Move.sound {f : Form} (hm : Move Form.Used s s') (h : s.Sound f) : s'.Sound f :=
  ⟨hm.apt h.toApt, hm.shows f.lasts_keeps h.keeps, hm.recalls h.recalls⟩

theorem Demand.Edit.sound {f : Form} (he : Demand.Edit s s') (h : s.Sound f) : s'.Sound f :=
  ⟨he.apt h.toApt, he.shows f.lasts_keeps h.keeps, he.recalls h.recalls⟩

theorem Session.sound_of_ofForm {f : Form} (hf : f.Checked) {dialogPalette : String}
    (hs : Console.ofForm f dialogPalette = .ok s.console) : s.Sound f := by
  refine ⟨⟨Console.always_of_ofForm hs ⟨hf, nofun⟩, ?_⟩, Console.always_of_ofForm hs ⟨.refl f, nofun⟩, ?_⟩ <;>
    obtain ⟨base, hc⟩ := Console.eq_of_ofForm hs
  · simp [hc]
  · exact Console.recalls_of_none (by rw [hc])

/-- A description whose markers cannot all be met is refused. In the form of any other one the names belong to
widgets one to one, bindings fit their widgets, and the keys of the footer are defined. At each moment of whatever
a console for it does, this is so, also of the forms of its dialogs, and all of them have kept their widgets.
So a handler is never told that a widget was pressed or edited that cannot be, and the footer text of the
focused widget is always found. -/
theorem performAll_checked {b : Behaviour H E W} (hb : b.ActsBy Form.Used) (description : String) (palette : Palette)
    (strings : StringTable) :
    (∀ text, strings.substituteChars description.toList = .ok text → Unfit strings text →
      ∃ e, Form.parse description palette strings = .error e) ∧
    ∀ f, Form.parse description palette strings = .ok f → f.Checked ∧
      ∀ (dialogPalette : String) (s : Session H E W) (demands : List (Demand H E W)) (p : Session H E W),
        Console.ofForm f dialogPalette = .ok s.console → Path Form.Used (Demand.performAll b demands s) p →
        (∀ st ∈ p.console.stages, f.Keeps st.form ∧ ∀ g ∈ st.forms, g.Checked) ∧
        p.console.Recalls ∧
        (∀ e ∈ p.console.journal, ∀ handler context responder widget event,
          e.deed = .told handler context responder widget event →
          (event = .press → (context.form.tree.widget widget).isClickable) ∧
            ∀ before after, event = .edit before after → (context.form.tree.widget widget).isEditable) ∧
        ∀ id, p.console.focused? = some id →
          (∀ key, (p.console.routedForm.tree.about id).info = some key →
            ∃ text, p.console.routedForm.string key = .ok text ∧
              p.console.refreshFooter.control.info = p.console.control.info.or (some text)) ∧
          ∀ key, (p.console.routedForm.tree.about id).tooltip = some key →
            ∃ text, p.console.routedForm.string key = .ok text ∧
              p.console.refreshFooter.control.tooltip = p.console.control.tooltip.or (some text) := by
  refine ⟨fun text ht hunfit => Form.parse_unfit palette ht hunfit, fun f hf => ?_⟩
  have hchecked := Form.parse_checked hf
  refine ⟨hchecked, fun dialogPalette s demands p hs hp => ?_⟩
  have hmove (s s' : Session H E W) (h : s.Sound f) (hm : Move Form.Used s s') : s'.Sound f := hm.sound h
  have hdemands : (Demand.performAll b demands s).Sound f :=
    Demand.performAll_keeps hb hmove (fun _ _ h he => he.sound h) demands (Session.sound_of_ofForm hchecked hs)
  have hsound : p.Sound f := hp.keeps hmove hdemands
  have hrouted := Console.shows_routedForm hsound.forms.stage
  refine ⟨fun st hst => ⟨(hsound.keeps st hst).form, (hsound.forms st hst).forms⟩, hsound.recalls, ?_,
    fun id hid => ⟨fun key hkey => ?_, fun key hkey => ?_⟩⟩
  · intro e he handler context responder widget event htold
    have hapt := hsound.told e he
    rw [htold] at hapt
    refine ⟨fun hpress => ?_, fun before after hedit => ?_⟩
    · subst hpress
      exact hapt.2
    · subst hedit
      exact hapt.2
  · exact Console.info_refreshFooter hrouted hid hkey
  · exact Console.tooltip_refreshFooter hrouted hid hkey

theorem performAll_checked_pressed :
    let f := (Form.parse "Btn [Go] #go ?tip &press=go" {} ⟨[("tip", "Goes")]⟩).toOption.getD default
    ∃ c : Console AppHandler Unit, Form.parse "Btn [Go] #go ?tip &press=go" {} ⟨[("tip", "Goes")]⟩ = .ok f ∧
      Console.ofForm f "" = .ok c ∧ f.Checked ∧
      let c' := (Demand.performAll App.behaviour [.pushHandler .dialog, .press "go"] ⟨c, default, ()⟩).console
      c'.journal.length = 2 ∧ (∀ st ∈ c'.stages, f.Keeps st.form ∧ ∀ g ∈ st.forms, g.Checked) ∧
        ∃ text, c'.routedForm.string "tip" = .ok text ∧
          c'.refreshFooter.control.info = c'.control.info.or (some text) := by
  intro f
  have hf : Form.parse "Btn [Go] #go ?tip &press=go" {} ⟨[("tip", "Goes")]⟩ = .ok f := by decide +kernel
  obtain ⟨-, hparsed⟩ := performAll_checked (W := Unit) (App.behaviour_actsBy Form.Used) "Btn [Go] #go ?tip &press=go" {}
    ⟨[("tip", "Goes")]⟩
  obtain ⟨hchecked, hrun⟩ := hparsed f hf
  obtain ⟨hstages, -, -, hfooter⟩ := hrun "" ⟨_, default, ()⟩ [.pushHandler .dialog, .press "go"] _ rfl .refl
  exact ⟨_, hf, rfl, hchecked, by decide +kernel, hstages, (hfooter 0 (by decide +kernel)).1 "tip" (by decide +kernel)⟩

end ScreenForm
