import ScreenForm.Proofs.Console.Key
import ScreenForm.Proofs.Form.Cursor
/-!
# Presses by name

A host presses a widget by its name, and a user with Enter where the focus is. On the
focused widget it is the same to the console. A widget that does not have the focus
is pressed as Enter would press it there, and the focus stays (`performAll_press`).
-/

namespace ScreenForm

variable {H E W : Type}

/-! ## Another focus -/

namespace Widget

theorem pressed_setFocusIndex (w : Widget) (i : Nat) : (w.setFocusIndex i).pressed = w.pressed.setFocusIndex i := by
  cases w <;> rfl

theorem uncheck_setFocusIndex (w : Widget) (i : Nat) : (w.setFocusIndex i).uncheck = w.uncheck.setFocusIndex i := by
  cases w <;> rfl

theorem group?_setFocusIndex (w : Widget) (i : Nat) : (w.setFocusIndex i).group? = w.group? := by
  cases w <;> rfl

theorem isClickable_setFocusIndex (w : Widget) (i : Nat) : (w.setFocusIndex i).isClickable = w.isClickable := by
  cases w <;> rfl

theorem focusIndex_pressed (w : Widget) : w.pressed.focusIndex = w.focusIndex := by
  cases w <;> rfl

theorem setFocusIndex_focusIndex (w : Widget) : w.setFocusIndex w.focusIndex = w := by
  cases w <;> rfl

end Widget

namespace Tree

variable {t t' u u' : Tree} {w root : Nat}

/-- The trees differ at most in the children that their containers have the focus on. -/
structure Refocused (t u : Tree) : Prop where
  size : u.size = t.size
  about : ∀ i, u.about i = t.about i
  widget : ∀ i, u.widget i = (t.widget i).setFocusIndex (u.widget i).focusIndex

theorem Refocused.refl (t : Tree) : t.Refocused t :=
  ⟨rfl, fun _ => rfl, fun _ => (Widget.setFocusIndex_focusIndex _).symm⟩

theorem Refocused.fixed (h : t.Refocused u) : u.fixed = t.fixed := by
  refine fixed_eq_of_nodes h.size fun i => ?_
  have hw : (u.widget i).fixed = (t.widget i).fixed := by rw [h.widget i, Widget.fixed_setFocusIndex]
  have ha := h.about i
  simp only [Tree.widget, Tree.about] at hw ha
  simp only [Node.fixed, hw, ha]

theorem Refocused.sized (h : t.Refocused u) (hs : t.Sized) : u.Sized := by
  intro i
  have hw := hs i
  rw [h.widget i]
  cases ht : t.widget i <;> rw [ht] at hw <;> exact hw

theorem Refocused.rivals_iff (h : t.Refocused u) {i : Nat} : u.Rivals w i ↔ t.Rivals w i := by
  unfold Rivals
  rw [h.widget w, h.widget i, Widget.group?_setFocusIndex, Widget.group?_setFocusIndex]

/-- A press has the same effect wherever the focus is, and leaves it there. -/
theorem Refocused.pressed (h : t.Refocused u) (ht : t.Pressed w t') (hu : u.Pressed w u') : t'.Refocused u' := by
  refine ⟨?_, fun i => ?_, fun i => ?_⟩
  · rw [ht.size, hu.size, h.size]
  · rw [ht.about, hu.about, h.about]
  · by_cases hi : i = w
    · subst hi
      rw [ht.self, hu.self, Widget.focusIndex_pressed, ← Widget.pressed_setFocusIndex, ← h.widget]
    · by_cases hrival : t.Rivals w i
      · rw [ht.rivals i hrival, hu.rivals i (h.rivals_iff.2 hrival), Widget.focusIndex_uncheck,
          ← Widget.uncheck_setFocusIndex, ← h.widget]
      · rw [ht.rest i hi hrival, hu.rest i hi fun hr => hrival (h.rivals_iff.1 hr), ← h.widget]

theorem Refocused.activate? (h : t.Refocused u) (ht : t.activate? w = some t') :
    ∃ u', u.activate? w = some u' ∧ t'.Refocused u' := by
  have hclick : (u.widget w).isClickable := by
    rw [h.widget w, Widget.isClickable_setFocusIndex]
    exact isClickable_of_activate? ht
  obtain ⟨u', hu⟩ := Option.ne_none_iff_exists'.1 (activate?_ne_none hclick)
  exact ⟨u', hu, h.pressed (pressed_activate? ht) (pressed_activate? hu)⟩

theorem focused?_of_agrees (h : t.Agrees t') (root : Nat) : t'.focused? root = t.focused? root := by
  unfold focused?
  rw [focusedLeaf_of_agrees h]
  dsimp only
  rw [isFocusable_eq_of_fixed h.fixed]

/-- Enter presses the focused widget if that is possible. -/
theorem keypress_enter (hlt : t.Ordered) (hs : t.Sized) (hroot : root < t.size) (hf : t.focused? root = some w)
    {key : Key} (hkey : key.code = .enter) (hact : t.activate? w = some t') :
    t.keypress root key = (t', .pressed w) := by
  obtain ⟨rfl, -⟩ := focused?_eq_some.1 hf
  have hclick := isClickable_of_activate? hact
  have hpressed : ¬ t.Declines (t.focusedLeaf root) key := fun hd => hd.2 hclick (.inl hkey)
  have hanswer := answer_keypress hlt hs hroot key
  generalize t.keypress root key = below at hanswer ⊢
  obtain ⟨u, outcome⟩ := below
  cases hanswer with
  | typed leaf press =>
    rw [leaf] at hclick
    cases hclick
  | pressed activate =>
    rw [hact] at activate
    cases activate
    rfl
  | moved declines => exact absurd declines hpressed
  | unused declines => exact absurd declines hpressed

end Tree

/-! ## Two ways to press -/

namespace Console

open SessionM

variable {b : Behaviour H E W} {p : Session H E W} {w : Nat} {name : String} {key : Key} {tree u : Tree}

/-- What is left of a press on a widget once the tree is what the press has made of it. -/
def strike (b : Behaviour H E W) (w : Nat) (tree : Tree) : SessionM H E W Unit := do
  modifyConsole (·.setRoutedTree tree)
  let _ ← dispatch b w .press
  applyRequests b

theorem setRoutedTree_setRoutedTree (c : Console H E) (t u : Tree) :
    (c.setRoutedTree t).setRoutedTree u = c.setRoutedTree u := by
  cases hd : c.dialog <;> simp only [setRoutedTree, setRoutedForm, routedForm, hd]

theorem routedForm_setRoutedTree (c : Console H E) (t : Tree) :
    (c.setRoutedTree t).routedForm = { c.routedForm with tree := t } :=
  routedForm_setRoutedForm ..

/-- A press by name, as far as its response is of no account. -/
theorem run_press (hw : p.console.routedForm.widget name = .ok w)
    (hact : p.console.routedForm.tree.activate? w = some tree) :
    (press b name >>= fun _ => pure ()).run.run p = (strike b w tree).run.run p := by
  rw [run_bind, press, run_console, hw]
  dsimp only
  rw [hact]
  dsimp only
  rw [strike, run_modifyConsole, run_modifyConsole, run_bind, run_bind]
  rcases (dispatch b w .press).run.run { p with console := p.console.setRoutedTree tree } with ⟨e | response, q⟩
  · rfl
  · dsimp only
    rw [run_bind]
    rcases (applyRequests b).run.run q with ⟨e | _, r⟩ <;> rfl

/-- A key on a widget that has no responder for keys, and that the key presses. -/
theorem run_handleInput_pressed (hf : p.console.focused? = some w)
    (hunbound : (p.console.routedForm.tree.about w).events.get? .key = none)
    (hkit : p.console.keypress key = (u, .pressed w)) :
    (handleInput b (.key key)).run.run p = (strike b w u).run.run p := by
  have hdispatch : (dispatch b w (.key key)).run.run p = (.ok .notHandled, p) := run_dispatch_of_unbound hunbound
  have hpass : (passKey b key).run.run p =
      (do modifyConsole (·.setRoutedTree u); let _ ← dispatch b w .press; pure () : SessionM H E W Unit).run.run p := by
    rw [passKey, run_console]
    rw [keypress] at hkit
    simp only [hkit]
  rw [handleInput, run_bind, handleKey, run_console, hf]
  dsimp only
  rw [run_bind, hdispatch]
  dsimp only
  rw [hpass, strike, run_modifyConsole, run_modifyConsole, run_bind, run_bind]
  rcases (dispatch b w .press).run.run { p with console := p.console.setRoutedTree u } with ⟨e | response, q⟩ <;> rfl

theorem run_strike_setRoutedTree (t : Tree) :
    (strike b w tree).run.run { p with console := p.console.setRoutedTree t } = (strike b w tree).run.run p := by
  rw [strike, run_modifyConsole, run_modifyConsole]
  dsimp only
  rw [setRoutedTree_setRoutedTree]

/-- With the focus on the widget, wherever else it is, Enter does what a press makes of that. -/
theorem run_handleInput_enter (hform : p.console.routedForm.InUse)
    (hact : p.console.routedForm.tree.activate? w = some tree)
    (hunbound : (p.console.routedForm.tree.about w).events.get? .key = none) (hkey : key.code = .enter)
    (hu : p.console.routedForm.tree.Refocused u) (hf : u.focused? p.console.routedForm.root = some w) :
    ∃ u', u.activate? w = some u' ∧ tree.Refocused u' ∧
      (handleInput b (.key key)).run.run { p with console := p.console.setRoutedTree u } =
        (strike b w u').run.run p := by
  obtain ⟨u', hact', hu'⟩ := hu.activate? hact
  refine ⟨u', hact', hu', ?_⟩
  have hroot : p.console.routedForm.root < u.size :=
    hu.size ▸ hform.attentive.dressed.lt hform.attentive.body_lt
  have hkit : u.keypress p.console.routedForm.root key = (u', .pressed w) :=
    Tree.keypress_enter (hform.attentive.tree.ordered.of_fixed hu.fixed) (hu.sized hform.sized) hroot hf hkey hact'
  rw [← run_strike_setRoutedTree u]
  refine run_handleInput_pressed ?_ ?_ ?_
  · rw [focused?, routedForm_setRoutedTree]
    exact hf
  · rw [routedForm_setRoutedTree]
    exact (hu.about w).symm ▸ hunbound
  · rw [keypress, routedForm_setRoutedTree]
    exact hkit

end Console

/-- At any time of a run of a console for a form that is made of a description, with a dialog or without one, pressing
a widget by its name changes its check, and unchecks the others of its group, and moves no focus. Then the widget's
responder is told of the press, and the requests are met. If the widget has no responder for keys, Enter comes to the
same wherever it has the focus: the console, what it has asked of which handler, and the error if there is one, are the
same if the focus is on the widget already, and if not, they would be but for the focus. -/
theorem performAll_press {b : Behaviour H E W} (hb : b.ActsBy Form.Used) (description : String) (palette : Palette)
    (strings : StringTable) (f : Form) (hf : Form.parse description palette strings = .ok f) (dialogPalette : String)
    (s : Session H E W) (hs : Console.ofForm f dialogPalette = .ok s.console) (demands : List (Demand H E W))
    (p : Session H E W) (hp : Path Form.Used (Demand.performAll b demands s) p) (name : String) (w : Nat)
    (hname : p.console.routedForm.widget name = .ok w) (hclick : (p.console.routedForm.tree.widget w).isClickable) :
    ∃ tree, p.console.routedForm.tree.Pressed w tree ∧
      (∀ i, (tree.widget i).focusIndex = (p.console.routedForm.tree.widget i).focusIndex) ∧
      tree.focused? p.console.routedForm.root = p.console.focused? ∧
      ((Demand.press name).perform b).run.run p = (Console.strike b w tree).run.run p ∧
      ∀ key : Key, key.code = .enter → (p.console.routedForm.tree.about w).events.get? .key = none →
        (p.console.focused? = some w →
          ((Demand.press name).perform b).run.run p = (Console.handleInput b (.key key)).run.run p) ∧
        ∀ u, p.console.routedForm.tree.Refocused u → u.focused? p.console.routedForm.root = some w →
          ∃ u', tree.Refocused u' ∧
            (Console.handleInput b (.key key)).run.run { p with console := p.console.setRoutedTree u } =
              (Console.strike b w u').run.run p := by
  have hform : p.console.routedForm.InUse := Console.shows_routedForm
    (hp.keeps (fun _ _ h hm => hm.shows Form.lasts_inUse h)
      (performAll_shows hb Form.lasts_inUse (.parsed hf) hs demands)).stage
  obtain ⟨tree, hact⟩ := Option.ne_none_iff_exists'.1 (Tree.activate?_ne_none hclick)
  have hagrees := Tree.agrees_activate? hact
  have hpress : ((Demand.press name).perform b).run.run p = (Console.strike b w tree).run.run p :=
    Console.run_press hname hact
  refine ⟨tree, Tree.pressed_activate? hact, hagrees.focusIndex, ?_, hpress, fun key hkey hunbound => ⟨fun hfocus => ?_,
    fun u hu hfocus => ?_⟩⟩
  · exact Tree.focused?_of_agrees hagrees p.console.routedForm.root
  · obtain ⟨u', hact', -, hrun⟩ := Console.run_handleInput_enter (b := b) hform hact hunbound hkey (.refl _) hfocus
    rw [hact] at hact'
    cases hact'
    have hsame : p.console.setRoutedTree p.console.routedForm.tree = p.console := p.console.setRoutedForm_routedForm
    rw [hpress, ← hrun, hsame]
  · obtain ⟨u', -, hu', hrun⟩ := Console.run_handleInput_enter (b := b) hform hact hunbound hkey hu hfocus
    exact ⟨u', hu', hrun⟩

/-- The first of two radio buttons has the focus. The handler fails on every press, after the check has changed. -/
theorem performAll_press_failing :
    let description := "Rdo [One] #one &press=pick group='g'\nRdo [Two] #two &press=pick group='g'"
    let f := ((Form.parse description {} {}).toOption).getD default
    let c : Console AppHandler Unit :=
      { form := f, handlers := [], dialog := none, control := {}, dialogBase := f.palette.addLayer {}, running := false,
        size := (0, 0), lastFocus := none, generation := 0 }
    let p := Demand.performAll App.behaviour [.pushHandler .dialog] ⟨c, default, ()⟩
    let press (name : String) := ((Demand.press name : Demand AppHandler Unit Unit).perform App.behaviour).run.run p
    (press "one").1 = .error (.runtimeError .noActiveDialog) ∧
      (press "one").2.console.form.checked "one" = .ok true ∧
      press "one" = (Console.handleInput App.behaviour (.key { code := .enter })).run.run p ∧
      (press "two").2.console.form.checked "two" = .ok true ∧ (press "two").2.console.focused? = p.console.focused? ∧
      ∃ tree, p.console.routedForm.tree.Pressed 1 tree ∧ press "two" = (Console.strike App.behaviour 1 tree).run.run p := by
  intro description f c p press
  have hparse : Form.parse description {} {} = .ok f := by decide +kernel
  obtain ⟨hone, htwo, hclicks, hunbound, hfocus⟩ : p.console.routedForm.widget "one" = .ok 0 ∧
      p.console.routedForm.widget "two" = .ok 1 ∧
      ((p.console.routedForm.tree.widget 0).isClickable && (p.console.routedForm.tree.widget 1).isClickable) = true ∧
      (p.console.routedForm.tree.about 0).events.get? .key = none ∧ p.console.focused? = some 0 := by decide +kernel
  obtain ⟨hclick, hclick'⟩ := Bool.and_eq_true_iff.1 hclicks
  have hpress := performAll_press (App.behaviour_actsBy Form.Used) description {} {} f hparse "" ⟨c, default, ()⟩ rfl
    [.pushHandler .dialog] p .refl
  obtain ⟨_, -, -, -, -, henter⟩ := hpress "one" 0 hone hclick
  obtain ⟨tree, hpressed, -, -, hstrike, -⟩ := hpress "two" 1 htwo hclick'
  obtain ⟨herror, hchecked, hchecked', hstays⟩ : (press "one").1 = .error (.runtimeError .noActiveDialog) ∧
      (press "one").2.console.form.checked "one" = .ok true ∧ (press "two").2.console.form.checked "two" = .ok true ∧
      (press "two").2.console.focused? = p.console.focused? := by decide +kernel
  exact ⟨herror, hchecked, (henter { code := .enter } rfl hunbound).1 hfocus, hchecked', hstays, tree, hpressed, hstrike⟩

end ScreenForm
