import ScreenForm.Proofs.Form.Made
import ScreenForm.Proofs.Widget.Group
import ScreenForm.Proofs.Widget.Path
/-!
# What a key changes

A key is for the focused leaf, which types it or is pressed by it, or else for the innermost container on the
way of the focus that it can move (`Tree.Answer`). What came of it tells which of these it was, and nothing else
has changed (`Form.InUse.keypress_changes`).
-/

namespace ScreenForm

/-! ## Arrows -/

/-- The two ways to arrange children. -/
inductive Axis where
  | vertical
  | horizontal
  deriving Repr, DecidableEq

/-- The axis and the direction of an arrow key. -/
def KeyCode.arrow? : KeyCode → Option (Axis × Direction)
  | up => some (.vertical, .backward)
  | down => some (.vertical, .forward)
  | left => some (.horizontal, .backward)
  | right => some (.horizontal, .forward)
  | _ => none

namespace Arrangement

def axis : Arrangement → Axis
  | pile | list .. => .vertical
  | columns .. | grid .. => .horizontal

/-- A container takes the arrows along its axis. -/
theorem direction?_eq_some {a : Arrangement} {code : KeyCode} {d : Direction} :
    a.direction? code = some d ↔ code.arrow? = some (a.axis, d) := by
  cases a <;> cases code <;> simp [direction?, KeyCode.arrow?, axis]

end Arrangement

theorem Edit.Sized.clampCursor_eq {e : Edit} (h : e.Sized) : e.clampCursor = e := by
  rw [clampCursor, Nat.min_eq_left h]

theorem Widget.exists_of_isContainer {w : Widget} (h : w.isContainer) :
    ∃ arrangement children focus, w = container arrangement children focus := by
  cases w with
  | container arrangement children focus => exact ⟨arrangement, children, focus, rfl⟩
  | _ => cases h

theorem Widget.exists_of_isEditable {w : Widget} (h : w.isEditable) : ∃ e, w = edit e := by
  cases w with
  | edit e => exact ⟨e, rfl⟩
  | _ => cases h

/-- What a press makes of a widget. -/
def Widget.pressed : Widget → Widget
  | checkBox label checked => checkBox label (!checked)
  | radioButton label _ group => radioButton label true group
  | w => w

namespace Tree

variable {t t' : Tree} {key : Key} {outcome : KeyOutcome} {id n w j : Nat}

/-! ## Presses -/

/-- The radio button `i` is another one of the group of `w`. -/
def Rivals (t : Tree) (w i : Nat) : Prop :=
  i ≠ w ∧ ∃ group, (t.widget w).group? = some group ∧ (t.widget i).group? = some group

/-- What a press on `w` makes of a tree. -/
structure Pressed (t : Tree) (w : Nat) (t' : Tree) : Prop where
  size : t'.size = t.size
  about : ∀ i, t'.about i = t.about i
  self : t'.widget w = (t.widget w).pressed
  rivals : ∀ i, t.Rivals w i → t'.widget i = (t.widget i).uncheck
  rest : ∀ i, i ≠ w → ¬ t.Rivals w i → t'.widget i = t.widget i

/-- A press on a widget of no group changes this one only. -/
theorem pressed_modify {f : Widget → Widget} (hw : w < t.size) (hf : f (t.widget w) = (t.widget w).pressed)
    (hg : (t.widget w).group? = none) : t.Pressed w (t.modify w f) where
  size := size_modify ..
  about := about_modify t w f
  self := by rw [widget_modify_self hw, hf]
  rivals i := by
    rintro ⟨-, group, hgroup, -⟩
    rw [hg] at hgroup
    cases hgroup
  rest i hi _ := widget_modify_of_ne hi f

theorem pressed_radioButton {label group : String} {checked : Bool}
    (hw : t.widget w = .radioButton label checked (some group)) :
    t.Pressed w ((t.modify w fun _ => .radioButton label true (some group)).clearGroup w group) := by
  have hlt : w < t.size := lt_size_of_isFocusable (by rw [hw]; rfl)
  have hgroup : (t.widget w).group? = some group := by rw [hw, Widget.group?]
  generalize ht : (t.modify w fun _ => Widget.radioButton label true (some group)) = marked
  have hself : marked.widget w = .radioButton label true (some group) := by rw [← ht, widget_modify_self hlt]
  have hother (i : Nat) (hi : i ≠ w) : marked.widget i = t.widget i := by rw [← ht, widget_modify_of_ne hi]
  refine ⟨?_, fun i => ?_, ?_, fun i hi => ?_, fun i hi hnot => ?_⟩
  · rw [size_clearGroup, ← ht, size_modify]
  · rw [about_clearGroup, ← ht, about_modify]
  · rw [widget, node_clearGroup_eq, if_neg fun h => h.1 rfl, ← widget, hself, hw, Widget.pressed]
  · obtain ⟨hne, group', hw', hi'⟩ := hi
    obtain rfl := Option.some.inj (hgroup.symm.trans hw')
    rw [widget, node_clearGroup_eq, if_pos ⟨hne, by rw [hother i hne, hi']⟩, hother i hne]
  · have hi' : (marked.widget i).group? ≠ some group := fun h => hnot ⟨hi, group, hgroup, hother i hi ▸ h⟩
    rw [widget, node_clearGroup_eq, if_neg fun h => hi' h.2, ← widget, hother i hi]

theorem pressed_activate? (h : t.activate? w = some t') : t.Pressed w t' := by
  have hlt : w < t.size := lt_size_of_isFocusable (by rw [Widget.isFocusable, isClickable_of_activate? h, Bool.true_or])
  unfold activate? at h
  split at h
  · next label hw =>
    cases h
    have hsame : t.Pressed w (t.modify w id) := pressed_modify hlt (by rw [hw]; rfl) (by rw [hw]; rfl)
    rwa [modify_eq_self rfl] at hsame
  · next label checked hw =>
    cases h
    exact pressed_modify hlt (by rw [hw]; rfl) (by rw [hw]; rfl)
  · next label checked group hw =>
    cases group with
    | none =>
      cases h
      exact pressed_modify hlt (by rw [hw]; rfl) (by rw [hw]; rfl)
    | some group =>
      cases h
      exact pressed_radioButton hw
  · cases h

theorem activate?_ne_none (h : (t.widget w).isClickable) : t.activate? w ≠ none := by
  unfold activate?
  cases hw : t.widget w with
  | button | checkBox => exact Option.some_ne_none _
  | radioButton label checked group =>
    cases group with
    | none | some => exact Option.some_ne_none _
  | _ =>
    rw [hw] at h
    cases h

/-! ## Moves of a container -/

/-- The key is an arrow along the axis of the container `n`, in the direction. -/
def Points (t : Tree) (key : Key) (n : Nat) (d : Direction) : Prop :=
  ∃ a children focus, t.widget n = .container a children focus ∧ key.code.arrow? = some (a.axis, d)

/-- The key is an arrow of the container `n` to a child that can take the focus. -/
def Heeds (t : Tree) (key : Key) (n : Nat) : Prop :=
  ∃ d j, t.Points key n d ∧ t.Takes n j ∧ d.Beyond (t.widget n).focusIndex j

theorem navigate_of_heeds (h : t.Heeds key n) :
    ∃ d j, t.Points key n d ∧ t.Next d n j ∧ t.navigate n key = (t.setFocus n j, .consumed) := by
  obtain ⟨d, k, ⟨a, children, focus, hw, hd⟩, htakes, hbeyond⟩ := h
  obtain ⟨j, hj⟩ := exists_next_iff.2 ⟨k, htakes, hbeyond⟩
  refine ⟨d, j, ⟨a, children, focus, hw, hd⟩, hj, ?_⟩
  rw [navigate_container hw, Arrangement.direction?_eq_some.2 hd, Option.bind_some, moveFocus?_eq_some.2 ⟨j, hj, rfl⟩]

theorem navigate_of_not_heeds (h : ¬ t.Heeds key n) : t.navigate n key = (t, .unhandled) := by
  cases hcon : (t.widget n).isContainer with
  | false => exact navigate_of_not_container hcon key
  | true =>
    obtain ⟨a, children, focus, hw⟩ := Widget.exists_of_isContainer hcon
    rw [navigate_container hw]
    cases hd : a.direction? key.code with
    | none => rfl
    | some d =>
      have hnone : t.moveFocus? n d = none := moveFocus?_eq_none.2 fun j hj =>
        h ⟨d, j, ⟨a, children, focus, hw, Arrangement.direction?_eq_some.1 hd⟩, hj.takes, hj.beyond⟩
      rw [Option.bind_some, hnone]

/-! ## The answer to a key -/

/-- The leaf has no use for the key. -/
def Declines (t : Tree) (n : Nat) (key : Key) : Prop :=
  (∀ e, t.widget n = .edit e → e.press? key = none) ∧
    ((t.widget n).isClickable → ¬ (key.code = .enter ∨ key.code = .char ' '))

/-- What the widgets from `id` down make of a key, and what comes of it. -/
inductive Answer (t : Tree) (id : Nat) (key : Key) : Tree → KeyOutcome → Prop
  | typed {e e' : Edit} (leaf : t.widget (t.focusedLeaf id) = .edit e) (press : e.press? key = some e') :
      Answer t id key (t.modify (t.focusedLeaf id) fun _ => .edit e') .consumed
  | pressed {t' : Tree} (activate : t.activate? (t.focusedLeaf id) = some t') :
      Answer t id key t' (.pressed (t.focusedLeaf id))
  | moved {d : Direction} {n j : Nat} (declines : t.Declines (t.focusedLeaf id) key) (path : t.OnPath id n)
      (points : t.Points key n d) (next : t.Next d n j)
      (innermost : ∀ m, t.OnPath n m → m ≠ n → ¬ t.Heeds key m) : Answer t id key (t.setFocus n j) .consumed
  | unused (declines : t.Declines (t.focusedLeaf id) key) (still : ∀ n, t.OnPath id n → ¬ t.Heeds key n) :
      Answer t id key t .unhandled

theorem not_heeds_of_not_container (h : (t.widget n).isContainer = false) : ¬ t.Heeds key n := by
  rintro ⟨d, j, ⟨a, children, focus, hw, -⟩, -⟩
  rw [hw] at h
  cases h

/-- What a key makes of a field with its cursor in its text. -/
theorem pressLeaf_edit {e : Edit} (hw : t.widget n = .edit e) (he : e.Sized) (key : Key) :
    t.pressLeaf n key = match e.press? key with
      | some e' => (t.modify n fun _ => .edit e', .consumed)
      | none => (t, .unhandled) := by
  rw [pressLeaf, hw]
  dsimp only
  rw [he.clampCursor_eq]
  cases e.press? key with
  | some e' => rfl
  | none => exact congrArg (·, KeyOutcome.unhandled) (modify_eq_self (f := fun _ => .edit e) hw.symm)

theorem answer_pressLeaf (hs : t.Sized) (hc : t.focusedChild? id = none) (hcon : (t.widget id).isContainer = false) :
    t.Answer id key (t.pressLeaf id key).1 (t.pressLeaf id key).2 := by
  have hleaf : t.focusedLeaf id = id := focusedLeaf_self hc
  have hstill : ∀ n, t.OnPath id n → ¬ t.Heeds key n := by
    intro n hn
    rw [onPath_iff_of_none hc] at hn
    exact hn ▸ not_heeds_of_not_container hcon
  have unused (h : t.Declines id key) : t.Answer id key t .unhandled := .unused (hleaf.symm ▸ h) hstill
  cases hedit : (t.widget id).isEditable with
  | true =>
    obtain ⟨e, hw⟩ := Widget.exists_of_isEditable hedit
    have hsized := hs id
    rw [hw] at hsized
    rw [pressLeaf_edit hw hsized]
    cases hp : e.press? key with
    | some e' =>
      have htyped : t.Answer id key (t.modify (t.focusedLeaf id) fun _ => .edit e') .consumed :=
        .typed (hleaf.symm ▸ hw) hp
      rwa [hleaf] at htyped
    | none =>
      refine unused ⟨fun e' he' => ?_, fun hclick => ?_⟩
      · rw [hw] at he'
        cases he'
        exact hp
      · rw [hw] at hclick
        cases hclick
  | false =>
    have hnone : ∀ e, t.widget id = .edit e → e.press? key = none := by
      intro e he
      rw [he] at hedit
      cases hedit
    rw [pressLeaf_of_not_editable hedit]
    by_cases hkey : key.code = .enter ∨ key.code = .char ' '
    · rw [if_pos (by simpa using hkey)]
      cases hact : t.activate? id with
      | some t' =>
        have hpressed : t.Answer id key t' (.pressed (t.focusedLeaf id)) := .pressed (hleaf.symm ▸ hact)
        rwa [hleaf] at hpressed
      | none => exact unused ⟨hnone, fun hclick => absurd hact (activate?_ne_none hclick)⟩
    · rw [if_neg (by simpa using hkey)]
      exact unused ⟨hnone, fun _ => hkey⟩

/-- A container moves when none of the containers inside does. -/
theorem answer_navigate (hdeclines : t.Declines (t.focusedLeaf id) key)
    (hinside : ∀ m, t.OnPath id m → m ≠ id → ¬ t.Heeds key m) :
    t.Answer id key (t.navigate id key).1 (t.navigate id key).2 := by
  by_cases h : t.Heeds key id
  · obtain ⟨d, j, hpoints, hnext, hnavigate⟩ := navigate_of_heeds h
    rw [hnavigate]
    exact .moved hdeclines (.refl t id) hpoints hnext hinside
  · rw [navigate_of_not_heeds h]
    refine .unused hdeclines fun n hn => ?_
    by_cases hid : n = id
    · exact hid ▸ h
    · exact hinside n hn hid

/-- By induction from the leaf upwards: what a child leaves unhandled it leaves as it was. -/
theorem answer_keypress (hlt : t.Ordered) (hs : t.Sized) (hid : id < t.size) (key : Key) :
    t.Answer id key (t.keypress id key).1 (t.keypress id key).2 := by
  induction id using Nat.strongRecOn with
  | ind id ih =>
    cases hc : t.focusedChild? id with
    | none =>
      have hinside : ∀ m, t.OnPath id m → m ≠ id → ¬ t.Heeds key m :=
        fun m hm hne => absurd ((onPath_iff_of_none hc).1 hm) hne
      rw [keypress_self hc hid]
      split
      · next hcon =>
        refine answer_navigate ?_ hinside
        rw [focusedLeaf_self hc]
        refine ⟨fun e he => ?_, fun hclick => ?_⟩
        · rw [he] at hcon
          cases hcon
        · have hfocus := Widget.isFocusable_of_isContainer hcon
          rw [Widget.isFocusable, hclick] at hfocus
          cases hfocus
      · next hcon => exact answer_pressLeaf hs hc (by simpa using hcon)
    | some c =>
      have hcid := hlt id c (mem_of_focusedChild? hc)
      have hchild := ih c hcid (Nat.lt_trans hcid hid)
      have hleaf : t.focusedLeaf id = t.focusedLeaf c := focusedLeaf_child hlt hc
      rw [keypress_child hlt hc]
      generalize t.keypress c key = below at hchild ⊢
      obtain ⟨t', outcome⟩ := below
      cases hchild with
      | typed leaf press =>
        rw [if_neg (by simp), ← hleaf]
        exact .typed (hleaf ▸ leaf) press
      | pressed activate =>
        rw [if_neg (by simp), ← hleaf]
        exact .pressed (hleaf ▸ activate)
      | moved declines path points next innermost =>
        rw [if_neg (by simp)]
        exact .moved (hleaf ▸ declines) (path.head hc) points next innermost
      | unused declines still =>
        rw [if_pos rfl]
        refine answer_navigate (hleaf ▸ declines) fun m hm hne => ?_
        exact still m (((onPath_iff_of_child hc).1 hm).resolve_left hne)

/-- A key that nothing uses changes nothing. -/
theorem keypress_of_unhandled (hlt : t.Ordered) (hs : t.Sized) (hid : id < t.size)
    (h : (t.keypress id key).2 = .unhandled) : t.keypress id key = (t, .unhandled) := by
  have hanswer := answer_keypress hlt hs hid key
  generalize t.keypress id key = below at h hanswer ⊢
  obtain ⟨t', outcome⟩ := below
  cases hanswer with
  | unused => rfl
  | _ => cases h

end Tree

theorem Form.InUse.answer_root {f : Form} (h : f.InUse) (key : Key) :
    f.tree.Answer f.root key (f.tree.keypress f.root key).1 (f.tree.keypress f.root key).2 :=
  Tree.answer_keypress h.attentive.tree.ordered h.sized (h.attentive.dressed.lt h.attentive.body_lt) key

/-- What came of a key says what it changed. If nothing used it, the tree is as it was, and no container on the way
of the focus could have moved. If a widget was pressed, it is the focused leaf, and only checks have changed: its
own and those of the radio buttons in its group. Else one widget has changed: the focused field, or a container on
the way of the focus that has moved it to the next child, where no container further inside could have moved. -/
theorem Form.InUse.keypress_changes {f : Form} (h : f.InUse) {id : Nat} (hid : id < f.tree.size) {key : Key} {t : Tree}
    {outcome : KeyOutcome} (hkey : f.tree.keypress id key = (t, outcome)) :
    (outcome = .unhandled → t = f.tree ∧ ∀ n, f.tree.OnPath id n → ¬ f.tree.Heeds key n) ∧
    (∀ w, outcome = .pressed w →
      w = f.tree.focusedLeaf id ∧ (f.tree.widget w).isClickable ∧ f.tree.Pressed w t) ∧
    (outcome = .consumed → ∃ n, f.tree.SameBut n t ∧
      ((n = f.tree.focusedLeaf id ∧ ∃ e e', f.tree.widget n = .edit e ∧ e.press? key = some e' ∧
          e'.caption = e.caption ∧ e'.multiline = e.multiline ∧ t.widget n = .edit e') ∨
        (f.tree.Declines (f.tree.focusedLeaf id) key ∧ f.tree.OnPath id n ∧
          (∃ d j, f.tree.Points key n d ∧ f.tree.Next d n j ∧ t.widget n = (f.tree.widget n).setFocusIndex j) ∧
          ∀ m, f.tree.OnPath n m → m ≠ n → ¬ f.tree.Heeds key m))) := by
  have hanswer : f.tree.Answer id key t outcome := by
    have hanswer := Tree.answer_keypress h.attentive.tree.ordered h.sized hid key
    rwa [hkey] at hanswer
  cases hanswer with
  | @typed e e' leaf press =>
    refine ⟨by rintro ⟨⟩, by rintro _ ⟨⟩, fun _ => ⟨_, Tree.sameBut_modify .., .inl ⟨rfl, e, e', leaf, press, ?_⟩⟩⟩
    have hlt : f.tree.focusedLeaf id < f.tree.size := Tree.lt_size_of_isFocusable (by rw [leaf]; rfl)
    have hfixed := Tree.Edit.fixed_press? press
    simp only [Widget.fixed, Widget.edit.injEq, Edit.mk.injEq] at hfixed
    exact ⟨hfixed.1, hfixed.2.2.2, Tree.widget_modify_self hlt _⟩
  | pressed activate =>
    refine ⟨by rintro ⟨⟩, fun w hw => ?_, by rintro ⟨⟩⟩
    cases hw
    exact ⟨rfl, Tree.isClickable_of_activate? activate, Tree.pressed_activate? activate⟩
  | @moved d n j declines path points next innermost =>
    refine ⟨by rintro ⟨⟩, by rintro _ ⟨⟩, fun _ =>
      ⟨n, Tree.sameBut_modify .., .inr ⟨declines, path, ⟨d, j, points, next, ?_⟩, innermost⟩⟩⟩
    obtain ⟨c, hc, -⟩ := next.takes
    exact Tree.widget_modify_self (Tree.lt_size_of_mem_children (List.mem_of_getElem? hc)) _
  | unused declines still => exact ⟨fun _ => ⟨rfl, still⟩, by rintro _ ⟨⟩, by rintro ⟨⟩⟩

theorem Form.InUse.keypress_changes_skipping : ∃ (f : Form) (t : Tree), f.InUse ∧ f.tree.focused? f.root = some 1 ∧
    f.tree.keypress f.root { code := .down } = (t, .consumed) ∧ (t.widget 4).focusIndex = 2 ∧
    ∃ n d j, f.tree.SameBut n t ∧ f.tree.OnPath f.root n ∧ f.tree.Next d n j ∧
      t.widget n = (f.tree.widget n).setFocusIndex j := by
  -- In the right one of two columns, a text between two buttons is skipped.
  let description := "Col\nEdt A [xy]\nPle\nBtn [One]\nTxt or\nRdo [Two] group='g'\nEnd\nEnd\nBtn [Last]"
  let g := ((Form.parse description {} {}).toOption).getD default
  have hparse : Form.parse description {} {} = .ok g := by decide +kernel
  let f := g.use (.key { code := .right })
  have h : f.InUse := .used (.parsed hparse) _
  obtain ⟨hsize, hfocus, hbutton, houtcome, hindex⟩ : f.root < f.tree.size ∧ f.tree.focused? f.root = some 1 ∧
      (f.tree.widget 1).isEditable = false ∧ (f.tree.keypress f.root { code := .down }).2 = .consumed ∧
      ((f.tree.keypress f.root { code := .down }).1.widget 4).focusIndex = 2 := by decide +kernel
  have hkey : f.tree.keypress f.root { code := .down } = ((f.tree.keypress f.root { code := .down }).1, .consumed) :=
    Prod.ext rfl houtcome
  obtain ⟨-, -, hconsumed⟩ := h.keypress_changes hsize hkey
  obtain ⟨n, hsame, ⟨hn, e, -, hw, -⟩ | ⟨-, hpath, ⟨d, j, -, hnext, hmoved⟩, -⟩⟩ := hconsumed rfl
  · rw [hn, (Tree.focused?_eq_some.1 hfocus).1] at hw
    rw [hw] at hbutton
    cases hbutton
  · exact ⟨f, _, h, hfocus, hkey, hindex, n, d, j, hsame, hpath, hnext, hmoved⟩

end ScreenForm
