import ScreenForm.Proofs.Form.Step
import ScreenForm.Proofs.Widget.Cursor
/-!
# Fields in use

Whatever is done with a form, each of its fields is what the keys that came to it have made of its halves, since
its text was last replaced (`Form.InUse.widget_uses`).
-/

namespace ScreenForm

namespace Tree

variable {t t' : Tree} {key : Key} {outcome : KeyOutcome} {id n : Nat} {e e' : Edit} {d : Direction}

/-! ## Keys and presses -/

theorem Answer.typed_of_press? (h : t.Answer id key t' outcome) (hw : t.widget (t.focusedLeaf id) = .edit e)
    (hp : e.press? key = some e') : t' = (t.modify (t.focusedLeaf id) fun _ => .edit e') ∧ outcome = .consumed := by
  have not_declines (hd : t.Declines (t.focusedLeaf id) key) : False := by
    rw [hd.1 e hw] at hp
    cases hp
  cases h with
  | typed leaf press =>
    rw [hw] at leaf
    cases leaf
    rw [hp] at press
    cases press
    exact ⟨rfl, rfl⟩
  | pressed activate =>
    have hclick := isClickable_of_activate? activate
    rw [hw] at hclick
    cases hclick
  | moved declines => exact (not_declines declines).elim
  | unused declines => exact (not_declines declines).elim

/-- No press changes a field. -/
theorem Pressed.widget_edit {w : Nat} (h : t.Pressed w t') (hclick : (t.widget w).isClickable)
    (hw : t.widget n = .edit e) : t'.widget n = .edit e := by
  have hne : n ≠ w := by
    rintro rfl
    rw [hw] at hclick
    cases hclick
  rw [h.rest n hne, hw]
  rintro ⟨-, group, -, hgroup⟩
  rw [hw] at hgroup
  cases hgroup

theorem widget_setFocus_edit (hw : t.widget n = .edit e) (id index : Nat) :
    (t.setFocus id index).widget n = .edit e := by
  rw [setFocus, widget, node_modify]
  split
  · next h =>
    obtain ⟨rfl, -⟩ := h
    rw [hw]
    rfl
  · exact hw

/-- A key that does not come to a field, or is no use to it, leaves it as it is. -/
theorem Answer.widget_edit (h : t.Answer id key t' outcome) (hw : t.widget n = .edit e)
    (hn : t.focusedLeaf id = n → e.press? key = none) : t'.widget n = .edit e := by
  cases h with
  | typed leaf press =>
    by_cases hleaf : t.focusedLeaf id = n
    · subst hleaf
      rw [hw] at leaf
      cases leaf
      rw [hn rfl] at press
      cases press
    · rw [widget_modify_of_ne (Ne.symm hleaf), hw]
  | pressed activate => exact (pressed_activate? activate).widget_edit (isClickable_of_activate? activate) hw
  | moved => exact widget_setFocus_edit hw ..
  | unused => exact hw

/-! ## Keys that a field uses -/

theorem focusedWithin_of_agrees (h : t.Agrees t') (l id : Nat) : t'.focusedWithin l id = t.focusedWithin l id := by
  induction l generalizing id with
  | zero => rfl
  | succ l ih =>
    rw [focusedWithin, focusedWithin, focusedChild?_of_agrees h]
    cases t.focusedChild? id with
    | none => rfl
    | some c => exact ih c

theorem focusedLeaf_of_agrees (h : t.Agrees t') (id : Nat) : t'.focusedLeaf id = t.focusedLeaf id := by
  rw [focusedLeaf, focusedLeaf, size_eq_of_fixed h.fixed, focusedWithin_of_agrees h]

/-- While the focused field has a use for all keys, they change nothing else. -/
theorem offer_edit (hlt : t.Ordered) (hs : t.Sized) (hid : id < t.size) (hw : t.widget (t.focusedLeaf id) = .edit e)
    {keys : List Key} {halves : List Char × List Char}
    (hkeys : Key.pressAll? e.multiline e.halves keys = some halves) :
    t.offer id keys = t.modify (t.focusedLeaf id) fun _ => .edit (e.around halves) := by
  induction keys generalizing t e with
  | nil =>
    cases hkeys
    have he := hs (t.focusedLeaf id)
    rw [hw] at he
    rw [he.around_halves, modify_eq_self hw.symm]
    rfl
  | cons key keys ih =>
    rw [Key.pressAll?_cons] at hkeys
    obtain ⟨next, hnext, hrest⟩ := Option.bind_eq_some_iff.1 hkeys
    have he := hs (t.focusedLeaf id)
    rw [hw] at he
    have hpress : e.press? key = some (e.around next) := by rw [he.press?_eq, hnext, Option.map_some]
    have hkey := ((answer_keypress hlt hs hid key).typed_of_press? hw hpress).1
    have hagrees : t.Agrees (t.modify (t.focusedLeaf id) fun _ => .edit (e.around next)) :=
      agrees_modify (by rw [hw]; rfl) (by rw [hw]; rfl)
    have hleaf := focusedLeaf_of_agrees hagrees id
    have hw' : (t.modify (t.focusedLeaf id) fun _ => .edit (e.around next)).widget
        ((t.modify (t.focusedLeaf id) fun _ => .edit (e.around next)).focusedLeaf id) = .edit (e.around next) := by
      rw [hleaf, widget_modify_self (lt_size_of_isFocusable (by rw [hw]; rfl))]
    have hoffer := ih (hlt.of_fixed hagrees.fixed) (hs.modify (he.press? hpress)) (by simpa using hid) hw'
      (by rw [Edit.halves_around]; exact hrest)
    rw [hleaf, modify_modify] at hoffer
    rw [offer, List.foldl_cons, hkey]
    exact hoffer

end Tree

namespace Form

variable {f : Form} {n : Nat} {e : Edit}

/-! ## Uses -/

/-- What a use of a form makes of the halves of its field `n`. -/
def turn (f : Form) (n : Nat) (multiline : Bool) (u : FormUse) (halves : List Char × List Char) :
    List Char × List Char :=
  match u with
  | .key key => if f.tree.focusedLeaf f.root = n then (key.press? multiline halves).getD halves else halves
  | .setText name text | .setEditText name text =>
    if (f.names.get name).toOption = some n then (text.toList, []) else halves
  | .step _ | .activate _ => halves

/-- What uses of a form make of the halves of its field `n`. -/
def replay (f : Form) (n : Nat) (multiline : Bool) (halves : List Char × List Char) :
    List FormUse → List Char × List Char
  | [] => halves
  | u :: uses => (f.use u).replay n multiline (f.turn n multiline u halves) uses

theorem around_toList (e : Edit) (text : String) : e.around (text.toList, []) = e.setText text := by
  simp [Edit.around, Edit.ofHalves, Edit.setText, String.length_toList]

theorem widget_change {name text : String} {write : Widget → Option Widget} {missing : String → RuntimeError}
    (hwrite : ∀ e, write (.edit e) = some (.edit (e.setText text))) (hw : f.tree.widget n = .edit e) :
    ((f.change name write missing).toOption.getD f).tree.widget n =
      .edit (if (f.names.get name).toOption = some n then e.setText text else e) := by
  have hlt : n < f.tree.size := Tree.lt_size_of_isFocusable (by rw [hw]; rfl)
  cases hname : f.names.get name with
  | error fault =>
    rw [change, widget, hname]
    exact hw
  | ok id =>
    rw [change_of_widget hname, Except.toOption]
    by_cases hid : id = n
    · subst hid
      rw [hw, hwrite, if_pos rfl]
      exact Tree.widget_modify_self hlt _
    · rw [if_neg (fun h => hid (Option.some.inj h))]
      cases write (f.tree.widget id) with
      | none => exact hw
      | some w => exact (Tree.widget_modify_of_ne (Ne.symm hid) _).trans hw

/-- Every use of a form makes of a field what becomes of its halves. -/
theorem InUse.widget_use (h : f.InUse) (hw : f.tree.widget n = .edit e) (u : FormUse) :
    (f.use u).tree.widget n = .edit (e.around (f.turn n e.multiline u e.halves)) := by
  have hsized := h.sized n
  rw [hw] at hsized
  have hsame : e.around e.halves = e := hsized.around_halves
  cases u with
  | key key =>
    have hanswer := h.answer_root key
    have hpress := hsized.press?_eq key
    rw [use, turn]
    by_cases hleaf : f.tree.focusedLeaf f.root = n
    · subst hleaf
      rw [if_pos rfl]
      cases hnext : key.press? e.multiline e.halves with
      | some next =>
        rw [hnext, Option.map_some] at hpress
        rw [(hanswer.typed_of_press? hw hpress).1, Option.getD_some]
        exact Tree.widget_modify_self (Tree.lt_size_of_isFocusable (by rw [hw]; rfl)) _
      | none =>
        rw [hnext, Option.map_none] at hpress
        rw [Option.getD_none, hsame]
        exact hanswer.widget_edit hw fun _ => hpress
    · rw [if_neg hleaf, hsame]
      exact hanswer.widget_edit hw fun hn => absurd hn hleaf
  | step d =>
    rw [use, turn, hsame, h.stepFocus?_eq]
    cases hmove : f.tree.moveFocus? f.body d with
    | none => exact hw
    | some t =>
      obtain ⟨j, -, rfl⟩ := Tree.moveFocus?_eq_some.1 hmove
      exact Tree.widget_setFocus_edit hw ..
  | activate w =>
    rw [use, turn, hsame]
    cases hact : f.tree.activate? w with
    | none => exact hw
    | some t => exact (Tree.pressed_activate? hact).widget_edit (Tree.isClickable_of_activate? hact) hw
  | setText name text =>
    rw [use, setText, widget_change (fun _ => rfl) hw, turn]
    split
    · rw [around_toList]
    · rw [hsame]
  | setEditText name text =>
    rw [use, setEditText, widget_change (fun _ => rfl) hw, turn]
    split
    · rw [around_toList]
    · rw [hsame]

theorem InUse.widget_uses (h : f.InUse) (hw : f.tree.widget n = .edit e) (uses : List FormUse) :
    (uses.foldl use f).tree.widget n = .edit (e.around (f.replay n e.multiline e.halves uses)) := by
  induction uses generalizing f e with
  | nil =>
    have hsized := h.sized n
    rw [hw] at hsized
    rw [replay, hsized.around_halves]
    exact hw
  | cons u uses ih =>
    have hnext := ih (.used h u) (h.widget_use hw u)
    rw [Edit.halves_around] at hnext
    exact hnext

/-! ## Fields -/

/-- How the field `n` of a form, which is `e`, takes keys. -/
structure Edits (f : Form) (n : Nat) (e : Edit) : Prop where
  cursor_le : e.cursor ≤ e.text.length
  halves : e.halves.1 ++ e.halves.2 = e.text.toList ∧ e.halves.1.length = e.cursor
  /-- A key makes of the field what it makes of its halves, or changes nothing. -/
  key : ∀ key, f.tree.pressLeaf n key = match key.press? e.multiline e.halves with
    | some next => (f.tree.modify n fun _ => .edit (e.around next), .consumed)
    | none => (f.tree, .unhandled)
  /-- In bytes, where the text is never edited inside of a character, this comes to the same. -/
  bytes : ∀ key, e.pressBytes? key = some ((key.press? e.multiline e.halves).map fun next =>
    ((e.around next).text.toByteArray, (e.around next).cursor))
  /-- The focused field gets each key first. -/
  focused : f.tree.focusedLeaf f.root = n → ∀ key next, key.press? e.multiline e.halves = some next →
    f.tree.keypress f.root key = (f.tree.modify n fun _ => .edit (e.around next), .consumed)
  /-- Over any uses of the form, only keys for this field and new texts change it. -/
  replays : ∀ uses : List FormUse,
    (uses.foldl use f).tree.widget n = .edit (e.around (f.replay n e.multiline e.halves uses))
  /-- Typed characters are taken back with as many backspaces. -/
  undoes : f.tree.focusedLeaf f.root = n → ∀ typing erasing : List Key,
    (∀ key ∈ typing, (key.typed? e.multiline).isSome) → (∀ key ∈ erasing, key.code = .backspace) →
    erasing.length = typing.length → f.tree.offer f.root (typing ++ erasing) = f.tree

/-- In every form in use, a field is the characters before its cursor and those after it, and takes keys as these
do. -/
theorem InUse.edits_halves (h : f.InUse) (hw : f.tree.widget n = .edit e) : f.Edits n e := by
  have hsized : e.Sized := by
    have hsized := h.sized n
    rwa [hw] at hsized
  have hlt := h.attentive.tree.ordered
  have hroot := h.attentive.dressed.lt h.attentive.body_lt
  refine ⟨hsized, ?_, fun key => ?_, fun key => hsized.pressBytes?_eq key, ?_, h.widget_uses hw, ?_⟩
  · rw [Edit.halves_eq, List.take_append_drop, List.length_take, String.length_toList, Nat.min_eq_left hsized]
    exact ⟨rfl, rfl⟩
  · rw [Tree.pressLeaf_edit hw hsized, hsized.press?_eq]
    cases key.press? e.multiline e.halves <;> rfl
  · rintro rfl key next hnext
    have hpress : e.press? key = some (e.around next) := by rw [hsized.press?_eq, hnext, Option.map_some]
    obtain ⟨ht, houtcome⟩ := (h.answer_root key).typed_of_press? hw hpress
    exact Prod.ext ht houtcome
  · rintro rfl typing erasing htyping herasing hlength
    rw [Tree.offer_edit hlt h.sized hroot hw (Key.pressAll?_typed htyping herasing hlength e.halves),
      hsized.around_halves, Tree.modify_eq_self hw.symm]

theorem InUse.edits_halves_wide : ∃ f : Form, f.InUse ∧ f.tree.widget 0 = .edit ⟨"Name ", "aé日😀", 3, false⟩ ∧
    f.Edits 0 ⟨"Name ", "aé日😀", 3, false⟩ ∧
    f.tree.keypress f.root { code := .backspace } =
      (f.tree.modify 0 fun _ => .edit ⟨"Name ", "aé😀", 2, false⟩, .consumed) ∧
    f.tree.offer f.root [{ code := .char 'ß' }, { code := .char '日' }, { code := .backspace }, { code := .backspace }] =
      f.tree := by
  let description := "Edt Name [aé日😀]\nBtn [Last]"
  let g := ((parse description {} {}).toOption).getD default
  have hparse : parse description {} {} = .ok g := by decide +kernel
  let f := g.use (.key { code := .left })
  have h : f.InUse := .used (.parsed hparse) _
  obtain ⟨hw, hleaf⟩ : f.tree.widget 0 = .edit ⟨"Name ", "aé日😀", 3, false⟩ ∧ f.tree.focusedLeaf f.root = 0 := by
    decide +kernel
  have hedits := h.edits_halves hw
  refine ⟨f, h, hw, hedits, ?_, ?_⟩
  · rw [hedits.focused hleaf { code := .backspace } (['a', 'é'], ['😀']) (by decide +kernel)]
    rfl
  · exact hedits.undoes hleaf [{ code := .char 'ß' }, { code := .char '日' }]
      [{ code := .backspace }, { code := .backspace }] (by decide) (by decide) rfl

end Form

end ScreenForm
