import ScreenForm.Proofs.Form.Focus
import ScreenForm.Proofs.Widget.Sized
/-!
# What use does to a tree

Every use of a form comes down to four changes of a tree: the focus of a container
moves, a widget is pressed, a field takes a key, or a text is replaced. What each of
them respects every use respects (`Tree.Turns.use`).
-/

namespace ScreenForm

theorem Widget.setText?_of_setEditText? {w w' : Widget} {s : String} (h : w.setEditText? s = some w') :
    w.setText? s = some w' := by
  cases w <;> simp only [setEditText?, reduceCtorEq] at h
  exact h

namespace Tree

/-- `R` relates every tree to what a single change makes of it. -/
structure Turns (R : Tree → Tree → Prop) : Prop where
  refl : ∀ t, R t t
  trans : ∀ t t' t'', R t t' → R t' t'' → R t t''
  focus : ∀ t id index, R t (t.setFocus id index)
  press : ∀ t t' id, t.activate? id = some t' → R t t'
  /-- A field stays in bounds whatever the key is. -/
  key : ∀ t id e e', t.widget id = .edit e → e'.Sized → R t (t.modify id fun _ => .edit e')
  text : ∀ t id s w, (t.widget id).setText? s = some w → R t (t.modify id fun _ => w)

namespace Turns

variable {R : Tree → Tree → Prop} (hR : Turns R)
include hR

theorem pressLeaf (t : Tree) (id : Nat) (key : Key) : R t (t.pressLeaf id key).1 := by
  unfold Tree.pressLeaf
  split
  · next field hw =>
    dsimp only
    split
    · next changed hp => exact hR.key t id field changed hw (field.sized_clampCursor.press? hp)
    · exact hR.key t id field _ hw field.sized_clampCursor
  · split
    · split
      · next hp => exact hR.press t _ id hp
      · exact hR.refl t
    · exact hR.refl t

theorem navigate (t : Tree) (id : Nat) (key : Key) : R t (t.navigate id key).1 := by
  unfold Tree.navigate
  split
  · split
    · next moved hm =>
      obtain ⟨d, -, hm⟩ := Option.bind_eq_some_iff.1 hm
      obtain ⟨index, -, rfl⟩ := Option.map_eq_some_iff.1 hm
      exact hR.focus t id index
    · exact hR.refl t
  · exact hR.refl t

theorem keypressWithin (t : Tree) (key : Key) (l id : Nat) : R t (t.keypressWithin key l id).1 := by
  induction l generalizing id with
  | zero => exact hR.refl t
  | succ l ih =>
    unfold Tree.keypressWithin
    split
    · next child hc =>
      dsimp only
      split
      · exact hR.trans _ _ _ (ih child) (hR.navigate _ id key)
      · exact ih child
    · split
      · exact hR.navigate t id key
      · exact hR.pressLeaf t id key

theorem stepFocus? {t t' : Tree} {root : Nat} {d : Direction} (h : t.stepFocus? root d = some t') : R t t' := by
  obtain ⟨list, -, h⟩ := Option.bind_eq_some_iff.1 h
  obtain ⟨index, -, h⟩ := List.exists_of_findSome?_eq_some h
  dsimp only at h
  split at h
  · cases h
    exact hR.focus t list index
  · cases h

theorem change (f : Form) {name : String} {write : Widget → Option Widget} {missing : String → RuntimeError}
    {s : String} (hw : ∀ w w', write w = some w' → w.setText? s = some w') :
    R f.tree ((f.change name write missing).toOption.getD f).tree := by
  obtain heq | ⟨id, w, hwrite, heq⟩ := f.change_cases name write missing
  · rw [heq]
    exact hR.refl _
  · rw [heq]
    exact hR.text _ id s w (hw _ w hwrite)

theorem use (f : Form) (u : FormUse) : R f.tree (f.use u).tree := by
  cases u with
  | key key => exact hR.keypressWithin f.tree key _ _
  | step d =>
    cases ht : f.tree.stepFocus? f.root d with
    | none =>
      rw [Form.use, ht]
      exact hR.refl _
    | some t =>
      rw [Form.use, ht]
      exact hR.stepFocus? ht
  | activate widget =>
    cases ht : f.tree.activate? widget with
    | none =>
      rw [Form.use, ht]
      exact hR.refl _
    | some t =>
      rw [Form.use, ht]
      exact hR.press _ _ _ ht
  | setText name text => exact hR.change f fun _ _ => id
  | setEditText name text => exact hR.change f fun _ _ => Widget.setText?_of_setEditText?

end Turns

/-- No use makes a widget larger than it may be. -/
theorem turns_sized : Turns fun t t' => t.Sized → t'.Sized where
  refl _ := id
  trans _ _ _ h h' := h' ∘ h
  focus _ id index h := h.setFocus id index
  press _ _ _ ht h := h.activate? ht
  key _ _ _ _ _ he h := h.modify he
  text _ id _ _ hw h := h.modify ((h id).setText? hw)

end Tree

end ScreenForm
