import Mathlib.Algebra.Order.Group.Nat
import ScreenForm.Layout.Arrange
import ScreenForm.Proofs.Widget.Shape
/-!
# Sizes of widgets

The sizes that a widget is made with are those of a screen, except the rows that
a divider leaves free: these are numbers of a description. The cursor of a field
stands in its text. Whatever is done with a tree, this stays so (`Tree.Sized`).
-/

namespace ScreenForm

open Layout

namespace Wrapping

/-- The columns that it leaves free are no more than a screen can have. -/
def Narrow : Wrapping → Prop
  | padding left right => left + right ≤ maxCells
  | styled .. => True

end Wrapping

/-- Columns have one share at most, and no size is larger than a screen. -/
def Arrangement.Sized : Arrangement → Prop
  | pile => True
  | columns widths gap => (∀ w ∈ widths, share w ≤ 1 ∧ fixedColumns w ≤ maxCells) ∧ gap ≤ maxCells
  | grid cellWidth columnGap rowGap _ => cellWidth ≤ maxCells ∧ columnGap ≤ maxCells ∧ rowGap ≤ maxCells
  | list height _ => height.getD 0 ≤ maxCells

/-- The cursor is not behind the end of the text. -/
def Edit.Sized (e : Edit) : Prop :=
  e.cursor ≤ e.text.length

namespace Edit

theorem sized_ofText (caption text : String) (multiline : Bool) : (ofText caption text multiline).Sized := Nat.le_refl _

theorem sized_setText (e : Edit) (text : String) : (e.setText text).Sized := Nat.le_refl _

theorem sized_clampCursor (e : Edit) : e.clampCursor.Sized := Nat.min_le_right ..

theorem sized_ofHalves (e : Edit) (before after : List Char) : (e.ofHalves before after).Sized := by
  simp [Sized, ofHalves]

theorem Sized.press? {e e' : Edit} {key : Key} (h : e.Sized) (hp : e.press? key = some e') : e'.Sized := by
  rcases press?_cases hp with ⟨before, after, rfl⟩ | ⟨cursor, hcursor, rfl⟩
  · exact sized_ofHalves ..
  · exact Nat.le_trans hcursor (Nat.max_le.2 ⟨h, Nat.le_refl _⟩)

end Edit

namespace Widget

def Sized : Widget → Prop
  | edit e => e.Sized
  | divider _ _ top bottom => top < 2 ^ 63 ∧ bottom < 2 ^ 63
  | container arrangement .. => arrangement.Sized
  | wrapper wrapping _ => wrapping.Narrow
  | _ => True

variable {w w' : Widget} {s : String}

theorem Sized.setFocusIndex (h : w.Sized) (i : Nat) : (w.setFocusIndex i).Sized := by cases w <;> exact h

theorem Sized.uncheck (h : w.Sized) : w.uncheck.Sized := by cases w <;> exact h

theorem Sized.setText? (h : w.Sized) (hw : w.setText? s = some w') : w'.Sized := by
  cases w <;> simp only [Widget.setText?, Option.some.injEq, reduceCtorEq] at hw
  · exact hw ▸ trivial
  · exact hw ▸ Edit.sized_setText ..
  · exact hw ▸ h

end Widget

namespace Tree

/-- All widgets of the tree have the sizes of a screen. -/
def Sized (t : Tree) : Prop := ∀ id, (t.widget id).Sized

variable {t t' : Tree} {id : Nat}

theorem sized_empty : Sized {} := fun _ => trivial

theorem Sized.add (h : t.Sized) {w : Widget} (hw : w.Sized) (m : Meta) : (t.add w m).Sized := by
  intro id
  rw [widget, node_add]
  split
  · exact hw
  · exact h id

theorem Sized.modify (h : t.Sized) {f : Widget → Widget} (hf : (f (t.widget id)).Sized) : (t.modify id f).Sized := by
  intro i
  rw [widget, node_modify]
  split
  · next hi => exact hi.1 ▸ hf
  · exact h i

theorem Sized.clearGroup (h : t.Sized) (keep : Nat) (group : String) : (t.clearGroup keep group).Sized := by
  intro i
  rw [widget]
  rcases node_clearGroup t keep group i with heq | heq <;> rw [heq]
  · exact h i
  · exact (h i).uncheck

theorem Sized.setFocus (h : t.Sized) (id index : Nat) : (t.setFocus id index).Sized :=
  h.modify ((h id).setFocusIndex index)

theorem Sized.activate? (h : t.Sized) (ht : t.activate? id = some t') : t'.Sized := by
  unfold Tree.activate? at ht
  split at ht
  · cases ht
    exact h
  · cases ht
    exact h.modify trivial
  · next label checked group hw =>
    have hchecked : (t.modify id fun _ => .radioButton label true group).Sized := h.modify trivial
    cases group with
    | some group =>
      cases ht
      exact hchecked.clearGroup id group
    | none =>
      cases ht
      exact hchecked
  · cases ht

end Tree

end ScreenForm
