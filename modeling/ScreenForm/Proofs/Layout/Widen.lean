import ScreenForm.Layout.Measure
import ScreenForm.Proofs.Layout.Arrange
import ScreenForm.Proofs.Text.Break
/-!
# More columns, no more rows

Lines that keep to a width keep to every larger one, and wrapping takes the
fewest that do, so a text has no more lines in more columns. The same holds of
the height of all that stands one below the other (`Tree.rows_antitone`).
-/

namespace ScreenForm

open Layout

/-! ## Texts -/

namespace Text

theorem KeepsTo.mono {limit limit' : Nat} {line : List Char} (h : KeepsTo limit line) (hle : limit ≤ limit') :
    KeepsTo limit' line :=
  h.imp_left fun hline => Nat.le_trans hline hle

/-- The lines of a text in few columns are one way to break it in more columns. -/
theorem length_wrap_antitone (cs : List Char) {width wider : Nat} (hle : width ≤ wider) :
    (wrap cs wider).length ≤ (wrap cs width).length := by
  refine length_wrap_le (breaks_wrap cs width) fun line hline => ?_
  have hkeeps : KeepsTo (max width 1) line := keepsTo_of_mem_wrap hline
  exact hkeeps.mono (by omega)

end Text

/-! ## Widgets -/

theorem clampCells_mono {n m : Nat} (h : n ≤ m) : clampCells n ≤ clampCells m := by
  unfold clampCells
  omega

theorem Widget.leafRows_antitone (w : Widget) {width wider : Nat} (hle : width ≤ wider) :
    w.leafRows wider ≤ w.leafRows width := by
  cases w with
  | text s align => exact clampCells_mono (Text.length_wrap_antitone s.toList hle)
  | edit e => exact clampCells_mono (Text.length_wrap_antitone e.content hle)
  | _ => exact Nat.le_refl _

namespace Arrangement

/-- Whether the children stand one below the other. -/
def isStack : Arrangement → Bool
  | pile | list .. => true
  | columns .. | grid .. => false

/-- The columns of a stack that its children do not get. -/
def stackMargin : Arrangement → Nat
  | list _ border => borderCells border
  | _ => 0

variable {a : Arrangement}

theorem childWidths_of_isStack (h : a.isStack) (count width : Nat) :
    a.childWidths count width = List.replicate count (width - a.stackMargin) := by
  cases a with
  | pile => rfl
  | list height border => rfl
  | columns => cases h
  | grid => cases h

/-- A stack is no higher when its children are not. Its own width is of no account. -/
theorem height_mono_of_isStack (h : a.isStack) {heights heights' : List Nat} (hle : total heights ≤ total heights')
    (width width' : Nat) : a.height width heights ≤ a.height width' heights' := by
  cases a with
  | pile => exact clampCells_mono hle
  | list height border =>
    cases height with
    | some height => exact Nat.le_refl _
    | none => exact clampCells_mono (Nat.add_le_add_right (clampCells_mono hle) _)
  | columns => cases h
  | grid => cases h

end Arrangement

namespace Tree

/-- The widget and those below it stand one below the other: there are no columns and no grid. -/
inductive Stacks (t : Tree) : Nat → Prop
  | leaf {id : Nat} (children : t.children id = []) (container : (t.widget id).isContainer = false) : Stacks t id
  | stack {id focus : Nat} {a : Arrangement} {children : List Nat} (widget : t.widget id = .container a children focus)
      (isStack : a.isStack) (all : ∀ c ∈ children, Stacks t c) : Stacks t id
  | wrapper {id child : Nat} {w : Wrapping} (widget : t.widget id = .wrapper w child) (inner : Stacks t child) :
      Stacks t id

/-- The heights of children of one width. -/
theorem zipWith_replicate_length (f : Nat → Nat → Nat) (children : List Nat) (width : Nat) :
    List.zipWith f children (List.replicate children.length width) = children.map (f · width) := by
  induction children with
  | nil => rfl
  | cons c children ih => rw [List.length_cons, List.replicate_succ, List.zipWith_cons_cons, ih, List.map_cons]

theorem rowsWithin_antitone {t : Tree} {id : Nat} (h : t.Stacks id) (levels : Nat) {width wider : Nat}
    (hle : width ≤ wider) : t.rowsWithin levels id wider ≤ t.rowsWithin levels id width := by
  induction h generalizing levels width wider with
  | @leaf id children container =>
    cases levels with
    | zero => exact Nat.le_refl 0
    | succ levels =>
      have hleaf := (t.widget id).leafRows_antitone hle
      rw [Tree.children] at children
      rw [rowsWithin, rowsWithin]
      generalize t.widget id = w at *
      cases w with
      | container => cases container
      | wrapper => cases children
      | _ => exact hleaf
  | @stack id focus a children widget isStack all ih =>
    cases levels with
    | zero => exact Nat.le_refl 0
    | succ levels =>
      simp only [rowsWithin, widget, Arrangement.childWidths_of_isStack isStack, zipWith_replicate_length]
      refine Arrangement.height_mono_of_isStack isStack ?_ _ _
      exact List.sum_le_sum fun c hc => ih c hc levels (Nat.sub_le_sub_right hle _)
  | @wrapper id child w widget inner ih =>
    cases levels with
    | zero => exact Nat.le_refl 0
    | succ levels =>
      simp only [rowsWithin, widget]
      exact ih levels (Nat.sub_le_sub_right hle _)

/-- More columns never make a text longer, nor a widget higher that has no columns and no grid in it. -/
theorem rows_antitone (t : Tree) {width wider : Nat} (hle : width ≤ wider) :
    (∀ cs : List Char, (Text.wrap cs wider).length ≤ (Text.wrap cs width).length) ∧
    ∀ id, t.Stacks id → t.rows id wider ≤ t.rows id width :=
  ⟨fun cs => Text.length_wrap_antitone cs hle, fun _ h => rowsWithin_antitone h t.size hle⟩

/-- A text with a tab in it, which takes no column, above a field with a style around it. -/
theorem rows_antitone_styled :
    let t : Tree := ⟨#[⟨.text "ab\tcd" .left, {}⟩, ⟨.edit (.ofText "To " "me" false), {}⟩,
      ⟨.wrapper (.styled default default default) 1, {}⟩, ⟨.container .pile [0, 2] 1, {}⟩]⟩
    t.Stacks 3 ∧ t.rows 3 1 = 9 ∧ t.rows 3 3 = 4 ∧ t.rows 3 3 ≤ t.rows 3 1 ∧
      (Text.wrap "To me".toList 3).length ≤ (Text.wrap "To me".toList 1).length := by
  intro t
  have hstyled : t.Stacks 2 := .wrapper rfl (.leaf rfl rfl)
  have hpile : t.Stacks 3 := by
    refine .stack rfl rfl fun c hc => ?_
    rcases List.mem_pair.1 hc with rfl | rfl
    · exact .leaf rfl rfl
    · exact hstyled
  obtain ⟨htext, hrows⟩ := t.rows_antitone (by decide : 1 ≤ 3)
  exact ⟨hpile, by decide +kernel, by decide +kernel, hrows 3 hpile, htext _⟩

/-! Columns can get higher: the last one has what the others leave, which is less of six columns than of five. -/

example :
    let t : Tree := ⟨#[⟨.text "" .left, {}⟩, ⟨.text "" .left, {}⟩, ⟨.text "abc" .left, {}⟩,
      ⟨.container (.columns [] 0) [0, 1, 2] 0, {}⟩]⟩
    t.rows 3 5 = 1 ∧ t.rows 3 6 = 2 := by decide +kernel

end Tree

end ScreenForm
