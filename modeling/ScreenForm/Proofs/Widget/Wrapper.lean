import Mathlib.Data.List.Infix
import ScreenForm.Proofs.Widget.Forest
/-!
# Wrappers and lines

Wrappers come from styles, and no line describes them: `Tree.unwrap` goes
through them, and `Tree.Dressed` says that a widget is another one or a wrapper
around it. `Tree.lines` are the lines that a walk meets.
-/

namespace ScreenForm

def Widget.isWrapper : Widget → Bool
  | wrapper .. => true
  | _ => false

/-- A wrapper has nothing that use changes. -/
theorem Widget.eq_wrapper_of_fixed {w : Widget} {wrapping : Wrapping} {child : Nat}
    (h : w.fixed = .wrapper wrapping child) : w = .wrapper wrapping child := by
  cases w <;> simp_all [fixed]

namespace Tree

variable {t t' : Tree}

/-! ## Wrappers -/

theorem lt_size_of_wrapper {outer id : Nat} {wrapping : Wrapping} (h : t.widget outer = .wrapper wrapping id) :
    outer < t.size :=
  lt_size_of_mem_children (c := id) (by simp [children, h, Widget.children])

theorem unwrapWithin_eq (hlt : t.Ordered) {l l' id : Nat} (h : id < l) (h' : id < l') :
    t.unwrapWithin l id = t.unwrapWithin l' id := by
  induction l generalizing l' id with
  | zero => omega
  | succ l ih =>
    obtain ⟨l', rfl⟩ : ∃ k, l' = k + 1 := ⟨l' - 1, by omega⟩
    simp only [unwrapWithin]
    split
    · next child hw =>
      have := hlt id child (by simp [children, hw, Widget.children])
      exact ih (by omega) (by omega)
    · rfl

/-- Levels never run out on the way through wrappers. -/
theorem unwrap_wrapper (hlt : t.Ordered) {outer id : Nat} {wrapping : Wrapping}
    (h : t.widget outer = .wrapper wrapping id) : t.unwrap outer = t.unwrap id := by
  have hs := lt_size_of_wrapper h
  rw [unwrap, unwrapWithin_eq hlt hs (Nat.lt_succ_of_lt hs), unwrapWithin, h]
  simp only [unwrap]

theorem unwrap_of_ne {id : Nat} (h : ∀ wrapping child, t.widget id ≠ .wrapper wrapping child) : t.unwrap id = id := by
  unfold unwrap
  cases t.size with
  | zero => rfl
  | succ l => cases hw : t.widget id <;> simp_all [unwrapWithin]

theorem unwrap_focusable {id : Nat} (h : (t.widget id).isFocusable) : t.unwrap id = id :=
  unwrap_of_ne fun wrapping child hw => by
    simp [hw, Widget.isFocusable, Widget.isClickable, Widget.isEditable] at h

theorem unwrapWithin_of_fixed (h : t'.fixed = t.fixed) (l id : Nat) : t'.unwrapWithin l id = t.unwrapWithin l id := by
  induction l generalizing id with
  | zero => rfl
  | succ l ih =>
    have hf : (t'.widget id).fixed = (t.widget id).fixed := by
      have := congrArg (fun t => (t.node id).widget) h
      simpa [Node.fixed, widget] using this
    cases hw : t.widget id with
    | wrapper wrapping child =>
      rw [hw, Widget.fixed] at hf
      simp [unwrapWithin, hw, Widget.eq_wrapper_of_fixed hf, ih]
    | _ => cases hw' : t'.widget id <;> simp_all [unwrapWithin, Widget.fixed]

theorem unwrap_of_fixed (h : t'.fixed = t.fixed) (id : Nat) : t'.unwrap id = t.unwrap id := by
  rw [unwrap, unwrap, size_eq_of_fixed h, unwrapWithin_of_fixed h]

theorem unwrap_container {id : Nat} (h : (t.widget id).isContainer) : t.unwrap id = id :=
  unwrap_of_ne fun wrapping child hw => by simp [hw, Widget.isContainer] at h

theorem reaches_unwrapWithin (l id : Nat) : t.Reaches id (t.unwrapWithin l id) := by
  induction l generalizing id with
  | zero => exact .refl t id
  | succ l ih =>
    simp only [unwrapWithin]
    split
    · next child hw => exact (ih child).head (by simp [children, hw, Widget.children])
    · exact .refl t id

theorem reaches_unwrap (id : Nat) : t.Reaches id (t.unwrap id) := reaches_unwrapWithin ..

/-- The line of a widget. A wrapper has the line of what it wraps. -/
def lineOf (t : Tree) (id : Nat) : Nat := (t.about (t.unwrap id)).line

/-- A wrapper is below a container if what it wraps is. -/
theorem Forest.below_of_unwrap {tops : List Nat} (h : t.Forest tops) {r n : Nat} (hr : (t.widget r).isContainer)
    (hn : t.Below r (t.unwrap n)) : t.Below r n := by
  induction n using Nat.strongRecOn with
  | _ n ih =>
    by_cases hw : ∃ wrapping child, t.widget n = .wrapper wrapping child
    · -- What it wraps has no other parent, so the way down to that leads through the wrapper.
      obtain ⟨wrapping, child, hw⟩ := hw
      have hc : child ∈ t.children n := by simp [children, hw, Widget.children]
      rw [unwrap_wrapper h.ordered hw] at hn
      obtain ⟨m, hm, hmc⟩ := below_iff.1 (ih child (h.ordered n child hc) hn)
      obtain rfl := h.parent_unique hmc hc
      rcases reaches_iff.1 hm with rfl | ⟨k, hk, hkm⟩
      · simp [hw, Widget.isContainer] at hr
      · exact below_iff_children.2 ⟨k, hk, hkm⟩
    · rwa [unwrap_of_ne (fun wrapping child hc => hw ⟨wrapping, child, hc⟩)] at hn

/-- `outer` is the widget `id`, or a wrapper around it that no line describes. -/
inductive Dressed (t : Tree) (id : Nat) : Nat → Prop
  | bare : Dressed t id id
  | styled {outer : Nat} {wrapping : Wrapping} (widget : t.widget outer = .wrapper wrapping id)
      (line : (t.about outer).line = 0) : Dressed t id outer

namespace Dressed

variable {id outer : Nat}

theorem mono (h : t.Dressed id outer) (ht : t.Extends t') : t'.Dressed id outer := by
  cases h with
  | bare => exact .bare
  | @styled _ wrapping hw hl =>
    have hs := lt_size_of_wrapper hw
    have hf : (t'.widget outer).fixed = .wrapper wrapping id := by rw [ht.widget_fixed hs, hw, Widget.fixed]
    exact .styled (Widget.eq_wrapper_of_fixed hf) (by rw [ht.about hs, hl])

theorem lt (h : t.Dressed id outer) (hid : id < t.size) : outer < t.size := by
  cases h with
  | bare => exact hid
  | styled hw _ => exact lt_size_of_wrapper hw

theorem reaches (h : t.Dressed id outer) : t.Reaches outer id := by
  cases h with
  | bare => exact .refl t id
  | styled hw _ => exact (Reaches.refl t outer).tail (by simp [children, hw, Widget.children])

theorem eq_or_reaches (h : t.Dressed id outer) {n : Nat} (hn : t.Reaches outer n) : n = outer ∨ t.Reaches id n := by
  cases h with
  | bare => exact .inr hn
  | styled hw _ =>
    rcases reaches_iff.1 hn with rfl | ⟨m, hm, hmn⟩
    · exact .inl rfl
    · simp only [children, hw, Widget.children, List.mem_singleton] at hm
      exact .inr (hm ▸ hmn)

/-- A way from the wrapper ends there, at what it wraps, or below that. -/
theorem reaches_cases (h : t.Dressed id outer) {n : Nat} (hn : t.Reaches outer n) :
    n = outer ∨ n = id ∨ ∃ m ∈ t.children id, t.Reaches m n := by
  rcases h.eq_or_reaches hn with rfl | hn
  · exact .inl rfl
  · exact .inr (reaches_iff.1 hn)

theorem eq_of_line (h : t.Dressed id outer) (hline : (t.about outer).line ≠ 0) : outer = id := by
  cases h with
  | bare => rfl
  | styled _ hl => exact absurd hl hline

theorem reaches_of_ne_wrapper (h : t.Dressed id outer) {n : Nat} (hn : t.Reaches outer n)
    (hw : ∀ wrapping child, t.widget n ≠ .wrapper wrapping child) : t.Reaches id n := by
  rcases h.eq_or_reaches hn with rfl | hn
  · cases h with
    | bare => exact hn
    | styled hw' _ => exact absurd hw' (hw _ _)
  · exact hn

theorem reaches_of_isContainer (h : t.Dressed id outer) {n : Nat} (hn : t.Reaches outer n)
    (hc : (t.widget n).isContainer) : t.Reaches id n :=
  h.reaches_of_ne_wrapper hn fun wrapping child hw => by simp [hw, Widget.isContainer] at hc

theorem reaches_of_isFocusable (h : t.Dressed id outer) {n : Nat} (hn : t.Reaches outer n)
    (hf : (t.widget n).isFocusable) : t.Reaches id n :=
  h.reaches_of_ne_wrapper hn fun wrapping child hw => by
    simp [hw, Widget.isFocusable, Widget.isClickable, Widget.isEditable] at hf

theorem unwrap_eq (h : t.Dressed id outer) (hlt : t.Ordered) :
    t.unwrap outer = t.unwrap id := by
  cases h with
  | bare => rfl
  | styled hw _ => exact unwrap_wrapper hlt hw

end Dressed

/-! ## Lines of widgets -/

/-- The lines of a widget and of those below it, each before those of its children. Widgets that no
line describes are left out. -/
def lines (t : Tree) (id : Nat) : List Nat :=
  ((t.walk id).filter fun n => (t.about n).line ≠ 0).map fun n => (t.about n).line

theorem lines_eq (hlt : t.Ordered) {id : Nat} (h : id < t.size) :
    t.lines id = (if (t.about id).line ≠ 0 then [(t.about id).line] else []) ++ (t.children id).flatMap t.lines := by
  rw [lines, walk_eq hlt h, List.filter_cons]
  have hf : ((((t.children id).flatMap t.walk).filter fun n => (t.about n).line ≠ 0).map fun n => (t.about n).line) =
      (t.children id).flatMap t.lines := by
    rw [List.filter_flatMap, List.map_flatMap]
    rfl
  split <;> simp_all

theorem mem_lines (hlt : t.Ordered) {id n : Nat} (h : id < t.size) (hn : n ≠ 0) :
    n ∈ t.lines id ↔ ∃ i, t.Reaches id i ∧ (t.about i).line = n := by
  simp only [lines, List.mem_map, List.mem_filter, mem_walk hlt h, decide_eq_true_eq]
  constructor
  · rintro ⟨i, ⟨hi, -⟩, rfl⟩
    exact ⟨i, hi, rfl⟩
  · rintro ⟨i, hi, rfl⟩
    exact ⟨i, ⟨hi, hn⟩, rfl⟩

/-- Where no line comes twice, a line has one widget. -/
theorem eq_of_line (hlt : t.Ordered) {id i j : Nat} (h : id < t.size) (hnd : (t.lines id).Nodup)
    (hi : t.Reaches id i) (hj : t.Reaches id j) (hn : (t.about i).line ≠ 0)
    (hij : (t.about i).line = (t.about j).line) : i = j := by
  have hmem {k : Nat} (hk : t.Reaches id k) (hk0 : (t.about k).line ≠ 0) :
      k ∈ (t.walk id).filter fun n => (t.about n).line ≠ 0 := by
    simpa [mem_walk hlt h] using ⟨hk, hk0⟩
  exact List.inj_on_of_nodup_map hnd (hmem hi hn) (hmem hj (hij ▸ hn)) hij

theorem lines_dressed (hlt : t.Ordered) {id outer : Nat} (h : t.Dressed id outer) :
    t.lines outer = t.lines id := by
  cases h with
  | bare => rfl
  | styled hw hl =>
    rw [lines_eq hlt (lt_size_of_wrapper hw), hl]
    simp [children, hw, Widget.children]

end Tree

end ScreenForm
