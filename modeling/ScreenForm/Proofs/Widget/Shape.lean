import Mathlib.Data.List.Nodup
import ScreenForm.Widget.Key
/-!
# What stays of a tree

Using a form changes texts, checks and focus, and making one adds widgets at
the end of its tree. `Tree.fixed` forgets all that use can change, so two trees
are the same widgets in the same places when their `fixed` trees are equal, and
`Tree.Extends` says that one has all widgets of the other.
-/

namespace ScreenForm

namespace Edit

theorem halves_eq (e : Edit) : e.halves = (e.text.toList.take e.cursor, e.text.toList.drop e.cursor) :=
  List.splitAt_eq ..

/-- A key puts a text around the cursor, or the cursor somewhere in the text. -/
theorem press?_cases {e e' : Edit} {key : Key} (h : e.press? key = some e') :
    (∃ before after, e' = e.ofHalves before after) ∨
    ∃ cursor ≤ max e.cursor e.text.length, e' = { e with cursor := cursor } := by
  unfold press? at h
  obtain ⟨before, after, hhalves⟩ : ∃ before after, e.halves = (before, after) := ⟨_, _, rfl⟩
  rw [hhalves] at h
  -- Not `split`: the match is on characters too, which is too deep for it.
  cases hcode : key.code <;> rw [hcode] at h
  case char | enter | backspace =>
    dsimp only at h
    split at h <;> cases h
    exact .inl ⟨_, _, rfl⟩
  case delete =>
    cases after <;> cases h
    exact .inl ⟨_, _, rfl⟩
  case left =>
    dsimp only at h
    split at h <;> cases h
    exact .inr ⟨_, by omega, rfl⟩
  case right =>
    cases after with
    | nil => cases h
    | cons c rest =>
      cases h
      have hrest := congrArg List.length (congrArg Prod.snd (e.halves_eq.symm.trans hhalves))
      simp only [List.length_drop, List.length_cons, String.length_toList] at hrest
      exact .inr ⟨_, by omega, rfl⟩
  case home =>
    cases h
    exact .inr ⟨_, Nat.zero_le _, rfl⟩
  case toEnd =>
    cases h
    exact .inr ⟨_, Nat.le_max_right .., rfl⟩
  all_goals cases h

end Edit

namespace Widget

/-- The widget with its texts, its check and its focus set back. -/
def fixed : Widget → Widget
  | text _ align => text "" align
  | button label => button label
  | edit e => edit { e with text := "", cursor := 0 }
  | checkBox label _ => checkBox label false
  | radioButton label _ group => radioButton label false group
  | divider fill _ top bottom => divider fill "" top bottom
  | container arrangement children _ => container arrangement children 0
  | wrapper wrapping child => wrapper wrapping child

@[simp] theorem children_fixed (w : Widget) : w.fixed.children = w.children := by cases w <;> rfl

@[simp] theorem isContainer_fixed (w : Widget) : w.fixed.isContainer = w.isContainer := by cases w <;> rfl

@[simp] theorem isFocusable_fixed (w : Widget) : w.fixed.isFocusable = w.isFocusable := by cases w <;> rfl

@[simp] theorem isEditable_fixed (w : Widget) : w.fixed.isEditable = w.isEditable := by cases w <;> rfl

theorem children_congr {w w' : Widget} (h : w'.fixed = w.fixed) : w'.children = w.children := by
  rw [← children_fixed, h, children_fixed]

theorem isContainer_congr {w w' : Widget} (h : w'.fixed = w.fixed) : w'.isContainer = w.isContainer := by
  rw [← isContainer_fixed, h, isContainer_fixed]

theorem isFocusable_congr {w w' : Widget} (h : w'.fixed = w.fixed) : w'.isFocusable = w.isFocusable := by
  rw [← isFocusable_fixed, h, isFocusable_fixed]

theorem label?_congr {w w' : Widget} (h : w'.fixed = w.fixed) : w'.label? = w.label? := by
  have hfixed (w : Widget) : w.fixed.label? = w.label? := by cases w <;> rfl
  rw [← hfixed, h, hfixed]

@[simp] theorem fixed_setFocusIndex (w : Widget) (i : Nat) : (w.setFocusIndex i).fixed = w.fixed := by
  cases w <;> rfl

@[simp] theorem fixed_uncheck (w : Widget) : w.uncheck.fixed = w.fixed := by cases w <;> rfl

@[simp] theorem focusIndex_uncheck (w : Widget) : w.uncheck.focusIndex = w.focusIndex := by cases w <;> rfl

theorem focusIndex_setFocusIndex {w : Widget} (h : w.isContainer) (i : Nat) :
    (w.setFocusIndex i).focusIndex = i := by
  cases w <;> simp_all [isContainer, setFocusIndex, focusIndex]

/-- Changing the text of a widget keeps what is fixed, and its focus. -/
theorem fixed_of_setText? {w w' : Widget} {s : String} (h : w.setText? s = some w') :
    w'.fixed = w.fixed ∧ w'.focusIndex = w.focusIndex := by
  cases w <;> simp only [setText?, Option.some.injEq, reduceCtorEq] at h
  all_goals exact h ▸ ⟨rfl, rfl⟩

theorem fixed_of_setEditText? {w w' : Widget} {s : String} (h : w.setEditText? s = some w') :
    w'.fixed = w.fixed ∧ w'.focusIndex = w.focusIndex := by
  cases w <;> simp only [setEditText?, Option.some.injEq, reduceCtorEq] at h
  exact h ▸ ⟨rfl, rfl⟩

theorem isEditable_of_editText? {w : Widget} {s : String} (h : w.editText? = some s) : w.isEditable := by
  cases w with
  | edit => rfl
  | _ => cases h

theorem isFocusable_of_isEditable {w : Widget} (h : w.isEditable) : w.isFocusable := by
  rw [isFocusable, h, Bool.or_true]

/-- No container has the focus itself. -/
theorem isFocusable_of_isContainer {w : Widget} (h : w.isContainer) : w.isFocusable = false := by
  cases w with
  | container => rfl
  | _ => cases h

/-- Only containers and wrappers have children. -/
theorem children_eq_nil {w : Widget} (h : w.isFocusable) : w.children = [] := by
  cases w <;> simp_all [isFocusable, isClickable, isEditable, children]

end Widget

namespace Node

def fixed (n : Node) : Node :=
  { n with widget := n.widget.fixed }

end Node

namespace Tree

variable {t t' t'' : Tree}

/-! ## Nodes of a tree that was changed -/

theorem node_of_size_le {id : Nat} (h : t.size ≤ id) : t.node id = default := by
  simp [node, Array.getElem?_eq_none h]

theorem children_of_size_le {id : Nat} (h : t.size ≤ id) : t.children id = [] := by
  simp only [children, widget, node_of_size_le h]
  rfl

theorem lt_size_of_mem_children {id c : Nat} (h : c ∈ t.children id) : id < t.size := by
  by_contra hn
  simp [children_of_size_le (Nat.le_of_not_lt hn)] at h

theorem lt_size_of_isFocusable {id : Nat} (h : (t.widget id).isFocusable) : id < t.size := by
  by_contra hn
  rw [widget, node_of_size_le (Nat.le_of_not_lt hn)] at h
  cases h

theorem lt_size_of_isContainer {id : Nat} (h : (t.widget id).isContainer) : id < t.size := by
  by_contra hn
  rw [widget, node_of_size_le (Nat.le_of_not_lt hn)] at h
  cases h

@[simp] theorem size_add (t : Tree) (w : Widget) (m : Meta) : (t.add w m).size = t.size + 1 := by
  simp [add, size]

theorem node_add (t : Tree) (w : Widget) (m : Meta) (id : Nat) :
    (t.add w m).node id = if id = t.size then ⟨w, m⟩ else t.node id := by
  unfold add node size
  rw [Array.getElem?_push]
  split <;> rfl

@[simp] theorem node_add_self (t : Tree) (w : Widget) (m : Meta) : (t.add w m).node t.size = ⟨w, m⟩ := by
  simp [node_add]

theorem node_add_of_ne {w : Widget} {m : Meta} {id : Nat} (h : id ≠ t.size) : (t.add w m).node id = t.node id := by
  simp [node_add, h]

@[simp] theorem size_modify (t : Tree) (id : Nat) (f : Widget → Widget) : (t.modify id f).size = t.size := by
  simp [modify, size]

theorem node_modify (t : Tree) (id : Nat) (f : Widget → Widget) (i : Nat) :
    (t.modify id f).node i =
      if i = id ∧ i < t.size then { t.node i with widget := f (t.widget i) } else t.node i := by
  simp only [modify, node, widget, size, Array.getElem?_modify]
  by_cases hi : i < t.nodes.size
  · by_cases hid : id = i <;> simp [hid, hi, eq_comm]
  · simp [hi]

theorem widget_modify_self {id : Nat} (h : id < t.size) (f : Widget → Widget) :
    (t.modify id f).widget id = f (t.widget id) := by
  simp [widget, node_modify, h]

theorem widget_modify_of_ne {id i : Nat} (h : i ≠ id) (f : Widget → Widget) :
    (t.modify id f).widget i = t.widget i := by
  simp [widget, node_modify, h]

@[simp] theorem size_clearGroup (t : Tree) (keep : Nat) (group : String) :
    (t.clearGroup keep group).size = t.size := by
  simp [clearGroup, size]

/-- Clearing a group leaves each widget as it is or unchecks it. -/
theorem node_clearGroup (t : Tree) (keep : Nat) (group : String) (i : Nat) :
    (t.clearGroup keep group).node i = t.node i ∨
      (t.clearGroup keep group).node i = { t.node i with widget := (t.widget i).uncheck } := by
  simp only [clearGroup, node, widget, Array.getElem?_mapIdx]
  rcases t.nodes[i]? with _ | n
  · exact .inl rfl
  · simp only [Option.map_some, Option.getD_some]
    split
    · exact .inr rfl
    · exact .inl rfl

/-! ## The fixed part of a tree -/

/-- The tree with the texts, checks and focus of all its widgets set back. -/
def fixed (t : Tree) : Tree :=
  ⟨t.nodes.map Node.fixed⟩

@[simp] theorem size_fixed (t : Tree) : t.fixed.size = t.size := by simp [fixed, size]

@[simp] theorem node_fixed (t : Tree) (id : Nat) : t.fixed.node id = (t.node id).fixed := by
  simp only [fixed, node, Array.getElem?_map]
  rcases t.nodes[id]? with _ | n <;> rfl

@[simp] theorem children_fixed (t : Tree) (id : Nat) : t.fixed.children id = t.children id := by
  simp [children, widget, Node.fixed]

@[simp] theorem isFocusable_fixed (t : Tree) (id : Nat) :
    (t.fixed.widget id).isFocusable = (t.widget id).isFocusable := by
  simp [widget, Node.fixed]

/-- Trees of one size are the same widgets if their nodes are. -/
theorem fixed_eq_of_nodes (hs : t'.size = t.size) (h : ∀ id, (t'.node id).fixed = (t.node id).fixed) :
    t'.fixed = t.fixed := by
  have hn : t'.fixed.nodes = t.fixed.nodes := by
    apply Array.ext (by simpa [fixed, size] using hs)
    intro i hi hi'
    have hi₁ : i < t'.nodes.size := by simpa [fixed] using hi
    have hi₂ : i < t.nodes.size := by simpa [fixed] using hi'
    simpa [fixed, node, Array.getElem?_eq_getElem hi₁, Array.getElem?_eq_getElem hi₂] using h i
  cases ht' : t'.fixed
  cases ht : t.fixed
  simp_all

theorem fixed_modify {id : Nat} {f : Widget → Widget} (h : (f (t.widget id)).fixed = (t.widget id).fixed) :
    (t.modify id f).fixed = t.fixed := by
  apply fixed_eq_of_nodes (by simp)
  intro i
  rw [node_modify]
  split
  · next hi =>
    obtain ⟨rfl, -⟩ := hi
    simp only [Node.fixed, Node.mk.injEq, and_true]
    exact h
  · rfl

@[simp] theorem fixed_setFocus (t : Tree) (id index : Nat) : (t.setFocus id index).fixed = t.fixed :=
  fixed_modify (Widget.fixed_setFocusIndex ..)

@[simp] theorem fixed_clearGroup (t : Tree) (keep : Nat) (group : String) :
    (t.clearGroup keep group).fixed = t.fixed := by
  apply fixed_eq_of_nodes (by simp)
  intro i
  rcases node_clearGroup t keep group i with h | h
  · rw [h]
  · rw [h]
    simp [Node.fixed, widget]

theorem size_eq_of_fixed (h : t'.fixed = t.fixed) : t'.size = t.size := by
  rw [← size_fixed, h, size_fixed]

theorem widget_fixed_of_fixed (h : t'.fixed = t.fixed) (id : Nat) : (t'.widget id).fixed = (t.widget id).fixed := by
  have := congrArg (fun t => (t.node id).widget) h
  simpa [Node.fixed, widget] using this

theorem about_of_fixed (h : t'.fixed = t.fixed) (id : Nat) : t'.about id = t.about id := by
  have := congrArg (fun t => (t.node id).about) h
  simpa [Node.fixed, about] using this

theorem children_eq_of_fixed (h : t'.fixed = t.fixed) (id : Nat) : t'.children id = t.children id := by
  rw [← children_fixed, h, children_fixed]

theorem isFocusable_eq_of_fixed (h : t'.fixed = t.fixed) (id : Nat) :
    (t'.widget id).isFocusable = (t.widget id).isFocusable := by
  rw [← isFocusable_fixed, h, isFocusable_fixed]

theorem isEditable_eq_of_fixed (h : t'.fixed = t.fixed) (id : Nat) :
    (t'.widget id).isEditable = (t.widget id).isEditable := by
  have hw := congrArg Node.widget (congrArg (node · id) h)
  simp only [node_fixed, Node.fixed] at hw
  rw [← Widget.isEditable_fixed, widget, hw, Widget.isEditable_fixed, widget]

/-- The same widgets, each with its focus on the same child. -/
structure Agrees (t t' : Tree) : Prop where
  fixed : t'.fixed = t.fixed
  focusIndex : ∀ id, (t'.widget id).focusIndex = (t.widget id).focusIndex

theorem Agrees.refl (t : Tree) : t.Agrees t := ⟨rfl, fun _ => rfl⟩

theorem Agrees.trans (h : t.Agrees t') (h' : t'.Agrees t'') : t.Agrees t'' :=
  ⟨h'.fixed.trans h.fixed, fun id => (h'.focusIndex id).trans (h.focusIndex id)⟩

theorem agrees_modify {id : Nat} {f : Widget → Widget} (h : (f (t.widget id)).fixed = (t.widget id).fixed)
    (hf : (f (t.widget id)).focusIndex = (t.widget id).focusIndex) : t.Agrees (t.modify id f) where
  fixed := fixed_modify h
  focusIndex i := by
    by_cases hi : i = id ∧ i < t.size
    · obtain ⟨rfl, hlt⟩ := hi
      rw [widget_modify_self hlt, hf]
    · simp [widget, node_modify, hi]

theorem agrees_clearGroup (t : Tree) (keep : Nat) (group : String) : t.Agrees (t.clearGroup keep group) where
  fixed := fixed_clearGroup ..
  focusIndex i := by
    rcases node_clearGroup t keep group i with h | h <;> simp [widget, h]

/-! ## Trees that grow -/

/-- `t'` has the widgets of `t`, and perhaps more after them. -/
def Extends (t t' : Tree) : Prop :=
  t.size ≤ t'.size ∧ ∀ id < t.size, (t'.node id).fixed = (t.node id).fixed

theorem Extends.refl (t : Tree) : t.Extends t := ⟨Nat.le_refl _, fun _ _ => rfl⟩

theorem Extends.trans (h : t.Extends t') (h' : t'.Extends t'') : t.Extends t'' :=
  ⟨Nat.le_trans h.1 h'.1, fun id hid => (h'.2 id (Nat.lt_of_lt_of_le hid h.1)).trans (h.2 id hid)⟩

theorem extends_add (t : Tree) (w : Widget) (m : Meta) : t.Extends (t.add w m) :=
  ⟨by simp, fun _ hid => by rw [node_add_of_ne (Nat.ne_of_lt hid)]⟩

theorem extends_of_fixed (h : t'.fixed = t.fixed) : t.Extends t' :=
  ⟨Nat.le_of_eq (size_eq_of_fixed h).symm, fun id _ => by rw [← node_fixed, h, node_fixed]⟩

namespace Extends

variable (h : t.Extends t')
include h

theorem about {id : Nat} (hid : id < t.size) : t'.about id = t.about id := by
  have := congrArg Node.about (h.2 id hid)
  exact this

theorem widget_fixed {id : Nat} (hid : id < t.size) : (t'.widget id).fixed = (t.widget id).fixed := by
  have := congrArg Node.widget (h.2 id hid)
  exact this

theorem children {id : Nat} (hid : id < t.size) : t'.children id = t.children id := by
  have := congrArg Widget.children (h.widget_fixed hid)
  simpa [Tree.children] using this

theorem isContainer {id : Nat} (hid : id < t.size) : (t'.widget id).isContainer = (t.widget id).isContainer := by
  have := congrArg Widget.isContainer (h.widget_fixed hid)
  simpa using this

theorem isFocusable {id : Nat} (hid : id < t.size) : (t'.widget id).isFocusable = (t.widget id).isFocusable := by
  have := congrArg Widget.isFocusable (h.widget_fixed hid)
  simpa using this

end Extends

end Tree

end ScreenForm
