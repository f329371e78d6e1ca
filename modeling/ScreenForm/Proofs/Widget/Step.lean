import Mathlib.Data.List.Find
import ScreenForm.Proofs.Widget.Path
/-!
# Steps

A step tries the children of the outermost container one after the other, and asks each time where the focus
leads. Where all containers attend, this is the move to the next child that can take the focus
(`Tree.stepFocus?_eq`), so steps go through the seats of the container in their order.
-/

namespace ScreenForm

theorem List.findSome?_ite {α β : Type} (p : α → Bool) (g : α → β) (l : List α) :
    (l.findSome? fun a => if p a then some (g a) else none) = (l.find? p).map g := by
  induction l with
  | nil => rfl
  | cons a l ih =>
    rw [List.findSome?_cons, List.find?_cons, ih]
    cases p a <;> rfl

namespace Direction

/-- The positions of `size` children, in the order in which a direction comes to them. -/
def positions (d : Direction) (size : Nat) : List Nat :=
  match d with
  | .forward => List.range size
  | .backward => (List.range size).reverse

theorem mem_positions {d : Direction} {size j : Nat} : j ∈ d.positions size ↔ j < size := by
  cases d <;> simp [positions]

theorem pairwise_positions (d : Direction) (size : Nat) : (d.positions size).Pairwise d.Beyond := by
  cases d with
  | forward => exact List.pairwise_lt_range
  | backward => exact List.pairwise_reverse.2 List.pairwise_lt_range

end Direction

namespace Tree

variable {t t' : Tree} {root list n j k c : Nat} {d : Direction}

/-! ## Setting the focus -/

theorem setFocus_setFocus (t : Tree) (n i j : Nat) : (t.setFocus n i).setFocus n j = t.setFocus n j := by
  have hw (w : Widget) : (w.setFocusIndex i).setFocusIndex j = w.setFocusIndex j := by cases w <;> rfl
  refine ext_node (by simp [setFocus]) fun m => ?_
  simp only [setFocus, node_modify, size_modify]
  by_cases hm : m = n ∧ m < t.size
  · obtain ⟨rfl, hlt⟩ := hm
    simp only [hlt, and_self, if_true, widget, node_modify, hw]
  · simp only [hm, if_false]

theorem setFocus_focusIndex (t : Tree) (n : Nat) : t.setFocus n (t.widget n).focusIndex = t :=
  modify_eq_self (by cases t.widget n <;> rfl)

theorem focusIndex_setFocus (hcon : (t.widget n).isContainer) (j : Nat) :
    ((t.setFocus n j).widget n).focusIndex = j := by
  rw [setFocus, widget_modify_self (lt_size_of_isContainer hcon), Widget.focusIndex_setFocusIndex hcon]

/-! ## A step is a move -/

/-- With its focus on a child, a container leads to a widget that can have the focus exactly if the child can
take it. -/
theorem isSome_focused?_setFocus (h : t.Attentive) (hcon : (t.widget list).isContainer)
    (hc : (t.children list)[j]? = some c) : ((t.setFocus list j).focused? list).isSome = t.isSelectable c := by
  have hf := fixed_setFocus t list j
  have hlt : (t.setFocus list j).Ordered := h.ordered.of_fixed hf
  have hchild : (t.setFocus list j).focusedChild? list = some c := by
    rw [focusedChild?, children_eq_of_fixed hf, focusIndex_setFocus hcon, hc]
  have hclist := hlt list c (mem_of_focusedChild? hchild)
  have hcs := Nat.lt_trans hclist (lt_size_of_mem_children (mem_of_focusedChild? hchild))
  -- Only the container itself has moved its focus, and it is not below its child.
  have hattends : ∀ n, (t.setFocus list j).Reaches c n → (t.setFocus list j).Attends n := by
    intro n hn hs
    have hne : n ≠ list := Nat.ne_of_lt (Nat.lt_of_le_of_lt (hn.le hlt) hclist)
    simp only [children_eq_of_fixed hf, isSelectable_of_fixed hf] at hs ⊢
    obtain ⟨k, hk, hks⟩ := h.attends n hs
    refine ⟨k, ?_, hks⟩
    rw [focusedChild?, children_eq_of_fixed hf, setFocus, widget_modify_of_ne hne]
    exact hk
  rw [focused?_child hlt hchild, Bool.eq_iff_iff, focused?_isSome_iff hlt hcs hattends, ← isSelectable_iff hlt hcs,
    isSelectable_of_fixed hf]

/-- A step moves the focus of the outermost container. -/
theorem stepFocus?_eq (h : t.Attentive) (hcon : (t.widget (t.unwrap root)).isContainer) (d : Direction) :
    t.stepFocus? root d = t.moveFocus? (t.unwrap root) d := by
  have hleads : ∀ index ∈ d.indices (t.widget (t.unwrap root)).focusIndex (t.children (t.unwrap root)).length,
      ((t.setFocus (t.unwrap root) index).focused? root).isSome =
        ((t.children (t.unwrap root))[index]?.map t.isSelectable).getD false := by
    intro index hindex
    have hf := fixed_setFocus t (t.unwrap root) index
    have hc := List.getElem?_eq_getElem (Direction.mem_indices.1 hindex).1
    rw [← focused?_unwrap (h.ordered.of_fixed hf), unwrap_of_fixed hf, isSome_focused?_setFocus h hcon hc, hc]
    rfl
  have houtermost : t.outermost? root = some (t.unwrap root) := if_pos hcon
  rw [stepFocus?, houtermost, moveFocus?, ← children]
  exact (List.findSome?_ite ..).trans (congrArg _ (List.find?_congr hleads))

/-! ## Steps in place -/

/-- Puts the focus of a container on one child after the other, until it leads to a widget that can have it, and
back to `start` if it never does. -/
def tryEach (t : Tree) (root list start : Nat) : List Nat → Tree × Bool
  | [] => (t.setFocus list start, false)
  | index :: rest =>
    let moved := t.setFocus list index
    if (moved.focused? root).isSome then (moved, true) else moved.tryEach root list start rest

/-- A step that looks for the child on the tree itself, with whether there was one. -/
def stepInPlace (t : Tree) (root : Nat) (d : Direction) : Tree × Bool :=
  match t.outermost? root with
  | none => (t, false)
  | some list =>
    let w := t.widget list
    t.tryEach root list w.focusIndex (d.indices w.focusIndex w.children.length)

/-- Whatever child the focus was put on before, the next attempt puts it elsewhere. -/
theorem tryEach_setFocus (t : Tree) (root list i : Nat) (indices : List Nat) :
    let found := indices.findSome? fun index =>
      let moved := t.setFocus list index
      if (moved.focused? root).isSome then some moved else none
    (t.setFocus list i).tryEach root list (t.widget list).focusIndex indices = (found.getD t, found.isSome) := by
  induction indices generalizing i with
  | nil =>
    simp only [tryEach, setFocus_setFocus, setFocus_focusIndex, List.findSome?_nil, Option.getD_none,
      Option.isSome_none]
  | cons index rest ih =>
    simp only [tryEach, setFocus_setFocus, List.findSome?_cons]
    cases ((t.setFocus list index).focused? root).isSome with
    | true => rfl
    | false => exact ih index

/-- On the tree itself a step does the same, and what it has tried in vain leaves no trace. -/
theorem stepInPlace_eq (t : Tree) (root : Nat) (d : Direction) :
    t.stepInPlace root d = ((t.stepFocus? root d).getD t, (t.stepFocus? root d).isSome) := by
  rw [stepInPlace, stepFocus?]
  cases t.outermost? root with
  | none => rfl
  | some list =>
    have htry := tryEach_setFocus t root list (t.widget list).focusIndex
      (d.indices (t.widget list).focusIndex (t.widget list).children.length)
    rwa [setFocus_focusIndex] at htry

/-! ## There and back -/

/-- The way back from the next child leads to the child that had the focus. -/
theorem Next.back (h : t.Next d n j) (hcon : (t.widget n).isContainer) (ha : t.Attends n) :
    (t.setFocus n j).Next d.back n (t.widget n).focusIndex := by
  have hf := fixed_setFocus t n j
  obtain ⟨c, hc, hs⟩ := h.takes
  refine ⟨?_, ?_, fun k hk hbeyond => ?_⟩
  · rw [takes_of_fixed hf]
    exact ha ⟨c, List.mem_of_getElem? hc, hs⟩
  · rw [focusIndex_setFocus hcon, Direction.beyond_back]
    exact h.beyond
  · rw [takes_of_fixed hf] at hk
    rw [focusIndex_setFocus hcon, Direction.beyond_back] at hbeyond
    rw [Direction.beyond_back]
    -- Between the two there is no child that can take the focus.
    by_cases hne : k = (t.widget n).focusIndex
    · exact .inl hne
    · refine .inr ((Direction.beyond_or_beyond hne).resolve_right fun hk' => ?_)
      rcases h.nearest k hk hk' with rfl | hjk
      · exact Direction.not_beyond_self hbeyond
      · exact hjk.asymm hbeyond

theorem moveFocus?_back (hcon : (t.widget n).isContainer) (ha : t.Attends n) (h : t.moveFocus? n d = some t') :
    t'.moveFocus? n d.back = some t := by
  obtain ⟨j, hj, rfl⟩ := moveFocus?_eq_some.1 h
  refine moveFocus?_eq_some.2 ⟨_, hj.back hcon ha, ?_⟩
  rw [setFocus_setFocus, setFocus_focusIndex]

/-! ## Seats -/

/-- The positions of the children that can take the focus, in the order in which a direction comes to them. -/
def seats (t : Tree) (n : Nat) (d : Direction) : List Nat :=
  (d.positions (t.children n).length).filter fun j => ((t.children n)[j]?.map t.isSelectable).getD false

theorem mem_seats : j ∈ t.seats n d ↔ t.Takes n j := by
  rw [seats, List.mem_filter, Direction.mem_positions, takes_iff]

theorem pairwise_seats (t : Tree) (n : Nat) (d : Direction) : (t.seats n d).Pairwise d.Beyond :=
  (d.pairwise_positions _).filter _

theorem seats_of_fixed (h : t'.fixed = t.fixed) : t'.seats n d = t.seats n d := by
  rw [seats, seats, children_eq_of_fixed h, funext (isSelectable_of_fixed h)]

theorem beyond_seats_iff {i k index : Nat} (hi : (t.seats n d)[i]? = some index) (hk : (t.seats n d)[k]? = some j) :
    d.Beyond index j ↔ i < k := by
  obtain ⟨hilt, rfl⟩ := List.getElem?_eq_some_iff.1 hi
  obtain ⟨hklt, rfl⟩ := List.getElem?_eq_some_iff.1 hk
  have hpairwise := List.pairwise_iff_getElem.1 (t.pairwise_seats n d)
  refine ⟨fun h => ?_, hpairwise i k hilt hklt⟩
  rcases Nat.lt_trichotomy i k with hlt | rfl | hlt
  · exact hlt
  · exact absurd h Direction.not_beyond_self
  · exact absurd h (hpairwise k i hklt hilt hlt).asymm

theorem exists_seat (h : t.Takes n j) (d : Direction) : ∃ i : Nat, (t.seats n d)[i]? = some j :=
  List.mem_iff_getElem?.1 (mem_seats.2 h)

/-- The next seat is the next child. -/
theorem next_seat (hfocus : (t.seats n d)[k]? = some (t.widget n).focusIndex) (hj : (t.seats n d)[k + 1]? = some j) :
    t.Next d n j where
  takes := mem_seats.1 (List.mem_of_getElem? hj)
  beyond := (beyond_seats_iff hfocus hj).2 (Nat.lt_succ_self k)
  nearest m hm hbeyond := by
    obtain ⟨i, hi⟩ := exists_seat hm d
    have hlt := (beyond_seats_iff hfocus hi).1 hbeyond
    rcases Nat.lt_or_eq_of_le (Nat.succ_le_of_lt hlt) with hlt | rfl
    · exact .inr ((beyond_seats_iff hj hi).2 hlt)
    · exact .inl (Option.some.inj (hi.symm.trans hj))

theorem not_next_of_last_seat (hfocus : (t.seats n d)[k]? = some (t.widget n).focusIndex)
    (hlast : (t.seats n d)[k + 1]? = none) : ¬ t.Next d n j := by
  intro h
  obtain ⟨i, hi⟩ := exists_seat h.takes d
  have hlt := (beyond_seats_iff hfocus hi).1 h.beyond
  obtain ⟨hi, -⟩ := List.getElem?_eq_some_iff.1 hi
  rw [List.getElem?_eq_none_iff] at hlast
  omega

end Tree

end ScreenForm
