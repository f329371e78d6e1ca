import ScreenForm.Proofs.Form.Arrow
/-!
# The way of the focus

The focus goes down from a widget through one child after the other (`Tree.OnPath`) and ends at its leaf. A
container can move it on to the next child in a direction that can take it (`Tree.Next`), and does so when it is
told to (`Tree.moveFocus?_eq_some`).
-/

namespace ScreenForm

open Relation (ReflTransGen)

/-! ## Directions -/

namespace Direction

variable {d : Direction} {i j k index size : Nat}

/-- `j` comes after `i` in the direction. -/
def Beyond (d : Direction) (i j : Nat) : Prop :=
  match d with
  | forward => i < j
  | backward => j < i

def back : Direction → Direction
  | forward => backward
  | backward => forward

theorem mem_indices_iff : i ∈ d.indices index size ↔ i < size ∧ d.Beyond index i := by
  rw [mem_indices]
  cases d <;> rfl

theorem beyond_back : d.back.Beyond i j ↔ d.Beyond j i := by cases d <;> rfl

theorem not_beyond_self : ¬ d.Beyond i i := by cases d <;> exact Nat.lt_irrefl i

theorem Beyond.trans (h : d.Beyond i j) (h' : d.Beyond j k) : d.Beyond i k := by
  cases d with
  | forward => exact Nat.lt_trans h h'
  | backward => exact Nat.lt_trans h' h

theorem Beyond.asymm (h : d.Beyond i j) : ¬ d.Beyond j i := fun h' => not_beyond_self (h.trans h')

theorem beyond_or_beyond (h : i ≠ j) : d.Beyond i j ∨ d.Beyond j i := by
  cases d with
  | forward => exact Nat.lt_or_gt_of_ne h
  | backward => exact Nat.lt_or_gt_of_ne (Ne.symm h)

/-- The first index of a kind in a direction is the nearest one of its kind. -/
theorem find?_indices_eq_some {p : Nat → Bool} : (d.indices index size).find? p = some j ↔
    (j < size ∧ p j) ∧ d.Beyond index j ∧
      ∀ k, k < size ∧ p k → d.Beyond index k → k = j ∨ d.Beyond j k := by
  have nearest {j : Nat} (h : (d.indices index size).find? p = some j) (k : Nat) (hk : k < size ∧ p k)
      (hbeyond : d.Beyond index k) : k = j ∨ d.Beyond j k := by
    obtain ⟨-, before, after, heq, hbefore⟩ := List.find?_eq_some_iff_append.1 h
    have hordered := d.pairwise_indices index size
    have hmem := mem_indices_iff.2 ⟨hk.1, hbeyond⟩
    rw [heq] at hordered hmem
    rcases List.mem_append.1 hmem with hmem | hmem
    · exact absurd hk.2 (by simpa using hbefore k hmem)
    · refine (List.mem_cons.1 hmem).imp_right fun hafter => ?_
      have hlater := (List.pairwise_cons.1 (List.pairwise_append.1 hordered).2.1).1 k hafter
      exact (mem_indices_iff.1 hlater).2
  constructor
  · intro h
    obtain ⟨hsize, hbeyond⟩ := mem_indices_iff.1 (List.mem_of_find?_eq_some h)
    exact ⟨⟨hsize, List.find?_some h⟩, hbeyond, nearest h⟩
  · rintro ⟨hj, hbeyond, hnearest⟩
    have hsome := List.find?_isSome.2 ⟨j, mem_indices_iff.2 ⟨hj.1, hbeyond⟩, hj.2⟩
    obtain ⟨i, hi⟩ := Option.isSome_iff_exists.1 hsome
    obtain ⟨hisize, hibeyond⟩ := mem_indices_iff.1 (List.mem_of_find?_eq_some hi)
    -- Both are nearest, so neither lies beyond the other.
    rcases hnearest i ⟨hisize, List.find?_some hi⟩ hibeyond with rfl | hij
    · exact hi
    · rcases nearest hi j hj hbeyond with rfl | hji
      · exact hi
      · exact absurd hji hij.asymm

end Direction

namespace Tree

variable {t t' : Tree} {id n m c j k : Nat} {d : Direction}

/-! ## The way down -/

/-- The focus of the widget leads to `n`, at once or through others. -/
def OnPath (t : Tree) : Nat → Nat → Prop := ReflTransGen fun m c => t.focusedChild? m = some c

theorem OnPath.refl (t : Tree) (id : Nat) : t.OnPath id id := ReflTransGen.refl

theorem OnPath.head (hc : t.focusedChild? id = some c) (h : t.OnPath c n) : t.OnPath id n := ReflTransGen.head hc h

theorem OnPath.trans (h : t.OnPath id m) (h' : t.OnPath m n) : t.OnPath id n := ReflTransGen.trans h h'

theorem onPath_iff : t.OnPath id n ↔ n = id ∨ ∃ c, t.focusedChild? id = some c ∧ t.OnPath c n := by
  rw [OnPath, ReflTransGen.cases_head_iff, eq_comm]

theorem onPath_iff_of_child (hc : t.focusedChild? id = some c) : t.OnPath id n ↔ n = id ∨ t.OnPath c n := by
  rw [onPath_iff, hc]
  simp

theorem onPath_iff_of_none (h : t.focusedChild? id = none) : t.OnPath id n ↔ n = id := by
  rw [onPath_iff, h]
  simp

theorem OnPath.reaches (h : t.OnPath id n) : t.Reaches id n := by
  induction h with
  | refl => exact .refl t id
  | tail _ hc ih => exact ih.tail (mem_of_focusedChild? hc)

theorem onPath_focusedWithin (l id : Nat) : t.OnPath id (t.focusedWithin l id) := by
  induction l generalizing id with
  | zero => exact .refl t id
  | succ l ih =>
    rw [focusedWithin]
    cases hc : t.focusedChild? id with
    | none => exact .refl t id
    | some c => exact .head hc (ih c)

theorem onPath_focusedLeaf (t : Tree) (id : Nat) : t.OnPath id (t.focusedLeaf id) := onPath_focusedWithin ..

/-- From every widget on its way the focus leads to the same leaf. -/
theorem OnPath.focusedLeaf_eq (h : t.OnPath id n) (hlt : t.Ordered) : t.focusedLeaf id = t.focusedLeaf n := by
  induction h with
  | refl => rfl
  | tail _ hc ih => rw [ih, focusedLeaf_child hlt hc]

/-! ## The next child -/

/-- The child at the position can take the focus. -/
def Takes (t : Tree) (n j : Nat) : Prop := ∃ c, (t.children n)[j]? = some c ∧ t.isSelectable c

/-- Of the children that can take the focus, the one at `j` is the nearest in a direction from the one that has
it. -/
structure Next (t : Tree) (d : Direction) (n j : Nat) : Prop where
  takes : t.Takes n j
  beyond : d.Beyond (t.widget n).focusIndex j
  nearest : ∀ k, t.Takes n k → d.Beyond (t.widget n).focusIndex k → k = j ∨ d.Beyond j k

theorem takes_iff : t.Takes n j ↔
    j < (t.children n).length ∧ ((t.children n)[j]?.map t.isSelectable).getD false := by
  by_cases h : j < (t.children n).length
  · simp [Takes, h]
  · simp [Takes, h]

theorem takes_of_fixed (h : t'.fixed = t.fixed) : t'.Takes n j ↔ t.Takes n j := by
  simp only [Takes, children_eq_of_fixed h, isSelectable_of_fixed h]

theorem next_iff : t.Next d n j ↔ t.Takes n j ∧ d.Beyond (t.widget n).focusIndex j ∧
    ∀ k, t.Takes n k → d.Beyond (t.widget n).focusIndex k → k = j ∨ d.Beyond j k :=
  ⟨fun h => ⟨h.takes, h.beyond, h.nearest⟩, fun h => ⟨h.1, h.2.1, h.2.2⟩⟩

theorem find?_indices_eq_some_iff : (d.indices (t.widget n).focusIndex (t.children n).length).find?
    (fun index => ((t.children n)[index]?.map t.isSelectable).getD false) = some j ↔ t.Next d n j := by
  rw [Direction.find?_indices_eq_some, next_iff]
  simp only [takes_iff]

/-- A container moves its focus to the next child that can take it. -/
theorem moveFocus?_eq_some : t.moveFocus? n d = some t' ↔ ∃ j, t.Next d n j ∧ t' = t.setFocus n j := by
  rw [moveFocus?, Option.map_eq_some_iff]
  refine exists_congr fun j => and_congr ?_ eq_comm
  exact find?_indices_eq_some_iff

theorem moveFocus?_eq_none : t.moveFocus? n d = none ↔ ∀ j, ¬ t.Next d n j := by
  rw [Option.eq_none_iff_forall_ne_some]
  constructor
  · intro h j hj
    exact h _ (moveFocus?_eq_some.2 ⟨j, hj, rfl⟩)
  · intro h t' ht'
    obtain ⟨j, hj, -⟩ := moveFocus?_eq_some.1 ht'
    exact h j hj

/-- There is a next child as soon as any child in that direction can take the focus. -/
theorem exists_next_iff : (∃ j, t.Next d n j) ↔ ∃ j, t.Takes n j ∧ d.Beyond (t.widget n).focusIndex j := by
  constructor
  · rintro ⟨j, hj⟩
    exact ⟨j, hj.takes, hj.beyond⟩
  · rintro ⟨j, hj, hbeyond⟩
    obtain ⟨hsize, hsel⟩ := takes_iff.1 hj
    have hsome := List.find?_isSome (p := fun index => ((t.children n)[index]?.map t.isSelectable).getD false).2
      ⟨j, Direction.mem_indices_iff.2 ⟨hsize, hbeyond⟩, hsel⟩
    obtain ⟨k, hk⟩ := Option.isSome_iff_exists.1 hsome
    exact ⟨k, find?_indices_eq_some_iff.1 hk⟩

/-! ## Changes of one widget -/

/-- The trees are the same but for the widget `n`. -/
structure SameBut (t : Tree) (n : Nat) (t' : Tree) : Prop where
  size : t'.size = t.size
  about : ∀ i, t'.about i = t.about i
  widget : ∀ i, i ≠ n → t'.widget i = t.widget i

theorem about_modify (t : Tree) (id : Nat) (f : Widget → Widget) (i : Nat) : (t.modify id f).about i = t.about i := by
  rw [about, node_modify]
  split <;> rfl

theorem sameBut_modify (t : Tree) (n : Nat) (f : Widget → Widget) : t.SameBut n (t.modify n f) where
  size := size_modify ..
  about := about_modify t n f
  widget _ hi := widget_modify_of_ne hi f

/-- A tree is what its nodes are. -/
theorem ext_node (hs : t'.size = t.size) (h : ∀ id, t'.node id = t.node id) : t' = t := by
  have hn : t'.nodes = t.nodes := by
    refine Array.ext hs fun i hi hi' => ?_
    simpa [node, Array.getElem?_eq_getElem hi, Array.getElem?_eq_getElem hi'] using h i
  cases t'
  cases t
  exact congrArg _ hn

theorem modify_eq_self {f : Widget → Widget} (h : f (t.widget n) = t.widget n) : t.modify n f = t := by
  refine ext_node (size_modify ..) fun i => ?_
  rw [node_modify]
  split
  · next hi =>
    rw [hi.1, h]
    rfl
  · rfl

theorem modify_modify (t : Tree) (n : Nat) (w w' : Widget) :
    (t.modify n fun _ => w).modify n (fun _ => w') = t.modify n fun _ => w' := by
  refine ext_node (by simp) fun i => ?_
  simp only [node_modify, size_modify]
  split <;> rfl

/-- Changes of two widgets do not meet. -/
theorem modify_comm (t : Tree) {n m : Nat} (h : n ≠ m) (f g : Widget → Widget) :
    (t.modify n f).modify m g = (t.modify m g).modify n f := by
  refine ext_node (by simp) fun i => ?_
  simp only [node_modify, size_modify, widget]
  by_cases hn : i = n
  · subst hn
    simp [h]
  · by_cases hm : i = m
    · subst hm
      simp [Ne.symm h]
    · simp [hn, hm]

end Tree

end ScreenForm
