import Mathlib.Data.List.Nodup
import ScreenForm.Proofs.Widget.Shape
/-!
# Trees as forests

A tree of widgets is a forest with some tops when every widget but the tops is
the child of exactly one other, which was added after it. Then each widget is
reached from exactly one top, in exactly one way (`Forest.existsUnique_way`).
-/

namespace ScreenForm

namespace Tree

variable {t t' : Tree} {tops : List Nat}

/-- The children of all containers and wrappers. -/
def links (t : Tree) : List Nat :=
  (List.range t.size).flatMap t.children

theorem mem_links {n : Nat} : n ∈ t.links ↔ ∃ id, n ∈ t.children id := by
  simp only [links, List.mem_flatMap, List.mem_range]
  exact ⟨fun ⟨id, _, h⟩ => ⟨id, h⟩, fun ⟨id, h⟩ => ⟨id, lt_size_of_mem_children h, h⟩⟩

theorem links_add (t : Tree) (w : Widget) (m : Meta) : (t.add w m).links = t.links ++ w.children := by
  simp only [links, size_add, List.range_succ, List.flatMap_append, List.flatMap_singleton]
  congr 1
  · apply List.flatMap_congr
    intro id hid
    rw [(extends_add t w m).children (List.mem_range.1 hid)]
  · simp [children, widget]

theorem links_eq_of_fixed (h : t'.fixed = t.fixed) : t'.links = t.links := by
  rw [links, links, size_eq_of_fixed h]
  exact List.flatMap_congr fun id _ => children_eq_of_fixed h id

/-- Children are there before their parents. -/
def Ordered (t : Tree) : Prop := ∀ id, ∀ c ∈ t.children id, c < id

theorem Ordered.of_fixed (h : t.Ordered) (hf : t'.fixed = t.fixed) : t'.Ordered := fun id c hc =>
  h id c (children_eq_of_fixed hf id ▸ hc)

/-- All widgets hang below the tops, each in one place. -/
structure Forest (t : Tree) (tops : List Nat) : Prop where
  ordered : t.Ordered
  perm : (t.links ++ tops).Perm (List.range t.size)

/-- `t.Way r p n`: the widget `n` is reached from `r` through `p`, the widgets on the way with the
last one first. -/
inductive Way (t : Tree) (r : Nat) : List Nat → Nat → Prop
  | here : Way t r [] r
  | down {p : List Nat} {m n : Nat} : Way t r p m → n ∈ t.children m → Way t r (m :: p) n

/-- `n` is `r` or further down. -/
def Reaches (t : Tree) (r n : Nat) : Prop := ∃ p, t.Way r p n

/-- `n` is further down than `r`. -/
def Below (t : Tree) (r n : Nat) : Prop := ∃ p, p ≠ [] ∧ t.Way r p n

/-! ## Ways down -/

theorem Reaches.refl (t : Tree) (r : Nat) : t.Reaches r r := ⟨[], .here⟩

theorem Reaches.tail {r m n : Nat} (h : t.Reaches r m) (hn : n ∈ t.children m) : t.Reaches r n := by
  obtain ⟨p, hp⟩ := h
  exact ⟨m :: p, .down hp hn⟩

theorem Way.trans {r m n : Nat} {p q : List Nat} (h : t.Way r p m) (h' : t.Way m q n) : t.Way r (q ++ p) n := by
  induction h' with
  | here => exact h
  | down _ hn ih => exact .down ih hn

theorem Reaches.trans {r m n : Nat} (h : t.Reaches r m) (h' : t.Reaches m n) : t.Reaches r n := by
  obtain ⟨p, hp⟩ := h
  obtain ⟨q, hq⟩ := h'
  exact ⟨q ++ p, hp.trans hq⟩

theorem Reaches.head {r m n : Nat} (hm : m ∈ t.children r) (h : t.Reaches m n) : t.Reaches r n :=
  (Reaches.refl t r |>.tail hm).trans h

/-- A way down ends at its start or goes through one of its children. -/
theorem reaches_iff {r n : Nat} : t.Reaches r n ↔ n = r ∨ ∃ m ∈ t.children r, t.Reaches m n := by
  constructor
  · rintro ⟨p, hp⟩
    induction hp with
    | here => exact .inl rfl
    | @down p m n hp hn ih =>
      rcases ih with rfl | ⟨k, hk, hkm⟩
      · exact .inr ⟨n, hn, Reaches.refl t n⟩
      · exact .inr ⟨k, hk, hkm.tail hn⟩
  · rintro (rfl | ⟨m, hm, h⟩)
    · exact Reaches.refl t n
    · exact h.head hm

theorem below_iff {r n : Nat} : t.Below r n ↔ ∃ m, t.Reaches r m ∧ n ∈ t.children m := by
  constructor
  · rintro ⟨p, hne, hp⟩
    cases hp with
    | here => exact absurd rfl hne
    | down hp hn => exact ⟨_, ⟨_, hp⟩, hn⟩
  · rintro ⟨m, ⟨p, hp⟩, hn⟩
    exact ⟨m :: p, by simp, .down hp hn⟩

theorem below_iff_children {r n : Nat} : t.Below r n ↔ ∃ m ∈ t.children r, t.Reaches m n := by
  rw [below_iff]
  constructor
  · rintro ⟨m, hm, hn⟩
    rcases reaches_iff.1 hm with rfl | ⟨k, hk, hkm⟩
    · exact ⟨n, hn, Reaches.refl t n⟩
    · exact ⟨k, hk, hkm.tail hn⟩
  · rintro ⟨m, hm, p, hp⟩
    cases hp with
    | here => exact ⟨r, Reaches.refl t r, hm⟩
    | down hp hn => exact ⟨_, Reaches.head hm ⟨_, hp⟩, hn⟩

theorem Below.reaches {r n : Nat} (h : t.Below r n) : t.Reaches r n :=
  let ⟨p, _, hp⟩ := h; ⟨p, hp⟩

theorem Reaches.le (hlt : t.Ordered) {r n : Nat} (h : t.Reaches r n) : n ≤ r := by
  obtain ⟨p, hp⟩ := h
  induction hp with
  | here => exact Nat.le_refl _
  | down _ hn ih => exact Nat.le_trans (Nat.le_of_lt (hlt _ _ hn)) ih

theorem not_reaches_parent (hlt : t.Ordered) {id c : Nat} (hc : c ∈ t.children id) : ¬ t.Reaches c id := fun h =>
  Nat.not_le_of_gt (hlt id c hc) (h.le hlt)

/-! ## Forests -/

namespace Forest

theorem nodup (h : t.Forest tops) : (t.links ++ tops).Nodup :=
  h.perm.nodup_iff.2 List.nodup_range

theorem mem_iff (h : t.Forest tops) {n : Nat} : n ∈ t.links ∨ n ∈ tops ↔ n < t.size := by
  rw [← List.mem_append, h.perm.mem_iff, List.mem_range]

theorem not_mem_tops (h : t.Forest tops) {m n : Nat} (hn : n ∈ t.children m) : n ∉ tops :=
  (List.nodup_append'.1 h.nodup).2.2 (mem_links.2 ⟨m, hn⟩)

theorem lt_size (h : t.Forest tops) {m n : Nat} (hn : n ∈ t.children m) : n < t.size :=
  h.mem_iff.1 (.inl (mem_links.2 ⟨m, hn⟩))

/-- Each widget that is no top stands once among the children of all widgets, and a top never. -/
theorem count_links (h : t.Forest tops) {n : Nat} (hn : n < t.size) :
    t.links.count n = if n ∈ tops then 0 else 1 := by
  have hc : (t.links ++ tops).count n = 1 := List.count_eq_one_of_mem h.nodup (h.perm.mem_iff.2 (List.mem_range.2 hn))
  rw [List.count_append] at hc
  split
  · next ht =>
    have := List.count_pos_iff.2 ht
    omega
  · next ht =>
    rw [List.count_eq_zero_of_not_mem ht] at hc
    exact hc

theorem nodup_children (h : t.Forest tops) (id : Nat) : (t.children id).Nodup := by
  by_cases hid : id < t.size
  · exact (List.nodup_flatMap.1 (List.nodup_append'.1 h.nodup).1).1 id (List.mem_range.2 hid)
  · rw [children_of_size_le (Nat.le_of_not_lt hid)]
    exact List.nodup_nil

theorem parent_unique (h : t.Forest tops) {m m' n : Nat} (hm : n ∈ t.children m) (hm' : n ∈ t.children m') :
    m = m' := by
  -- With two parents it would stand twice among the links, which are all different.
  have hd := (List.nodup_flatMap.1 (List.nodup_append'.1 h.nodup).1).2
  have disjoint : ∀ i j, i < j → n ∈ t.children i → n ∈ t.children j → False := by
    intro i j hij hi hj
    have hjs := lt_size_of_mem_children hj
    have := List.pairwise_iff_getElem.1 hd i j (by simp; omega) (by simpa using hjs) hij
    simp only [List.getElem_range] at this
    exact this hi hj
  rcases Nat.lt_trichotomy m m' with hlt | rfl | hlt
  · exact (disjoint m m' hlt hm hm').elim
  · rfl
  · exact (disjoint m' m hlt hm' hm).elim

/-- No widget is below two children of another. -/
theorem eq_of_reaches (h : t.Forest tops) {id c c' n : Nat} (hc : c ∈ t.children id) (hc' : c' ∈ t.children id)
    (hn : t.Reaches c n) (hn' : t.Reaches c' n) : c = c' := by
  obtain ⟨p, hp⟩ := hn
  -- Going back from `n`, the parents are the same on both ways, until one of the children is reached.
  induction hp with
  | here =>
    obtain ⟨p', hp'⟩ := hn'
    cases hp' with
    | here => rfl
    | down hm hn =>
      obtain rfl := h.parent_unique hn hc
      exact absurd ⟨_, hm⟩ (not_reaches_parent h.ordered hc')
  | down hm hn ih =>
    obtain ⟨p', hp'⟩ := hn'
    cases hp' with
    | here =>
      obtain rfl := h.parent_unique hn hc'
      exact absurd ⟨_, hm⟩ (not_reaches_parent h.ordered hc)
    | down hm' hn' =>
      obtain rfl := h.parent_unique hn hn'
      exact ih ⟨_, hm'⟩

/-- Ways from tops to one widget are the same. -/
theorem way_unique (h : t.Forest tops) {r r' n : Nat} {p p' : List Nat} (hr : r ∈ tops) (hr' : r' ∈ tops)
    (hp : t.Way r p n) (hp' : t.Way r' p' n) : r = r' ∧ p = p' := by
  -- Both ways are taken back step by step; at a top, neither goes on, as a top is no child.
  induction hp generalizing p' with
  | here =>
    cases hp' with
    | here => exact ⟨rfl, rfl⟩
    | down _ hn => exact absurd hr (h.not_mem_tops hn)
  | down _ hn ih =>
    cases hp' with
    | here => exact absurd hr' (h.not_mem_tops hn)
    | down hp' hn' =>
      obtain rfl := h.parent_unique hn hn'
      obtain ⟨rfl, rfl⟩ := ih hp'
      exact ⟨rfl, rfl⟩

/-- A parent has a larger number than its child, so going up from a widget comes to a top. -/
theorem exists_way (h : t.Forest tops) {n : Nat} (hn : n < t.size) : ∃ r ∈ tops, ∃ p, t.Way r p n := by
  rcases h.mem_iff.2 hn with hl | ht
  · obtain ⟨m, hm⟩ := mem_links.1 hl
    have hlt := h.ordered m n hm
    have hms := lt_size_of_mem_children hm
    obtain ⟨r, hr, p, hp⟩ := h.exists_way hms
    exact ⟨r, hr, m :: p, .down hp hm⟩
  · exact ⟨n, ht, [], .here⟩
termination_by t.size - n

/-- Each widget is reached from one top in one way. -/
theorem existsUnique_way (h : t.Forest tops) {n : Nat} (hn : n < t.size) :
    ∃! q : Nat × List Nat, q.1 ∈ tops ∧ t.Way q.1 q.2 n := by
  obtain ⟨r, hr, p, hp⟩ := h.exists_way hn
  refine ⟨(r, p), ⟨hr, hp⟩, ?_⟩
  rintro ⟨r', p'⟩ ⟨hr', hp'⟩
  obtain ⟨rfl, rfl⟩ := h.way_unique hr' hr hp' hp
  rfl

theorem congr {tops' : List Nat} (h : t.Forest tops) (hp : tops.Perm tops') : t.Forest tops' :=
  ⟨h.ordered, (hp.symm.append_left _).trans h.perm⟩

theorem of_fixed (h : t.Forest tops) (ht : t'.fixed = t.fixed) : t'.Forest tops where
  ordered := h.ordered.of_fixed ht
  perm := by
    rw [links_eq_of_fixed ht, size_eq_of_fixed ht]
    exact h.perm

/-- A widget that is added takes tops below it and is a top itself. -/
theorem add {w : Widget} (h : t.Forest (w.children ++ tops)) (m : Meta) : (t.add w m).Forest (t.size :: tops) where
  ordered id c hc := by
    simp only [children, widget, node_add] at hc
    split at hc
    · next hid =>
      rw [hid]
      exact h.mem_iff.1 (.inr (List.mem_append_left _ hc))
    · exact h.ordered id c hc
  perm := by
    -- The children of the new widget go from the tops to the links, and its own number is one more.
    rw [links_add, size_add, List.range_succ, List.append_assoc]
    have hp : (w.children ++ t.size :: tops).Perm ((w.children ++ tops) ++ [t.size]) := by
      rw [List.append_assoc]
      exact (List.perm_append_singleton t.size tops).symm.append_left _
    refine (hp.append_left _).trans ?_
    rw [← List.append_assoc]
    exact h.perm.append_right _

end Forest

/-! ## Walks -/

/-- A widget and those below it on this many levels, each before its children. -/
def walkWithin (t : Tree) : Nat → Nat → List Nat
  | 0, _ => []
  | levels + 1, id => id :: (t.children id).flatMap (t.walkWithin levels)

/-- A widget and those below it, each before its children. -/
def walk (t : Tree) (id : Nat) : List Nat :=
  t.walkWithin t.size id

theorem walkWithin_eq (hlt : t.Ordered) {l l' id : Nat} (h : id < l) (h' : id < l') :
    t.walkWithin l id = t.walkWithin l' id := by
  induction l generalizing l' id with
  | zero => omega
  | succ l ih =>
    obtain ⟨l', rfl⟩ : ∃ k, l' = k + 1 := ⟨l' - 1, by omega⟩
    simp only [walkWithin, List.cons.injEq, true_and]
    apply List.flatMap_congr
    intro c hc
    have := hlt id c hc
    exact ih (by omega) (by omega)

/-- Levels never run out on the way down from a widget of the tree. -/
theorem walk_eq (hlt : t.Ordered) {id : Nat} (h : id < t.size) :
    t.walk id = id :: (t.children id).flatMap t.walk := by
  rw [walk, walkWithin_eq hlt h (Nat.lt_succ_of_lt h), walkWithin]
  rfl

theorem mem_walk (hlt : t.Ordered) {id n : Nat} (h : id < t.size) :
    n ∈ t.walk id ↔ t.Reaches id n := by
  induction id using Nat.strongRecOn with
  | _ id ih =>
    rw [walk_eq hlt h, List.mem_cons, List.mem_flatMap, reaches_iff]
    constructor
    · rintro (rfl | ⟨c, hc, hn⟩)
      · exact .inl rfl
      · exact .inr ⟨c, hc, (ih c (hlt id c hc) (Nat.lt_trans (hlt id c hc) h)).1 hn⟩
    · rintro (rfl | ⟨c, hc, hn⟩)
      · exact .inl rfl
      · exact .inr ⟨c, hc, (ih c (hlt id c hc) (Nat.lt_trans (hlt id c hc) h)).2 hn⟩

end Tree

end ScreenForm
