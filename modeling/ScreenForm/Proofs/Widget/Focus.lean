import Mathlib.Data.List.Basic
import ScreenForm.Proofs.Widget.Wrapper
/-!
# Focus that leads to a widget

A container attends if its focus is on a child that can take it, where it has
such a child. Where all containers attend, the focus leads to a widget that can
have it (`focused?_isSome_iff`), and whatever a key or a step does to a tree,
containers that attend go on attending (`Careful`).
-/

namespace ScreenForm

namespace Tree

variable {t t' t'' : Tree}

/-- If a child of the widget can take the focus, the child that has it can. -/
def Attends (t : Tree) (id : Nat) : Prop :=
  (∃ c ∈ t.children id, t.isSelectable c) → ∃ c, t.focusedChild? id = some c ∧ t.isSelectable c

/-- The widgets stay, and those that attend still do. -/
structure Careful (t t' : Tree) : Prop where
  fixed : t'.fixed = t.fixed
  attends : ∀ id, t.Attends id → t'.Attends id

theorem Careful.refl (t : Tree) : t.Careful t := ⟨rfl, fun _ h => h⟩

theorem Careful.trans (h : t.Careful t') (h' : t'.Careful t'') : t.Careful t'' :=
  ⟨h'.fixed.trans h.fixed, fun id hid => h'.attends id (h.attends id hid)⟩

/-! ## Widgets that can take the focus -/

theorem isSelectableWithin_of_fixed (h : t'.fixed = t.fixed) (l id : Nat) :
    t'.isSelectableWithin l id = t.isSelectableWithin l id := by
  induction l generalizing id with
  | zero => rfl
  | succ l ih =>
    simp only [isSelectableWithin, isFocusable_eq_of_fixed h, children_eq_of_fixed h]
    rw [funext ih]

theorem isSelectable_of_fixed (h : t'.fixed = t.fixed) (id : Nat) : t'.isSelectable id = t.isSelectable id := by
  rw [isSelectable, isSelectable, size_eq_of_fixed h, isSelectableWithin_of_fixed h]

theorem isSelectableWithin_iff (hlt : t.Ordered) {l id : Nat} (h : id < l) :
    t.isSelectableWithin l id ↔ ∃ n, t.Reaches id n ∧ (t.widget n).isFocusable := by
  induction l generalizing id with
  | zero => omega
  | succ l ih =>
    simp only [isSelectableWithin, Bool.or_eq_true, List.any_eq_true]
    constructor
    · rintro (hf | ⟨c, hc, hs⟩)
      · exact ⟨id, .refl t id, hf⟩
      · have := hlt id c hc
        obtain ⟨n, hn, hf⟩ := (ih (by omega)).1 hs
        exact ⟨n, hn.head hc, hf⟩
    · rintro ⟨n, hn, hf⟩
      rcases reaches_iff.1 hn with rfl | ⟨c, hc, hn⟩
      · exact .inl hf
      · have := hlt id c hc
        exact .inr ⟨c, hc, (ih (by omega)).2 ⟨n, hn, hf⟩⟩

/-- A widget can take the focus if one from it down is made for that. -/
theorem isSelectable_iff (hlt : t.Ordered) {id : Nat} (h : id < t.size) :
    t.isSelectable id ↔ ∃ n, t.Reaches id n ∧ (t.widget n).isFocusable :=
  isSelectableWithin_iff hlt h

/-! ## Where the focus leads to -/

theorem mem_of_focusedChild? {id c : Nat} (h : t.focusedChild? id = some c) : c ∈ t.children id :=
  List.mem_of_getElem? h

theorem focusedWithin_eq (hlt : t.Ordered) {l l' id : Nat} (h : id < l) (h' : id < l') :
    t.focusedWithin l id = t.focusedWithin l' id := by
  induction l generalizing l' id with
  | zero => omega
  | succ l ih =>
    obtain ⟨l', rfl⟩ : ∃ k, l' = k + 1 := ⟨l' - 1, by omega⟩
    simp only [focusedWithin]
    cases hc : t.focusedChild? id with
    | none => rfl
    | some c =>
      have := hlt id c (mem_of_focusedChild? hc)
      exact ih (by omega) (by omega)

theorem focusedLeaf_child (hlt : t.Ordered) {id c : Nat} (h : t.focusedChild? id = some c) :
    t.focusedLeaf id = t.focusedLeaf c := by
  have hid := lt_size_of_mem_children (mem_of_focusedChild? h)
  rw [focusedLeaf, focusedWithin_eq hlt hid (Nat.lt_succ_of_lt hid), focusedWithin, h]
  rfl

theorem focusedLeaf_self {id : Nat} (h : t.focusedChild? id = none) : t.focusedLeaf id = id := by
  unfold focusedLeaf
  cases t.size with
  | zero => rfl
  | succ l => simp [focusedWithin, h]

theorem reaches_focusedWithin (l id : Nat) : t.Reaches id (t.focusedWithin l id) := by
  induction l generalizing id with
  | zero => exact .refl t id
  | succ l ih =>
    simp only [focusedWithin]
    cases hc : t.focusedChild? id with
    | none => exact .refl t id
    | some c => exact (ih c).head (mem_of_focusedChild? hc)

theorem focused?_eq_some {id n : Nat} : t.focused? id = some n ↔ t.focusedLeaf id = n ∧ (t.widget n).isFocusable := by
  simp only [focused?]
  split
  · next h =>
    simp only [Option.some.injEq]
    exact ⟨fun hn => ⟨hn, hn ▸ h⟩, fun hn => hn.1⟩
  · next h =>
    simp only [reduceCtorEq, false_iff]
    rintro ⟨rfl, hf⟩
    exact h hf

theorem reaches_focused? {id n : Nat} (h : t.focused? id = some n) : t.Reaches id n :=
  (focused?_eq_some.1 h).1 ▸ reaches_focusedWithin ..

theorem focused?_child (hlt : t.Ordered) {id c : Nat} (h : t.focusedChild? id = some c) :
    t.focused? id = t.focused? c := by
  simp only [focused?, focusedLeaf_child hlt h]

/-- The focus goes through wrappers. -/
theorem focused?_unwrap (hlt : t.Ordered) (id : Nat) : t.focused? (t.unwrap id) = t.focused? id := by
  induction id using Nat.strongRecOn with
  | _ id ih =>
    by_cases hw : ∃ wrapping child, t.widget id = .wrapper wrapping child
    · obtain ⟨wrapping, child, hw⟩ := hw
      have hc : t.focusedChild? id = some child := by
        simp [focusedChild?, children, hw, Widget.children, Widget.focusIndex]
      rw [unwrap_wrapper hlt hw, focused?_child hlt hc, ih child (hlt id child (mem_of_focusedChild? hc))]
    · rw [unwrap_of_ne fun wrapping child hc => hw ⟨wrapping, child, hc⟩]

/-- Where all containers attend, the focus finds a widget that can have it. -/
theorem isFocusable_focusedLeaf (hlt : t.Ordered) {id : Nat} (hid : id < t.size)
    (ha : ∀ n, t.Reaches id n → t.Attends n) (hs : t.isSelectable id) : (t.widget (t.focusedLeaf id)).isFocusable := by
  induction id using Nat.strongRecOn with
  | _ id ih =>
    obtain ⟨n, hn, hf⟩ := (isSelectable_iff hlt hid).1 hs
    rcases reaches_iff.1 hn with rfl | ⟨c, hc, hn⟩
    · rw [focusedLeaf_self (by simp [focusedChild?, children, Widget.children_eq_nil hf])]
      exact hf
    · have hcs : c < t.size := Nat.lt_trans (hlt id c hc) hid
      obtain ⟨k, hk, hks⟩ := ha id (.refl t id) ⟨c, hc, (isSelectable_iff hlt hcs).2 ⟨n, hn, hf⟩⟩
      have hkid := hlt id k (mem_of_focusedChild? hk)
      rw [focusedLeaf_child hlt hk]
      exact ih k hkid (Nat.lt_trans hkid hid) (fun m hm => ha m (hm.head (mem_of_focusedChild? hk))) hks

/-- Where all containers attend, there is a focused widget exactly if there is one that can be. -/
theorem focused?_isSome_iff (hlt : t.Ordered) {id : Nat} (hid : id < t.size)
    (ha : ∀ n, t.Reaches id n → t.Attends n) :
    (t.focused? id).isSome ↔ ∃ n, t.Reaches id n ∧ (t.widget n).isFocusable := by
  constructor
  · intro h
    obtain ⟨n, hn⟩ := Option.isSome_iff_exists.1 h
    exact ⟨n, reaches_focused? hn, (focused?_eq_some.1 hn).2⟩
  · intro h
    have hf := isFocusable_focusedLeaf hlt hid ha ((isSelectable_iff hlt hid).2 h)
    simp [focused?, hf]

/-! ## Moving the focus -/

theorem focusedChild?_of_agrees (h : t.Agrees t') (id : Nat) : t'.focusedChild? id = t.focusedChild? id := by
  rw [focusedChild?, focusedChild?, children_eq_of_fixed h.fixed, h.focusIndex]

theorem Agrees.careful (h : t.Agrees t') : t.Careful t' where
  fixed := h.fixed
  attends id hid := by
    intro hs
    simp only [children_eq_of_fixed h.fixed, isSelectable_of_fixed h.fixed] at hs
    obtain ⟨c, hc, hcs⟩ := hid hs
    exact ⟨c, by rw [focusedChild?_of_agrees h, hc], by rw [isSelectable_of_fixed h.fixed, hcs]⟩

/-- Moving the focus of a container to a child that can take it is no harm. -/
theorem careful_setFocus {id index c : Nat} (hcon : (t.widget id).isContainer) (hc : (t.children id)[index]? = some c)
    (hs : t.isSelectable c) : t.Careful (t.setFocus id index) where
  fixed := fixed_setFocus ..
  attends i hi := by
    intro hsel
    have hf := fixed_setFocus t id index
    simp only [children_eq_of_fixed hf, isSelectable_of_fixed hf] at hsel ⊢
    have hlt := lt_size_of_mem_children (List.mem_of_getElem? hc)
    -- The container itself has its focus on `c` now, and all others keep theirs.
    by_cases hid : i = id
    · subst hid
      refine ⟨c, ?_, hs⟩
      rw [focusedChild?, children_eq_of_fixed hf, setFocus, widget_modify_self hlt,
        Widget.focusIndex_setFocusIndex hcon, hc]
    · obtain ⟨k, hk, hks⟩ := hi hsel
      refine ⟨k, ?_, hks⟩
      rw [focusedChild?, children_eq_of_fixed hf, setFocus, widget_modify_of_ne hid]
      exact hk

theorem careful_moveFocus? {id : Nat} {d : Direction} (hcon : (t.widget id).isContainer)
    (h : t.moveFocus? id d = some t') : t.Careful t' := by
  obtain ⟨index, hfind, rfl⟩ := Option.map_eq_some_iff.1 h
  have hsel := List.find?_some hfind
  cases hc : (t.widget id).children[index]? with
  | none => simp [hc] at hsel
  | some c => exact careful_setFocus hcon hc (by simpa [hc] using hsel)

theorem careful_navigate (t : Tree) (id : Nat) (key : Key) : t.Careful (t.navigate id key).1 := by
  unfold navigate
  split
  · next hw =>
    split
    · next moved hm =>
      obtain ⟨d, -, hm⟩ := Option.bind_eq_some_iff.1 hm
      exact careful_moveFocus? (by rw [hw, Widget.isContainer]) hm
    · exact .refl t
  · exact .refl t

theorem agrees_activate? {id : Nat} (h : t.activate? id = some t') : t.Agrees t' := by
  unfold activate? at h
  split at h
  · cases h
    exact .refl t
  · next hw =>
    cases h
    exact agrees_modify (by rw [hw]; rfl) (by rw [hw]; rfl)
  · next hw =>
    have hm : t.Agrees (t.modify id fun _ => .radioButton _ true _) :=
      agrees_modify (by rw [hw]; rfl) (by rw [hw]; rfl)
    dsimp only at h
    split at h
    · cases h
      exact hm.trans (agrees_clearGroup ..)
    · cases h
      exact hm
  · cases h

theorem Edit.fixed_press? {e e' : Edit} {key : Key} (h : e.press? key = some e') :
    (Widget.edit e').fixed = (Widget.edit e).fixed := by
  rcases Edit.press?_cases h with ⟨before, after, rfl⟩ | ⟨cursor, -, rfl⟩ <;> rfl

theorem agrees_pressLeaf (t : Tree) (id : Nat) (key : Key) : t.Agrees (t.pressLeaf id key).1 := by
  unfold pressLeaf
  split
  · next field hw =>
    dsimp only
    split
    · next changed hp =>
      dsimp only
      exact agrees_modify (by rw [hw, Edit.fixed_press? hp]; rfl) (by rw [hw]; rfl)
    · dsimp only
      exact agrees_modify (by rw [hw]; rfl) (by rw [hw]; rfl)
  · split
    · split
      · next hp => exact agrees_activate? hp
      · exact .refl t
    · exact .refl t

theorem careful_keypressWithin (t : Tree) (key : Key) (l id : Nat) : t.Careful (t.keypressWithin key l id).1 := by
  induction l generalizing id with
  | zero => exact .refl t
  | succ l ih =>
    unfold keypressWithin
    split
    · next child hc =>
      dsimp only
      split
      · exact (ih child).trans (careful_navigate ..)
      · exact ih child
    · split
      · exact careful_navigate ..
      · exact (agrees_pressLeaf t id key).careful

/-- A key may change texts, checks and focus, and leaves every container with its focus. -/
theorem careful_keypress (t : Tree) (id : Nat) (key : Key) : t.Careful (t.keypress id key).1 :=
  careful_keypressWithin ..

/-! ## What is pressed -/

theorem isClickable_of_activate? {id : Nat} (h : t.activate? id = some t') : (t.widget id).isClickable := by
  unfold activate? at h
  split at h
  · next hw => rw [hw]; rfl
  · next hw => rw [hw]; rfl
  · next hw => rw [hw]; rfl
  · cases h

theorem isClickable_of_pressLeaf {id n : Nat} {key : Key} (h : (t.pressLeaf id key).2 = .pressed n) :
    (t.widget n).isClickable := by
  unfold pressLeaf at h
  split at h
  · dsimp only at h
    split at h <;> cases h
  · split at h
    · split at h
      · next hp =>
        cases h
        exact isClickable_of_activate? hp
      · cases h
    · cases h

theorem navigate_ne_pressed (t : Tree) (id n : Nat) (key : Key) : (t.navigate id key).2 ≠ .pressed n := by
  unfold navigate
  split
  · split <;> nofun
  · nofun

theorem isClickable_of_keypressWithin {key : Key} {l id n : Nat} (h : (t.keypressWithin key l id).2 = .pressed n) :
    (t.widget n).isClickable := by
  induction l generalizing id with
  | zero => cases h
  | succ l ih =>
    unfold keypressWithin at h
    split at h
    · dsimp only at h
      split at h
      · exact absurd h (navigate_ne_pressed _ _ _ _)
      · exact ih h
    · split at h
      · exact absurd h (navigate_ne_pressed _ _ _ _)
      · exact isClickable_of_pressLeaf h

/-- A key only presses what can be pressed. -/
theorem isClickable_of_keypress {key : Key} {id n : Nat} (h : (t.keypress id key).2 = .pressed n) :
    (t.widget n).isClickable :=
  isClickable_of_keypressWithin h

/-! ## Steps through the whole form -/

theorem fixed_stepFocus? {root : Nat} {d : Direction} (h : t.stepFocus? root d = some t') : t'.fixed = t.fixed := by
  obtain ⟨list, -, h⟩ := Option.bind_eq_some_iff.1 h
  obtain ⟨index, -, h⟩ := List.exists_of_findSome?_eq_some h
  dsimp only at h
  split at h <;> cases h
  exact fixed_setFocus ..

/-- A step goes only where the focus leads to a widget that can have it. -/
theorem careful_stepFocus? (hlt : t.Ordered) {root : Nat} {d : Direction} (h : t.stepFocus? root d = some t') :
    t.Careful t' := by
  obtain ⟨list, hlist, h⟩ := Option.bind_eq_some_iff.1 h
  obtain ⟨index, -, h⟩ := List.exists_of_findSome?_eq_some h
  obtain ⟨hcon, rfl⟩ : (t.widget (t.unwrap root)).isContainer ∧ t.unwrap root = list := by
    unfold outermost? at hlist
    dsimp only at hlist
    split at hlist
    · next hcon => exact ⟨hcon, Option.some.inj hlist⟩
    · cases hlist
  dsimp only at h
  split at h
  · next hsome =>
    cases h
    have hf := fixed_setFocus t (t.unwrap root) index
    have hlt' : (t.setFocus (t.unwrap root) index).Ordered := hlt.of_fixed hf
    rw [← focused?_unwrap hlt', unwrap_of_fixed hf] at hsome
    obtain ⟨n, hn⟩ := Option.isSome_iff_exists.1 hsome
    obtain ⟨hleaf, hfoc⟩ := focused?_eq_some.1 hn
    cases hc : (t.setFocus (t.unwrap root) index).focusedChild? (t.unwrap root) with
    | none =>
      -- The focus would end at the container, which cannot have it.
      rw [focusedLeaf_self hc] at hleaf
      rw [← hleaf, isFocusable_eq_of_fixed hf, Widget.isFocusable_of_isContainer hcon] at hfoc
      cases hfoc
    | some c =>
      have hid := lt_size_of_mem_children (mem_of_focusedChild? hc)
      have hmem : (t.children (t.unwrap root))[index]? = some c := by
        rw [focusedChild?, setFocus, widget_modify_self (by simpa [setFocus] using hid),
          Widget.focusIndex_setFocusIndex hcon, ← setFocus, children_eq_of_fixed hf] at hc
        exact hc
      refine careful_setFocus hcon hmem ?_
      rw [← isSelectable_of_fixed hf, isSelectable_iff hlt' (Nat.lt_trans (hlt' _ c (mem_of_focusedChild? hc)) hid)]
      rw [focusedLeaf_child hlt' hc] at hleaf
      exact ⟨n, hleaf ▸ reaches_focusedWithin .., hfoc⟩
  · cases h

/-! ## The first focus -/

/-- The focus of every container is on its first child that can take it, if there is one. -/
def FocusesFirst (t : Tree) : Prop :=
  ∀ id, (t.widget id).focusIndex = t.firstSelectable (t.children id)

theorem getElem?_firstSelectable {children : List Nat} (h : ∃ c ∈ children, t.isSelectable c) :
    ∃ c, children[t.firstSelectable children]? = some c ∧ t.isSelectable c := by
  unfold firstSelectable
  cases hi : children.findIdx? t.isSelectable with
  | none =>
    obtain ⟨c, hc, hs⟩ := h
    exact absurd hs (by simp [List.findIdx?_eq_none_iff.1 hi c hc])
  | some i =>
    obtain ⟨hlt, hs, -⟩ := List.findIdx?_eq_some_iff_getElem.1 hi
    exact ⟨children[i], by simp, hs⟩

theorem FocusesFirst.attends (h : t.FocusesFirst) (id : Nat) : t.Attends id := by
  intro hs
  rw [focusedChild?, h id]
  exact getElem?_firstSelectable hs

/-- While the focus of every container is on its first child that can take it, the focused widget is
the first one of a walk that can have the focus. -/
theorem FocusesFirst.focused?_eq (h : t.FocusesFirst) (hlt : t.Ordered) {id : Nat}
    (hid : id < t.size) : t.focused? id = (t.walk id).find? fun n => (t.widget n).isFocusable := by
  induction id using Nat.strongRecOn with
  | _ id ih =>
    have hchild {c : Nat} (hc : c ∈ t.children id) :
        t.focused? c = (t.walk c).find? fun n => (t.widget n).isFocusable :=
      ih c (hlt id c hc) (Nat.lt_trans (hlt id c hc) hid)
    rw [walk_eq hlt hid, List.find?_cons]
    cases hf : (t.widget id).isFocusable with
    | true =>
      have hleaf : t.focusedLeaf id = id :=
        focusedLeaf_self (by simp [focusedChild?, children, Widget.children_eq_nil hf])
      exact focused?_eq_some.2 ⟨hleaf, hf⟩
    | false =>
      have hnone {c : Nat} (hc : c ∈ t.children id) (hs : ¬ t.isSelectable c) : t.focused? c = none := by
        have hcs := Nat.lt_trans (hlt id c hc) hid
        rw [isSelectable_iff hlt hcs, ← focused?_isSome_iff hlt hcs fun n _ => h.attends n] at hs
        simpa using hs
      rw [List.find?_flatMap]
      cases hi : (t.children id).findIdx? t.isSelectable with
      | none =>
        -- No child can take the focus: wherever the container has it, it leads to nothing.
        have hall := List.findIdx?_eq_none_iff.1 hi
        have hwalk : (t.children id).findSome? (fun c => (t.walk c).find? fun n => (t.widget n).isFocusable) = none :=
          List.findSome?_eq_none_iff.2 fun c hc => (hchild hc).symm.trans (hnone hc (by simp [hall c hc]))
        rw [hwalk]
        cases hc : t.focusedChild? id with
        | none => simp [focused?, focusedLeaf_self hc, hf]
        | some c =>
          have hmem := mem_of_focusedChild? hc
          rw [focused?_child hlt hc, hnone hmem (by simp [hall c hmem])]
      | some i =>
        -- The walks of the children before this one meet no widget that can have the focus.
        obtain ⟨hi', hs, hbefore⟩ := List.findIdx?_eq_some_iff_getElem.1 hi
        have hmem : (t.children id)[i] ∈ t.children id := List.getElem_mem hi'
        have hcs := Nat.lt_trans (hlt id _ hmem) hid
        have hc : t.focusedChild? id = some (t.children id)[i] := by
          simp [focusedChild?, h id, firstSelectable, hi, List.getElem?_eq_getElem hi']
        obtain ⟨n, hn⟩ := Option.isSome_iff_exists.1
          ((focused?_isSome_iff hlt hcs fun n _ => h.attends n).2 ((isSelectable_iff hlt hcs).1 hs))
        rw [focused?_child hlt hc, hn]
        refine (List.findSome?_eq_some_iff.2 ⟨(t.children id).take i, _, (t.children id).drop (i + 1), by simp,
          (hchild hmem).symm.trans hn, fun c hc => ?_⟩).symm
        obtain ⟨j, hj, rfl⟩ := List.mem_take_iff_getElem.1 hc
        have hjmem : (t.children id)[j] ∈ t.children id := List.getElem_mem _
        exact (hchild hjmem).symm.trans (hnone hjmem (hbefore j (by omega)))

/-! ## Trees that grow -/

theorem Extends.reaches_iff (h : t.Extends t') (hlt : t.Ordered) {id n : Nat} (hid : id < t.size) :
    t'.Reaches id n ↔ t.Reaches id n := by
  induction id using Nat.strongRecOn with
  | _ id ih =>
    rw [Tree.reaches_iff, Tree.reaches_iff, h.children hid]
    have hchild {c : Nat} (hc : c ∈ t.children id) : t'.Reaches c n ↔ t.Reaches c n :=
      ih c (hlt id c hc) (Nat.lt_trans (hlt id c hc) hid)
    exact or_congr_right (exists_congr fun c => and_congr_right fun hc => hchild hc)

theorem Extends.isSelectable (h : t.Extends t') (hlt : t.Ordered) (hlt' : t'.Ordered) {id : Nat} (hid : id < t.size) :
    t'.isSelectable id = t.isSelectable id := by
  rw [Bool.eq_iff_iff, isSelectable_iff hlt hid, isSelectable_iff hlt' (Nat.lt_of_lt_of_le hid h.1)]
  refine exists_congr fun n => ?_
  rw [h.reaches_iff hlt hid]
  refine and_congr_right fun hn => ?_
  rw [h.isFocusable (Nat.lt_of_le_of_lt (hn.le hlt) hid)]

/-- A widget of the tree that takes no focus, and none below it does. -/
structure Quiet (t : Tree) (id : Nat) : Prop where
  lt : id < t.size
  isSelectable : t.isSelectable id = false

theorem Quiet.grows {id : Nat} (h : t.Quiet id) (ht : t.Extends t') (hlt : t.Ordered) (hlt' : t'.Ordered) :
    t'.Quiet id where
  lt := Nat.lt_of_lt_of_le h.lt ht.1
  isSelectable := by rw [ht.isSelectable hlt hlt' h.lt, h.isSelectable]

/-- All children are there before their parents, and all containers attend. -/
structure Attentive (t : Tree) : Prop where
  ordered : t.Ordered
  attends : ∀ id, t.Attends id

theorem Attentive.careful (h : t.Attentive) (hc : t.Careful t') : t'.Attentive where
  ordered := h.ordered.of_fixed hc.fixed
  attends id := hc.attends id (h.attends id)

theorem Ordered.add (hlt : t.Ordered) {w : Widget} (hw : ∀ c ∈ w.children, c < t.size) (m : Meta) :
    (t.add w m).Ordered := by
  intro id c hc
  simp only [children, widget, node_add] at hc
  split at hc
  · next hid => exact hid ▸ hw c hc
  · exact hlt id c hc

theorem widget_add_self (t : Tree) (w : Widget) (m : Meta) : (t.add w m).widget t.size = w := by
  simp [widget]

/-- A widget with its focus on a child that can take it, if it has such a child, can be added. -/
theorem Attentive.add (h : t.Attentive) {w : Widget} (hw : ∀ c ∈ w.children, c < t.size)
    (ha : (∃ c ∈ w.children, t.isSelectable c) → ∃ c, w.children[w.focusIndex]? = some c ∧ t.isSelectable c) (m : Meta) :
    (t.add w m).Attentive where
  ordered := h.ordered.add hw m
  attends id := by
    have hext := extends_add t w m
    have hsel {c : Nat} (hc : c < t.size) : (t.add w m).isSelectable c = t.isSelectable c :=
      hext.isSelectable h.ordered (h.ordered.add hw m) hc
    rintro ⟨c, hc, hs⟩
    -- An old widget attends as before, the new one by `ha`, and there is none behind it.
    rcases Nat.lt_trichotomy id t.size with hid | rfl | hid
    · rw [hext.children hid] at hc
      rw [hsel (Nat.lt_trans (h.ordered id c hc) hid)] at hs
      obtain ⟨k, hk, hks⟩ := h.attends id ⟨c, hc, hs⟩
      have hkt := Nat.lt_trans (h.ordered id k (mem_of_focusedChild? hk)) hid
      refine ⟨k, ?_, by rw [hsel hkt, hks]⟩
      simpa [focusedChild?, children, widget, node_add_of_ne (Nat.ne_of_lt hid)] using hk
    · rw [children, widget_add_self] at hc
      rw [hsel (hw c hc)] at hs
      obtain ⟨k, hk, hks⟩ := ha ⟨c, hc, hs⟩
      refine ⟨k, ?_, by rw [hsel (hw k (List.mem_of_getElem? hk)), hks]⟩
      rw [focusedChild?, children, widget_add_self, hk]
    · rw [children_of_size_le (by simp; omega)] at hc
      simp at hc

theorem FocusesFirst.agrees (h : t.FocusesFirst) (ha : t.Agrees t') : t'.FocusesFirst := by
  intro id
  rw [ha.focusIndex, h id, children_eq_of_fixed ha.fixed, firstSelectable, firstSelectable,
    funext (isSelectable_of_fixed ha.fixed)]

theorem firstSelectable_congr {children : List Nat} (h : ∀ c ∈ children, t'.isSelectable c = t.isSelectable c) :
    t'.firstSelectable children = t.firstSelectable children := by
  have hidx : children.findIdx? t'.isSelectable = children.findIdx? t.isSelectable := by
    induction children with
    | nil => rfl
    | cons c children ih =>
      rw [List.forall_mem_cons] at h
      simp [List.findIdx?_cons, h.1, ih h.2]
  rw [firstSelectable, hidx, firstSelectable]

theorem FocusesFirst.add (h : t.FocusesFirst) (hlt : t.Ordered) {w : Widget}
    (hw : ∀ c ∈ w.children, c < t.size) (hf : w.focusIndex = t.firstSelectable w.children) (m : Meta) :
    (t.add w m).FocusesFirst := by
  intro id
  have hext := extends_add t w m
  have hsel {c : Nat} (hc : c < t.size) : (t.add w m).isSelectable c = t.isSelectable c :=
    hext.isSelectable hlt (hlt.add hw m) hc
  by_cases hid : id = t.size
  · subst hid
    rw [children, widget_add_self, hf, firstSelectable_congr fun c hc => hsel (hw c hc)]
  · have hchildren : (t.add w m).children id = t.children id := by simp [children, widget, node_add_of_ne hid]
    have hmem : ∀ c ∈ t.children id, (t.add w m).isSelectable c = t.isSelectable c := fun c hc =>
      hsel (Nat.lt_trans (hlt id c hc) (lt_size_of_mem_children hc))
    rw [hchildren, firstSelectable_congr hmem, ← h id]
    simp [widget, node_add_of_ne hid]

end Tree

end ScreenForm
