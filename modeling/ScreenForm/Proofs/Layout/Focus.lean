import ScreenForm.Proofs.Layout.Confined
import ScreenForm.Proofs.Widget.Path
/-!
# The focus in a painting

Painting hands the focus down by comparing positions, and a key finds its way by looking up children. In a forest
the two come to the same widgets (`Tree.Forest.drawsFocus`).
-/

namespace ScreenForm

namespace Tree

variable {t : Tree} {tops : List Nat} {id n c c' : Nat}

/-! ## Children in a forest -/

theorem Forest.index_eq_of_reaches (h : t.Forest tops) {i j : Nat} (hc : (t.children id)[i]? = some c)
    (hc' : (t.children id)[j]? = some c') (hn : t.Reaches c n) (hn' : t.Reaches c' n) : i = j := by
  obtain rfl := h.eq_of_reaches (List.mem_of_getElem? hc) (List.mem_of_getElem? hc') hn hn'
  obtain ⟨hi, -⟩ := List.getElem?_eq_some_iff.1 hc
  exact (List.getElem?_inj hi (h.nodup_children id)).1 (hc.trans hc'.symm)

/-- The child through which a widget is on the way of the focus is the only one above it. -/
theorem Forest.onPath_iff_of_reaches (h : t.Forest tops) {i : Nat} (hc : (t.children id)[i]? = some c)
    (hn : t.Reaches c n) : t.OnPath id n ↔ i = (t.widget id).focusIndex ∧ t.OnPath c n := by
  have hmem := List.mem_of_getElem? hc
  constructor
  · intro hpath
    rcases onPath_iff.1 hpath with rfl | ⟨c', hc', hpath⟩
    · exact absurd hn (not_reaches_parent h.ordered hmem)
    · obtain rfl := h.eq_of_reaches hmem (mem_of_focusedChild? hc') hn hpath.reaches
      exact ⟨h.index_eq_of_reaches hc hc' hn hn, hpath⟩
  · rintro ⟨rfl, hpath⟩
    exact hpath.head hc

theorem Forest.onPath_child_iff (h : t.Forest tops) {i : Nat} (hc : (t.children n)[i]? = some c) (hn : t.Reaches id n) :
    t.OnPath id c ↔ t.OnPath id n ∧ i = (t.widget n).focusIndex := by
  have hmem := List.mem_of_getElem? hc
  constructor
  · intro hpath
    rcases Relation.ReflTransGen.cases_tail hpath with rfl | ⟨m, hm, hmc⟩
    · exact absurd hn (not_reaches_parent h.ordered hmem)
    · obtain rfl := h.parent_unique (mem_of_focusedChild? hmc) hmem
      exact ⟨hm, h.index_eq_of_reaches hc hmc (.refl t c) (.refl t c)⟩
  · rintro ⟨hpath, rfl⟩
    exact hpath.tail hc

/-! ## What is painted -/

/-- What is painted with a widget is the widget itself or painted with one of its children. -/
theorem mem_placedWithin_succ {levels : Nat} {area : Area} {focused : Bool} {p : Nat × Area × Bool}
    (h : p ∈ t.placedWithin (levels + 1) id area focused) : p = (id, area, focused) ∨
      ∃ (s : Slot) (c : Nat), (t.children id)[s.index]? = some c ∧
        p ∈ t.placedWithin levels c s.area (focused && s.index = (t.widget id).focusIndex) := by
  rw [placedWithin] at h
  split at h
  · cases h
  · refine (List.mem_cons.1 h).imp_right fun h => ?_
    obtain ⟨s, -, h⟩ := List.mem_flatMap.1 h
    split at h
    · next c hc => exact ⟨s, c, hc, h⟩
    · cases h

theorem reaches_of_mem_placedWithin {levels : Nat} {area : Area} {focused : Bool} {p : Nat × Area × Bool}
    (h : p ∈ t.placedWithin levels id area focused) : t.Reaches id p.1 := by
  induction levels generalizing id area focused with
  | zero => cases h
  | succ levels ih =>
    rcases mem_placedWithin_succ h with rfl | ⟨s, c, hc, h⟩
    · exact .refl ..
    · exact (ih h).head (List.mem_of_getElem? hc)

/-- The focus is handed down to the widgets on its way. -/
theorem Forest.focused_iff (h : t.Forest tops) {levels : Nat} {area : Area} {focused : Bool} {p : Nat × Area × Bool}
    (hp : p ∈ t.placedWithin levels id area focused) : p.2.2 ↔ focused ∧ t.OnPath id p.1 := by
  induction levels generalizing id area focused with
  | zero => cases hp
  | succ levels ih =>
    rcases mem_placedWithin_succ hp with rfl | ⟨s, c, hc, hp⟩
    · exact (and_iff_left (OnPath.refl ..)).symm
    · rw [ih hp, h.onPath_iff_of_reaches hc (reaches_of_mem_placedWithin hp), Bool.and_eq_true, decide_eq_true_eq,
        and_assoc]

/-- No widget is painted twice. -/
theorem Forest.nodup_placedWithin (h : t.Forest tops) (hnarrow : t.Narrow) (levels id : Nat) (area : Area)
    (focused : Bool) :
    ((t.placedWithin levels id area focused).map Prod.fst).Nodup := by
  induction levels generalizing id area focused with
  | zero => exact .nil
  | succ levels ih =>
    rw [placedWithin]
    split
    · exact .nil
    · rw [List.map_cons, List.map_flatMap, List.nodup_cons, List.nodup_flatMap]
      refine ⟨fun hmem => ?_, fun s _ => ?_, ?_⟩
      · obtain ⟨s, -, hn⟩ := List.mem_flatMap.1 hmem
        obtain ⟨p, hp, heq⟩ := List.mem_map.1 hn
        split at hp
        · next c hc =>
          have hback := reaches_of_mem_placedWithin hp
          rw [heq] at hback
          exact not_reaches_parent h.ordered (List.mem_of_getElem? hc) hback
        · cases hp
      · split
        · exact ih ..
        · exact .nil
      · refine (List.pairwise_map.1 (tiles_slots hnarrow id area).2).imp fun {s s'} hne n hn hn' => ?_
        obtain ⟨p, hp, rfl⟩ := List.mem_map.1 hn
        obtain ⟨p', hp', heq⟩ := List.mem_map.1 hn'
        split at hp
        · next c hc =>
          split at hp'
          · next c' hc' =>
            have hreach' := reaches_of_mem_placedWithin hp'
            rw [heq] at hreach'
            exact hne (h.index_eq_of_reaches hc hc' (reaches_of_mem_placedWithin hp) hreach')
          · cases hp'
        · cases hp

theorem length_filter_le_one {l : List (Nat × Area × Bool)} {p : Nat × Area × Bool → Bool}
    (honce : (l.map Prod.fst).Nodup) (hp : ∀ q ∈ l, p q → q.1 = n) : (l.filter p).length ≤ 1 := by
  have hnodup : ((l.filter p).map Prod.fst).Nodup := honce.sublist (List.filter_sublist.map Prod.fst)
  have hsub : (l.filter p).map Prod.fst ⊆ [n] := by
    intro m hm
    obtain ⟨q, hq, rfl⟩ := List.mem_map.1 hm
    rw [List.mem_filter] at hq
    exact List.mem_singleton.2 (hp q hq.1 hq.2)
  simpa using (List.subperm_of_subset hnodup hsub).length_le

/-- What is painted as focused is what the focus leads to. -/
structure DrawsFocus (t : Tree) (id : Nat) (area : Area) : Prop where
  paint : ∀ b, t.paint id area true b =
    (t.placed id area true).foldl (fun b p => (t.widget p.1).paintSelf p.2.1 p.2.2 b) b
  once : ((t.placed id area true).map Prod.fst).Nodup
  focused : ∀ n a focused, (n, a, focused) ∈ t.placed id area true → (focused ↔ t.OnPath id n)
  /-- A child is handed the focus if it is on the way, also where nothing of it is painted. -/
  handed : ∀ n a focused, (n, a, focused) ∈ t.placed id area true →
    ∀ s ∈ t.slots n a, ∀ c, (t.children n)[s.index]? = some c →
      ((focused && s.index = (t.widget n).focusIndex) ↔ t.OnPath id c)
  /-- The way of the focus ends at its leaf. -/
  ends : t.OnPath id (t.focusedLeaf id)
  /-- Of the leaves at most the one that the focus leads to is painted as focused, and once. -/
  leaf : ∀ n a, (n, a, true) ∈ t.placed id area true → t.children n = [] → n = t.focusedLeaf id
  atMostOne : ((t.placed id area true).filter fun p => p.2.2 && (t.children p.1).isEmpty).length ≤ 1
  /-- A wrapper paints its focus style if it is on the way, and else its normal style. -/
  styled : ∀ n a focused normal focus names child, (n, a, focused) ∈ t.placed id area true →
    t.widget n = .wrapper (.styled normal focus names) child → ∀ b,
      (t.OnPath id n → (t.widget n).paintSelf a focused b = b.setStyle a focus) ∧
      (¬ t.OnPath id n → (t.widget n).paintSelf a focused b = b.setStyle a normal)

theorem Forest.drawsFocus (h : t.Forest tops) (hnarrow : t.Narrow) (id : Nat) (area : Area) : t.DrawsFocus id area := by
  have hfocused {n : Nat} {a : Area} {focused : Bool} (hn : (n, a, focused) ∈ t.placed id area true) :
      focused ↔ t.OnPath id n := by
    simpa using h.focused_iff hn
  have honce := h.nodup_placedWithin hnarrow (2 * t.size * (area.width + area.height + 1)) id area true
  have hleaf {n : Nat} {a : Area} (hn : (n, a, true) ∈ t.placed id area true) (hchildren : t.children n = []) :
      n = t.focusedLeaf id := by
    rw [((hfocused hn).1 rfl).focusedLeaf_eq h.ordered, focusedLeaf_self (by rw [focusedChild?, hchildren]; rfl)]
  refine ⟨fun b => paint_eq .., honce, fun n a focused => hfocused, fun n a focused hn s _ c hc => ?_,
    onPath_focusedLeaf t id, fun n a => hleaf, ?_, fun n a focused normal focus names child hn hw b => ?_⟩
  · rw [h.onPath_child_iff hc (reaches_of_mem_placedWithin hn), ← hfocused hn, Bool.and_eq_true, decide_eq_true_eq]
  · refine length_filter_le_one (n := t.focusedLeaf id) honce ?_
    rintro ⟨n, a, focused⟩ hp hfocus
    rw [Bool.and_eq_true] at hfocus
    obtain ⟨hfocus, hchildren⟩ := hfocus
    obtain rfl : focused = true := hfocus
    exact hleaf hp (List.isEmpty_iff.1 hchildren)
  · rw [hw]
    cases focused with
    | true => exact ⟨fun _ => rfl, fun hnot => absurd ((hfocused hn).1 rfl) hnot⟩
    | false => exact ⟨fun hpath => absurd ((hfocused hn).2 hpath) Bool.false_ne_true, fun _ => rfl⟩

end Tree

end ScreenForm
