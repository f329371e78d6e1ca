import Mathlib.Data.List.TakeWhile
import ScreenForm.Form.Outline
import ScreenForm.Proofs.Widget.Forest
/-!
# The order of an outline

An outline walks through a tree from its tops down. In a forest it comes to each widget once
(`Tree.Forest.perm_flatMap_walk`), a child comes one level deeper than its parent, and nothing that is not below the
parent comes between them (`Tree.nests_outlineRowsWithin`).
-/

namespace ScreenForm

namespace Tree

variable {t : Tree} {tops : List Nat} {l d id : Nat}

/-! ## Each widget once -/

theorem Forest.nodup_walk (h : t.Forest tops) (hid : id < t.size) : (t.walk id).Nodup := by
  induction id using Nat.strongRecOn with
  | _ id ih =>
    have hlt {c : Nat} (hc : c ∈ t.children id) : c < t.size := Nat.lt_trans (h.ordered id c hc) hid
    rw [walk_eq h.ordered hid, List.nodup_cons, List.nodup_flatMap]
    refine ⟨fun hmem => ?_, fun c hc => ih c (h.ordered id c hc) (hlt hc), ?_⟩
    · obtain ⟨c, hc, hmem⟩ := List.mem_flatMap.1 hmem
      exact not_reaches_parent h.ordered hc ((mem_walk h.ordered (hlt hc)).1 hmem)
    · refine (h.nodup_children id).imp_of_mem fun {c c'} hc hc' hne n hn hn' => hne ?_
      exact h.eq_of_reaches hc hc' ((mem_walk h.ordered (hlt hc)).1 hn) ((mem_walk h.ordered (hlt hc')).1 hn')

/-- The walks from the tops come to each widget once. -/
theorem Forest.perm_flatMap_walk (h : t.Forest tops) : (tops.flatMap t.walk).Perm (List.range t.size) := by
  have hlt {r : Nat} (hr : r ∈ tops) : r < t.size := h.mem_iff.1 (.inr hr)
  have hnodup : (tops.flatMap t.walk).Nodup := by
    rw [List.nodup_flatMap]
    refine ⟨fun r hr => h.nodup_walk (hlt hr), ?_⟩
    refine (List.nodup_append'.1 h.nodup).2.1.imp_of_mem fun {r r'} hr hr' hne n hn hn' => hne ?_
    obtain ⟨p, hp⟩ := (mem_walk h.ordered (hlt hr)).1 hn
    obtain ⟨p', hp'⟩ := (mem_walk h.ordered (hlt hr')).1 hn'
    exact (h.way_unique hr hr' hp hp').1
  refine (List.perm_ext_iff_of_nodup hnodup List.nodup_range).2 fun n => ?_
  rw [List.mem_flatMap, List.mem_range]
  constructor
  · rintro ⟨r, hr, hn⟩
    exact Nat.lt_of_le_of_lt (((mem_walk h.ordered (hlt hr)).1 hn).le h.ordered) (hlt hr)
  · intro hn
    obtain ⟨r, hr, hway⟩ := h.exists_way hn
    exact ⟨r, hr, (mem_walk h.ordered (hlt hr)).2 hway⟩

/-! ## Rows -/

/-- The lines of an outline, each as the depth and the number of its widget. -/
def outlineRowsWithin (t : Tree) : Nat → Nat → Nat → List (Nat × Nat)
  | 0, _, _ => []
  | levels + 1, depth, id => (depth, id) :: (t.children id).flatMap (t.outlineRowsWithin levels (depth + 1))

/-- The lines of a widget and of all that is below it. -/
def outlineRows (t : Tree) (id : Nat) : List (Nat × Nat) :=
  t.outlineRowsWithin t.size 0 id

theorem outline_eq (t : Tree) (id : Nat) : t.outline id = (t.outlineRows id).map fun r => (t.node r.2).outline r.1 := by
  have hwithin : ∀ l d id, t.outlineWithin l d id =
      (t.outlineRowsWithin l d id).map fun r => (t.node r.2).outline r.1 := by
    intro l
    induction l with
    | zero => exact fun _ _ => rfl
    | succ l ih =>
      intro d id
      rw [outlineWithin, outlineRowsWithin, List.map_cons, List.map_flatMap]
      exact congrArg _ (List.flatMap_congr fun c _ => ih (d + 1) c)
  exact hwithin _ _ _

theorem map_snd_outlineRows (t : Tree) (id : Nat) : (t.outlineRows id).map Prod.snd = t.walk id := by
  have hwithin : ∀ l d id, (t.outlineRowsWithin l d id).map Prod.snd = t.walkWithin l id := by
    intro l
    induction l with
    | zero => exact fun _ _ => rfl
    | succ l ih =>
      intro d id
      rw [outlineRowsWithin, walkWithin, List.map_cons, List.map_flatMap]
      exact congrArg _ (List.flatMap_congr fun c _ => ih (d + 1) c)
  exact hwithin _ _ _

theorem outlineRows_of_fixed {t' : Tree} (h : t'.fixed = t.fixed) (id : Nat) :
    t'.outlineRows id = t.outlineRows id := by
  have hwithin : ∀ l d id, t'.outlineRowsWithin l d id = t.outlineRowsWithin l d id := by
    intro l
    induction l with
    | zero => exact fun _ _ => rfl
    | succ l ih =>
      intro d id
      rw [outlineRowsWithin, outlineRowsWithin, children_eq_of_fixed h]
      exact congrArg _ (List.flatMap_congr fun c _ => ih (d + 1) c)
  rw [outlineRows, outlineRows, size_eq_of_fixed h]
  exact hwithin _ _ _

/-- A row is as deep as the way to its widget is long. -/
theorem way_of_mem_outlineRowsWithin {r : Nat × Nat} (h : r ∈ t.outlineRowsWithin l d id) :
    ∃ p, t.Way id p r.2 ∧ r.1 = d + p.length := by
  induction l generalizing d id with
  | zero => cases h
  | succ l ih =>
    rw [outlineRowsWithin, List.mem_cons, List.mem_flatMap] at h
    obtain rfl | ⟨c, hc, h⟩ := h
    · exact ⟨[], .here, rfl⟩
    · obtain ⟨p, hp, hdepth⟩ := ih h
      refine ⟨p ++ [id], (Way.down .here hc).trans hp, ?_⟩
      rw [hdepth, List.length_append, List.length_singleton]
      omega

/-- Each child of a widget comes behind it, one level deeper, before the next row that is not deeper than the
widget. -/
def Nests (t : Tree) (rows : List (Nat × Nat)) : Prop :=
  ∀ before d m rest, rows = before ++ (d, m) :: rest → ∀ c ∈ t.children m, (d + 1, c) ∈ rest.takeWhile (d < ·.1)

theorem nests_nil (t : Tree) : t.Nests [] := by
  intro before d m rest h
  cases before <;> cases h

theorem Nests.append {rows rows' : List (Nat × Nat)} (h : t.Nests rows) (h' : t.Nests rows') :
    t.Nests (rows ++ rows') := by
  intro before d m rest hrows c hc
  rcases List.append_eq_append_iff.1 hrows with ⟨behind, rfl, hrest⟩ | ⟨behind, rfl, hrest⟩
  · exact h' behind d m rest hrest c hc
  · cases behind with
    | nil => exact h' [] d m rest hrest.symm c hc
    | cons r behind =>
      obtain ⟨rfl, rfl⟩ := List.cons.inj hrest
      have hmem := h before d m behind rfl c hc
      rw [List.append_eq, List.takeWhile_append]
      split
      · next hall => exact List.mem_append_left _ (List.takeWhile_sublist _ |>.subset hmem)
      · exact hmem

theorem Nests.flatMap {ids : List Nat} {rows : Nat → List (Nat × Nat)} (h : ∀ c ∈ ids, t.Nests (rows c)) :
    t.Nests (ids.flatMap rows) := by
  induction ids with
  | nil => exact nests_nil t
  | cons c ids ih =>
    rw [List.forall_mem_cons] at h
    exact h.1.append (ih h.2)

/-- A way down from a widget has enough levels. -/
theorem nests_outlineRowsWithin (hlt : t.Ordered) (h : id < l) : t.Nests (t.outlineRowsWithin l d id) := by
  induction l generalizing d id with
  | zero => exact absurd h (Nat.not_lt_zero _)
  | succ l ih =>
    have hchild {c : Nat} (hc : c ∈ t.children id) : c < l := Nat.lt_of_lt_of_le (hlt id c hc) (Nat.le_of_lt_succ h)
    have hbelow : t.Nests ((t.children id).flatMap (t.outlineRowsWithin l (d + 1))) :=
      Nests.flatMap fun c hc => ih (hchild hc)
    rw [outlineRowsWithin]
    intro before d' m rest hrows c hc
    cases before with
    | cons r before => exact hbelow before d' m rest (List.cons.inj hrows).2 c hc
    | nil =>
      obtain ⟨hrow, rfl⟩ := List.cons.inj hrows
      obtain ⟨rfl, rfl⟩ := Prod.mk.inj hrow
      -- All of these rows are below the widget, so none of them is left out.
      rw [List.takeWhile_eq_self_iff.2]
      · refine List.mem_flatMap.2 ⟨c, hc, ?_⟩
        obtain ⟨l, rfl⟩ : ∃ k, l = k + 1 := ⟨l - 1, by have := hchild hc; omega⟩
        exact List.mem_cons_self
      · intro r hr
        obtain ⟨c', -, hr⟩ := List.mem_flatMap.1 hr
        obtain ⟨p, -, hdepth⟩ := way_of_mem_outlineRowsWithin hr
        simp only [hdepth, decide_eq_true_eq]
        omega

end Tree

end ScreenForm
