import ScreenForm.Proofs.Layout.Machine
/-!
# How columns share a width

Columns with a weight leave nothing of what is available, and fixed ones alone
take what they ask for as far as it goes (`Layout.total_columnWidths`). Where the
fixed widths fit, each is given in full and no share falls short
(`Layout.columnWidths_allots`).
-/

namespace ScreenForm

namespace Layout

variable {available flexible shares given : Nat} {widths : List ColumnWidth}

/-- What a column gets where there is room for the fixed ones: its width, or its share of the rest and perhaps what
rounding leaves over. -/
def Allots (flexible shares : Nat) : ColumnWidth → Nat → Prop
  | .fixed columns, got => got = columns
  | .weight share, got => flexible * share / shares ≤ got

/-! ## The sum -/

/-- Fixed widths get what is left, one after the other. -/
theorem total_giveColumns_fixed (hfixed : widths.any isWeight = false) :
    total (giveColumns available flexible shares given widths) = min (available - given) (total (widths.map fixedColumns)) := by
  induction widths generalizing given with
  | nil => simp [giveColumns]
  | cons width rest ih =>
    rw [List.any_cons, Bool.or_eq_false_iff] at hfixed
    cases width with
    | weight => cases hfixed.1
    | fixed columns =>
      rw [giveColumns, total_cons, ih hfixed.2, List.map_cons, total_cons]
      simp only [fixedColumns]
      omega

/-- Whatever the columns before it got, the last one with a weight sees to it that nothing is left. -/
theorem le_add_total_giveColumns (hweight : widths.any isWeight = true) :
    available ≤ given + total (giveColumns available flexible shares given widths) := by
  induction widths generalizing given with
  | nil => cases hweight
  | cons width rest ih =>
    cases width with
    | fixed columns =>
      rw [giveColumns, total_cons, ← Nat.add_assoc]
      exact ih (by simpa [isWeight] using hweight)
    | weight n =>
      rw [giveColumns, total_cons, ← Nat.add_assoc]
      split
      next hmore => exact ih hmore
      next hlast =>
        rw [total_giveColumns_fixed (by simpa using hlast)]
        omega

theorem total_columnWidths (widths : List ColumnWidth) (gap width : Nat) :
    total (columnWidths widths gap width) =
      if widths.any isWeight then availableColumns width gap widths.length
      else min (availableColumns width gap widths.length) (total (widths.map fixedColumns)) := by
  split
  next hweight =>
    refine Nat.le_antisymm (total_columnWidths_le widths gap width) ?_
    rw [columnWidths, ← Nat.zero_add (total _)]
    exact le_add_total_giveColumns hweight
  next hfixed => rw [columnWidths, total_giveColumns_fixed (by simpa using hfixed), Nat.sub_zero]

/-! ## Each column -/

theorem total_share_eq_zero (hfixed : widths.any isWeight = false) : total (widths.map share) = 0 := by
  induction widths with
  | nil => rfl
  | cons width rest ih =>
    rw [List.any_cons, Bool.or_eq_false_iff] at hfixed
    cases width with
    | weight => cases hfixed.1
    | fixed columns => rw [List.map_cons, total_cons, ih hfixed.2, share]

/-- As long as the fixed widths and the shares that are still to come have their part left, each column gets its own. -/
theorem giveColumns_allots (hfixed : given + total (widths.map fixedColumns) ≤ available)
    (hleft : shares * (given + total (widths.map fixedColumns)) + flexible * total (widths.map share) ≤ shares * available) :
    List.Forall₂ (Allots flexible shares) widths (giveColumns available flexible shares given widths) := by
  induction widths generalizing given with
  | nil => exact .nil
  | cons width rest ih =>
    rw [List.map_cons, List.map_cons, total_cons, total_cons] at hleft
    rw [List.map_cons, total_cons] at hfixed
    cases width with
    | fixed columns =>
      simp only [fixedColumns, share, Nat.zero_add] at hfixed hleft
      have hall : min columns (available - given) = columns := by omega
      rw [giveColumns, hall]
      refine .cons rfl (ih (by omega) ?_)
      rwa [Nat.add_assoc]
    | weight n =>
      simp only [fixedColumns, share, Nat.zero_add, Nat.mul_add flexible] at hfixed hleft
      have hshare : shares * (flexible * n / shares) ≤ flexible * n := Nat.mul_div_le ..
      -- What the share comes to is there beside what has been given out and the fixed widths.
      have hroom : given + flexible * n / shares + total (rest.map fixedColumns) ≤ available := by
        rcases Nat.eq_zero_or_pos shares with rfl | hpos
        · simpa using hfixed
        · refine Nat.le_of_mul_le_mul_left ?_ hpos
          simp only [Nat.mul_add] at hleft ⊢
          omega
      rw [giveColumns]
      split
      next =>
        refine .cons (Nat.le_refl _) (ih (by omega) ?_)
        simp only [Nat.mul_add] at hleft ⊢
        omega
      next hlast =>
        have hend : given + (available - given - total (rest.map fixedColumns)) + total (rest.map fixedColumns) = available := by
          omega
        have hnone := total_share_eq_zero (by simpa using hlast)
        refine .cons (show flexible * n / shares ≤ _ by omega) (ih (Nat.le_of_eq hend) ?_)
        rw [hend, hnone, Nat.mul_zero, Nat.add_zero]

theorem columnWidths_allots (widths : List ColumnWidth) (gap width : Nat)
    (hfits : total (widths.map fixedColumns) ≤ availableColumns width gap widths.length) :
    List.Forall₂ (Allots (availableColumns width gap widths.length - total (widths.map fixedColumns))
      (total (widths.map share))) widths (columnWidths widths gap width) := by
  refine giveColumns_allots (by rwa [Nat.zero_add]) (Nat.le_of_eq ?_)
  rw [Nat.zero_add, Nat.mul_comm (_ - _), ← Nat.mul_add, Nat.add_sub_cancel' hfits]

theorem mem_fullWidths {count : Nat} {w : ColumnWidth} (h : w ∈ fullWidths widths count) : w ∈ widths ∨ w = .weight 1 := by
  obtain ⟨i, -, rfl⟩ := List.mem_map.1 h
  rw [List.getD_eq_getElem?_getD]
  cases hi : widths[i]? with
  | none => exact .inr rfl
  | some w => exact .inl (List.mem_of_getElem? hi)

end Layout

namespace Arrangement

open Layout

/-- There is a width for each child. They add up to what the gaps leave if one of the columns has a weight, and to what
the fixed ones ask for, as far as it goes, if none has. Where the fixed widths fit, each column gets its own. No
operation on a word overflows if the weights can be counted in one. -/
theorem childWidths_columns {widths : List ColumnWidth} {count width : Nat}
    (hmax : ∀ w ∈ widths, share w ≤ maxCells) (hwidth : width ≤ maxCells)
    (hshares : total ((fullWidths widths count).map share) < 2 ^ 32) (gap : Nat) :
    let full := fullWidths widths count
    let available := width - clampCells (gap * clampCells (count - 1))
    let fixed := total (full.map fixedColumns)
    let given := (columns widths gap).childWidths count width
    (columns widths gap).childWidths? count width = some given ∧ given.length = count ∧ total given ≤ available ∧
      ((∃ w ∈ full, isWeight w = true) → total given = available) ∧
      ((∀ w ∈ full, isWeight w = false) → total given = min available fixed) ∧
      (fixed ≤ available → List.Forall₂ (Allots (available - fixed) (total (full.map share))) full given) := by
  intro full available fixed given
  have hlength : full.length = count := length_fullWidths widths count
  have havailable : available = availableColumns width gap full.length := by
    rw [hlength]
    exact minus_gaps_eq hwidth gap count
  have htotal : total given = if full.any isWeight then available else min available fixed := by
    rw [havailable]
    exact total_columnWidths full gap width
  have hshare : ∀ w ∈ full, share w ≤ maxCells := fun w hw => by
    rcases mem_fullWidths hw with hw | rfl
    · exact hmax w hw
    · decide
  refine ⟨columnWidths?_eq hshare hshares gap hwidth, ?_, ?_, fun hweight => ?_, fun hfixed => ?_, fun hfits => ?_⟩
  · exact (length_columnWidths full gap width).trans hlength
  · rw [havailable]
    exact total_columnWidths_le full gap width
  · rw [htotal, if_pos (List.any_eq_true.2 hweight)]
  · rw [htotal, if_neg (by simpa using hfixed)]
  · rw [havailable] at hfits ⊢
    exact columnWidths_allots full gap width hfits

/-- Fixed columns around two with weights, and a child without a width of its own: it takes what rounding leaves over. -/
theorem childWidths_columns_mixed :
    (columns [.fixed 3, .weight 2, .fixed 5, .weight 0] 1).childWidths 5 20 = [3, 5, 5, 0, 3] ∧
      (columns [.fixed 3, .weight 2, .fixed 5, .weight 0] 1).childWidths? 5 20 = some [3, 5, 5, 0, 3] ∧
      List.Forall₂ (Allots 8 3) [.fixed 3, .weight 2, .fixed 5, .weight 0, .weight 1] [3, 5, 5, 0, 3] := by
  have hgiven : (columns [.fixed 3, .weight 2, .fixed 5, .weight 0] 1).childWidths 5 20 = [3, 5, 5, 0, 3] := by decide
  obtain ⟨hwords, -, -, -, -, hallots⟩ := @childWidths_columns [.fixed 3, .weight 2, .fixed 5, .weight 0] 5 20
    (by decide) (by decide) (by decide) 1
  rw [hgiven] at hwords hallots
  exact ⟨hgiven, hwords, hallots (by decide)⟩

end Arrangement

end ScreenForm
