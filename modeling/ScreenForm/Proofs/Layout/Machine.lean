import ScreenForm.Proofs.Layout.Arrange
import ScreenForm.Proofs.Number.Machine
import ScreenForm.Proofs.Widget.Sized
/-!
# Arrangements in words

Children are measured and placed in words of 16 bits, whose sums stay at the
largest size where they are meant to, and in some that are larger. What is done
with them is repeated here operation by operation, and fails where a word
overflows or underflows, a divisor is zero or an index is out of range. On a
screen it fails in one case only, when the rows of a list up to the one that has
the focus are too many for a word (`Arrangement.slots?_eq`).
-/

namespace ScreenForm

open Machine

theorem clampCells_of_le {n : Nat} (h : n ≤ maxCells) : clampCells n = n := Nat.min_eq_left h

theorem clampCells_clampCells_add (n m : Nat) : clampCells (clampCells n + m) = clampCells (n + m) := by
  unfold clampCells
  omega

theorem Align.offset_le (align : Align) (available used : Nat) : align.offset available used ≤ available := by
  cases align <;> simp only [offset] <;> omega

namespace Layout

theorem total_eq_sum (l : List Nat) : total l = l.sum := rfl

/-! ## Columns -/

/-- The columns that the first of some widths gets. -/
def giveFirst? (available flexible shares given : Nat) (width : ColumnWidth) (rest : List ColumnWidth) : Option Nat :=
  match width with
  | .fixed columns => some (min columns (available - given))
  | .weight share =>
    if rest.any isWeight then
      if 0 < shares then do
        let product ← fit? 32 (flexible * share)
        let columns ← over? product shares
        return clampCells columns
      else some 0
    else some (available - given - sumCells (rest.map fixedColumns))

def giveColumns? (available flexible shares given : Nat) : List ColumnWidth → Option (List Nat)
  | [] => some []
  | width :: rest => do
    let columns ← giveFirst? available flexible shares given width rest
    let others ← giveColumns? available flexible shares (clampCells (given + columns)) rest
    return columns :: others

def columnWidths? (widths : List ColumnWidth) (gap width : Nat) : Option (List Nat) :=
  if widths.isEmpty then some []
  else do
    let gaps ← minus? widths.length 1
    let available := width - clampCells (gap * clampCells gaps)
    let shares ← sum? 32 (widths.map share)
    giveColumns? available (available - sumCells (widths.map fixedColumns)) shares 0 widths

/-- The columns that are given out are counted up to the largest size, which is enough to know what is left. -/
theorem giveColumns?_eq {available flexible shares : Nat} (given : Nat) (havailable : available ≤ maxCells)
    (hflexible : flexible ≤ maxCells) {widths : List ColumnWidth} (hmax : ∀ w ∈ widths, share w ≤ maxCells)
    (hshares : total (widths.map share) ≤ shares) :
    giveColumns? available flexible shares (clampCells given) widths =
      some (giveColumns available flexible shares given widths) := by
  induction widths generalizing given with
  | nil => rfl
  | cons width rest ih =>
    rw [List.forall_mem_cons] at hmax
    rw [List.map_cons, total_cons] at hshares
    have hleft (k : Nat) : available - clampCells given - clampCells k = available - given - k := by
      unfold clampCells
      omega
    have hfirst : giveFirst? available flexible shares (clampCells given) width rest =
        (giveColumns available flexible shares given (width :: rest)).head? := by
      cases width with
      | fixed columns => simpa [giveFirst?, giveColumns, clampCells] using congrArg (min columns) (hleft 0)
      | weight n =>
        have hn : n ≤ maxCells := hmax.1
        have hle : n ≤ shares := Nat.le_trans (Nat.le_add_right ..) hshares
        by_cases hmore : rest.any isWeight
        · rcases Nat.eq_zero_or_pos shares with rfl | hpos
          · simp [giveFirst?, giveColumns, hmore]
          · -- The product of two sizes is just less than the word can hold.
            have hproduct : flexible * n < 2 ^ 32 :=
              Nat.lt_of_le_of_lt (Nat.mul_le_mul hflexible hn) (by decide)
            have hcolumns : flexible * n / shares ≤ flexible :=
              Nat.div_le_of_le_mul (Nat.mul_comm flexible n ▸ Nat.mul_le_mul_right flexible hle)
            have hclamp : clampCells (flexible * n / shares) = flexible * n / shares := clampCells_of_le (by omega)
            simp [giveFirst?, giveColumns, hmore, hpos, fit?_of_lt hproduct, over?_of_pos hpos, hclamp]
        · simp [giveFirst?, giveColumns, hmore, sumCells_eq, hleft, total_eq_sum]
    rw [giveColumns?, hfirst]
    simp only [giveColumns, List.head?_cons, Option.bind_eq_bind, Option.bind_some, clampCells_clampCells_add,
      ih _ hmax.2 (by omega), Option.pure_def]

/-- Gaps that are cut off at the largest size leave nothing, as they would without that. -/
theorem minus_gaps_eq {width : Nat} (hwidth : width ≤ maxCells) (gap count : Nat) :
    width - clampCells (gap * clampCells (count - 1)) = availableColumns width gap count := by
  unfold availableColumns
  rcases Nat.eq_zero_or_pos gap with rfl | hgap
  · simp [clampCells]
  · by_cases hcount : count - 1 ≤ maxCells
    · rw [clampCells_of_le hcount]
      unfold clampCells
      omega
    · have hcut : clampCells (count - 1) = maxCells := by
        unfold clampCells
        omega
      have hmax : maxCells ≤ gap * maxCells := Nat.le_mul_of_pos_left _ hgap
      have hmore : count - 1 ≤ gap * (count - 1) := Nat.le_mul_of_pos_left _ hgap
      rw [hcut]
      unfold clampCells
      omega

theorem columnWidths?_eq {widths : List ColumnWidth} (hmax : ∀ w ∈ widths, share w ≤ maxCells)
    (hshares : total (widths.map share) < 2 ^ 32) (gap : Nat) {width : Nat} (hwidth : width ≤ maxCells) :
    columnWidths? widths gap width = some (columnWidths widths gap width) := by
  unfold columnWidths?
  split
  · next hempty =>
    rw [List.isEmpty_iff.1 hempty]
    rfl
  · next hne =>
    have hlength : 1 ≤ widths.length := List.length_pos_iff.2 (by simpa using hne)
    have havailable : availableColumns width gap widths.length ≤ maxCells := Nat.le_trans (Nat.sub_le ..) hwidth
    have hflexible : availableColumns width gap widths.length - clampCells (total (widths.map fixedColumns)) =
        availableColumns width gap widths.length - total (widths.map fixedColumns) := by
      unfold clampCells
      omega
    have hgive := giveColumns?_eq 0 havailable
      (Nat.le_trans (Nat.sub_le _ (total (widths.map fixedColumns))) havailable) hmax (Nat.le_refl _)
    simp only [minus?_of_le hlength, minus_gaps_eq hwidth, sum?_eq, ← total_eq_sum, fit?_of_lt hshares, sumCells_eq,
      hflexible, Option.bind_eq_bind, Option.bind_some]
    exact hgive

/-! ## Grids -/

def gridPerRow? (cellWidth columnGap width : Nat) : Option Nat := do
  let columns ← fit? 64 (width + columnGap)
  let step ← fit? 64 (gridCell cellWidth width + columnGap)
  let cells ← over? columns step
  return max cells 1

/-- Pieces of `n` elements, of which there have to be some. -/
def chunks? {α : Type} (n : Nat) (l : List α) : Option (List (List α)) :=
  if n = 0 then none else some (chunks n l)

/-- The height of the rows of a grid. Each one but the first has a gap above it. -/
def gridHeight (gap : Nat) (rows : List (List Nat)) : Nat :=
  rows.zipIdx.foldl (fun sum row =>
    clampCells ((if 0 < row.2 then clampCells (sum + gap) else sum) + rowHeight row.1)) 0

theorem gridCell_pos (cellWidth width : Nat) : 1 ≤ gridCell cellWidth width := by
  unfold gridCell
  omega

theorem gridPerRow_pos (cellWidth columnGap width : Nat) : 1 ≤ gridPerRow cellWidth columnGap width :=
  Nat.le_max_left ..

theorem gridPerRow?_eq {cellWidth columnGap width : Nat} (hcell : cellWidth ≤ maxCells) (hgap : columnGap ≤ maxCells)
    (hwidth : width ≤ maxCells) :
    gridPerRow? cellWidth columnGap width = some (gridPerRow cellWidth columnGap width) := by
  have hpos := gridCell_pos cellWidth width
  have hle : gridCell cellWidth width ≤ maxCells + 1 := by
    unfold gridCell
    omega
  have hfit {k : Nat} (hk : k ≤ maxCells + 1) : fit? 64 (k + columnGap) = some (k + columnGap) :=
    fit?_of_lt (by unfold maxCells at *; omega)
  simp only [gridPerRow?, hfit (Nat.le_succ_of_le hwidth), hfit hle, over?_of_pos (Nat.add_pos_left hpos columnGap),
    Option.bind_eq_bind, Option.bind_some, Option.pure_def, gridPerRow, Nat.max_comm]

theorem chunks?_eq {α : Type} {n : Nat} (h : 1 ≤ n) (l : List α) : chunks? n l = some (chunks n l) :=
  if_neg (by omega)

theorem gridHeight_eq (gap : Nat) (rows : List (List Nat)) :
    gridHeight gap rows = clampCells (total (rows.map rowHeight) + gap * (rows.length - 1)) := by
  -- Behind the first row each one adds a gap.
  have hrest (rows : List (List Nat)) (k i : Nat) : (rows.zipIdx (i + 1)).foldl (fun sum row =>
      clampCells ((if 0 < row.2 then clampCells (sum + gap) else sum) + rowHeight row.1)) (clampCells k) =
      clampCells (k + total (rows.map rowHeight) + gap * rows.length) := by
    induction rows generalizing k i with
    | nil => rfl
    | cons row rows ih =>
      rw [List.zipIdx_cons, List.foldl_cons]
      simp only [Nat.zero_lt_succ, if_true, clampCells_clampCells_add]
      rw [ih, List.map_cons, total_cons, List.length_cons, Nat.mul_succ]
      congr 1
      omega
  cases rows with
  | nil => rfl
  | cons row rows =>
    have hfirst : clampCells (0 + rowHeight row) = clampCells (rowHeight row) := by rw [Nat.zero_add]
    rw [gridHeight, List.zipIdx_cons, List.foldl_cons]
    simp only [Nat.lt_irrefl, if_false, hfirst]
    rw [hrest, List.map_cons, total_cons, List.length_cons, Nat.add_sub_cancel]

section Chunks

variable {α : Type} {k : Nat}

theorem zipIdx_take (n i : Nat) (l : List α) : (l.zipIdx i).take n = (l.take n).zipIdx i := by
  refine List.ext_getElem? fun m => ?_
  simp only [List.getElem?_take, List.getElem?_zipIdx]
  split <;> rfl

theorem zipIdx_drop (n i : Nat) (l : List α) : (l.zipIdx i).drop n = (l.drop n).zipIdx (i + n) := by
  refine List.ext_getElem? fun m => ?_
  simp only [List.getElem?_drop, List.getElem?_zipIdx, Nat.add_assoc]

/-- The pieces of numbered elements. -/
theorem chunks_zipIdx (hk : 1 ≤ k) (j : Nat) (l : List α) :
    chunks k (l.zipIdx (j * k)) = ((chunks k l).zipIdx j).map fun p => p.1.zipIdx (p.2 * k) := by
  fun_induction chunks k l generalizing j with
  | case1 => rw [List.zipIdx_nil, chunks, List.zipIdx_nil, List.map_nil]
  | case2 a rest ih =>
    have hnext : j * k + 1 + (k - 1) = (j + 1) * k := by
      rw [Nat.succ_mul]
      omega
    rw [List.zipIdx_cons, chunks, zipIdx_take, zipIdx_drop, hnext, ih, List.zipIdx_cons, List.map_cons,
      List.zipIdx_cons]

/-- The elements up to the end of a piece. -/
theorem index_le_of_mem_chunks (hk : 1 ≤ k) {j i : Nat} {l row : List α} (h : (row, i) ∈ (chunks k l).zipIdx j) :
    i * k + row.length ≤ j * k + l.length := by
  fun_induction chunks k l generalizing j with
  | case1 => cases h
  | case2 a rest ih =>
    rw [List.zipIdx_cons] at h
    rcases List.mem_cons.1 h with heq | h
    · cases heq
      simp only [List.length_cons, List.length_take]
      omega
    · have hle := ih h
      have hrest : rest.drop (k - 1) ≠ [] := by
        intro hnil
        rw [hnil, chunks] at h
        cases h
      have hlt := List.drop_eq_nil_iff.not.1 hrest
      rw [List.length_drop, Nat.succ_mul] at hle
      rw [List.length_cons]
      omega

end Chunks

/-! ## Lists -/

/-- The first pieces of a list that has at least so many. -/
def slice? (n : Nat) (l : List Nat) : Option (List Nat) :=
  if n ≤ l.length then some (l.take n) else none

def scrolledAway? (room bottom : Nat) : List Nat → Nat → Option Nat
  | _, 0 => some 0
  | [], _ + 1 => if bottom ≤ room then some 0 else none
  | height :: rest, focus + 1 =>
    if bottom ≤ room then some 0
    else do
      let bottom ← minus? bottom height
      let away ← scrolledAway? room bottom rest focus
      return away + 1

def firstShown? (room : Nat) (heights : List Nat) (focus : Nat) : Option Nat := do
  let above ← slice? (focus + 1) heights
  let bottom ← sum? 32 above
  scrolledAway? room bottom heights focus

theorem scrolledAway?_eq (room : Nat) {bottom : Nat} {heights : List Nat} {focus : Nat}
    (hfocus : focus < heights.length) (htotal : total (heights.take (focus + 1)) ≤ bottom) :
    scrolledAway? room bottom heights focus = some (scrolledAway room bottom heights focus) := by
  induction heights generalizing bottom focus with
  | nil => cases hfocus
  | cons height rest ih =>
    cases focus with
    | zero => rfl
    | succ focus =>
      rw [List.take_succ_cons, total_cons] at htotal
      have hle : height ≤ bottom := by omega
      rw [scrolledAway?, scrolledAway]
      by_cases hroom : bottom ≤ room
      · rw [if_pos hroom, if_pos hroom]
      · rw [if_neg hroom, if_neg hroom, minus?_of_le hle]
        simp only [Option.bind_eq_bind, Option.bind_some, Option.pure_def]
        rw [ih (by simpa using hfocus) (by omega)]
        rfl

/-- The first child to show is found unless the rows through the focused one are too many for a word. -/
theorem firstShown?_eq (room : Nat) {heights : List Nat} {focus : Nat} (hfocus : focus < heights.length) :
    firstShown? room heights focus =
      if total (heights.take (focus + 1)) < rowWord then some (firstShown room heights focus) else none := by
  have hslice : slice? (focus + 1) heights = some (heights.take (focus + 1)) := if_pos hfocus
  simp only [firstShown?, hslice, sum?_eq, Option.bind_eq_bind, Option.bind_some, ← total_eq_sum]
  by_cases hword : total (heights.take (focus + 1)) < rowWord
  · rw [if_pos hword, fit?_of_lt hword]
    exact scrolledAway?_eq room hfocus (Nat.le_refl _)
  · have hnone : fit? 32 (total (heights.take (focus + 1))) = none := if_neg hword
    rw [if_neg hword, hnone]
    rfl

/-! ## Slots -/

/-- An area, if its edges have a place on a screen. -/
def area? (x y width height : Nat) : Option Area := do
  let _ ← fit? 16 (x + width)
  let _ ← fit? 16 (y + height)
  return ⟨x, y, width, height⟩

def stack? (a : Area) (y : Nat) : List (Nat × Nat) → Option (List Slot)
  | [] => some []
  | (height, index) :: rest =>
    if a.bottom ≤ y then some []
    else do
      let room ← minus? a.bottom y
      let height := min height room
      let place ← area? a.x y a.width height
      let below ← fit? 16 (y + height)
      let others ← stack? a below rest
      return ⟨index, place⟩ :: others

def across? (a : Area) (gap x : Nat) : List (Nat × Nat) → Option (List Slot)
  | [] => some []
  | (width, index) :: rest =>
    if a.right ≤ x then some []
    else do
      let room ← minus? a.right x
      let width := min width room
      let place ← area? x a.y width a.height
      let others ← across? a gap (clampCells (clampCells (x + width) + gap)) rest
      return ⟨index, place⟩ :: others

/-- The cells of row number `row` from column `x` on. The first of them is number `column` of the row. -/
def gridRow? (a : Area) (y cell gap height perRow row column x : Nat) : List Nat → Option (List Slot)
  | [] => some []
  | _ :: rest => do
    let before ← fit? 64 (row * perRow)
    let index ← fit? 64 (before + column)
    let place ← area? x y (min cell (a.right - x)) height
    let others ← gridRow? a y cell gap height perRow row (column + 1) (clampCells (clampCells (x + cell) + gap)) rest
    return ⟨index, place⟩ :: others

def gridRows? (a : Area) (cell columnGap rowGap : Nat) (align : Align) (perRow row y : Nat) :
    List (List Nat) → Option (List Slot)
  | [] => some []
  | heights :: rest =>
    if a.bottom ≤ y then some []
    else do
      let count := clampCells heights.length
      let gaps ← minus? count 1
      let used := clampCells (clampCells (cell * count) + clampCells (columnGap * gaps))
      let x ← fit? 16 (a.x + align.offset a.width used)
      let room ← minus? a.bottom y
      let height := min (rowHeight heights) room
      let cells ← gridRow? a y cell columnGap height perRow row 0 x heights
      let below := clampCells (clampCells (y + height) + rowGap)
      let others ← gridRows? a cell columnGap rowGap align perRow (row + 1) below rest
      return cells ++ others

end Layout

/-- The slot as it is on a screen. What lies behind its right edge is at that edge. -/
def Slot.onScreen (s : Slot) : Slot :=
  { s with area := { s.area with x := clampCells s.area.x } }

theorem Slot.onScreen_of_le {s : Slot} (h : s.area.x ≤ maxCells) : s.onScreen = s := by
  rw [Slot.onScreen, clampCells_of_le h]

namespace Layout

theorem area?_of_le {x y width height : Nat} (hright : x + width ≤ maxCells) (hbottom : y + height ≤ maxCells) :
    area? x y width height = some ⟨x, y, width, height⟩ := by
  simp [area?, fit?_of_le hright, fit?_of_le hbottom]

section

variable {a : Area} (hright : a.right ≤ maxCells) (hbottom : a.bottom ≤ maxCells)
include hright hbottom

theorem stack?_eq (y : Nat) (l : List (Nat × Nat)) : stack? a y l = some ((stack a y l).map Slot.onScreen) := by
  induction l generalizing y with
  | nil => rfl
  | cons p rest ih =>
    obtain ⟨height, index⟩ := p
    rw [stack?, stack]
    by_cases hend : a.bottom ≤ y
    · rw [if_pos hend, if_pos hend]
      rfl
    · have hbelow : y + min height (a.bottom - y) ≤ maxCells := by omega
      have hx : a.x ≤ maxCells := Nat.le_trans (Nat.le_add_right ..) hright
      rw [if_neg hend, if_neg hend]
      simp only [minus?_of_le (Nat.le_of_not_le hend), area?_of_le hright hbelow, fit?_of_le hbelow (Nat.le_refl _), ih,
        Option.bind_eq_bind, Option.bind_some, Option.pure_def, List.map_cons, Slot.onScreen, clampCells_of_le hx]

theorem across?_eq (gap x : Nat) (l : List (Nat × Nat)) :
    across? a gap (clampCells x) l = some ((across a gap x l).map Slot.onScreen) := by
  induction l generalizing x with
  | nil => rfl
  | cons p rest ih =>
    obtain ⟨width, index⟩ := p
    rw [across?, across]
    by_cases hend : a.right ≤ x
    · have hend' : a.right ≤ clampCells x := Nat.le_min.2 ⟨hend, hright⟩
      rw [if_pos hend, if_pos hend']
      rfl
    · have hx : x ≤ maxCells := by omega
      have hedge : x + min width (a.right - x) ≤ maxCells := by omega
      rw [clampCells_of_le hx, if_neg hend, if_neg hend]
      simp only [minus?_of_le (Nat.le_of_not_le hend), area?_of_le hedge hbottom, clampCells_clampCells_add, ih,
        Option.bind_eq_bind, Option.bind_some, Option.pure_def, List.map_cons, Slot.onScreen, clampCells_of_le hx]

omit hbottom in
theorem gridRow?_eq {y height : Nat} (hy : y + height ≤ maxCells) (cell gap perRow row column x : Nat)
    (heights : List Nat) (hindex : row * perRow + (column + heights.length) < 2 ^ 64) :
    gridRow? a y cell gap height perRow row column (clampCells x) heights =
      some ((gridRow a y cell gap height x (heights.zipIdx (row * perRow + column))).map Slot.onScreen) := by
  induction heights generalizing column x with
  | nil => rfl
  | cons first rest ih =>
    rw [List.length_cons] at hindex
    have hrow : fit? 64 (row * perRow) = some (row * perRow) := fit?_of_lt (by omega)
    have hcolumn : fit? 64 (row * perRow + column) = some (row * perRow + column) := fit?_of_lt (by omega)
    have hroom : a.right - clampCells x = a.right - x := by
      unfold clampCells
      omega
    have hedge : clampCells x + min cell (a.right - x) ≤ maxCells := by
      unfold clampCells
      omega
    have hrest := ih (column + 1) (x + cell + gap) (by omega)
    rw [← Nat.add_assoc] at hrest
    rw [gridRow?, List.zipIdx_cons, gridRow]
    simp only [hrow, hcolumn, hroom, area?_of_le hedge hy, clampCells_clampCells_add, hrest, Option.bind_eq_bind,
      Option.bind_some, Option.pure_def, List.map_cons, Slot.onScreen]

/-- The rows of a grid in which no row is wider than the area. -/
theorem gridRows?_eq {cell : Nat} (hcell : 1 ≤ cell) (columnGap rowGap : Nat) (align : Align) (perRow row y : Nat)
    (rows : List (List Nat)) (hrows : ∀ r ∈ rows, 1 ≤ r.length ∧ cell * r.length + columnGap * (r.length - 1) ≤ a.width)
    (hindex : ∀ p ∈ rows.zipIdx row, p.2 * perRow + p.1.length < 2 ^ 64) :
    gridRows? a cell columnGap rowGap align perRow row (clampCells y) rows =
      some ((gridRows a cell columnGap rowGap align y
        ((rows.zipIdx row).map fun p => p.1.zipIdx (p.2 * perRow))).map Slot.onScreen) := by
  induction rows generalizing row y with
  | nil => rfl
  | cons heights rest ih =>
    rw [List.zipIdx_cons, List.forall_mem_cons] at hindex
    rw [List.forall_mem_cons] at hrows
    rw [gridRows?, List.zipIdx_cons, List.map_cons, gridRows]
    by_cases hend : a.bottom ≤ y
    · have hend' : a.bottom ≤ clampCells y := Nat.le_min.2 ⟨hend, hbottom⟩
      rw [if_pos hend, if_pos hend']
      rfl
    · obtain ⟨hpos, hwidth⟩ := hrows.1
      have hmax : a.width ≤ maxCells := Nat.le_trans (Nat.le_add_left ..) hright
      have hcount : heights.length ≤ cell * heights.length := Nat.le_mul_of_pos_left _ hcell
      have hlength : clampCells heights.length = heights.length := clampCells_of_le (by omega)
      have hused : clampCells (cell * heights.length + clampCells (columnGap * (heights.length - 1))) =
          cell * heights.length + columnGap * (heights.length - 1) := by
        unfold clampCells
        omega
      have hx : a.x + align.offset a.width (cell * heights.length + columnGap * (heights.length - 1)) ≤ maxCells :=
        Nat.le_trans (Nat.add_le_add_left (align.offset_le ..) _) hright
      have hcells := gridRow?_eq hright (by omega : y + min (rowHeight heights) (a.bottom - y) ≤ maxCells) cell
        columnGap perRow row 0 (a.x + align.offset a.width (cell * heights.length + columnGap * (heights.length - 1)))
        heights (by simpa using hindex.1)
      rw [clampCells_of_le hx, Nat.add_zero] at hcells
      have hothers := ih (row + 1) (y + min (rowHeight heights) (a.bottom - y) + rowGap) hrows.2 hindex.2
      rw [clampCells_of_le (by omega), if_neg hend, if_neg hend]
      simp only [hlength, minus?_of_le hpos, hused, fit?_of_le hx (Nat.le_refl _), minus?_of_le (Nat.le_of_not_le hend),
        hcells, clampCells_clampCells_add, hothers, Option.bind_eq_bind, Option.bind_some, Option.pure_def,
        List.map_append, List.length_zipIdx, List.zipIdx_map_fst]

end

end Layout

open Layout

namespace Arrangement

def childWidths? (a : Arrangement) (count width : Nat) : Option (List Nat) :=
  match a with
  | columns widths gap => columnWidths? (fullWidths widths count) gap width
  | a => some (a.childWidths count width)

def height? (a : Arrangement) (width : Nat) (heights : List Nat) : Option Nat :=
  match a with
  | pile => some (sumCells heights)
  | columns .. => some (rowHeight heights)
  | grid cellWidth columnGap rowGap _ => do
    let perRow ← gridPerRow? cellWidth columnGap width
    let rows ← chunks? perRow heights
    return gridHeight rowGap rows
  | list height border => some (clampCells (height.getD (sumCells heights) + borderCells border))

def slots? (a : Arrangement) (focus : Nat) (area : Area) (heights : List Nat) : Option (List Slot) :=
  let inner := a.innerArea area
  match a with
  | pile => stack? inner inner.y heights.zipIdx
  | columns widths gap => do
    let widths ← columnWidths? (fullWidths widths heights.length) gap area.width
    across? inner gap inner.x widths.zipIdx
  | grid cellWidth columnGap rowGap align => do
    let perRow ← gridPerRow? cellWidth columnGap area.width
    let rows ← chunks? perRow heights
    gridRows? inner (gridCell cellWidth area.width) columnGap rowGap align perRow 0 inner.y rows
  | list .. => do
    let start ← if focus < heights.length then firstShown? inner.height heights focus else some 0
    let shown ← ((List.range heights.length).drop start).mapM fun i => (heights[i]?).map (·, i)
    stack? inner inner.y shown

/-- Columns are fewer than a word can count. -/
def Counts (a : Arrangement) (count : Nat) : Prop :=
  match a with
  | columns .. => count < 2 ^ 32
  | _ => True

variable {a : Arrangement} {width : Nat} {heights : List Nat}

theorem share_fullWidths {widths : List ColumnWidth} (h : ∀ w ∈ widths, share w ≤ 1) (count : Nat) :
    ∀ w ∈ fullWidths widths count, share w ≤ 1 := by
  intro w hw
  obtain ⟨i, -, rfl⟩ := List.mem_map.1 hw
  rw [List.getD_eq_getElem?_getD]
  cases hi : widths[i]? with
  | none => exact Nat.le_refl _
  | some w => exact h w (List.mem_of_getElem? hi)

theorem childWidths?_eq (hsized : a.Sized) {count : Nat} (hcounts : a.Counts count) (hwidth : width ≤ maxCells) :
    a.childWidths? count width = some (a.childWidths count width) := by
  cases a with
  | columns widths gap =>
    have hone := share_fullWidths (fun w hw => (hsized.1 w hw).1) count
    have hshares := total_le (l := (fullWidths widths count).map share) (by simpa using hone)
    rw [List.length_map, length_fullWidths, Nat.mul_one] at hshares
    refine columnWidths?_eq (fun w hw => ?_) (Nat.lt_of_le_of_lt hshares hcounts) gap hwidth
    exact Nat.le_trans (hone w hw) (by decide)
  | _ => rfl

theorem height?_eq (hsized : a.Sized) (hwidth : width ≤ maxCells) (heights : List Nat) :
    a.height? width heights = some (a.height width heights) := by
  cases a with
  | pile => simp only [height?, height, sumCells_eq, total_eq_sum]
  | columns => rfl
  | grid cellWidth columnGap rowGap align =>
    obtain ⟨hcell, hgap, -⟩ := hsized
    simp only [height?, gridPerRow?_eq hcell hgap hwidth, chunks?_eq (gridPerRow_pos ..), gridHeight_eq,
      Option.bind_eq_bind, Option.bind_some, Option.pure_def, height]
  | list => simp only [height?, height, sumCells_eq, total_eq_sum]

/-- Every child from one on has a height. -/
theorem mapM_heights (heights : List Nat) (start : Nat) :
    ((List.range heights.length).drop start).mapM (fun i => (heights[i]?).map (·, i)) =
      some (heights.zipIdx.drop start) := by
  have hget (i : Nat) (hi : i ∈ (List.range heights.length).drop start) :
      (heights[i]?).map (·, i) = some (heights.getD i 0, i) := by
    have hlt := List.mem_range.1 (List.mem_of_mem_drop hi)
    simp [List.getElem?_eq_getElem hlt]
  rw [mapM_eq_some hget, List.map_drop]
  congr 2
  refine List.ext_getElem (by simp) fun i _ hi => ?_
  simp only [List.length_zipIdx] at hi
  simp [hi]

theorem edges_innerArea (a : Arrangement) (area : Area) :
    (a.innerArea area).right ≤ area.right ∧ (a.innerArea area).bottom ≤ area.bottom := by
  unfold innerArea
  split
  · simp only [Area.inner, Area.right, Area.bottom]
    omega
  · exact ⟨Nat.le_refl _, Nat.le_refl _⟩

/-- Placing the children fails only in a list with too many rows to count. -/
theorem slots?_eq (hsized : a.Sized) (hcounts : a.Counts heights.length) {area : Area} (hwidth : 1 ≤ area.width)
    (hright : area.right ≤ maxCells) (hbottom : area.bottom ≤ maxCells) (hlength : heights.length < 2 ^ 63)
    (focus : Nat) : a.slots? focus area heights =
      if a.countsRows focus heights then some ((a.slots focus area heights).map Slot.onScreen) else none := by
  have hmax : area.width ≤ maxCells := Nat.le_trans (Nat.le_add_left ..) hright
  have hx : area.x ≤ maxCells := Nat.le_trans (Nat.le_add_right ..) hright
  have hy : area.y ≤ maxCells := Nat.le_trans (Nat.le_add_right ..) hbottom
  cases a with
  | pile => exact stack?_eq hright hbottom _ _
  | columns widths gap =>
    have hwidths := childWidths?_eq hsized hcounts hmax
    have hacross := across?_eq hright hbottom gap area.x
      (columnWidths (fullWidths widths heights.length) gap area.width).zipIdx
    rw [clampCells_of_le hx] at hacross
    rw [childWidths?, childWidths] at hwidths
    simp only [slots?, slots, innerArea, hwidths, Option.bind_eq_bind, Option.bind_some, hacross, countsRows, if_true]
  | grid cellWidth columnGap rowGap align =>
    obtain ⟨hcell, hgap, -⟩ := hsized
    have hper := gridPerRow_pos cellWidth columnGap area.width
    have hrows := gridRows?_eq hright hbottom (gridCell_pos cellWidth area.width) columnGap rowGap align
      (gridPerRow cellWidth columnGap area.width) 0 area.y (chunks (gridPerRow cellWidth columnGap area.width) heights)
      (fun r hr => by
        obtain ⟨hpos, hle⟩ := length_of_mem_chunks hper hr
        exact ⟨hpos, cells_le_width hwidth hpos hle⟩)
      (fun p hp => by
        have hle := index_le_of_mem_chunks hper hp
        omega)
    have hchunks := chunks_zipIdx hper 0 heights
    rw [Nat.zero_mul] at hchunks
    rw [← hchunks, clampCells_of_le hy] at hrows
    simp only [slots?, slots, innerArea, gridPerRow?_eq hcell hgap hmax, chunks?_eq hper, Option.bind_eq_bind,
      Option.bind_some, hrows, countsRows, if_true]
  | list height border =>
    obtain ⟨hright', hbottom'⟩ := edges_innerArea (list height border) area
    have hstack (start : Nat) := stack?_eq (Nat.le_trans hright' hright) (Nat.le_trans hbottom' hbottom)
      ((list height border).innerArea area).y (heights.zipIdx.drop start)
    by_cases hfocus : focus < heights.length
    · have hshown := firstShown?_eq ((list height border).innerArea area).height hfocus
      have hcount : (list height border).countsRows focus heights =
          decide (total (heights.take (focus + 1)) < rowWord) := by
        simp [countsRows, Nat.not_le.2 hfocus]
      by_cases hword : total (heights.take (focus + 1)) < rowWord
      · rw [if_pos hword] at hshown
        rw [hcount, decide_eq_true hword, if_pos rfl]
        simp only [slots?, slots, hfocus, if_true, hshown, mapM_heights, Option.bind_eq_bind, Option.bind_some, hstack]
      · rw [if_neg hword] at hshown
        rw [hcount, decide_eq_false hword, if_neg (by simp)]
        simp only [slots?, hfocus, if_true, hshown, Option.bind_eq_bind, Option.bind_none]
    · have hcount : (list height border).countsRows focus heights = true := by
        simp [countsRows, Nat.le_of_not_lt hfocus]
      rw [hcount, if_pos rfl]
      simp only [slots?, slots, hfocus, if_false, mapM_heights, Option.bind_eq_bind, Option.bind_some, hstack]

end Arrangement

end ScreenForm
