import ScreenForm.Proofs.Layout.Confined
import ScreenForm.Proofs.Layout.Machine
import ScreenForm.Proofs.Text.Wrap
/-!
# Measuring and painting in words

Measuring and painting are repeated here with the arithmetic of the machine, and
fail where that does. For the widgets of a form they give what measuring and
painting are defined by, and fail only where `render?` says so, as long as columns
are fewer than a word can count: a list adds up its rows in a word of 32 bits, and
nothing keeps them below the largest one (`Form.InUse.rows?_and_paint?_eq`).
-/

namespace ScreenForm

open Layout Machine

/-! ## Wrappers and leaves -/

namespace Wrapping

def sides? : Wrapping → Option Nat
  | padding left right => fit? 16 (left + right)
  | styled .. => some 0

def slot? (w : Wrapping) (area : Area) : Option Area :=
  match w with
  | padding left _ => do
    let sides ← w.sides?
    area? (min (clampCells (area.x + left)) area.right) area.y (area.width - sides) area.height
  | styled .. => some area

theorem Narrow.sides?_eq {w : Wrapping} (h : w.Narrow) : w.sides? = some w.sides := by
  cases w with
  | padding left right => exact fit?_of_le h (Nat.le_refl _)
  | styled => rfl

theorem Narrow.slot?_eq {w : Wrapping} (h : w.Narrow) {area : Area} (hright : area.right ≤ maxCells)
    (hbottom : area.bottom ≤ maxCells) : w.slot? area = some (w.slot area) := by
  cases w with
  | padding left right =>
    have hx : min (clampCells (area.x + left)) area.right = min (area.x + left) area.right := by
      unfold clampCells
      omega
    have hedge : min (area.x + left) area.right + (area.width - (padding left right).sides) ≤ maxCells := by
      simp only [sides]
      unfold Area.right at *
      omega
    simp only [slot?, h.sides?_eq, hx, area?_of_le hedge hbottom, Option.bind_eq_bind, Option.bind_some, slot,
      childWidth]
  | styled => rfl

end Wrapping

namespace Widget

/-- The sizes of its texts and of its list of children are those of things in memory. -/
def Storable : Widget → Prop
  | text s _ => s.utf8ByteSize < 2 ^ 63
  | edit e => (e.caption ++ e.text).utf8ByteSize < 2 ^ 63
  | container _ children _ => children.length < 2 ^ 63
  | _ => True

/-- Columns are fewer than a word of 32 bits can count. -/
def Countable : Widget → Prop
  | container a children _ => a.Counts children.length
  | _ => True

instance (w : Widget) : Decidable w.Storable :=
  match w with
  | text s _ => inferInstanceAs (Decidable (s.utf8ByteSize < 2 ^ 63))
  | edit e => inferInstanceAs (Decidable ((e.caption ++ e.text).utf8ByteSize < 2 ^ 63))
  | container _ children _ => inferInstanceAs (Decidable (children.length < 2 ^ 63))
  | button _ | checkBox .. | radioButton .. | divider .. | wrapper .. => isTrue trivial

instance (w : Widget) : Decidable w.Countable :=
  match w with
  | container (.columns ..) children _ => inferInstanceAs (Decidable (children.length < 2 ^ 32))
  | container .pile .. | container (.grid ..) .. | container (.list ..) .. => isTrue trivial
  | text .. | edit _ | button _ | checkBox .. | radioButton .. | divider .. | wrapper .. => isTrue trivial

def leafRows? (w : Widget) (width : Nat) : Option Nat :=
  match w with
  | text s _ => do
    let (lines, _) ← Text.wrapBoth? s.toList width
    return clampCells lines.length
  | edit e => do
    let (lines, _) ← Text.wrapBoth? e.content width
    return clampCells lines.length
  | divider _ _ top bottom => do
    let above ← fit? 64 (top + 1)
    let rows ← fit? 64 (above + bottom)
    return clampCells rows
  | _ => some 1

theorem wrapBoth?_text {s : String} {align : Align} (h : (text s align).Storable) {width : Nat}
    (hwidth : width ≤ maxCells) :
    Text.wrapBoth? s.toList width = some (Text.wrap s.toList width, Text.wrapPositions s.toList width) :=
  Text.wrapBoth?_eq (by rwa [String.ofList_toList]) hwidth

theorem wrapBoth?_edit {e : Edit} (h : (edit e).Storable) {width : Nat} (hwidth : width ≤ maxCells) :
    Text.wrapBoth? e.content width = some (Text.wrap e.content width, Text.wrapPositions e.content width) := by
  refine Text.wrapBoth?_eq ?_ hwidth
  rwa [Edit.content, String.ofList_append, String.ofList_toList, String.ofList_toList]

/-- The two margins of a divider and its line just fit into the largest word. -/
theorem leafRows?_eq {w : Widget} (hsized : w.Sized) (hstorable : w.Storable) {width : Nat}
    (hwidth : width ≤ maxCells) : w.leafRows? width = some (w.leafRows width) := by
  cases w with
  | text s align => simp [leafRows?, leafRows, wrapBoth?_text hstorable hwidth]
  | edit e => simp [leafRows?, leafRows, wrapBoth?_edit hstorable hwidth]
  | divider fill caption top bottom =>
    obtain ⟨htop, hbottom⟩ := hsized
    have habove : fit? 64 (top + 1) = some (top + 1) := fit?_of_lt (by omega)
    have hrows : fit? 64 (top + 1 + bottom) = some (top + 1 + bottom) := fit?_of_lt (by omega)
    simp [leafRows?, leafRows, habove, hrows]
  | _ => rfl

end Widget

/-! ## Measuring -/

/-- A container gives no child more columns than it has, except that no columns count as one. -/
theorem Arrangement.childWidths_le (a : Arrangement) (count width : Nat) :
    ∀ w ∈ a.childWidths count width, w ≤ max width 1 := by
  intro w hw
  cases a with
  | pile =>
    rw [List.eq_of_mem_replicate hw]
    exact Nat.le_max_left ..
  | columns widths gap =>
    have htotal : total ((columns widths gap).childWidths count width) ≤ width :=
      Nat.le_trans (total_columnWidths_le ..) (Nat.sub_le ..)
    exact Nat.le_trans (Nat.le_trans (le_total_of_mem hw) htotal) (Nat.le_max_left ..)
  | grid cellWidth =>
    rw [List.eq_of_mem_replicate hw]
    exact Nat.min_le_right ..
  | list height border =>
    rw [List.eq_of_mem_replicate hw]
    omega

namespace Tree

def widget? (t : Tree) (id : Nat) : Option Widget :=
  (t.nodes[id]?).map Node.widget

/-- The natural height of a widget, measured on this many levels. -/
def rowsWithin? (t : Tree) : Nat → Nat → Nat → Option Nat
  | 0, _, _ => none
  | levels + 1, id, width => do
    match ← t.widget? id with
    | .container a children _ =>
      let widths ← a.childWidths? children.length width
      let heights ← (children.zip widths).mapM fun p => t.rowsWithin? levels p.1 p.2
      a.height? width heights
    | .wrapper w child =>
      let sides ← w.sides?
      t.rowsWithin? levels child (width - sides)
    | leaf => leaf.leafRows? width

def rows? (t : Tree) (id width : Nat) : Option Nat :=
  t.rowsWithin? t.size id width

def childRows? (t : Tree) (a : Arrangement) (children : List Nat) (width : Nat) : Option (List Nat) := do
  let widths ← a.childWidths? children.length width
  (children.zip widths).mapM fun p => t.rows? p.1 p.2

def slots? (t : Tree) (id : Nat) (area : Area) : Option (List Slot) := do
  match ← t.widget? id with
  | .container a children focus =>
    let heights ← t.childRows? a children area.width
    a.slots? focus area heights
  | .wrapper w _ =>
    let place ← w.slot? area
    return [⟨0, place⟩]
  | _ => some []

/-- What words rely on: children come before their parents, sizes are those of a screen, what is in memory has a
size there, and columns can be counted. -/
structure Regular (t : Tree) : Prop where
  ordered : t.Ordered
  sized : t.Sized
  storable : ∀ id, (t.widget id).Storable
  countable : ∀ id, (t.widget id).Countable

variable {t : Tree} {id : Nat}

theorem widget?_eq (hid : id < t.size) : t.widget? id = some (t.widget id) := by
  rw [widget?, Array.getElem?_eq_getElem hid, widget, node, Array.getElem?_eq_getElem hid]
  rfl

theorem Regular.rowsWithin?_eq (h : t.Regular) {levels width : Nat} (hlevels : id < levels) (hid : id < t.size)
    (hwidth : width ≤ maxCells) : t.rowsWithin? levels id width = some (t.rowsWithin levels id width) := by
  induction levels generalizing id width with
  | zero => omega
  | succ levels ih =>
    have hsized := h.sized id
    have hstorable := h.storable id
    have hcountable := h.countable id
    have hchild {c w : Nat} (hc : c ∈ t.children id) (hw : w ≤ maxCells) :
        t.rowsWithin? levels c w = some (t.rowsWithin levels c w) := by
      have hlt := h.ordered id c hc
      exact ih (by omega) (by omega) hw
    rw [rowsWithin?, rowsWithin, widget?_eq hid]
    simp only [Option.bind_eq_bind, Option.bind_some]
    cases hw : t.widget id with
    | container a children focus =>
      rw [hw] at hsized hcountable
      have hwidths := Arrangement.childWidths?_eq hsized hcountable hwidth
      have hheights :
          (children.zip (a.childWidths children.length width)).mapM (fun p => t.rowsWithin? levels p.1 p.2) =
          some ((children.zip (a.childWidths children.length width)).map fun p => t.rowsWithin levels p.1 p.2) := by
        refine mapM_eq_some fun p hp => ?_
        obtain ⟨hc, hpw⟩ := List.of_mem_zip hp
        have hle := a.childWidths_le children.length width p.2 hpw
        exact hchild (by rw [Tree.children, hw]; exact hc) (by unfold maxCells at *; omega)
      simp only [hwidths, hheights, Option.bind_some, Arrangement.height?_eq hsized hwidth]
      rw [← List.map_uncurry_zip_eq_zipWith]
      rfl
    | wrapper w child =>
      rw [hw] at hsized
      have hsides := Wrapping.Narrow.sides?_eq hsized
      simp only [hsides, Option.bind_some]
      exact hchild (by simp [children, hw, Widget.children]) (Nat.le_trans (Nat.sub_le ..) hwidth)
    | _ =>
      rw [hw] at hsized hstorable
      exact Widget.leafRows?_eq hsized hstorable hwidth

theorem Regular.rows?_eq (h : t.Regular) (hid : id < t.size) {width : Nat} (hwidth : width ≤ maxCells) :
    t.rows? id width = some (t.rows id width) :=
  h.rowsWithin?_eq hid hid hwidth

end Tree

/-! ## Painting what is a widget's own -/

/-- The area lies in the buffer, which is no larger than a screen. -/
structure Area.Inside (a : Area) (b : Buffer) : Prop where
  right : a.right ≤ b.width
  bottom : a.bottom ≤ b.height
  width : b.width ≤ maxCells
  height : b.height ≤ maxCells

theorem Area.Inside.right_le {a : Area} {b : Buffer} (h : a.Inside b) : a.right ≤ maxCells :=
  Nat.le_trans h.right h.width

theorem Area.Inside.bottom_le {a : Area} {b : Buffer} (h : a.Inside b) : a.bottom ≤ maxCells :=
  Nat.le_trans h.bottom h.height

/-- A buffer that was written to has the size that it had. -/
theorem Area.Inside.of_sameOutside {a area : Area} {b b' : Buffer} (h : a.Inside b)
    (hsame : Buffer.SameOutside area b b') : a.Inside b' :=
  ⟨hsame.width ▸ h.right, hsame.height ▸ h.bottom, hsame.width ▸ h.width, hsame.height ▸ h.height⟩

def Buffer.putLines? (b : Buffer) (a : Area) (lines : List (List Char)) (align : Align) (s : Style) : Option Buffer :=
  ((lines.take a.height).zipIdx).foldlM (fun b line => do
    let x ← fit? 16 (a.x + align.offset a.width (clampCells (Text.displayWidth line.1)))
    let y ← fit? 16 (a.y + clampCells line.2)
    if y < b.height then some (b.putText x y (a.right - x) line.1 s) else none) b

theorem Buffer.putLines?_eq {b : Buffer} {a : Area} (h : a.Inside b) (lines : List (List Char)) (align : Align)
    (s : Style) : b.putLines? a lines align s = some (b.putLines a lines align s) := by
  refine foldlM_eq_some (P := a.Inside) (fun b' hb' line hline => ⟨?_, ?_⟩) h
  · have hrow : line.2 < a.height := by
      have hlt := List.snd_lt_of_mem_zipIdx hline
      rw [List.length_take] at hlt
      omega
    have hright := hb'.right_le
    have hbottom := hb'.bottom_le
    have hinside := hb'.bottom
    unfold Area.right at hright
    unfold Area.bottom at hbottom hinside
    have hoffset := align.offset_le a.width (clampCells (Text.displayWidth line.1))
    have hx := fit?_of_le (by omega : a.x + align.offset a.width (clampCells (Text.displayWidth line.1)) ≤ maxCells)
      (Nat.le_refl 16)
    have hy := fit?_of_le (by omega : a.y + line.2 ≤ maxCells) (Nat.le_refl 16)
    have hlt : a.y + line.2 < b'.height := by omega
    simp only [clampCells_of_le (by omega : line.2 ≤ maxCells), hx, hy, Option.bind_eq_bind, Option.bind_some, hlt,
      if_true]
  · exact hb'.of_sameOutside ((writes_putText ..).sameOutside _)

namespace Edit

def paint? (e : Edit) (area : Area) (focused : Bool) (b : Buffer) : Option Buffer := do
  let (lines, places) ← Text.wrapBoth? e.content area.width
  let b ← b.putLines? area lines .left .plain
  if focused then
    let before ← fit? 64 (e.caption.length + e.cursor)
    let last ← minus? places.length 1
    let place ← places[min before last]?
    let row := clampCells place.1
    let column := clampCells place.2
    if row < area.height && column < area.width then
      let x ← fit? 16 (area.x + column)
      let y ← fit? 16 (area.y + row)
      let spot ← area? x y 1 1
      return b.setStyle spot Theme.cursor
    else return b
  else return b

/-- The cursor is at the place of the character behind it, or at the end. -/
theorem getElem?_places (e : Edit) (width : Nat) :
    (Text.wrapPositions e.content width)[min (e.caption.length + e.cursor)
      ((Text.wrapPositions e.content width).length - 1)]? = some (e.cursorPosition width) := by
  have hlength := Text.length_wrapPositions e.content width
  have hlt : min (e.caption.length + e.cursor) ((Text.wrapPositions e.content width).length - 1) <
      (Text.wrapPositions e.content width).length := by omega
  rw [cursorPosition, List.getElem?_eq_getElem hlt, List.getD_eq_getElem?_getD, List.getElem?_eq_getElem hlt]
  rfl

theorem paint?_eq {e : Edit} (hsized : e.Sized) (hstorable : (Widget.edit e).Storable) {area : Area} {b : Buffer}
    (h : area.Inside b) (focused : Bool) : e.paint? area focused b = some (e.paint area focused b) := by
  have hright := h.right_le
  have hbottom := h.bottom_le
  unfold Area.right at hright
  unfold Area.bottom at hbottom
  have hwrap := Widget.wrapBoth?_edit hstorable (by omega : area.width ≤ maxCells)
  have hlines := Buffer.putLines?_eq h (Text.wrap e.content area.width) .left .plain
  rw [paint?, hwrap]
  simp only [Option.bind_eq_bind, Option.bind_some, hlines, paint]
  cases focused with
  | false => simp
  | true =>
    have hbefore : e.caption.length + e.cursor < 2 ^ 64 := by
      have hbytes := Text.length_le_utf8ByteSize (e.caption ++ e.text).toList
      rw [String.ofList_toList, String.length_toList, String.length_append] at hbytes
      unfold Sized at hsized
      unfold Widget.Storable at hstorable
      omega
    have hlength : 1 ≤ (Text.wrapPositions e.content area.width).length := by
      rw [Text.length_wrapPositions]
      omega
    simp only [if_true, fit?_of_lt hbefore, minus?_of_le hlength, Option.bind_some, e.getElem?_places area.width]
    obtain ⟨row, column⟩ := e.cursorPosition area.width
    have hrow : clampCells row < area.height ↔ row < area.height := by
      unfold clampCells
      omega
    have hcolumn : clampCells column < area.width ↔ column < area.width := by
      unfold clampCells
      omega
    simp only [hrow, hcolumn, Bool.true_and]
    by_cases hshown : (decide (row < area.height) && decide (column < area.width)) = true
    · rw [if_pos hshown, if_pos hshown]
      simp only [Bool.and_eq_true, decide_eq_true_eq] at hshown
      simp only [clampCells_of_le (by omega : row ≤ maxCells), clampCells_of_le (by omega : column ≤ maxCells),
        fit?_of_le (by omega : area.x + column ≤ maxCells) (Nat.le_refl _),
        fit?_of_le (by omega : area.y + row ≤ maxCells) (Nat.le_refl _),
        area?_of_le (by omega : area.x + column + 1 ≤ maxCells) (by omega : area.y + row + 1 ≤ maxCells),
        Option.bind_some, Option.pure_def]
    · rw [if_neg hshown, if_neg hshown]
      rfl

end Edit

def paintDivider? (fill : Char) (caption : String) (top : Nat) (area : Area) (b : Buffer) : Option Buffer :=
  let row := clampCells top
  if area.height ≤ row then some b
  else do
    let y ← fit? 16 (area.y + row)
    let line ← area? area.x y area.width 1
    let count ← over? area.width (max (Text.columns fill) 1)
    let b ← b.putLines? line [List.replicate count fill] .left .plain
    if caption.isEmpty then return b
    else b.putLines? line [(" " ++ caption ++ " ").toList] .center .plain

theorem paintDivider?_eq (fill : Char) (caption : String) (top : Nat) {area : Area} {b : Buffer} (h : area.Inside b) :
    paintDivider? fill caption top area b = some (paintDivider fill caption top area b) := by
  have hright := h.right_le
  have hbottom := h.bottom_le
  have hinside := h.bottom
  unfold Area.bottom at hbottom hinside
  unfold paintDivider? paintDivider
  by_cases hend : area.height ≤ top
  · have hend' : area.height ≤ clampCells top := Nat.le_min.2 ⟨hend, by omega⟩
    rw [if_pos hend, if_pos hend']
  · have htop : clampCells top = top := clampCells_of_le (by omega)
    have hline : Area.Inside ⟨area.x, area.y + top, area.width, 1⟩ b :=
      ⟨h.right, (by omega : area.y + top + 1 ≤ b.height), h.width, h.height⟩
    have hdivisor : 0 < max (Text.columns fill) 1 := Nat.lt_of_lt_of_le Nat.one_pos (Nat.le_max_right ..)
    have hfilled := Buffer.putLines?_eq hline [List.replicate (area.width / max (Text.columns fill) 1) fill] .left
      .plain
    simp only [htop, if_neg hend, fit?_of_le (by omega : area.y + top ≤ maxCells) (Nat.le_refl _),
      area?_of_le hright (by omega : area.y + top + 1 ≤ maxCells), over?_of_pos hdivisor, hfilled, Option.bind_eq_bind,
      Option.bind_some]
    split
    · rfl
    · exact Buffer.putLines?_eq (hline.of_sameOutside ((Buffer.writes_putLines ..).sameOutside _)) _ _ _

namespace Widget

def paintSelf? (w : Widget) (area : Area) (focused : Bool) (b : Buffer) : Option Buffer :=
  match w with
  | text s align => do
    let (lines, _) ← Text.wrapBoth? s.toList area.width
    b.putLines? area lines align .plain
  | button .. | checkBox .. | radioButton .. =>
    b.putLines? area [w.face.toList] .left (if focused then Theme.focusedLabel else .plain)
  | edit e => e.paint? area focused b
  | divider fill caption top _ => paintDivider? fill caption top area b
  | w => some (w.paintSelf area focused b)

theorem paintSelf?_eq {w : Widget} (hsized : w.Sized) (hstorable : w.Storable) {area : Area} {b : Buffer}
    (h : area.Inside b) (focused : Bool) : w.paintSelf? area focused b = some (w.paintSelf area focused b) := by
  have hwidth : area.width ≤ maxCells := Nat.le_trans (Nat.le_add_left ..) h.right_le
  cases w with
  | text s align =>
    simp only [paintSelf?, paintSelf, wrapBoth?_text hstorable hwidth, Option.bind_eq_bind, Option.bind_some,
      Buffer.putLines?_eq h]
  | button | checkBox | radioButton => exact Buffer.putLines?_eq h _ _ _
  | edit e => exact e.paint?_eq hsized hstorable h focused
  | divider fill caption top bottom => exact paintDivider?_eq fill caption top h
  | _ => rfl

end Widget

/-! ## Painting -/

/-- An area that is not empty has its edges between those of an area that it lies in. -/
theorem Area.Within.edges {a area : Area} (h : a.Within area) (hvisible : a.isEmpty = false) :
    area.x ≤ a.x ∧ a.right ≤ area.right ∧ area.y ≤ a.y ∧ a.bottom ≤ area.bottom := by
  simp only [isEmpty, Bool.or_eq_false_iff, decide_eq_false_iff_not] at hvisible
  obtain ⟨hwidth, hheight⟩ := hvisible
  have hfirst := h a.x a.y (by simp only [has_iff, right, bottom]; omega)
  have hlast := h (a.right - 1) (a.bottom - 1) (by simp only [has_iff, right, bottom]; omega)
  simp only [has_iff] at hfirst hlast
  unfold right bottom at *
  omega

theorem Area.Inside.of_within {a area : Area} {b : Buffer} (h : area.Inside b) (hsub : a.Within area)
    (hvisible : a.isEmpty = false) : a.Inside b := by
  obtain ⟨-, hright, -, hbottom⟩ := hsub.edges hvisible
  exact ⟨Nat.le_trans hright h.right, Nat.le_trans hbottom h.bottom, h.width, h.height⟩

namespace Tree

def paintWithin? (t : Tree) : Nat → Nat → Area → Bool → Buffer → Option Buffer
  | 0, _, _, _, _ => none
  | levels + 1, id, area, focused, b =>
    if area.isEmpty then some b
    else do
      let widget ← t.widget? id
      let b ← widget.paintSelf? area focused b
      let slots ← t.slots? id area
      slots.foldlM (fun b slot => do
        let child ← widget.children[slot.index]?
        t.paintWithin? levels child slot.area (focused && slot.index = widget.focusIndex) b) b

def paint? (t : Tree) (id : Nat) (area : Area) (focused : Bool) (b : Buffer) : Option Buffer :=
  t.paintWithin? (2 * t.size * (area.width + area.height + 1)) id area focused b

variable {t : Tree} {id : Nat} {area : Area} {b : Buffer}

theorem rowsWithin_le (levels id width : Nat) : t.rowsWithin levels id width ≤ maxCells := by
  have hclamp (n : Nat) : clampCells n ≤ maxCells := Nat.min_le_right ..
  induction levels generalizing id width with
  | zero => exact Nat.zero_le _
  | succ levels ih =>
    rw [rowsWithin]
    split
    · next a children focus hw =>
      cases a with
      | columns widths gap =>
        refine rowHeight_le fun n hn => ?_
        rw [← List.map_uncurry_zip_eq_zipWith] at hn
        obtain ⟨p, -, rfl⟩ := List.mem_map.1 hn
        exact ih ..
      | _ => exact hclamp _
    · exact ih ..
    · unfold Widget.leafRows
      split
      · exact hclamp _
      · exact hclamp _
      · exact hclamp _
      · decide

/-- So many children always have few enough rows. -/
theorem countsRows_of_length (h : (t.children id).length ≤ 65537) (width : Nat) : t.countsRows id width = true := by
  unfold countsRows
  unfold children at h
  split
  · next a children focus hw =>
    rw [hw] at h
    cases a with
    | list height border =>
      have hle : ∀ n ∈ (t.childRows (.list height border) children width).take (focus + 1), n ≤ maxCells := by
        intro n hn
        have hmem := List.mem_of_mem_take hn
        rw [childRows, ← List.map_uncurry_zip_eq_zipWith] at hmem
        obtain ⟨p, -, rfl⟩ := List.mem_map.1 hmem
        exact rowsWithin_le ..
      have hlength : ((t.childRows (.list height border) children width).take (focus + 1)).length ≤ 65537 := by
        rw [List.length_take, length_childRows]
        exact Nat.le_trans (Nat.min_le_right ..) h
      have hmul := Nat.mul_le_mul_right maxCells hlength
      have htotal : total ((t.childRows (.list height border) children width).take (focus + 1)) < rowWord :=
        Nat.lt_of_le_of_lt (Nat.le_trans (total_le hle) hmul) (by decide)
      simp [Arrangement.countsRows, htotal]
    | _ => rfl
  · rfl

theorem index_lt_of_mem_slots {s : Slot} (h : s ∈ t.slots id area) : s.index < (t.children id).length := by
  unfold slots at h
  unfold children
  split at h
  · next a children focus hw =>
    rw [hw]
    have hmem := (a.index_slots_sublist focus area _).subset (List.mem_map_of_mem h)
    rwa [List.mem_range, length_childRows] at hmem
  · next w child hw =>
    rw [hw]
    obtain rfl := List.mem_singleton.1 h
    exact Nat.one_pos
  · cases h

theorem Regular.childRows?_eq (h : t.Regular) {a : Arrangement} {children : List Nat} {focus : Nat}
    (hw : t.widget id = .container a children focus) {width : Nat} (hwidth : width ≤ maxCells) :
    t.childRows? a children width = some (t.childRows a children width) := by
  have hid : id < t.size := lt_size_of_isContainer (by rw [hw]; rfl)
  have hsized := h.sized id
  have hcountable := h.countable id
  rw [hw] at hsized hcountable
  have hwidths := Arrangement.childWidths?_eq hsized hcountable hwidth
  rw [childRows?, hwidths, childRows, ← List.map_uncurry_zip_eq_zipWith]
  refine mapM_eq_some fun p hp => ?_
  obtain ⟨hc, hpw⟩ := List.of_mem_zip hp
  have hlt := h.ordered id p.1 (by rw [Tree.children, hw]; exact hc)
  have hle := a.childWidths_le children.length width p.2 hpw
  exact h.rows?_eq (by omega) (by unfold maxCells at *; omega)

/-- A widget that can count its rows has the slots that it is meant to have, and another one has none. -/
theorem Regular.slots?_eq (h : t.Regular) (hid : id < t.size) (hvisible : area.isEmpty = false)
    (hright : area.right ≤ maxCells) (hbottom : area.bottom ≤ maxCells) : t.slots? id area =
      if t.countsRows id area.width then some ((t.slots id area).map Slot.onScreen) else none := by
  have hsized := h.sized id
  have hstorable := h.storable id
  have hwidth : area.width ≤ maxCells := Nat.le_trans (Nat.le_add_left ..) hright
  have hpos : 1 ≤ area.width := by
    simp only [Area.isEmpty, Bool.or_eq_false_iff, decide_eq_false_iff_not] at hvisible
    omega
  unfold countsRows slots
  rw [slots?, widget?_eq hid]
  simp only [Option.bind_eq_bind, Option.bind_some]
  cases hw : t.widget id with
  | container a children focus =>
    have hcountable := h.countable id
    rw [hw] at hsized hstorable hcountable
    have hlength := t.length_childRows a children area.width
    have hcounts : a.Counts (t.childRows a children area.width).length := by
      rw [hlength]
      exact hcountable
    have hstores : (t.childRows a children area.width).length < 2 ^ 63 := by
      rw [hlength]
      exact hstorable
    simp only [h.childRows?_eq hw hwidth, Option.bind_some]
    exact Arrangement.slots?_eq hsized hcounts hpos hright hbottom hstores focus
  | wrapper w child =>
    rw [hw] at hsized
    have hx : (⟨0, w.slot area⟩ : Slot).area.x ≤ maxCells := by
      cases w with
      | padding left right => exact Nat.le_trans (Nat.min_le_right ..) hright
      | styled => exact Nat.le_trans (Nat.le_add_right ..) hright
    simp only [Wrapping.Narrow.slot?_eq hsized hright hbottom, Option.bind_some, List.map_singleton,
      Slot.onScreen_of_le hx, Option.pure_def, if_true]
  | _ => rfl

theorem sameSize_paintWithin (levels id : Nat) (area : Area) (focused : Bool) (b : Buffer) :
    (t.paintWithin levels id area focused b).width = b.width ∧
      (t.paintWithin levels id area focused b).height = b.height := by
  rw [paintWithin_eq]
  induction t.placedWithin levels id area focused generalizing b with
  | nil => exact ⟨rfl, rfl⟩
  | cons p rest ih =>
    have hself := ((t.widget p.1).writes_paintSelf p.2.1 p.2.2).sameOutside b
    rw [List.foldl_cons, (ih _).1, (ih _).2]
    exact ⟨hself.width, hself.height⟩

/-- Of the slots only those of which nothing is seen are at another place on a screen. -/
theorem Regular.paintWithin?_onScreen (h : t.Regular) (hright : area.right ≤ maxCells) {s : Slot}
    (hs : s ∈ t.slots id area) (levels c : Nat) (focused : Bool) (b : Buffer) :
    t.paintWithin? levels c s.onScreen.area focused b = t.paintWithin? levels c s.area focused b := by
  cases hvisible : s.area.isEmpty with
  | true =>
    cases levels with
    | zero => rfl
    | succ levels =>
      have hempty : s.onScreen.area.isEmpty = true := hvisible
      rw [paintWithin?, paintWithin?, if_pos hempty, if_pos hvisible]
  | false =>
    obtain ⟨-, hedge, -, -⟩ := ((tiles_slots h.sized.narrow id area).1.within s hs).edges hvisible
    rw [Slot.onScreen_of_le (Nat.le_trans (Nat.le_trans (Nat.le_add_right ..) hedge) hright)]

theorem paintableWithin_of_isEmpty (h : area.isEmpty = true) (levels id : Nat) :
    t.paintableWithin levels id area = true := by
  cases levels with
  | zero => rfl
  | succ levels => rw [paintableWithin, h, Bool.true_or]

/-- What can be painted is what has lists only that can count their rows, as far as they get an area. -/
theorem paintableWithin_iff (hlt : t.Ordered) {levels : Nat} (hlevels : id < levels) :
    t.paintableWithin levels id area = true ↔
      ∀ n a, t.Hands (fun _ => True) id area n a → a.isEmpty = false → t.countsRows n a.width = true := by
  constructor
  · intro h n a hn hvisible
    induction hn generalizing levels with
    | self id area =>
      cases levels with
      | zero => omega
      | succ levels =>
        rw [paintableWithin, hvisible, Bool.false_or, Bool.and_eq_true] at h
        exact h.1
    | @down id area s c n a visible free hs hc rest ih =>
      cases levels with
      | zero => omega
      | succ levels =>
        rw [paintableWithin, visible, Bool.false_or, Bool.and_eq_true, List.all_eq_true] at h
        have hchild := h.2 s hs
        have hc' : (t.widget id).children[s.index]? = some c := hc
        rw [hc'] at hchild
        have hlower := hlt id c (List.mem_of_getElem? hc)
        exact ih (by omega) hchild hvisible
  · intro h
    induction levels generalizing id area with
    | zero => omega
    | succ levels ih =>
      rw [paintableWithin]
      cases hvisible : area.isEmpty with
      | true => rfl
      | false =>
        rw [Bool.false_or, Bool.and_eq_true, List.all_eq_true]
        refine ⟨h id area (.self ..) hvisible, fun s hs => ?_⟩
        split
        · next c hc =>
          have hlower := hlt id c (List.mem_of_getElem? hc)
          exact ih (by omega) fun n a hn => h n a (.down hvisible trivial hs hc hn)
        · rfl

/-- Painting does not fail where all lists that get an area can count their rows. -/
theorem Regular.paintWithin?_eq (h : t.Regular) {levels : Nat} (hlevels : id < levels) (hid : id < t.size)
    (hinside : area.isEmpty = false → area.Inside b) (focused : Bool)
    (hpaintable : t.paintableWithin levels id area = true) :
    t.paintWithin? levels id area focused b = some (t.paintWithin levels id area focused b) := by
  induction levels generalizing id area focused b with
  | zero => omega
  | succ levels ih =>
    rw [paintWithin?, paintWithin]
    cases hvisible : area.isEmpty with
    | true => rfl
    | false =>
      have hin := hinside hvisible
      have hself := Widget.paintSelf?_eq (h.sized id) (h.storable id) hin focused
      rw [paintableWithin, hvisible, Bool.false_or, Bool.and_eq_true, List.all_eq_true] at hpaintable
      have hslots := h.slots?_eq hid hvisible hin.right_le hin.bottom_le
      rw [if_pos hpaintable.1] at hslots
      simp only [Bool.false_eq_true, if_false, widget?_eq hid, hself, hslots, Option.bind_eq_bind, Option.bind_some]
      rw [List.foldlM_map]
      refine foldlM_eq_some (P := area.Inside) (fun b' hb' s hs => ?_)
        (hin.of_sameOutside (((t.widget id).writes_paintSelf area focused).sameOutside b))
      have hindex := index_lt_of_mem_slots hs
      obtain ⟨c, hc⟩ : ∃ c, (t.widget id).children[s.index]? = some c := ⟨_, List.getElem?_eq_getElem hindex⟩
      have hlt := h.ordered id c (List.mem_of_getElem? hc)
      have hwithin := (tiles_slots h.sized.narrow id area).1.within s hs
      have hchild := hpaintable.2 s hs
      rw [hc] at hchild
      have hpaint (focused : Bool) : t.paintWithin? levels c s.area focused b' =
          some (t.paintWithin levels c s.area focused b') :=
        ih (by omega) (by omega) (fun hseen => hb'.of_within hwithin hseen) focused hchild
      have hplace := h.paintWithin?_onScreen hin.right_le hs levels c
        (focused && s.index = (t.widget id).focusIndex) b'
      have hindex' : s.onScreen.index = s.index := rfl
      obtain ⟨hwidth, hheight⟩ := t.sameSize_paintWithin levels c s.area
        (focused && s.index = (t.widget id).focusIndex) b'
      simp only [hindex', hc, Option.bind_some, hplace, hpaint, true_and]
      exact ⟨hwidth ▸ hb'.right, hheight ▸ hb'.bottom, hwidth ▸ hb'.width, hheight ▸ hb'.height⟩

/-- Painting fails where a list that gets an area cannot count its rows, whatever was painted before. -/
theorem Regular.paintWithin?_eq_none (h : t.Regular) {levels : Nat} (hid : id < t.size) (hright : area.right ≤ maxCells)
    (hbottom : area.bottom ≤ maxCells) (hpaintable : t.paintableWithin levels id area = false) (focused : Bool)
    (b : Buffer) : t.paintWithin? levels id area focused b = none := by
  induction levels generalizing id area focused b with
  | zero => rfl
  | succ levels ih =>
    rw [paintableWithin, Bool.or_eq_false_iff] at hpaintable
    obtain ⟨hvisible, hplaces⟩ := hpaintable
    rw [paintWithin?, if_neg (by simp [hvisible]), widget?_eq hid]
    simp only [Option.bind_eq_bind, Option.bind_some]
    cases (t.widget id).paintSelf? area focused b with
    | none => rfl
    | some b' =>
      simp only [Option.bind_some, h.slots?_eq hid hvisible hright hbottom]
      cases hcounts : t.countsRows id area.width with
      | false => rfl
      | true =>
        rw [hcounts, Bool.true_and, List.all_eq_false] at hplaces
        obtain ⟨s, hs, hchild⟩ := hplaces
        have hindex := index_lt_of_mem_slots hs
        obtain ⟨c, hc⟩ : ∃ c, (t.widget id).children[s.index]? = some c := ⟨_, List.getElem?_eq_getElem hindex⟩
        rw [hc] at hchild
        have hlt := h.ordered id c (List.mem_of_getElem? hc)
        -- A slot of which nothing is seen can always be painted, so this one is inside the area.
        have hseen : s.area.isEmpty = false :=
          Bool.eq_false_iff.2 fun hempty => hchild (paintableWithin_of_isEmpty hempty levels c)
        obtain ⟨-, hedge, -, hend⟩ := ((tiles_slots h.sized.narrow id area).1.within s hs).edges hseen
        have hrest := ih (by omega) (Nat.le_trans hedge hright) (Nat.le_trans hend hbottom) (Bool.eq_false_iff.2 hchild)
        rw [if_pos rfl, Option.bind_some]
        refine foldlM_eq_none (List.mem_map_of_mem hs) (fun b => ?_) b'
        have hc' : (t.widget id).children[s.onScreen.index]? = some c := hc
        simp only [hc', Option.bind_some, h.paintWithin?_onScreen hright hs, hrest]

theorem Regular.paint?_eq (h : t.Regular) (hid : id < t.size) (hinside : area.Inside b) (focused : Bool) :
    t.paint? id area focused b = t.render? id area focused b := by
  rw [paint?, render?, paintable, paint]
  cases hpaintable : t.paintableWithin (2 * t.size * (area.width + area.height + 1)) id area with
  | true =>
    rw [if_pos rfl]
    exact h.paintWithin?_eq (lt_levels hid area) hid (fun _ => hinside) focused hpaintable
  | false =>
    rw [if_neg (by simp)]
    exact h.paintWithin?_eq_none hid hinside.right_le hinside.bottom_le hpaintable focused b

theorem render?_eq_none_iff (hlt : t.Ordered) (hid : id < t.size) (focused : Bool) :
    t.render? id area focused b = none ↔
      ∃ n a, t.Hands (fun _ => True) id area n a ∧ a.isEmpty = false ∧ t.countsRows n a.width = false := by
  have hnone : t.render? id area focused b = none ↔ ¬ t.paintable id area = true := by
    rw [render?]
    split <;> simp [*]
  rw [hnone, paintable, paintableWithin_iff hlt (lt_levels hid area)]
  simp only [not_forall, Bool.not_eq_true, exists_prop]

end Tree

theorem Form.InUse.regular {f : Form} (h : f.InUse) (storable : ∀ id < f.tree.size, (f.tree.widget id).Storable)
    (countable : ∀ id < f.tree.size, (f.tree.widget id).Countable) : f.tree.Regular where
  ordered := h.attentive.tree.ordered
  sized := h.sized
  storable id := by
    by_cases hid : id < f.tree.size
    · exact storable id hid
    · rw [Tree.widget, Tree.node_of_size_le (Nat.le_of_not_lt hid)]
      decide
  countable id := by
    by_cases hid : id < f.tree.size
    · exact countable id hid
    · rw [Tree.widget, Tree.node_of_size_le (Nat.le_of_not_lt hid)]
      trivial

/-- In words, the widgets of a form are measured as they are meant to, and they are painted into any area of a buffer
as `render?` does it. That fails exactly if a list that gets an area has, up to the child that has the focus, more rows
than it can count. What is in memory has a size there, and columns have to be fewer than a word can count. -/
theorem Form.InUse.rows?_and_paint?_eq {f : Form} (h : f.InUse)
    (storable : ∀ id < f.tree.size, (f.tree.widget id).Storable)
    (countable : ∀ id < f.tree.size, (f.tree.widget id).Countable) {id : Nat} (hid : id < f.tree.size) :
    (∀ width ≤ maxCells, f.tree.rows? id width = some (f.tree.rows id width)) ∧
    ∀ (area : Area) (focused : Bool) (b : Buffer), area.Inside b →
      f.tree.paint? id area focused b = f.tree.render? id area focused b ∧
      (f.tree.render? id area focused b = none ↔ ∃ n a, f.tree.Hands (fun _ => True) id area n a ∧
        a.isEmpty = false ∧ f.tree.countsRows n a.width = false) := by
  have hregular := h.regular storable countable
  refine ⟨fun width hwidth => hregular.rows?_eq hid hwidth, fun area focused b hinside => ⟨?_, ?_⟩⟩
  · exact hregular.paint?_eq hid hinside focused
  · exact Tree.render?_eq_none_iff hregular.ordered hid focused

/-- A divider with the largest margins that can be written. -/
theorem Form.InUse.rows?_and_paint?_eq_widest : ∃ f : Form, f.InUse ∧
    (∀ id < f.tree.size, (f.tree.widget id).Storable) ∧ (∀ id < f.tree.size, (f.tree.widget id).Countable) ∧
    f.root < f.tree.size ∧ f.tree.rows? f.root 12 = some maxCells ∧
    Area.Inside ⟨0, 0, 12, 3⟩ (.blank 12 3) ∧
    f.tree.paint? f.root ⟨0, 0, 12, 3⟩ true (.blank 12 3) =
      some (f.tree.paint f.root ⟨0, 0, 12, 3⟩ true (.blank 12 3)) := by
  let description := "Edt Name [ab]\nCol\nTxt one two\n---top=9223372036854775807 bottom=9223372036854775807\nEnd"
  let f := ((Form.parse description {} {}).toOption).getD default
  have hparse : Form.parse description {} {} = .ok f := by decide +kernel
  have h : f.InUse := .parsed hparse
  obtain ⟨hstorable, hcountable, hid, hrows, hfew⟩ :
      (∀ id < f.tree.size, (f.tree.widget id).Storable) ∧ (∀ id < f.tree.size, (f.tree.widget id).Countable) ∧
      f.root < f.tree.size ∧ f.tree.rows f.root 12 = maxCells ∧
      ∀ id < f.tree.size, (f.tree.children id).length ≤ 65537 := by decide +kernel
  have hinside : Area.Inside ⟨0, 0, 12, 3⟩ (.blank 12 3) := ⟨by decide, by decide, by decide, by decide⟩
  obtain ⟨hmeasured, hpainted⟩ := h.rows?_and_paint?_eq hstorable hcountable hid
  obtain ⟨hwords, hnone⟩ := hpainted _ true _ hinside
  have hsome : f.tree.render? f.root ⟨0, 0, 12, 3⟩ true (.blank 12 3) =
      some (f.tree.paint f.root ⟨0, 0, 12, 3⟩ true (.blank 12 3)) := by
    refine if_pos (by_contra fun hstops => ?_)
    obtain ⟨n, a, hn, -, hcounts⟩ := hnone.1 (if_neg hstops)
    have hfew := Tree.countsRows_of_length (hfew n (Tree.lt_size_of_hands h.attentive.tree.ordered hn hid)) a.width
    rw [hcounts] at hfew
    cases hfew
  exact ⟨f, h, hstorable, hcountable, hid, (hmeasured 12 (by decide)).trans (congrArg some hrows), hinside,
    hwords.trans hsome⟩

end ScreenForm
