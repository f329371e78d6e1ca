import ScreenForm.Layout.Paint
import ScreenForm.Proofs.Dialog.Panel
import ScreenForm.Proofs.Layout.Arrange
/-!
# Painting at the natural height

Painting a widget hands an area down to each widget below it (`Tree.Hands`), and
paints what each one has of its own there (`paintWithin_eq`). If the widget has
the height that it is measured at, so have all those below it that no list scrolls
(`Form.InUse.shows_of_hands`).
-/

namespace ScreenForm

open Layout

theorem Arrangement.length_childWidths (a : Arrangement) (count width : Nat) :
    (a.childWidths count width).length = count := by
  cases a with
  | columns widths gap => rw [childWidths, length_columnWidths, length_fullWidths]
  | _ => exact List.length_replicate

@[simp] theorem Wrapping.width_slot (w : Wrapping) (area : Area) : (w.slot area).width = w.childWidth area.width := by
  cases w <;> rfl

@[simp] theorem Wrapping.height_slot (w : Wrapping) (area : Area) : (w.slot area).height = area.height := by
  cases w <;> rfl

namespace Tree

variable {t : Tree}

/-! ## Measuring -/

theorem rowsWithin_eq (hlt : t.Ordered) {l l' id : Nat} (h : id < l) (h' : id < l') (width : Nat) :
    t.rowsWithin l id width = t.rowsWithin l' id width := by
  induction l generalizing l' id width with
  | zero => omega
  | succ l ih =>
    obtain ⟨l', rfl⟩ : ∃ k, l' = k + 1 := ⟨l' - 1, by omega⟩
    simp only [rowsWithin]
    split
    · next a children focus hw =>
      rw [← List.map_uncurry_zip_eq_zipWith, ← List.map_uncurry_zip_eq_zipWith]
      congr 1
      refine List.map_congr_left fun p hp => ?_
      have := hlt id p.1 (by simpa [Tree.children, hw, Widget.children] using (List.of_mem_zip hp).1)
      exact ih (by omega) (by omega) _
    · next w child hw =>
      have := hlt id child (by simp [children, hw, Widget.children])
      exact ih (by omega) (by omega) _
    · rfl

theorem rows_container (hlt : t.Ordered) {id focus : Nat} {a : Arrangement} {children : List Nat}
    (hw : t.widget id = .container a children focus) (width : Nat) :
    t.rows id width = a.height width (t.childRows a children width) := by
  have hs : id < t.size := lt_size_of_isContainer (by rw [hw]; rfl)
  rw [rows, rowsWithin_eq hlt hs (Nat.lt_succ_of_lt hs), rowsWithin, hw]
  rfl

theorem rows_wrapper (hlt : t.Ordered) {id child : Nat} {w : Wrapping} (hw : t.widget id = .wrapper w child)
    (width : Nat) : t.rows id width = t.rows child (w.childWidth width) := by
  have hs := lt_size_of_wrapper hw
  rw [rows, rowsWithin_eq hlt hs (Nat.lt_succ_of_lt hs), rowsWithin, hw]
  rfl

theorem rows_leaf {id : Nat} (hid : id < t.size) {w : Widget} (hw : t.widget id = w) (hleaf : w.children = [])
    (hcon : w.isContainer = false) (width : Nat) : t.rows id width = w.leafRows width := by
  obtain ⟨l, hl⟩ : ∃ l, t.size = l + 1 := ⟨t.size - 1, by omega⟩
  rw [rows, hl, rowsWithin, hw]
  cases w with
  | container => cases hcon
  | wrapper => cases hleaf
  | _ => rfl

theorem length_childRows (t : Tree) (a : Arrangement) (children : List Nat) (width : Nat) :
    (t.childRows a children width).length = children.length := by
  rw [childRows, List.length_zipWith, Arrangement.length_childWidths, Nat.min_self]

theorem getElem?_childRows {a : Arrangement} {children : List Nat} {width i height : Nat} :
    (t.childRows a children width)[i]? = some height ↔ ∃ c w, children[i]? = some c ∧
      (a.childWidths children.length width)[i]? = some w ∧ t.rows c w = height :=
  List.getElem?_zipWith_eq_some

/-! ## Painting -/

/-- The widgets that painting comes to on this many levels, in this order, with their areas and whether they
have the focus. -/
def placedWithin (t : Tree) : Nat → Nat → Area → Bool → List (Nat × Area × Bool)
  | 0, _, _, _ => []
  | levels + 1, id, area, focused =>
    if area.isEmpty then []
    else
      (id, area, focused) :: (t.slots id area).flatMap fun s =>
        match (t.children id)[s.index]? with
        | some c => t.placedWithin levels c s.area (focused && s.index = (t.widget id).focusIndex)
        | none => []

/-- To paint a tree is to paint what is each widget's own. -/
theorem paintWithin_eq (levels id : Nat) (area : Area) (focused : Bool) (b : Buffer) :
    t.paintWithin levels id area focused b =
      (t.placedWithin levels id area focused).foldl (fun b p => (t.widget p.1).paintSelf p.2.1 p.2.2 b) b := by
  induction levels generalizing id area focused b with
  | zero => rfl
  | succ levels ih =>
    rw [paintWithin, placedWithin]
    split
    · rfl
    · rw [List.foldl_cons, List.foldl_flatMap]
      dsimp only
      congr 1
      funext b s
      rw [children]
      cases (t.widget id).children[s.index]? with
      | none => rfl
      | some c => exact ih ..

/-- Painting the first widget into the first area hands the second area to the second widget, on a way that
goes down from such widgets only. -/
inductive Hands (t : Tree) (through : Nat → Prop) : Nat → Area → Nat → Area → Prop
  | self (id : Nat) (area : Area) : Hands t through id area id area
  | down {id : Nat} {area : Area} {s : Slot} {c n : Nat} {a : Area} (visible : area.isEmpty = false) (free : through id)
      (slot : s ∈ t.slots id area) (child : (t.children id)[s.index]? = some c) (rest : Hands t through c s.area n a) :
      Hands t through id area n a

/-- Painting comes to the widgets that are handed an area that is not empty. -/
theorem mem_placedWithin_iff (hlt : t.Ordered) {levels id n : Nat} {area a : Area} {focused : Bool} (h : id < levels) :
    (∃ focus, (n, a, focus) ∈ t.placedWithin levels id area focused) ↔
      t.Hands (fun _ => True) id area n a ∧ a.isEmpty = false := by
  induction levels generalizing id area focused with
  | zero => omega
  | succ levels ih =>
    rw [placedWithin]
    constructor
    · rintro ⟨focus, hmem⟩
      split at hmem
      · cases hmem
      · next hvisible =>
        rw [Bool.not_eq_true] at hvisible
        rcases List.mem_cons.1 hmem with heq | hmem
        · cases heq
          exact ⟨.self _ _, hvisible⟩
        · obtain ⟨s, hs, hmem⟩ := List.mem_flatMap.1 hmem
          split at hmem
          · next c hc =>
            have := hlt id c (List.mem_of_getElem? hc)
            obtain ⟨hrest, ha⟩ := (ih (by omega)).1 ⟨focus, hmem⟩
            exact ⟨.down hvisible trivial hs hc hrest, ha⟩
          · cases hmem
    · rintro ⟨hhands, ha⟩
      cases hhands with
      | self => exact ⟨focused, by simp [ha]⟩
      | @down _ _ s c _ _ visible free slot child rest =>
        have := hlt id c (List.mem_of_getElem? child)
        obtain ⟨focus, hmem⟩ : ∃ focus, (n, a, focus) ∈
            t.placedWithin levels c s.area (focused && s.index = (t.widget id).focusIndex) :=
          (ih (by omega)).2 ⟨rest, ha⟩
        refine ⟨focus, ?_⟩
        rw [if_neg (by simp [visible])]
        refine List.mem_cons_of_mem _ (List.mem_flatMap.2 ⟨s, slot, ?_⟩)
        rw [child]
        exact hmem

/-- The widgets that painting comes to. -/
def placed (t : Tree) (id : Nat) (area : Area) (focused : Bool) : List (Nat × Area × Bool) :=
  t.placedWithin (2 * t.size * (area.width + area.height + 1)) id area focused

theorem paint_eq (id : Nat) (area : Area) (focused : Bool) (b : Buffer) :
    t.paint id area focused b =
      (t.placed id area focused).foldl (fun b p => (t.widget p.1).paintSelf p.2.1 p.2.2 b) b :=
  paintWithin_eq ..

/-- There are at least as many levels as widgets, so painting never runs out of them. -/
theorem lt_levels {id : Nat} (hid : id < t.size) (area : Area) : id < 2 * t.size * (area.width + area.height + 1) := by
  refine Nat.lt_of_lt_of_le hid ?_
  rw [Nat.mul_assoc, Nat.mul_left_comm]
  exact Nat.le_mul_of_pos_right _ (by omega)

theorem mem_placed_iff (hlt : t.Ordered) {id n : Nat} {area a : Area} {focused : Bool} (hid : id < t.size) :
    (∃ focus, (n, a, focus) ∈ t.placed id area focused) ↔
      t.Hands (fun _ => True) id area n a ∧ a.isEmpty = false :=
  mem_placedWithin_iff hlt (lt_levels hid area)

/-! ## Natural heights -/

/-- Whether the widget is a list with a height of its own. -/
def scrolls (t : Tree) (id : Nat) : Bool :=
  match t.widget id with
  | .container a .. => a.scrolls
  | _ => false

/-- The area is as high as the widget is at the width of the area. -/
structure HasRoom (t : Tree) (id : Nat) (area : Area) : Prop where
  width : 1 ≤ area.width
  le : t.rows id area.width ≤ area.height
  lt : t.rows id area.width < maxCells

theorem HasRoom.seats {id focus : Nat} {area : Area} {a : Arrangement} {children : List Nat} (h : t.HasRoom id area)
    (hlt : t.Ordered) (hw : t.widget id = .container a children focus) (ha : a.scrolls = false) :
    a.Seats area (t.childRows a children area.width) (t.slots id area) := by
  have hle := h.le
  have hmax := h.lt
  rw [rows_container hlt hw] at hle hmax
  rw [slots, hw]
  exact Arrangement.seats h.width ha hle hmax focus

/-- What has room has room for its children. -/
theorem HasRoom.child {id c : Nat} {area : Area} {s : Slot} (h : t.HasRoom id area) (hlt : t.Ordered)
    (hfree : t.scrolls id = false) (hs : s ∈ t.slots id area) (hc : (t.children id)[s.index]? = some c)
    (hwidth : s.area.width ≠ 0) : t.HasRoom c s.area := by
  cases hw : t.widget id with
  | container a children focus =>
    have ha : a.scrolls = false := by rwa [scrolls, hw] at hfree
    obtain ⟨height, hheight, hget, hgetw⟩ := (h.seats hlt hw ha).fits s hs
    rw [length_childRows] at hgetw
    obtain ⟨c', w, hc', hw', rfl⟩ := getElem?_childRows.1 hget
    rw [Tree.children, hw, Widget.children] at hc
    obtain rfl : c' = c := Option.some.inj (hc'.symm.trans hc)
    obtain rfl : w = s.area.width := Option.some.inj (hw'.symm.trans hgetw)
    have hmax := h.lt
    rw [rows_container hlt hw] at hmax
    have hle := Arrangement.le_height ha hmax (List.mem_of_getElem? hget)
    exact ⟨Nat.one_le_iff_ne_zero.2 hwidth, hheight, by omega⟩
  | wrapper w child =>
    have hle := h.le
    have hmax := h.lt
    rw [rows_wrapper hlt hw] at hle hmax
    rw [slots, hw] at hs
    obtain rfl := List.mem_singleton.1 hs
    rw [Tree.children, hw, Widget.children] at hc
    obtain rfl : child = c := Option.some.inj hc
    rw [Wrapping.width_slot] at hwidth
    exact ⟨by rw [Wrapping.width_slot]; omega, by simpa using hle, by simpa using hmax⟩
  | _ =>
    rw [slots, hw] at hs
    cases hs

theorem HasRoom.of_hands {id n : Nat} {area a : Area} (h : t.HasRoom id area) (hlt : t.Ordered)
    (hn : t.Hands (fun m => t.scrolls m = false) id area n a) (ha : a.width ≠ 0) : t.HasRoom n a := by
  induction hn with
  | self => exact h
  | @down id area s c n a visible free slot child rest ih =>
    by_cases hwidth : s.area.width = 0
    · -- No area of any width is handed on from there.
      cases rest with
      | self => exact absurd hwidth ha
      | down visible' => simp [Area.isEmpty, hwidth] at visible'
    · exact ih (h.child hlt free slot child hwidth) ha

/-- Nothing of the widget is cut off at the bottom of the area, nor of its children if they are not scrolled. -/
structure Shows (t : Tree) (n : Nat) (a : Area) : Prop where
  rows : t.rows n a.width ≤ a.height
  text : ∀ s align, t.widget n = .text s align → (Text.wrap s.toList a.width).length ≤ a.height
  edit : ∀ e, t.widget n = .edit e → (Text.wrap e.content a.width).length ≤ a.height
  /-- A list begins with its first child. -/
  list : ∀ border children focus, t.widget n = .container (.list none border) children focus →
    (t.slots n a).map (·.index) <+: List.range children.length
  /-- A child without a place needs no row, or has no width. -/
  children : ∀ arrangement children focus, t.widget n = .container arrangement children focus →
    arrangement.scrolls = false → ∀ (i c width : Nat), children[i]? = some c →
      (arrangement.childWidths children.length a.width)[i]? = some width → t.rows c width ≠ 0 → width ≠ 0 →
      ∃ s ∈ t.slots n a, s.index = i

theorem HasRoom.shows {n : Nat} {a : Area} (h : t.HasRoom n a) (hlt : t.Ordered) (hn : n < t.size) : t.Shows n a where
  rows := h.le
  text s align hw := by
    have hle := h.le
    have hmax := h.lt
    rw [rows_leaf hn hw rfl rfl, Widget.leafRows] at hle hmax
    exact clampCells_eq hmax ▸ hle
  edit e hw := by
    have hle := h.le
    have hmax := h.lt
    rw [rows_leaf hn hw rfl rfl, Widget.leafRows] at hle hmax
    exact clampCells_eq hmax ▸ hle
  list border children focus hw := by
    have hle := h.le
    have hmax := h.lt
    rw [rows_container hlt hw] at hle hmax
    rw [slots, hw, ← t.length_childRows (.list none border) children a.width]
    exact Arrangement.index_slots_list hle hmax focus
  children arrangement children focus hw hfree i c width hc hwidth hrows hpos := by
    refine (h.seats hlt hw hfree).seen i _ width (getElem?_childRows.2 ⟨c, width, hc, hwidth, rfl⟩) ?_ hrows hpos
    rwa [length_childRows]

theorem lt_size_of_hands (hlt : t.Ordered) {through : Nat → Prop} {id n : Nat} {area a : Area}
    (h : t.Hands through id area n a) (hid : id < t.size) : n < t.size := by
  induction h with
  | self => exact hid
  | @down id _ s c _ _ _ _ _ child _ ih => exact ih (Nat.lt_trans (hlt id c (List.mem_of_getElem? child)) hid)

end Tree

/-- Painting a widget of a form paints the widgets that it hands an area. If the area is as high as the widget
is measured at, none that is handed an area of any width is cut off at the bottom, as long as no list with a
height of its own is on the way. Lists without one begin with their first child. -/
theorem Form.InUse.shows_of_hands {f : Form} (h : f.InUse) {id : Nat} (hid : id < f.tree.size) {area : Area}
    (hwidth : 1 ≤ area.width) (hheight : f.tree.rows id area.width ≤ area.height)
    (hmax : f.tree.rows id area.width < maxCells) (focused : Bool) (b : Buffer) :
    f.tree.paint id area focused b =
      (f.tree.placed id area focused).foldl (fun b p => (f.tree.widget p.1).paintSelf p.2.1 p.2.2 b) b ∧
    (∀ n a, (∃ focus, (n, a, focus) ∈ f.tree.placed id area focused) ↔
      f.tree.Hands (fun _ => True) id area n a ∧ a.isEmpty = false) ∧
    ∀ n a, f.tree.Hands (fun m => f.tree.scrolls m = false) id area n a → a.width ≠ 0 → f.tree.Shows n a := by
  have hlt := h.attentive.tree.ordered
  have hroom : f.tree.HasRoom id area := ⟨hwidth, hheight, hmax⟩
  refine ⟨Tree.paint_eq .., fun n a => Tree.mem_placed_iff hlt hid, fun n a hn ha => ?_⟩
  exact (hroom.of_hands hlt hn ha).shows hlt (Tree.lt_size_of_hands hlt hn hid)

theorem Form.InUse.shows_of_hands_columns : ∃ f : Form, f.InUse ∧ f.tree.rows f.root 5 = 7 ∧
    f.tree.Hands (fun m => f.tree.scrolls m = false) f.root ⟨0, 0, 5, 7⟩ 1 ⟨0, 3, 2, 4⟩ ∧
    f.tree.Shows 1 ⟨0, 3, 2, 4⟩ := by
  let description := "Ple\nTxt hello there\nCol\nTxt one two\nTxt x\nEnd\nEnd"
  let f := ((Form.parse description {} {}).toOption).getD default
  have hparse : Form.parse description {} {} = .ok f := by decide +kernel
  have h : f.InUse := .parsed hparse
  obtain ⟨hrows, hsize, hmax, hfree, hslots, hchildren⟩ :
      f.tree.rows f.root 5 = 7 ∧ f.root < f.tree.size ∧ f.tree.rows f.root 5 < maxCells ∧
      (f.tree.scrolls f.root = false ∧ f.tree.scrolls 4 = false ∧ f.tree.scrolls 3 = false) ∧
      (⟨0, 0, 0, 5, 7⟩ ∈ f.tree.slots f.root ⟨0, 0, 5, 7⟩ ∧ ⟨1, 0, 3, 5, 4⟩ ∈ f.tree.slots 4 ⟨0, 0, 5, 7⟩ ∧
        ⟨0, 0, 3, 2, 4⟩ ∈ f.tree.slots 3 ⟨0, 3, 5, 4⟩) ∧
      (f.tree.children f.root)[0]? = some 4 ∧ (f.tree.children 4)[1]? = some 3 ∧
      (f.tree.children 3)[0]? = some 1 := by decide +kernel
  have hhands : f.tree.Hands (fun m => f.tree.scrolls m = false) f.root ⟨0, 0, 5, 7⟩ 1 ⟨0, 3, 2, 4⟩ :=
    .down rfl hfree.1 hslots.1 hchildren.1 <| .down rfl hfree.2.1 hslots.2.1 hchildren.2.1 <|
      .down rfl hfree.2.2 hslots.2.2 hchildren.2.2 <| .self 1 _
  have hwidth : 1 ≤ (⟨0, 0, 5, 7⟩ : Area).width := by decide
  obtain ⟨-, -, hshows⟩ := h.shows_of_hands hsize hwidth (Nat.le_of_eq hrows) hmax true default
  exact ⟨f, h, hrows, hhands, hshows 1 _ hhands (by decide)⟩

end ScreenForm
