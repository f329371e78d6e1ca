import ScreenForm.Proofs.Layout.Safe
/-!
# Labels on a screen

A label that takes no more columns than its area has is there in full once all is
painted (`Tree.spells_paint`). It is written into cells that the buffer has
(`Buffer.Whole`), and what is painted after it has other cells
(`Tree.pairwise_placedWithin`).
-/

namespace ScreenForm

open Layout

namespace Buffer

variable {b b' : Buffer} {x y room : Nat} {s : Style} {l : List (List Char × Nat)}

/-! ## Texts that can be read -/

/-- The clusters stand in row `y` from column `x` on, each after the columns of those before it. -/
def Spells (b : Buffer) (x y : Nat) : List (List Char × Nat) → Prop
  | [] => True
  | (symbol, columns) :: rest =>
    (b.get? x y).map (·.symbol) = some (String.ofList symbol) ∧ b.Spells (x + columns) y rest

instance decidableSpells : (l : List (List Char × Nat)) → (b : Buffer) → (x y : Nat) → Decidable (b.Spells x y l)
  | [], _, _, _ => .isTrue trivial
  | (symbol, columns) :: rest, b, x, y =>
    have := decidableSpells rest b (x + columns) y
    inferInstanceAs (Decidable ((b.get? x y).map (·.symbol) = some (String.ofList symbol) ∧ b.Spells (x + columns) y rest))

/-- The columns that a text takes on a screen. -/
def drawnWidth (cs : List Char) : Nat :=
  total ((visibleClusters cs).map Prod.snd)

theorem pos_of_mem_visibleClusters {cs : List Char} : ∀ p ∈ visibleClusters cs, 0 < p.2 := by
  intro p hp
  simpa [visibleClusters] using (List.mem_filter.1 hp).2

/-- It can still be read where its columns have not changed. -/
theorem Spells.congr (h : b.Spells x y l) (hpos : ∀ p ∈ l, 0 < p.2)
    (hsame : ∀ x', x ≤ x' → x' < x + total (l.map Prod.snd) → b'.get? x' y = b.get? x' y) : b'.Spells x y l := by
  induction l generalizing x with
  | nil => trivial
  | cons p rest ih =>
    rw [List.forall_mem_cons] at hpos
    rw [List.map_cons, total_cons] at hsame
    refine ⟨?_, ih h.2 hpos.2 fun x' hx hx' => hsame x' (by omega) (by omega)⟩
    rw [hsame x (Nat.le_refl x) (by omega)]
    exact h.1

/-- The cell of a cluster has its symbol. -/
theorem symbol_putCluster (h : b.Whole) (hx : x < b.width) (hy : y < b.height) (symbol : List Char) (columns : Nat) :
    ((b.putCluster x y symbol columns s).get? x y).map (·.symbol) = some (String.ofList symbol) := by
  obtain ⟨c, hc⟩ := h.exists_cell hx hy
  have hout : (⟨x + 1, y, columns - 1, 1⟩ : Area).has x y ≠ true := by simp [Area.has]
  rw [putCluster, clear, get?_modifyArea, if_neg hout, get?_modify, if_pos ⟨rfl, rfl⟩, hc]
  rfl

/-- What is written where there is room for it can be read there. -/
theorem spells_putClusters (h : b.Whole) (hpos : ∀ p ∈ l, 0 < p.2) (hroom : total (l.map Prod.snd) ≤ room)
    (hx : x + total (l.map Prod.snd) ≤ b.width) (hy : y < b.height) : (b.putClusters x y room s l).Spells x y l := by
  induction l generalizing x room b with
  | nil => trivial
  | cons p rest ih =>
    obtain ⟨symbol, columns⟩ := p
    rw [List.forall_mem_cons] at hpos
    rw [List.map_cons, total_cons] at hroom hx
    obtain ⟨hcolumns, hrest⟩ := hpos
    have hcluster : Writes ⟨x, y, columns, 1⟩ (Draws s) fun b => b.putCluster x y symbol columns s :=
      writes_putCluster hcolumns symbol s
    have hsize := hcluster.sameOutside b
    -- The clusters after it leave its cell as it is.
    have hafter : SameOutside ⟨x + columns, y, room - columns, 1⟩ (b.putCluster x y symbol columns s)
        ((b.putCluster x y symbol columns s).putClusters (x + columns) y (room - columns) s rest) :=
      (writes_putClusters hrest).sameOutside _
    have hout : (⟨x + columns, y, room - columns, 1⟩ : Area).has x y = false := by
      rw [← Bool.not_eq_true, Area.has_iff]
      dsimp only
      omega
    rw [putClusters, if_pos (by omega)]
    constructor
    · rw [hafter.cells x y hout]
      exact symbol_putCluster h (by omega) hy symbol columns
    · exact ih (hcluster.whole h) hrest (by omega) (by rw [hsize.width]; omega) (by rwa [hsize.height])

end Buffer

open Buffer

/-! ## What is a widget's own -/

variable {b : Buffer}

/-- One line is written into the first row of its area. -/
theorem Buffer.putLines_singleton (b : Buffer) {area : Area} (hheight : area.height ≠ 0) (cs : List Char) (align : Align)
    (s : Style) : b.putLines area [cs] align s =
      b.putText (area.x + align.offset area.width (clampCells (Text.displayWidth cs))) area.y
        (area.width - align.offset area.width (clampCells (Text.displayWidth cs))) cs s := by
  have hline : ([cs].take area.height).zipIdx = [(cs, 0)] := by
    rw [List.take_of_length_le (Nat.pos_of_ne_zero hheight)]
    rfl
  rw [putLines, hline]
  simp only [List.foldl_cons, List.foldl_nil, Nat.add_zero, Area.right, Nat.add_sub_add_left]

theorem Buffer.spells_putLines (h : b.Whole) {area : Area} (hheight : area.height ≠ 0) (hin : area.Inside b)
    {cs : List Char} {align : Align}
    (hfit : drawnWidth cs ≤ area.width - align.offset area.width (clampCells (Text.displayWidth cs))) (s : Style) :
    (b.putLines area [cs] align s).Spells (area.x + align.offset area.width (clampCells (Text.displayWidth cs))) area.y
      (visibleClusters cs) := by
  rw [putLines_singleton b hheight, putText]
  have hoffset := align.offset_le area.width (clampCells (Text.displayWidth cs))
  generalize align.offset area.width (clampCells (Text.displayWidth cs)) = offset at hoffset hfit
  have hright := hin.right
  have hbottom := hin.bottom
  have hmax := hin.width
  unfold Area.right Area.bottom at *
  unfold drawnWidth at hfit
  exact spells_putClusters h pos_of_mem_visibleClusters (by unfold clampCells; omega) (by omega) (by omega)

/-- A label is painted as one row. -/
theorem Widget.paintSelf_label {w : Widget} (hw : w.label?.isSome) (area : Area) (focused : Bool) (b : Buffer) :
    w.paintSelf area focused b =
      b.putLines area [w.face.toList] .left (if focused then Theme.focusedLabel else .plain) := by
  cases w with
  | button | checkBox | radioButton => rfl
  | _ => cases hw

theorem Widget.spells_paintSelf {w : Widget} (hw : w.label?.isSome) {area : Area} (hvisible : area.isEmpty = false)
    (hin : area.Inside b) (h : b.Whole) (hfit : drawnWidth w.face.toList ≤ area.width) (focused : Bool) :
    (w.paintSelf area focused b).Spells area.x area.y (visibleClusters w.face.toList) := by
  simp only [Area.isEmpty, Bool.or_eq_false_iff, decide_eq_false_iff_not] at hvisible
  rw [paintSelf_label hw]
  exact spells_putLines h hvisible.2 hin hfit _

/-! ## Trees -/

namespace Tree

variable {t : Tree}

/-- All that is painted for a widget is painted in its area. -/
theorem within_of_mem_placedWithin (hnarrow : t.Narrow) {levels id : Nat} {area : Area} {focused : Bool}
    {p : Nat × Area × Bool} (hp : p ∈ t.placedWithin levels id area focused) : p.2.1.Within area := by
  induction levels generalizing id area focused with
  | zero => cases hp
  | succ levels ih =>
    rw [placedWithin] at hp
    split at hp
    · cases hp
    · rcases List.mem_cons.1 hp with rfl | hp
      · exact .refl area
      · obtain ⟨s, hs, hp⟩ := List.mem_flatMap.1 hp
        split at hp
        · exact (ih hp).trans ((tiles_slots hnarrow id area).1.within s hs)
        · cases hp

/-- What is painted after a widget without children has no cell of its area. -/
theorem pairwise_placedWithin (hnarrow : t.Narrow) (levels id : Nat) (area : Area) (focused : Bool) :
    (t.placedWithin levels id area focused).Pairwise fun p q => t.slots p.1 p.2.1 = [] → q.2.1.Apart p.2.1 := by
  induction levels generalizing id area focused with
  | zero => exact .nil
  | succ levels ih =>
    rw [placedWithin]
    split
    · exact .nil
    · refine List.pairwise_cons.2 ⟨fun q hq hleaf => ?_, List.pairwise_flatMap.2 ⟨fun s _ => ?_, ?_⟩⟩
      · rw [hleaf] at hq
        cases hq
      · split
        · exact ih ..
        · exact .nil
      · refine (tiles_slots hnarrow id area).1.apart.imp fun {s s'} hapart p hp q hq _ => ?_
        have hp : p.2.1.Within s.area := by
          split at hp
          · exact within_of_mem_placedWithin hnarrow hp
          · cases hp
        have hq : q.2.1.Within s'.area := by
          split at hq
          · exact within_of_mem_placedWithin hnarrow hq
          · cases hq
        intro x y hxy
        have hout := hapart.symm x y (hq x y hxy)
        rw [← Bool.not_eq_true] at hout ⊢
        exact fun hin => hout (hp x y hin)

theorem slots_of_label {n : Nat} (hn : ((t.widget n).label?).isSome) (area : Area) : t.slots n area = [] := by
  unfold slots
  split <;> simp_all [Widget.label?]

theorem get?_foldl_paintSelf {l : List (Nat × Area × Bool)} {x y : Nat} (hout : ∀ p ∈ l, p.2.1.has x y = false) (b : Buffer) :
    (l.foldl (fun b p => (t.widget p.1).paintSelf p.2.1 p.2.2 b) b).get? x y = b.get? x y := by
  induction l generalizing b with
  | nil => rfl
  | cons p rest ih =>
    rw [List.forall_mem_cons] at hout
    rw [List.foldl_cons, ih hout.2]
    exact ((Widget.writes_paintSelf ..).sameOutside b).cells x y hout.1

/-- A label that gets an area with enough columns can be read there when all is painted. -/
theorem spells_paint (hlt : t.Ordered) (hnarrow : t.Narrow) {id n : Nat} {area a : Area} (hid : id < t.size)
    (hn : t.Hands (fun _ => True) id area n a) (hvisible : a.isEmpty = false) (hlabel : ((t.widget n).label?).isSome)
    (hin : area.Inside b) (h : b.Whole) (hfit : drawnWidth (t.widget n).face.toList ≤ a.width) (focused : Bool) :
    (t.paint id area focused b).Spells a.x a.y (visibleClusters (t.widget n).face.toList) := by
  obtain ⟨focus, hmem⟩ : ∃ focus, (n, a, focus) ∈ t.placed id area focused := (mem_placed_iff hlt hid).2 ⟨hn, hvisible⟩
  obtain ⟨before, after, hsplit⟩ := List.append_of_mem hmem
  have hpairs := t.pairwise_placedWithin hnarrow (2 * t.size * (area.width + area.height + 1)) id area focused
  rw [← placed, hsplit] at hpairs
  have hapart := (List.pairwise_cons.1 (List.pairwise_append.1 hpairs).2.1).1
  have hbefore : Writes area (fun _ => True) fun b => before.foldl (fun b p => (t.widget p.1).paintSelf p.2.1 p.2.2 b) b := by
    refine .foldl fun p hp => (Widget.writes_paintSelf ..).within ?_
    exact within_of_mem_placedWithin hnarrow (by rw [← placed, hsplit]; exact List.mem_append_left _ hp)
  have hself := (t.widget n).spells_paintSelf hlabel hvisible
    ((hin.of_within (hn.within hnarrow) hvisible).of_sameOutside (hbefore.sameOutside b)) (hbefore.whole h) hfit focus
  rw [paint_eq, hsplit, List.foldl_append, List.foldl_cons]
  refine hself.congr pos_of_mem_visibleClusters fun x hx hx' => ?_
  have hhas : a.has x a.y := by
    simp only [Area.isEmpty, Bool.or_eq_false_iff, decide_eq_false_iff_not] at hvisible
    unfold drawnWidth at hfit
    rw [Area.has_iff, Area.right, Area.bottom]
    omega
  exact get?_foldl_paintSelf (fun p hp => (hapart p hp (slots_of_label hlabel a)).symm x a.y hhas) _

end Tree

end ScreenForm
