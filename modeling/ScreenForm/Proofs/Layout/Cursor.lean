import ScreenForm.Proofs.Layout.Safe
import ScreenForm.Proofs.Text.Break
/-!
# The cursor of a field

A field needs one row for each of its lines, and has a place for its cursor that
its lines need not have: at the end of a text that fills its last line, and at a
line feed behind a full line. There the cursor is not shown, and in all other
places in one cell (`Tree.cursor_shows`).
-/

namespace ScreenForm

namespace Text

variable {limit used row i : Nat} {c : Char} {pre cs : List Char} {place : Nat × Nat}

/-! ## Full lines -/

/-- The number of characters behind the last line feed. -/
def sinceFeed (cs : List Char) : Nat :=
  (cs.reverse.takeWhile (· ≠ '\n')).length

/-- The text ends with a full line, where a character takes one column. -/
def EndsFull (limit : Nat) (cs : List Char) : Prop :=
  sinceFeed cs ≠ 0 ∧ limit ∣ sinceFeed cs

instance decidableEndsFull (limit : Nat) (cs : List Char) : Decidable (EndsFull limit cs) :=
  inferInstanceAs (Decidable (_ ∧ _))

theorem columns_ascii (hcontrol : isControl c = false) (hascii : c.toNat < 0x80) : columns c = 1 := by
  simp [columns, Edition.columns, hcontrol, hascii]

theorem sinceFeed_concat (pre : List Char) (c : Char) : sinceFeed (pre ++ [c]) = if c = '\n' then 0 else sinceFeed pre + 1 := by
  simp only [sinceFeed, List.reverse_append, List.reverse_singleton, List.singleton_append, List.takeWhile_cons]
  by_cases hc : c = '\n' <;> simp [hc]

/-- Where each character takes one column and lines are filled up before the next begins, the text takes so many
columns of its last line. -/
structure Taken (limit : Nat) (pre : List Char) (used : Nat) : Prop where
  le : used ≤ limit
  empty : used = 0 → sinceFeed pre = 0
  full : ∃ lines, sinceFeed pre = limit * lines + used

theorem Taken.nil (limit : Nat) : Taken limit [] 0 := ⟨Nat.zero_le _, fun _ => rfl, 0, rfl⟩

theorem Taken.eq_limit_iff (h : Taken limit pre used) (hlimit : 0 < limit) : used = limit ↔ EndsFull limit pre := by
  obtain ⟨lines, hlines⟩ := h.full
  constructor
  · intro heq
    subst heq
    refine ⟨?_, lines + 1, hlines⟩
    omega
  · rintro ⟨hcount, hdvd⟩
    have hused : limit ∣ used := by rwa [hlines, Nat.dvd_add_right (Nat.dvd_mul_right ..)] at hdvd
    have hpos : 0 < used := Nat.pos_of_ne_zero fun hzero => hcount (h.empty hzero)
    exact Nat.le_antisymm h.le (Nat.le_of_dvd hpos hused)

theorem Taken.feed (limit : Nat) (pre : List Char) : Taken limit (pre ++ ['\n']) 0 := by
  have hzero : sinceFeed (pre ++ ['\n']) = 0 := sinceFeed_concat ..
  exact ⟨Nat.zero_le _, fun _ => hzero, 0, hzero⟩

/-- One more character begins a new line or is the next on this one. -/
theorem Taken.step (h : Taken limit pre used) (hlimit : 0 < limit) (hfeed : c ≠ '\n') (hc : columns c = 1) :
    if breaksBefore limit used c then used = limit ∧ Taken limit (pre ++ [c]) 1
    else used < limit ∧ Taken limit (pre ++ [c]) (used + 1) := by
  have hle := h.le
  have hsince : sinceFeed (pre ++ [c]) = sinceFeed pre + 1 := (sinceFeed_concat pre c).trans (if_neg hfeed)
  obtain ⟨lines, hlines⟩ := h.full
  simp only [breaksBefore, hc, Bool.and_eq_true, decide_eq_true_eq]
  split
  · next hbreak =>
    have hfull : used = limit := by omega
    exact ⟨hfull, hlimit, fun h => absurd h Nat.one_ne_zero, lines + 1, by rw [hsince, Nat.mul_succ]; omega⟩
  · next hgo =>
    have hroom : used < limit := by omega
    exact ⟨hroom, hroom, fun h => absurd h (Nat.succ_ne_zero used), lines, by omega⟩

/-- A place is in the lines and left of the limit, unless it is that of a line feed or of the end and there is a full line
before it. -/
theorem inside_positionsFrom_iff (hlimit : 0 < limit) (htaken : Taken limit pre used)
    (hcolumns : ∀ c ∈ cs, c = '\n' ∨ columns c = 1) (hplace : (positionsFrom limit row used cs)[i]? = some place) :
    (place.1 < row + (wrapFrom limit used cs).length ∧ place.2 < limit) ↔
      ¬ (EndsFull limit (pre ++ cs.take i) ∧ cs[i]?.all (· = '\n')) := by
  -- Each character goes over to the text before the rest, with the columns that it then takes of its line.
  induction cs generalizing pre row used i with
  | nil =>
    have hfull := htaken.eq_limit_iff hlimit
    have hle := htaken.le
    rw [positionsFrom, List.getElem?_singleton] at hplace
    split at hplace
    · cases hplace
      simp only [List.take_nil, List.append_nil, ← hfull, wrapFrom, List.length_singleton]
      split <;> simp <;> omega
    · cases hplace
  | cons c cs ih =>
    have hlines (used : Nat) : 0 < (wrapFrom limit used cs).length := List.length_pos_iff.2 (wrapFrom_ne_nil limit used cs)
    obtain ⟨hc, hrest⟩ := List.forall_mem_cons.1 hcolumns
    rw [positionsFrom] at hplace
    rw [length_wrapFrom_cons]
    by_cases hfeed : c = '\n'
    · subst hfeed
      rw [if_pos rfl] at hplace ⊢
      cases i with
      | zero =>
        cases hplace
        have hfull : used < limit ↔ ¬ EndsFull limit pre := by
          rw [← htaken.eq_limit_iff hlimit]
          exact Nat.lt_iff_le_and_ne.trans (and_iff_right htaken.le)
        simpa using hfull
      | succ i =>
        rw [← Nat.add_assoc, Nat.add_right_comm]
        simpa using ih (.feed limit pre) hrest hplace
    · rw [if_neg hfeed] at hplace ⊢
      have hc := hc.resolve_left hfeed
      have hstep := htaken.step hlimit hfeed hc
      rw [hc] at hplace ⊢
      by_cases hbreak : breaksBefore limit used c
      · rw [if_pos hbreak] at hstep hplace ⊢
        cases i with
        | zero =>
          cases hplace
          have hin : row + 1 < row + ((wrapFrom limit 1 cs).length + 1) ∧ 0 < limit :=
            ⟨Nat.add_lt_add_left (Nat.succ_lt_succ (hlines 1)) row, hlimit⟩
          simpa [hfeed] using hin
        | succ i =>
          rw [← Nat.add_assoc, Nat.add_right_comm]
          simpa using ih hstep.2 hrest hplace
      · rw [if_neg hbreak] at hstep hplace ⊢
        cases i with
        | zero =>
          cases hplace
          have hin : row < row + (wrapFrom limit (used + 1) cs).length ∧ used < limit :=
            ⟨Nat.lt_add_of_pos_right (hlines _), hstep.1⟩
          simpa [hfeed] using hin
        | succ i => simpa using ih hstep.2 hrest hplace

theorem inside_wrapPositions_iff {width : Nat} (hwidth : 0 < width) (hcolumns : ∀ c ∈ cs, c = '\n' ∨ columns c = 1)
    (hplace : (wrapPositions cs width)[i]? = some place) :
    (place.1 < (wrap cs width).length ∧ place.2 < width) ↔ ¬ (EndsFull width (cs.take i) ∧ cs[i]?.all (· = '\n')) := by
  have hmax : max width 1 = width := Nat.max_eq_left hwidth
  rw [wrapPositions, hmax] at hplace
  rw [wrap, hmax]
  simpa using inside_positionsFrom_iff hwidth (.nil width) hcolumns hplace

end Text

open Buffer

/-! ## The cell of the cursor -/

/-- The cell is shown reversed. -/
def Buffer.Reversed (b : Buffer) (p : Nat × Nat) : Prop :=
  ∃ c, b.get? p.1 p.2 = some c ∧ c.effects.reversed = true

/-- Lines without a style reverse no cell. -/
theorem Buffer.Each.putLines {area a : Area} {b : Buffer} (h : b.Each area fun c => c.effects.reversed = false)
    (lines : List (List Char)) (align : Align) :
    (b.putLines a lines align .plain).Each area fun c => c.effects.reversed = false := by
  refine (writes_putLines a lines align .plain).each ?_ h
  rintro f (rfl | ⟨symbol, rfl⟩) c hc
  · rfl
  · simp [Cell.withStyle, Cell.withSymbol, Style.plain, Effects.union, Effects.none, hc]

/-- The style of the cursor reverses its cell and no other. -/
theorem Buffer.existsUnique_reversed {area : Area} {b : Buffer} {x y : Nat} (hwhole : b.Whole)
    (hplain : b.Each area fun c => c.effects.reversed = false) (hin : area.has x y) (hx : x < b.width) (hy : y < b.height) :
    ∃! p : Nat × Nat, area.has p.1 p.2 ∧ (b.setStyle ⟨x, y, 1, 1⟩ Theme.cursor).Reversed p := by
  have hcell : ∀ x' y', (⟨x, y, 1, 1⟩ : Area).has x' y' ↔ (x', y') = (x, y) := by
    intro x' y'
    simp only [Area.has_iff, Area.right, Area.bottom, Prod.mk.injEq]
    omega
  obtain ⟨c, hc⟩ := hwhole.exists_cell hx hy
  refine ⟨(x, y), ⟨hin, c.withStyle Theme.cursor, ?_, ?_⟩, ?_⟩
  · rw [setStyle, get?_modifyArea, if_pos ((hcell x y).2 rfl), hc]
    rfl
  · simp [Cell.withStyle, Theme.cursor, Effects.union]
  · rintro ⟨x', y'⟩ ⟨hin', d, hd, hreversed⟩
    rw [setStyle, get?_modifyArea] at hd
    split at hd
    · next hcursor => exact (hcell x' y').1 hcursor
    · simp [hplain x' y' d hin' hd] at hreversed

/-- The cursor is at a line feed or at the end, and there is a full line before it. -/
def Edit.Overhangs (e : Edit) (width : Nat) : Prop :=
  Text.EndsFull width (e.content.take (e.caption.length + e.cursor)) ∧
    e.content[e.caption.length + e.cursor]?.all (· = '\n')

instance Edit.decidableOverhangs (e : Edit) (width : Nat) : Decidable (e.Overhangs width) :=
  inferInstanceAs (Decidable (_ ∧ _))

namespace Edit

variable {e : Edit} {area : Area} {b : Buffer}

theorem inside_cursorPosition_iff {width : Nat} (hwidth : 0 < width)
    (hcolumns : ∀ c ∈ e.content, c = '\n' ∨ Text.columns c = 1) :
    ((e.cursorPosition width).1 < (Text.wrap e.content width).length ∧ (e.cursorPosition width).2 < width) ↔
      ¬ e.Overhangs width := by
  have hplace := e.getElem?_places width
  rw [Text.length_wrapPositions, Nat.add_sub_cancel] at hplace
  rw [Text.inside_wrapPositions_iff hwidth hcolumns hplace, Overhangs]
  rcases Nat.le_total (e.caption.length + e.cursor) e.content.length with hle | hle
  · rw [Nat.min_eq_left hle]
  · -- Behind the text there is nothing, as at its end.
    rw [Nat.min_eq_right hle, List.take_of_length_le hle, List.take_length, List.getElem?_eq_none hle,
      List.getElem?_eq_none (Nat.le_refl _)]

/-- The cursor has one cell, if its place is in the area. -/
theorem reversed_paint (hin : area.Inside b) (hwhole : b.Whole) (hplain : b.Each area fun c => c.effects.reversed = false) :
    if (e.cursorPosition area.width).1 < area.height ∧ (e.cursorPosition area.width).2 < area.width
    then ∃! p : Nat × Nat, area.has p.1 p.2 ∧ (e.paint area true b).Reversed p
    else ∀ p : Nat × Nat, area.has p.1 p.2 → ¬ (e.paint area true b).Reversed p := by
  have hwrites := writes_putLines area (Text.wrap e.content area.width) .left .plain
  have hsame := hwrites.sameOutside b
  have hlines := @Each.putLines area area b hplain (Text.wrap e.content area.width) .left
  have hright : area.x + area.width ≤ b.width := hin.right
  have hbottom : area.y + area.height ≤ b.height := hin.bottom
  simp only [paint, Bool.true_and, Bool.and_eq_true, decide_eq_true_eq]
  obtain ⟨row, column⟩ := e.cursorPosition area.width
  dsimp only
  split
  · next hplace =>
    refine existsUnique_reversed (hwrites.whole hwhole) hlines ?_ ?_ ?_
    · simp only [Area.has_iff, Area.right, Area.bottom]
      omega
    · rw [hsame.width]
      omega
    · rw [hsame.height]
      omega
  · rintro ⟨x, y⟩ hxy ⟨c, hc, hreversed⟩
    simp [hlines x y c hxy hc] at hreversed

end Edit

/-! ## Fields of a tree -/

namespace Tree

variable {t : Tree} {id : Nat} {area : Area} {b : Buffer}

/-- A widget without children paints only what is its own. -/
theorem paint_leaf (hid : id < t.size) (hslots : t.slots id area = []) (hvisible : area.isEmpty = false) (focused : Bool)
    (b : Buffer) : t.paint id area focused b = (t.widget id).paintSelf area focused b := by
  obtain ⟨levels, hlevels⟩ := Nat.exists_eq_add_of_lt (lt_levels hid area)
  rw [paint_eq, placed, hlevels, placedWithin, hvisible, hslots]
  rfl

/-- A field that is painted with the focus in its natural height shows its cursor in one cell, if its characters take one
column each. Only at a line feed or at the end, where there is a full line before it, the cursor is not shown. -/
theorem cursor_shows {e : Edit} (hw : t.widget id = .edit e) (hcolumns : ∀ c ∈ e.content, c = '\n' ∨ Text.columns c = 1)
    (hwidth : 1 ≤ area.width) (hrows : t.rows id area.width < maxCells) (hheight : area.height = t.rows id area.width)
    (hin : area.Inside b) (hwhole : b.Whole) (hplain : b.Each area fun c => c.effects.reversed = false) :
    (¬ e.Overhangs area.width → ∃! p : Nat × Nat, area.has p.1 p.2 ∧ (t.paint id area true b).Reversed p) ∧
    (e.Overhangs area.width → ∀ p : Nat × Nat, area.has p.1 p.2 → ¬ (t.paint id area true b).Reversed p) := by
  have hid : id < t.size := lt_size_of_isFocusable (by rw [hw]; rfl)
  have hlines : area.height = (Text.wrap e.content area.width).length := by
    rw [rows_leaf hid hw rfl rfl] at hrows hheight
    exact hheight.trans (clampCells_eq hrows)
  have hpos : 0 < (Text.wrap e.content area.width).length := List.length_pos_iff.2 (Text.wrapFrom_ne_nil _ _ _)
  have hvisible : area.isEmpty = false := by
    simp only [Area.isEmpty, Bool.or_eq_false_iff, decide_eq_false_iff_not]
    omega
  have hpaint : t.paint id area true b = e.paint area true b := by
    rw [paint_leaf hid (by rw [slots, hw]) hvisible, hw]
    rfl
  have hplace := @Edit.inside_cursorPosition_iff e _ hwidth hcolumns
  have hshown := @Edit.reversed_paint e _ _ hin hwhole hplain
  rw [← hlines] at hplace
  rw [hpaint]
  constructor
  · intro hfree
    rwa [if_pos (hplace.2 hfree)] at hshown
  · intro hover
    rwa [if_neg (fun h => hplace.1 h hover)] at hshown

theorem cursor_shows_behind_feed : ∃ t : Tree, t.widget 0 = .edit ⟨"a", "b\nc", 2, true⟩ ∧
    t.widget 1 = .edit ⟨"a", "b\nc", 1, true⟩ ∧ t.rows 0 2 = 2 ∧ t.rows 1 2 = 2 ∧
    (∃! p : Nat × Nat, (⟨0, 0, 2, 2⟩ : Area).has p.1 p.2 ∧ (t.paint 0 ⟨0, 0, 2, 2⟩ true (.blank 2 2)).Reversed p) ∧
    ∀ p : Nat × Nat, (⟨0, 0, 2, 2⟩ : Area).has p.1 p.2 → ¬ (t.paint 1 ⟨0, 0, 2, 2⟩ true (.blank 2 2)).Reversed p := by
  let t : Tree := (Tree.add {} (.edit ⟨"a", "b\nc", 2, true⟩) {}).add (.edit ⟨"a", "b\nc", 1, true⟩) {}
  let area : Area := ⟨0, 0, 2, 2⟩
  have hascii : ∀ c ∈ "ab\nc".toList, c = '\n' ∨ Text.isControl c = false ∧ c.toNat < 0x80 := by simp [Text.isControl]
  have hcolumns : ∀ c ∈ "ab\nc".toList, c = '\n' ∨ Text.columns c = 1 := fun c hc =>
    (hascii c hc).imp_right fun h => Text.columns_ascii h.1 h.2
  have hrows : t.rows 0 2 = 2 ∧ t.rows 1 2 = 2 := by decide +kernel
  have hin : area.Inside (.blank 2 2) := ⟨by decide, by decide, by decide, by decide⟩
  have hplain : (Buffer.blank 2 2).Each area fun c => c.effects.reversed = false :=
    each_blank (P := fun c => c.effects.reversed = false) rfl area 2 2
  have hshown := (@cursor_shows t 0 area (.blank 2 2) ⟨"a", "b\nc", 2, true⟩ rfl hcolumns (by decide) (by rw [hrows.1]; decide)
    hrows.1.symm hin (whole_blank 2 2) hplain).1 (by decide +kernel)
  have hlost := (@cursor_shows t 1 area (.blank 2 2) ⟨"a", "b\nc", 1, true⟩ rfl hcolumns (by decide) (by rw [hrows.2]; decide)
    hrows.2.symm hin (whole_blank 2 2) hplain).2 (by decide +kernel)
  exact ⟨t, rfl, rfl, hrows.1, hrows.2, hshown, hlost⟩

/-- The text of this field fills its only line. -/
theorem cursor_lost_at_end : ∃ (f : Form) (id : Nat) (e : Edit), Form.parse "Edt [ab] #e" {} {} = .ok f ∧
    f.tree.widget id = .edit e ∧ e.cursor ≤ e.text.length ∧ (∀ c ∈ e.content, c = '\n' ∨ Text.columns c = 1) ∧
    f.tree.rows id 2 = 1 ∧ ¬ ∃! p : Nat × Nat, (⟨0, 0, 2, 1⟩ : Area).has p.1 p.2 ∧
      (f.tree.paint id ⟨0, 0, 2, 1⟩ true (.blank 2 1)).Reversed p := by
  let f := ((Form.parse "Edt [ab] #e" {} {}).toOption).getD default
  have hparse : Form.parse "Edt [ab] #e" {} {} = .ok f := by decide +kernel
  have hascii : ∀ c ∈ "ab".toList, Text.isControl c = false ∧ c.toNat < 0x80 := by simp [Text.isControl]
  obtain ⟨hw, hrows, hlost⟩ : f.tree.widget 0 = .edit ⟨"", "ab", 2, false⟩ ∧ f.tree.rows 0 2 = 1 ∧
      ∀ p ∈ (⟨0, 0, 2, 1⟩ : Area).cells,
        ((f.tree.paint 0 ⟨0, 0, 2, 1⟩ true (.blank 2 1)).get? p.1 p.2).all (!·.effects.reversed) := by decide +kernel
  refine ⟨f, 0, _, hparse, hw, by decide, fun c hc => .inr (Text.columns_ascii (hascii c hc).1 (hascii c hc).2), hrows, ?_⟩
  rintro ⟨p, ⟨hp, c, hc, hreversed⟩, -⟩
  have hplain := hlost p (Area.mem_cells.2 hp)
  rw [hc] at hplain
  simp [hreversed] at hplain

end Tree

end ScreenForm
