import Mathlib.Order.Bounds.Defs
import ScreenForm.Proofs.Layout.Grid
/-!
# Scrolling to the focus

A list scrolls away as few children as needed for the focused one to be seen
(`Layout.isLeast_firstShown`), and shows the others one below the other until its
area is full (`Layout.getElem?_stack`).
-/

namespace ScreenForm

namespace Layout

/-! ## The first child -/

/-- The numbers of children from which on the rows through the one at `focus` fit, and `focus` itself. -/
def FitFrom (room : Nat) (heights : List Nat) (focus : Nat) : Set Nat :=
  {s | s ≤ focus ∧ (total ((heights.take (focus + 1)).drop s) ≤ room ∨ s = focus)}

theorem succ_mem_fitFrom {room height focus s : Nat} {rest : List Nat} :
    s + 1 ∈ FitFrom room (height :: rest) (focus + 1) ↔ s ∈ FitFrom room rest focus := by
  simp [FitFrom, Set.mem_ofPred_eq]

theorem isLeast_scrolledAway (room : Nat) {heights : List Nat} {focus : Nat} (hfocus : focus < heights.length) :
    IsLeast (FitFrom room heights focus) (scrolledAway room (total (heights.take (focus + 1))) heights focus) := by
  induction heights generalizing focus with
  | nil => cases hfocus
  | cons height rest ih =>
    cases focus with
    | zero => exact ⟨⟨Nat.le_refl 0, .inr rfl⟩, fun s _ => Nat.zero_le s⟩
    | succ focus =>
      have htotal : total ((height :: rest).take (focus + 1 + 1)) = height + total (rest.take (focus + 1)) := rfl
      rw [scrolledAway]
      by_cases hroom : total ((height :: rest).take (focus + 1 + 1)) ≤ room
      · rw [if_pos hroom]
        exact ⟨⟨Nat.zero_le _, .inl hroom⟩, fun s _ => Nat.zero_le s⟩
      · obtain ⟨hmem, hleast⟩ := ih (by simpa using hfocus)
        rw [if_neg hroom, htotal, Nat.add_sub_cancel_left]
        refine ⟨succ_mem_fitFrom.2 hmem, fun s hs => ?_⟩
        cases s with
        | zero =>
          obtain ⟨-, h | h⟩ := hs
          · exact absurd h hroom
          · cases h
        | succ s => exact Nat.succ_le_succ (hleast (succ_mem_fitFrom.1 hs))

/-- As few children are scrolled away as needed, but never the focused one. -/
theorem isLeast_firstShown (room : Nat) {heights : List Nat} {focus : Nat} (hfocus : focus < heights.length) :
    IsLeast (FitFrom room heights focus) (firstShown room heights focus) :=
  isLeast_scrolledAway room hfocus

/-! ## One below the other -/

theorem total_take_succ {l : List Nat} {k n : Nat} (h : l[k]? = some n) : total (l.take (k + 1)) = total (l.take k) + n := by
  rw [List.take_add_one, h, total_append]
  rfl

/-- Each piece begins where those before it end, and is cut off at the bottom. -/
theorem getElem?_stack {a : Area} {y k : Nat} {l : List (Nat × Nat)} {s : Slot} :
    (stack a y l)[k]? = some s ↔ ∃ p, l[k]? = some p ∧ y + total ((l.take k).map Prod.fst) < a.bottom ∧
      s = ⟨p.2, ⟨a.x, y + total ((l.take k).map Prod.fst), a.width,
        min p.1 (a.bottom - (y + total ((l.take k).map Prod.fst)))⟩⟩ := by
  induction l generalizing y k with
  | nil => simp [stack]
  | cons p rest ih =>
    rw [stack]
    by_cases hend : a.bottom ≤ y
    · rw [if_pos hend]
      have hfull (n : Nat) : ¬ y + n < a.bottom := by omega
      simp [hfull]
    · rw [if_neg hend]
      cases k with
      | zero =>
        have hroom : y < a.bottom := by omega
        simp [hroom, eq_comm]
      | succ k =>
        rw [List.getElem?_cons_succ, ih]
        simp only [List.getElem?_cons_succ, List.take_succ_cons, List.map_cons, total_cons]
        refine exists_congr fun q => and_congr_right fun _ => ?_
        -- A piece that is cut off leaves no room for others, wherever it would have ended.
        rcases Nat.lt_or_ge (y + p.1) a.bottom with hfits | hcut
        · have hmin : min p.1 (a.bottom - y) = p.1 := by omega
          rw [hmin, Nat.add_assoc]
        · have hnone (n : Nat) : ¬ y + min p.1 (a.bottom - y) + n < a.bottom := by omega
          have hnone' (n : Nat) : ¬ y + (p.1 + n) < a.bottom := by omega
          simp [hnone, hnone']

/-- The slots are those of the children from `start` on. Each begins where those before it end, with as many of its rows as
there is room for. -/
def Fills (a : Area) (heights : List Nat) (start : Nat) (slots : List Slot) : Prop :=
  ∀ k s, slots[k]? = some s ↔ ∃ n, heights[start + k]? = some n ∧
    let above := total ((heights.drop start).take k)
    above < a.height ∧ s = ⟨start + k, ⟨a.x, a.y + above, a.width, min n (a.height - above)⟩⟩

theorem fills_stack (a : Area) (heights : List Nat) (start : Nat) :
    Fills a heights start (stack a a.y (heights.zipIdx.drop start)) := by
  intro k s
  rw [getElem?_stack, List.getElem?_drop, List.getElem?_zipIdx, List.map_take, List.map_drop, List.zipIdx_map_fst]
  constructor
  · rintro ⟨p, hp, hroom, rfl⟩
    obtain ⟨n, hn, rfl⟩ := Option.map_eq_some_iff.1 hp
    rw [Area.bottom] at hroom ⊢
    refine ⟨n, hn, by omega, ?_⟩
    rw [Nat.add_sub_add_left, Nat.zero_add]
  · rintro ⟨n, hn, hroom, rfl⟩
    refine ⟨(n, start + k), by simp [hn], ?_, ?_⟩
    · rw [Area.bottom]
      omega
    · rw [Area.bottom, Nat.add_sub_add_left]

section Fills

variable {a : Area} {heights : List Nat} {start focus n : Nat} {slots : List Slot}

theorem Fills.head? (h : Fills a heights start slots) (ha : 0 < a.height) (hn : heights[start]? = some n) :
    slots.head? = some ⟨start, ⟨a.x, a.y, a.width, min n a.height⟩⟩ := by
  rw [List.head?_eq_getElem?, h]
  exact ⟨n, hn, ha, rfl⟩

/-- The rows of the shown children through the focused one. -/
theorem total_drop_take (hn : heights[focus]? = some n) (hle : start ≤ focus) :
    total ((heights.take (focus + 1)).drop start) = total ((heights.drop start).take (focus - start)) + n := by
  have hget : (heights.drop start)[focus - start]? = some n := by rwa [List.getElem?_drop, Nat.add_sub_cancel' hle]
  rw [List.drop_take, show focus + 1 - start = focus - start + 1 by omega, total_take_succ hget]

/-- A focused child that fits is shown in full. -/
theorem Fills.of_fits (h : Fills a heights start slots) (hstart : start ∈ FitFrom a.height heights focus)
    (hn : heights[focus]? = some n) (hfit : n ≤ a.height) :
    (∀ s ∈ slots, s.index = focus → s.area.height = n) ∧ (n ≠ 0 → ∃ s ∈ slots, s.index = focus) := by
  obtain ⟨hle, hroom⟩ := hstart
  have hrows : total ((heights.drop start).take (focus - start)) + n ≤ a.height := by
    rcases hroom with hroom | rfl
    · rwa [total_drop_take hn hle] at hroom
    · simpa using hfit
  constructor
  · intro s hs hindex
    obtain ⟨k, hk⟩ := List.mem_iff_getElem?.1 hs
    obtain ⟨m, hm, habove, rfl⟩ := (h k s).1 hk
    obtain rfl : start + k = focus := hindex
    obtain rfl : m = n := Option.some.inj (hm.symm.trans hn)
    rw [Nat.add_sub_cancel_left] at hrows
    exact Nat.min_eq_left (by omega)
  · intro hpos
    have hfocus : start + (focus - start) = focus := Nat.add_sub_cancel' hle
    have hslot := (h (focus - start) _).2 ⟨n, by rwa [hfocus], by omega, rfl⟩
    exact ⟨_, List.mem_of_getElem? hslot, hfocus⟩

/-- One that does not fit has the area for itself. -/
theorem Fills.of_not_fits (h : Fills a heights start slots) (hstart : start ∈ FitFrom a.height heights focus) (ha : 0 < a.height)
    (hn : heights[focus]? = some n) (hfit : a.height < n) : slots = [⟨focus, a⟩] := by
  obtain ⟨hle, hroom⟩ := hstart
  obtain rfl : start = focus := by
    rcases hroom with hroom | rfl
    · rw [total_drop_take hn hle] at hroom
      omega
    · rfl
  have hhead := h.head? ha hn
  rw [Nat.min_eq_right (Nat.le_of_lt hfit)] at hhead
  have hsecond : slots[1]? = none := by
    rw [Option.eq_none_iff_forall_ne_some]
    intro s hs
    obtain ⟨m, -, habove, -⟩ := (h 1 s).1 hs
    have hfirst : total ((heights.drop start).take 1) = n := by
      rw [total_take_succ (n := n) (by simpa using hn), List.take_zero, total_nil, Nat.zero_add]
    omega
  cases slots with
  | nil => cases hhead
  | cons s rest =>
    cases hhead
    cases rest with
    | nil => rfl
    | cons s' rest => cases hsecond

end Fills

end Layout

open Layout

theorem Arrangement.isEmpty_of_innerArea {a : Arrangement} {area : Area} (h : (a.innerArea area).isEmpty = false) :
    area.isEmpty = false := by
  simp only [Area.isEmpty, Bool.or_eq_false_iff, decide_eq_false_iff_not] at h ⊢
  unfold innerArea at h
  split at h
  · simp only [Area.inner] at h
    omega
  · exact h

namespace Tree

variable {t : Tree}

/-! ## Painting the children -/

theorem paintWithin_congr (h : t.Ordered) {l l' id : Nat} (hl : id < l) (hl' : id < l') (area : Area) (focused : Bool)
    (b : Buffer) : t.paintWithin l id area focused b = t.paintWithin l' id area focused b := by
  induction l generalizing l' id area focused b with
  | zero => omega
  | succ l ih =>
    obtain ⟨l', rfl⟩ : ∃ k, l' = k + 1 := ⟨l' - 1, by omega⟩
    rw [paintWithin, paintWithin]
    split
    · rfl
    · refine List.foldl_ext _ _ _ fun b s _ => ?_
      split
      · next c hc =>
        have hlt := h id c (List.mem_of_getElem? hc)
        exact ih (by omega) (by omega) ..
      · rfl

/-- Paints a child of a widget into its slot. -/
def paintSlot (t : Tree) (id : Nat) (focused : Bool) (b : Buffer) (s : Slot) : Buffer :=
  match (t.children id)[s.index]? with
  | some c => t.paint c s.area (focused && s.index = (t.widget id).focusIndex) b
  | none => b

/-- To paint a widget is to paint what is its own and then its children, each into its slot. -/
theorem Ordered.paint_eq_foldl_slots (h : t.Ordered) {id : Nat} (hid : id < t.size) {area : Area} (hvisible : area.isEmpty = false)
    (focused : Bool) (b : Buffer) : t.paint id area focused b =
      (t.slots id area).foldl (t.paintSlot id focused) ((t.widget id).paintSelf area focused b) := by
  obtain ⟨levels, hlevels⟩ : ∃ n, 2 * t.size * (area.width + area.height + 1) = n + 1 :=
    Nat.exists_eq_add_one.2 (Nat.zero_lt_of_lt (lt_levels hid area))
  have hlevel := lt_levels hid area
  rw [paint, hlevels, paintWithin, if_neg (by simp [hvisible])]
  refine List.foldl_ext _ _ _ fun b s _ => ?_
  rw [paintSlot, children]
  cases hc : (t.widget id).children[s.index]? with
  | none => rfl
  | some c =>
    have hlt := h id c (List.mem_of_getElem? hc)
    exact paintWithin_congr h (by omega) (lt_levels (Nat.lt_trans hlt hid) s.area) ..

/-- A list shows its children from the first one on from which the rows through the focused one fit, or else from the focused
one on. They follow each other without gaps until the area is full. The focused one is shown in full if it fits, and else
alone from its first row on, and nothing is scrolled away where it fits from the start. The rows of the list can be
counted, so it does not stop the program. -/
theorem Ordered.list_shows_focused (h : t.Ordered) {id focus : Nat} {height : Option Nat} {border : Bool} {children : List Nat}
    (hw : t.widget id = .container (.list height border) children focus) (hfocus : focus < children.length) {area : Area}
    (hvisible : ((Arrangement.list height border).innerArea area).isEmpty = false)
    (hcount : total (t.childRows (.list height border) children area.width) < rowWord) :
    let inner := (Arrangement.list height border).innerArea area
    let heights := t.childRows (.list height border) children area.width
    let slots := t.slots id area
    t.countsRows id area.width = true ∧ ∃ start,
      IsLeast {s | s ≤ focus ∧ (total ((heights.take (focus + 1)).drop s) ≤ inner.height ∨ s = focus)} start ∧
      slots.head?.map (·.index) = some start ∧ Fills inner heights start slots ∧
      (∀ n, heights[focus]? = some n →
        (n ≤ inner.height → (∀ s ∈ slots, s.index = focus → s.area.height = n) ∧ (n ≠ 0 → ∃ s ∈ slots, s.index = focus)) ∧
        (inner.height < n → slots = [⟨focus, inner⟩])) ∧
      (total (heights.take (focus + 1)) ≤ inner.height → start = 0) ∧
      ∀ focused b, t.paint id area focused b = slots.foldl (t.paintSlot id focused) ((t.widget id).paintSelf area focused b) := by
  intro inner heights slots
  have hlength : focus < heights.length := by rwa [length_childRows]
  have hrows : total (heights.take (focus + 1)) < rowWord := Nat.lt_of_le_of_lt (total_take_le ..) hcount
  have hcounts : t.countsRows id area.width = true := by
    rw [countsRows, hw]
    exact Bool.or_eq_true_iff.2 (.inr (decide_eq_true hrows))
  have hleast := isLeast_firstShown inner.height hlength
  have hfills : Fills inner heights (firstShown inner.height heights focus) slots := by
    have hslots : slots = stack inner inner.y (heights.zipIdx.drop (firstShown inner.height heights focus)) := by
      simp only [slots, Tree.slots, hw, Arrangement.slots]
      rw [if_pos hlength]
    rw [hslots]
    exact fills_stack inner heights _
  have hheight : 0 < inner.height := by
    simp only [Area.isEmpty, Bool.or_eq_false_iff, decide_eq_false_iff_not] at hvisible
    exact Nat.pos_of_ne_zero hvisible.2
  have hstart : firstShown inner.height heights focus < heights.length := Nat.lt_of_le_of_lt hleast.1.1 hlength
  refine ⟨hcounts, firstShown inner.height heights focus, hleast, ?_, hfills, fun n hn => ⟨?_, ?_⟩, fun hfit => ?_,
    fun focused b => ?_⟩
  · rw [hfills.head? hheight (List.getElem?_eq_getElem hstart)]
    rfl
  · exact hfills.of_fits hleast.1 hn
  · exact hfills.of_not_fits hleast.1 hheight hn
  · exact Nat.le_zero.1 (hleast.2 ⟨Nat.zero_le focus, .inl hfit⟩)
  · exact h.paint_eq_foldl_slots (lt_size_of_isContainer (by rw [hw]; rfl)) (Arrangement.isEmpty_of_innerArea hvisible) focused b

/-- A list in a border of three rows, and four of them to be shown. -/
theorem Ordered.list_shows_focused_bordered : ∃ f : Form,
    f.tree.widget 3 = .container (.list (some 3) true) [0, 1, 2] 2 ∧
    f.tree.childRows (.list (some 3) true) [0, 1, 2] 6 = [2, 1, 1] ∧
    IsLeast {s | s ≤ 2 ∧ (total ([2, 1, 1].drop s) ≤ 3 ∨ s = 2)} 1 ∧
    f.tree.slots 3 ⟨0, 0, 6, 5⟩ = [⟨1, 1, 1, 4, 1⟩, ⟨2, 1, 2, 4, 1⟩] ∧
    Fills ⟨1, 1, 4, 3⟩ [2, 1, 1] 1 (f.tree.slots 3 ⟨0, 0, 6, 5⟩) ∧
    ∃ s ∈ f.tree.slots 3 ⟨0, 0, 6, 5⟩, s.index = 2 ∧ s.area.height = 1 := by
  let f := ((Form.parse "Box height=3 border=1\nTxt one two\nTxt x\nBtn [Go]\nEnd" {} {}).toOption).getD default
  have hparse : Form.parse "Box height=3 border=1\nTxt one two\nTxt x\nBtn [Go]\nEnd" {} {} = .ok f := by decide +kernel
  obtain ⟨hw, hrows, hslots⟩ : f.tree.widget 3 = .container (.list (some 3) true) [0, 1, 2] 2 ∧
      f.tree.childRows (.list (some 3) true) [0, 1, 2] 6 = [2, 1, 1] ∧
      f.tree.slots 3 ⟨0, 0, 6, 5⟩ = [⟨1, 1, 1, 4, 1⟩, ⟨2, 1, 2, 4, 1⟩] := by decide +kernel
  have hlt : f.tree.Ordered := (Form.InUse.parsed hparse).attentive.tree.ordered
  have hinner : (Arrangement.list (some 3) true).innerArea ⟨0, 0, 6, 5⟩ = ⟨1, 1, 4, 3⟩ := rfl
  obtain ⟨-, start, hleast, hhead, hfills, hfocus, -⟩ := hlt.list_shows_focused hw (by decide)
    (show ((Arrangement.list (some 3) true).innerArea ⟨0, 0, 6, 5⟩).isEmpty = false by decide) (by rw [hrows]; decide)
  rw [hrows, hinner] at hleast hfills hfocus
  rw [hslots] at hhead
  obtain rfl : 1 = start := Option.some.inj hhead
  obtain ⟨hall, hseen⟩ := (hfocus 1 rfl).1 (by decide)
  obtain ⟨s, hs, hindex⟩ := hseen (by decide)
  exact ⟨f, hw, hrows, hleast, hslots, hfills, s, hs, hindex, hall s hs hindex⟩

end Tree

end ScreenForm
