import ScreenForm.Screen.Buffer
/-!
# Writing within an area

Each way to write to a buffer names the cells that it writes to by an area, or by
a row and a number of columns. It leaves all others as they are, and the size of
the buffer.
-/

namespace ScreenForm

namespace Area

/-! ## Areas as sets of cells -/

/-- Each cell of the first area is one of the second. -/
def Within (a area : Area) : Prop :=
  ∀ x y, a.has x y → area.has x y

/-- No cell is one of both areas. -/
def Apart (a a' : Area) : Prop :=
  ∀ x y, a.has x y → a'.has x y = false

theorem has_iff {a : Area} {x y : Nat} : a.has x y ↔ a.x ≤ x ∧ x < a.right ∧ a.y ≤ y ∧ y < a.bottom := by
  simp [has, and_assoc]

theorem mem_cells {a : Area} {x y : Nat} : (x, y) ∈ a.cells ↔ a.has x y := by
  simp only [cells, List.mem_flatMap, List.mem_map, List.mem_range, Prod.mk.injEq, has_iff, right, bottom]
  constructor
  · rintro ⟨dy, hdy, dx, hdx, rfl, rfl⟩
    omega
  · rintro ⟨hx, hx', hy, hy'⟩
    exact ⟨y - a.y, by omega, x - a.x, by omega, by omega, by omega⟩

theorem nodup_cells (a : Area) : a.cells.Nodup := by
  refine List.pairwise_flatMap.2 ⟨fun dy _ => ?_, List.nodup_range.imp fun {dy dy'} hne p hp q hq => ?_⟩
  · refine List.pairwise_map.2 (List.nodup_range.imp fun {dx dx'} hne heq => hne ?_)
    simp only [Prod.mk.injEq] at heq
    omega
  · obtain ⟨dx, -, rfl⟩ := List.mem_map.1 hp
    obtain ⟨dx', -, rfl⟩ := List.mem_map.1 hq
    simp only [ne_eq, Prod.mk.injEq]
    omega

theorem Within.refl (a : Area) : a.Within a := fun _ _ => id

theorem Within.trans {a a' a'' : Area} (h : a.Within a') (h' : a'.Within a'') : a.Within a'' :=
  fun x y hxy => h' x y (h x y hxy)

/-- What lies between the edges of an area lies in it. -/
theorem Within.of_edges {a area : Area} (left : area.x ≤ a.x) (right : a.right ≤ area.right) (top : area.y ≤ a.y)
    (bottom : a.bottom ≤ area.bottom) : a.Within area := by
  intro x y h
  rw [has_iff] at h ⊢
  omega

theorem Apart.symm {a a' : Area} (h : a.Apart a') : a'.Apart a := by
  intro x y hxy
  rw [← Bool.not_eq_true]
  exact fun h' => by simp [h x y h'] at hxy

theorem inner_within (a : Area) : a.inner.Within a := by
  intro x y h
  simp only [has_iff, inner, right, bottom] at h ⊢
  omega

end Area

namespace Buffer

/-- The buffers have one size, and the same cells outside of the area. -/
structure SameOutside (area : Area) (b b' : Buffer) : Prop where
  width : b'.width = b.width
  height : b'.height = b.height
  cells : ∀ x y, area.has x y = false → b'.get? x y = b.get? x y

variable {area a : Area} {b b' b'' : Buffer}

theorem SameOutside.refl (area : Area) (b : Buffer) : SameOutside area b b :=
  ⟨rfl, rfl, fun _ _ _ => rfl⟩

theorem SameOutside.trans (h : SameOutside area b b') (h' : SameOutside area b' b'') : SameOutside area b b'' :=
  ⟨h'.width.trans h.width, h'.height.trans h.height, fun x y hxy => (h'.cells x y hxy).trans (h.cells x y hxy)⟩

/-! ## Cells -/

theorem get?_of_out {x y : Nat} (h : ¬ (x < b.width ∧ y < b.height)) : b.get? x y = none := by
  simp [get?, h]

/-- Two cells of a grid have different numbers. -/
theorem number_inj {width x y x' y' : Nat} (hx : x < width) (hx' : x' < width) :
    y * width + x = y' * width + x' ↔ x' = x ∧ y' = y := by
  constructor
  · intro heq
    have hrow : y = y' := by
      have hdiv := congrArg (· / width) heq
      have hpos : 0 < width := by omega
      simpa [Nat.mul_comm _ width, Nat.mul_add_div hpos, Nat.div_eq_of_lt hx, Nat.div_eq_of_lt hx'] using hdiv
    subst hrow
    exact ⟨by omega, rfl⟩
  · rintro ⟨rfl, rfl⟩
    rfl

theorem get?_modify (b : Buffer) (x y x' y' : Nat) (f : Cell → Cell) :
    (b.modify x y f).get? x' y' = if x' = x ∧ y' = y then (b.get? x' y').map f else b.get? x' y' := by
  unfold modify
  split
  · next hin =>
    simp only [get?, Bool.and_eq_true, decide_eq_true_eq] at hin ⊢
    by_cases hin' : x' < b.width ∧ y' < b.height
    · rw [if_pos hin', if_pos hin', Array.getElem?_modify]
      simp only [number_inj hin.1 hin'.1]
    · simp [hin']
  · next hout =>
    split
    · next heq =>
      obtain ⟨rfl, rfl⟩ := heq
      simp only [get?, hout]
      rfl
    · rfl

@[simp] theorem width_modify (b : Buffer) (x y : Nat) (f : Cell → Cell) : (b.modify x y f).width = b.width := by
  unfold modify
  split <;> rfl

@[simp] theorem height_modify (b : Buffer) (x y : Nat) (f : Cell → Cell) : (b.modify x y f).height = b.height := by
  unfold modify
  split <;> rfl

theorem sameOutside_modify {x y : Nat} (hxy : area.has x y) (b : Buffer) (f : Cell → Cell) :
    SameOutside area b (b.modify x y f) := by
  refine ⟨width_modify .., height_modify .., fun x' y' hout => ?_⟩
  rw [get?_modify, if_neg]
  rintro ⟨rfl, rfl⟩
  simp [hxy] at hout

/-! ## Writings -/

/-- Changes cells one after the other. -/
def changeAll (b : Buffer) (changes : List (Nat × Nat × (Cell → Cell))) : Buffer :=
  changes.foldl (fun b p => b.modify p.1 p.2.1 p.2.2) b

/-- All that the writing does is to change cells of the area one after the other. Which ones, and how, depends on the size of
the buffer and not on what is in it. -/
structure Writes (area : Area) (may : (Cell → Cell) → Prop) (write : Buffer → Buffer) : Prop where
  changes : ∀ width height, ∃ changes : List (Nat × Nat × (Cell → Cell)), (∀ p ∈ changes, area.has p.1 p.2.1 ∧ may p.2.2) ∧
    ∀ b : Buffer, b.width = width → b.height = height → write b = b.changeAll changes

section Writes

variable {may may' : (Cell → Cell) → Prop} {write write' : Buffer → Buffer} {x y : Nat} {f : Cell → Cell}
  {changes : List (Nat × Nat × (Cell → Cell))}

theorem sameOutside_changeAll (h : ∀ p ∈ changes, area.has p.1 p.2.1 ∧ may p.2.2) (b : Buffer) :
    SameOutside area b (b.changeAll changes) := by
  induction changes generalizing b with
  | nil => exact .refl area b
  | cons p rest ih =>
    rw [List.forall_mem_cons] at h
    exact (sameOutside_modify h.1.1 b p.2.2).trans (ih h.2 _)

/-- A writing leaves the rest of the buffer as it is. -/
theorem Writes.sameOutside (h : Writes area may write) (b : Buffer) : SameOutside area b (write b) := by
  obtain ⟨changes, hchanges, hwrite⟩ := h.changes b.width b.height
  rw [hwrite b rfl rfl]
  exact sameOutside_changeAll hchanges b

theorem Writes.mono (h : Writes a may write) (hsub : a.Within area) (hmay : ∀ f, may f → may' f) : Writes area may' write := by
  refine ⟨fun width height => ?_⟩
  obtain ⟨changes, hchanges, hwrite⟩ := h.changes width height
  exact ⟨changes, fun p hp => ⟨hsub _ _ (hchanges p hp).1, hmay _ (hchanges p hp).2⟩, hwrite⟩

theorem Writes.within (h : Writes a may write) (hsub : a.Within area) : Writes area may write := h.mono hsub fun _ => id

theorem Writes.nothing : Writes area may id :=
  ⟨fun _ _ => ⟨[], nofun, fun _ _ _ => rfl⟩⟩

theorem Writes.then (h : Writes area may write) (h' : Writes area may write') : Writes area may fun b => write' (write b) := by
  refine ⟨fun width height => ?_⟩
  obtain ⟨changes, hchanges, hwrite⟩ := h.changes width height
  obtain ⟨changes', hchanges', hwrite'⟩ := h'.changes width height
  refine ⟨changes ++ changes', List.forall_mem_append.2 ⟨hchanges, hchanges'⟩, fun b hwidth hheight => ?_⟩
  have hsame := h.sameOutside b
  rw [hwrite' _ (hsame.width.trans hwidth) (hsame.height.trans hheight), hwrite b hwidth hheight]
  exact List.foldl_append.symm

theorem Writes.foldl {α : Type} {write : α → Buffer → Buffer} {l : List α} (h : ∀ p ∈ l, Writes area may (write p)) :
    Writes area may fun b => l.foldl (fun b p => write p b) b := by
  induction l with
  | nil => exact .nothing
  | cons p rest ih =>
    rw [List.forall_mem_cons] at h
    exact h.1.then (ih h.2)

/-- What is written may depend on the size of the buffer. -/
theorem Writes.of_size {write : Nat → Nat → Buffer → Buffer} (h : ∀ width height, Writes area may (write width height)) :
    Writes area may fun b => write b.width b.height b := by
  refine ⟨fun width height => ?_⟩
  obtain ⟨changes, hchanges, hwrite⟩ := (h width height).changes width height
  refine ⟨changes, hchanges, fun b hwidth hheight => ?_⟩
  rw [hwidth, hheight]
  exact hwrite b hwidth hheight

theorem writes_modify (hxy : area.has x y) (hf : may f) : Writes area may fun b => b.modify x y f :=
  ⟨fun _ _ => ⟨[(x, y, f)], List.forall_mem_singleton.2 ⟨hxy, hf⟩, fun _ _ _ => rfl⟩⟩

end Writes

/-! ## What a writing keeps -/

/-- The buffer has a cell for each column of each row. -/
def Whole (b : Buffer) : Prop := b.cells.size = b.width * b.height

theorem whole_blank (width height : Nat) : (blank width height).Whole := Array.size_replicate

theorem Whole.exists_cell {x y : Nat} (h : b.Whole) (hx : x < b.width) (hy : y < b.height) : ∃ c, b.get? x y = some c := by
  have hlt : y * b.width + x < b.cells.size := by
    have hrows : (y + 1) * b.width ≤ b.height * b.width := Nat.mul_le_mul_right b.width hy
    rw [h, Nat.mul_comm b.width]
    rw [Nat.succ_mul] at hrows
    omega
  exact ⟨b.cells[y * b.width + x], by simp [get?, hx, hy, hlt]⟩

/-- The buffers have one size, and the same cells in the area. -/
structure SameInside (area : Area) (b b' : Buffer) : Prop where
  width : b'.width = b.width
  height : b'.height = b.height
  cells : ∀ x y, area.has x y → b'.get? x y = b.get? x y

theorem SameInside.symm (h : SameInside area b b') : SameInside area b' b :=
  ⟨h.width.symm, h.height.symm, fun x y hxy => (h.cells x y hxy).symm⟩

theorem SameInside.trans (h : SameInside area b b') (h' : SameInside area b' b'') : SameInside area b b'' :=
  ⟨h'.width.trans h.width, h'.height.trans h.height, fun x y hxy => (h'.cells x y hxy).trans (h.cells x y hxy)⟩

/-- Every cell of the area is as `P` says. -/
def Each (area : Area) (P : Cell → Prop) (b : Buffer) : Prop :=
  ∀ x y c, area.has x y → b.get? x y = some c → P c

theorem each_blank {P : Cell → Prop} (h : P .blank) (area : Area) (width height : Nat) : Each area P (blank width height) := by
  intro x y c _ hc
  simp only [get?, blank, Array.getElem?_replicate] at hc
  split at hc
  · split at hc
    · exact Option.some.inj hc ▸ h
    · cases hc
  · cases hc

section Keeps

variable {may : (Cell → Cell) → Prop} {write : Buffer → Buffer} {x y : Nat} {f : Cell → Cell}

theorem Whole.modify (h : b.Whole) (x y : Nat) (f : Cell → Cell) : (b.modify x y f).Whole := by
  unfold Buffer.modify
  split
  · exact Array.size_modify.trans h
  · exact h

theorem SameInside.modify (h : SameInside area b b') (x y : Nat) (f : Cell → Cell) :
    SameInside area (b.modify x y f) (b'.modify x y f) := by
  refine ⟨by simp [h.width], by simp [h.height], fun x' y' hin => ?_⟩
  rw [get?_modify, get?_modify, h.cells x' y' hin]

theorem Each.modify {P : Cell → Prop} (h : Each area P b) (hf : ∀ c, P c → P (f c)) (x y : Nat) : Each area P (b.modify x y f) := by
  intro x' y' c hin hc
  rw [get?_modify] at hc
  split at hc
  · obtain ⟨d, hd, rfl⟩ := Option.map_eq_some_iff.1 hc
    exact hf d (h x' y' d hin hd)
  · exact h x' y' c hin hc

/-- What every change keeps, a writing keeps. -/
theorem Writes.keeps {motive : Buffer → Prop} (h : Writes area may write)
    (hmodify : ∀ b x y f, may f → motive b → motive (b.modify x y f)) (hb : motive b) : motive (write b) := by
  obtain ⟨changes, hchanges, hwrite⟩ := h.changes b.width b.height
  rw [hwrite b rfl rfl]
  exact List.foldlRecOn (motive := motive) changes _ hb fun b hb p hp => hmodify b _ _ _ (hchanges p hp).2 hb

theorem Writes.whole (h : Writes area may write) (hb : b.Whole) : (write b).Whole :=
  h.keeps (motive := Whole) (fun _ x y f _ hb => hb.modify x y f) hb

theorem Writes.each {P : Cell → Prop} (h : Writes area may write) (hmay : ∀ f, may f → ∀ c, P c → P (f c)) (hb : Each a P b) :
    Each a P (write b) :=
  h.keeps (motive := Each a P) (fun _ x y f hf hb => hb.modify (hmay f hf) x y) hb

/-- What is written does not depend on what was there, so buffers that are the same in an area stay the same there. -/
theorem Writes.sameInside (h : Writes a may write) (hb : SameInside area b b') : SameInside area (write b) (write b') := by
  obtain ⟨changes, -, hwrite⟩ := h.changes b.width b.height
  rw [hwrite b rfl rfl, hwrite b' hb.width hb.height, changeAll, changeAll]
  clear hwrite
  induction changes generalizing b b' with
  | nil => exact hb
  | cons p rest ih => exact ih (hb.modify p.1 p.2.1 p.2.2)

end Keeps

/-! ## Areas -/

theorem clip_within (b : Buffer) (a : Area) : (b.clip a).Within a := by
  intro x y h
  simp only [Area.has_iff, clip, Area.right, Area.bottom] at h ⊢
  omega

theorem writes_modifyArea (a : Area) {may : (Cell → Cell) → Prop} {f : Cell → Cell} (hf : may f) :
    Writes a may fun b => b.modifyArea a f := by
  have hsized (width height : Nat) : Writes a may fun b =>
      ((⟨width, height, #[]⟩ : Buffer).clip a).cells.foldl (fun b p => b.modify p.1 p.2 f) b :=
    .foldl fun p hp => writes_modify (clip_within _ a p.1 p.2 (Area.mem_cells.1 hp)) hf
  exact .of_size hsized

theorem get?_foldl_modify {l : List (Nat × Nat)} (hl : l.Nodup) (b : Buffer) (f : Cell → Cell) (x y : Nat) :
    (l.foldl (fun b p => b.modify p.1 p.2 f) b).get? x y = if (x, y) ∈ l then (b.get? x y).map f else b.get? x y := by
  induction l generalizing b with
  | nil => rfl
  | cons p rest ih =>
    obtain ⟨hp, hrest⟩ := List.nodup_cons.1 hl
    rw [List.foldl_cons, ih hrest, get?_modify]
    by_cases heq : (x, y) = p
    · subst heq
      simp [hp]
    · have hne : ¬ (x = p.1 ∧ y = p.2) := fun h => heq (Prod.ext h.1 h.2)
      simp only [if_neg hne, List.mem_cons, heq, false_or]

/-- Each cell of an area is changed once. -/
theorem get?_modifyArea (b : Buffer) (a : Area) (f : Cell → Cell) (x y : Nat) :
    (b.modifyArea a f).get? x y = if a.has x y then (b.get? x y).map f else b.get? x y := by
  rw [modifyArea, get?_foldl_modify (Area.nodup_cells _)]
  simp only [Area.mem_cells]
  by_cases hclip : (b.clip a).has x y
  · rw [if_pos hclip, if_pos (clip_within b a x y hclip)]
  · rw [if_neg hclip]
    split
    · next hin =>
      have hout : ¬ (x < b.width ∧ y < b.height) := by
        simp only [Area.has_iff, clip, Area.right, Area.bottom] at hclip hin
        omega
      rw [get?_of_out hout]
      rfl
    · rfl

/-- The changes that draw something in a style: a cell gets a symbol and the style, or becomes blank. -/
def Draws (s : Style) (f : Cell → Cell) : Prop :=
  (f = fun _ => .blank) ∨ ∃ symbol, f = fun c => (c.withSymbol symbol).withStyle s

/-- The sides and the corners of a frame, each with its symbol. -/
def frameParts (a : Area) : List (Area × String) :=
  [(⟨a.x, a.y, 1, a.height⟩, "│"), (⟨a.x, a.y, a.width, 1⟩, "─"), (⟨a.right - 1, a.y, 1, a.height⟩, "│"),
    (⟨a.x, a.bottom - 1, a.width, 1⟩, "─"), (⟨a.right - 1, a.bottom - 1, 1, 1⟩, "┘"), (⟨a.right - 1, a.y, 1, 1⟩, "┐"),
    (⟨a.x, a.bottom - 1, 1, 1⟩, "└"), (⟨a.x, a.y, 1, 1⟩, "┌")]

theorem frameParts_within (h : a.isEmpty = false) : ∀ p ∈ frameParts a, p.1.Within a := by
  simp only [Area.isEmpty, Bool.or_eq_false_iff, decide_eq_false_iff_not] at h
  simp only [frameParts, List.forall_mem_cons, List.not_mem_nil, false_implies, implies_true, and_true]
  refine ⟨?_, ?_, ?_, ?_, ?_, ?_, ?_, ?_⟩
  all_goals
    refine .of_edges ?_ ?_ ?_ ?_ <;> simp only [Area.right, Area.bottom] <;> omega

theorem writes_putFrame (a : Area) (s : Style) : Writes a (Draws s) fun b => b.putFrame a s := by
  have hsized (width height : Nat) : Writes a (Draws s) fun b =>
      if ((⟨width, height, #[]⟩ : Buffer).clip a).isEmpty then b
      else (frameParts ((⟨width, height, #[]⟩ : Buffer).clip a)).foldl
        (fun b p => b.modifyArea p.1 fun c => (c.withSymbol p.2).withStyle s) b := by
    split
    · exact .nothing
    · next hvisible =>
      refine .foldl fun p hp => (writes_modifyArea p.1 (.inr ⟨p.2, rfl⟩)).within ?_
      exact (frameParts_within (by simpa using hvisible) p hp).trans (clip_within _ a)
  exact .of_size hsized

/-! ## Texts -/

/-- A cluster covers its columns. -/
theorem writes_putCluster {x y columns : Nat} (hpos : 0 < columns) (symbol : List Char) (s : Style) :
    Writes ⟨x, y, columns, 1⟩ (Draws s) fun b => b.putCluster x y symbol columns s := by
  refine (writes_modify (Area.has_iff.2 ?_) (.inr ⟨_, rfl⟩)).then ((writes_modifyArea _ (.inl rfl)).within (.of_edges ?_ ?_ ?_ ?_))
  all_goals simp only [Area.right, Area.bottom]
  all_goals omega

theorem writes_putClusters {x y room : Nat} {s : Style} {l : List (List Char × Nat)} (hpos : ∀ p ∈ l, 0 < p.2) :
    Writes ⟨x, y, room, 1⟩ (Draws s) fun b => b.putClusters x y room s l := by
  induction l generalizing x room with
  | nil => exact .nothing
  | cons p rest ih =>
    obtain ⟨symbol, columns⟩ := p
    rw [List.forall_mem_cons] at hpos
    simp only [putClusters]
    split
    · refine ((writes_putCluster hpos.1 symbol s).within (.of_edges ?_ ?_ ?_ ?_)).then
        ((ih hpos.2).within (.of_edges ?_ ?_ ?_ ?_))
      all_goals simp only [Area.right, Area.bottom]
      all_goals omega
    · exact .nothing

/-- A text is written on one row, into as many columns as it is given. -/
theorem writes_putText (x y limit : Nat) (cs : List Char) (s : Style) :
    Writes ⟨x, y, limit, 1⟩ (Draws s) fun b => b.putText x y limit cs s := by
  have hsized (width height : Nat) : Writes ⟨x, y, limit, 1⟩ (Draws s) fun b =>
      b.putClusters x y (min (width - x) (clampCells limit)) s (visibleClusters cs) := by
    refine (writes_putClusters fun p hp => ?_).within (.of_edges ?_ ?_ ?_ ?_)
    · simpa [visibleClusters] using (List.mem_filter.1 hp).2
    all_goals simp only [Area.right, Area.bottom, clampCells]
    all_goals omega
  exact .of_size hsized

end Buffer

end ScreenForm
