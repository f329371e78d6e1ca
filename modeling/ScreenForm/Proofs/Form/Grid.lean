import ScreenForm.Proofs.Description.Rule
import ScreenForm.Proofs.Form.Checked
import ScreenForm.Proofs.Form.Structure
import ScreenForm.Proofs.Layout.Grid
import ScreenForm.Proofs.Layout.Label
import ScreenForm.Proofs.Text.Width
import ScreenForm.Proofs.Widget.Unstyled
/-!
# Grids of a form

A grid whose line says nothing of the width of its cells gets cells that are as
wide as the widest label in it and a margin (`Form.parse_laid`). So its labels can be
read in full wherever one of its cells fits (`Tree.Ordered.grid_cells`), but for those
that take more columns on a screen than as a line of text (`Tree.grid_clips_ligature`).
-/

namespace ScreenForm

open Description Layout

/-! ## The width of the cells -/

namespace Description

/-- Line `n` opens a grid, and says nothing of the width of its cells. -/
def LeavesWidth (lines : List (List Char × Nat)) (n : Nat) : Prop :=
  ∃ raw data attributes arguments, (raw, n) ∈ lines ∧ Line.parse n raw = .ok (.command (.opening .grid) data) ∧
    Attributes.parse data n = .ok (attributes, arguments) ∧ arguments.find? "cell_width" = none

/-- Only a container of this kind becomes a grid, and the width of its cells is the one that the arguments give or
the one that fits the widest text. -/
theorem ContainerKind.cellWidth_eq {kind : ContainerKind} {arguments : Arguments} {widget : String}
    {count widest n cellWidth columnGap rowGap : Nat} {align : Align}
    (h : arguments.readAll widget n (kind.arrangement count widest n) = .ok (.grid cellWidth columnGap rowGap align)) :
    kind = .grid ∧ cellWidth = clampCells ((arguments.nat? "cell_width").getD (widest + gridMargin)) := by
  obtain ⟨left, hread, -⟩ := Arguments.run_of_readAll h
  cases kind with
  | pile => cases hread
  | columns =>
    obtain ⟨_, _, -, hread⟩ := ArgumentReader.run_bind hread
    cases hread
  | list =>
    obtain ⟨_, _, -, hread⟩ := ArgumentReader.run_bind hread
    obtain ⟨_, _, -, hread⟩ := ArgumentReader.run_bind hread
    cases hread
  | grid =>
    obtain ⟨given, _, hgiven, hread⟩ := ArgumentReader.run_bind hread
    obtain ⟨_, _, -, hread⟩ := ArgumentReader.run_bind hread
    obtain ⟨_, _, -, hread⟩ := ArgumentReader.run_bind hread
    obtain ⟨_, _, -, hread⟩ := ArgumentReader.run_bind hread
    cases hread
    exact ⟨rfl, by rw [(ArgumentReader.run_takeNat? hgiven).1]⟩

end Description

theorem Widget.container_of_fixed {w w' : Widget} (h : w'.fixed = w.fixed) {arrangement : Arrangement} {children : List Nat}
    {focus : Nat} (hw : w' = .container arrangement children focus) : ∃ focus, w = .container arrangement children focus := by
  subst hw
  cases w <;> simp_all [fixed]

namespace Tree

variable {t t' : Tree} {lines : List (List Char × Nat)} {id : Nat}

/-- The cells are as wide as each label among these widgets and a margin, as far as a screen goes. -/
def Roomy (t : Tree) (children : List Nat) (cellWidth : Nat) : Prop :=
  ∀ c ∈ children, ∀ label, (t.widget (t.unwrap c)).label? = some label →
    clampCells (Text.displayWidth label.toList + gridMargin) ≤ cellWidth

/-- A wrapper paints a style, and a grid whose line leaves the width to it has room for its labels. -/
structure Laid (t : Tree) (lines : List (List Char × Nat)) (id : Nat) : Prop where
  styled : ∀ wrapping child, t.widget id = .wrapper wrapping child → ∃ normal focus names, wrapping = .styled normal focus names
  roomy : ∀ cellWidth columnGap rowGap align children focus,
    t.widget id = .container (.grid cellWidth columnGap rowGap align) children focus →
    LeavesWidth lines (t.about id).line → t.Roomy children cellWidth

theorem laid_of_size_le (h : t.size ≤ id) : t.Laid lines id := by
  have hw : t.widget id = default := congrArg Node.widget (node_of_size_le h)
  constructor
  · intro _ _ heq
    cases hw.symm.trans heq
  · intro _ _ _ _ _ _ heq
    cases hw.symm.trans heq

theorem Roomy.mono {children : List Nat} {cellWidth : Nat} (h : t.Roomy children cellWidth) (ht : t.Extends t')
    (hlt : t.Ordered) (hlt' : t'.Ordered) (hchildren : ∀ c ∈ children, c < t.size) : t'.Roomy children cellWidth := by
  intro c hc label hlabel
  have hsize : t.unwrap c < t.size := Nat.lt_of_le_of_lt (unwrap_le hlt c) (hchildren c hc)
  rw [ht.unwrap hlt hlt' (hchildren c hc), Widget.label?_congr (ht.widget_fixed hsize)] at hlabel
  exact h c hc label hlabel

theorem Laid.mono (h : t.Laid lines id) (ht : t.Extends t') (hlt : t.Ordered) (hlt' : t'.Ordered) (hid : id < t.size) :
    t'.Laid lines id := by
  have hfixed := ht.widget_fixed hid
  constructor
  · intro wrapping child hw
    rw [hw, Widget.fixed] at hfixed
    exact h.styled wrapping child (Widget.eq_wrapper_of_fixed hfixed.symm)
  · intro cellWidth columnGap rowGap align children focus hw hline
    obtain ⟨focus, hw⟩ := Widget.container_of_fixed hfixed hw
    rw [ht.about hid] at hline
    refine (h.roomy cellWidth columnGap rowGap align children focus hw hline).mono ht hlt hlt' fun c hc => ?_
    exact Nat.lt_trans (hlt id c (by simpa [Tree.children, hw, Widget.children] using hc)) hid

/-- One widget more, which is as it should be. -/
theorem laid_add (h : ∀ id, t.Laid lines id) (hlt : t.Ordered) {w : Widget} {m : Meta} (hw : ∀ c ∈ w.children, c < t.size)
    (styled : ∀ wrapping child, w = .wrapper wrapping child → ∃ normal focus names, wrapping = .styled normal focus names)
    (roomy : ∀ cellWidth columnGap rowGap align children focus,
      w = .container (.grid cellWidth columnGap rowGap align) children focus → LeavesWidth lines m.line →
      t.Roomy children cellWidth) : ∀ id, (t.add w m).Laid lines id := by
  intro id
  have hgrows := extends_add t w m
  have hlt' := hlt.add hw m
  rcases Nat.lt_trichotomy id t.size with hid | rfl | hid
  · exact (h id).mono hgrows hlt hlt' hid
  · have hnew : (t.add w m).widget t.size = w := by simp [widget]
    have habout : (t.add w m).about t.size = m := by simp [about]
    constructor
    · rwa [hnew]
    · rw [hnew, habout]
      intro cellWidth columnGap rowGap align children focus heq hline
      subst heq
      exact (roomy _ _ _ _ _ _ rfl hline).mono hgrows hlt hlt' hw
  · exact laid_of_size_le (by rwa [size_add])

theorem laid_wrapStyle (h : ∀ id, t.Laid lines id) (hlt : t.Ordered) (hid : id < t.size) (palette : Palette)
    (names : List String) : ∀ i, (t.wrapStyle id palette names).1.Laid lines i := by
  unfold wrapStyle
  split
  · exact h
  · refine laid_add h hlt (fun c hc => List.mem_singleton.1 hc ▸ hid) ?_ ?_
    · intro _ _ heq
      cases heq
      exact ⟨_, _, _, rfl⟩
    · intro _ _ _ _ _ _ heq
      cases heq

theorem laid_of_fixed (h : ∀ id, t.Laid lines id) (hlt : t.Ordered) (ht : t'.fixed = t.fixed) : ∀ id, t'.Laid lines id := by
  intro id
  by_cases hid : id < t.size
  · exact (h id).mono (extends_of_fixed ht) hlt (hlt.of_fixed ht) hid
  · exact laid_of_size_le (by rw [size_eq_of_fixed ht]; omega)

end Tree

/-! ## Lines -/

namespace Assembly

variable {lines : List (List Char × Nat)} {a a' : Assembly} {n id : Nat} {data : List Char}

/-- The widgets are as they should be, and a container that is still open has the arguments of its line. -/
structure Lays (a : Assembly) (lines : List (List Char × Nat)) : Prop where
  laid : ∀ id, a.tree.Laid lines id
  opened : ∀ o ∈ a.opened, o.kind = .grid → LeavesWidth lines o.line → o.arguments.find? "cell_width" = none

theorem laid_addWidget {w : Widget} {attributes : Attributes} {className : String}
    (h : a.addWidget w attributes className n = .ok (a', id)) (hlaid : ∀ i, a.tree.Laid lines i)
    (hlt : a.tree.Ordered) (plain : w.isWrapper = false) (hw : ∀ c ∈ w.children, c < a.tree.size)
    (roomy : ∀ cellWidth columnGap rowGap align children focus,
      w = .container (.grid cellWidth columnGap rowGap align) children focus → LeavesWidth lines n →
      a.tree.Roomy children cellWidth) : ∀ i, a'.tree.Laid lines i := by
  unfold addWidget at h
  obtain ⟨_, -, h⟩ := Except.bind_eq_ok.1 h
  obtain ⟨_, -, h⟩ := Except.bind_eq_ok.1 h
  obtain ⟨names, -, h⟩ := Except.bind_eq_ok.1 h
  cases h
  refine Tree.laid_wrapStyle (Tree.laid_add hlaid hlt hw ?_ roomy) (hlt.add hw _) (by simp) _ _
  rintro wrapping child rfl
  cases plain

/-- A widget without children is no grid. -/
theorem Lays.addBare (ha : a.Lays lines) (hlt : a.tree.Ordered) {w : Widget} (bare : w.Bare) {attributes : Attributes}
    {className : String} (h : a.addWidget w attributes className n = .ok (a', id)) : a'.Lays lines where
  laid := by
    refine laid_addWidget h ha.laid hlt bare.plain (by simp [bare.children]) ?_
    rintro cellWidth columnGap rowGap align children focus rfl
    cases bare.isContainer
  opened := by
    rw [(addWidget_added h).opened]
    exact ha.opened

theorem Lays.addLeaf (ha : a.Lays lines) (hlt : a.tree.Ordered) {leaf : Leaf} (bare : leaf.Bare)
    (h : a.addLeaf leaf n = .ok a') : a'.Lays lines := by
  obtain ⟨⟨b, id⟩, hb, rfl⟩ := Except.map_eq_ok.1 h
  have hlays := ha.addBare hlt bare hb
  exact ⟨hlays.laid, hlays.opened⟩

theorem Lays.addRead (ha : a.Lays lines) (hlt : a.tree.Ordered) {read : Except SyntaxError Leaf}
    (bare : Yields Leaf.Bare read) (h : a.addRead read n = .ok a') : a'.Lays lines := by
  obtain ⟨leaf, hleaf, h⟩ := Except.bind_eq_ok.1 h
  exact ha.addLeaf hlt (bare leaf (liftError_eq_ok.1 hleaf)) (liftError_eq_ok.1 h)

theorem Lays.addRadioButton (ha : a.Lays lines) (hlt : a.tree.Ordered) {leaf : Leaf} (bare : leaf.Bare)
    (h : a.addRadioButton leaf n = .ok a') (hlt' : a'.tree.Ordered) : a'.Lays lines := by
  obtain ⟨b, hb, h⟩ := Except.bind_eq_ok.1 h
  have hlays := ha.addLeaf hlt bare hb
  split at h
  · cases h
    have hfixed := Tree.fixed_clearGroup b.tree
    exact ⟨Tree.laid_of_fixed hlays.laid (hlt'.of_fixed (hfixed ..).symm) (hfixed ..), hlays.opened⟩
  · cases h
    exact hlays

theorem Lays.addHeader (ha : a.Lays lines) (hlt : a.tree.Ordered) (h : a.addHeader n data = .ok a') : a'.Lays lines := by
  unfold Assembly.addHeader at h
  dsimp only at h
  split at h
  · cases h
  · obtain ⟨leaf, hleaf, h⟩ := Except.bind_eq_ok.1 h
    obtain ⟨⟨b, id⟩, hb, h⟩ := Except.bind_eq_ok.1 h
    cases h
    have hlays := ha.addBare hlt (addText_added hleaf hb).1 (liftError_eq_ok.1 hb)
    exact ⟨hlays.laid, hlays.opened⟩

theorem Lays.addFooter (ha : a.Lays lines) (hlt : a.tree.Ordered) (h : a.addFooter n data = .ok a') : a'.Lays lines := by
  unfold Assembly.addFooter at h
  dsimp only at h
  split at h
  · cases h
  · obtain ⟨leaf, hleaf, h⟩ := Except.bind_eq_ok.1 h
    obtain ⟨⟨b, id⟩, hb, h⟩ := Except.bind_eq_ok.1 h
    cases h
    have hlays := ha.addBare hlt (addText_added hleaf hb).1 (liftError_eq_ok.1 hb)
    exact ⟨hlays.laid, hlays.opened⟩

theorem Lays.openContainer (ha : a.Lays lines) {kind : ContainerKind} (h : a.openContainer kind n data = .ok a')
    (hleaves : ∀ attributes arguments, Attributes.parse data n = .ok (attributes, arguments) → kind = .grid →
      LeavesWidth lines n → arguments.find? "cell_width" = none) : a'.Lays lines := by
  obtain ⟨⟨attributes, arguments⟩, hparse, h⟩ := Except.bind_eq_ok.1 h
  cases h
  refine ⟨ha.laid, fun o ho => ?_⟩
  rcases List.mem_cons.1 ho with rfl | ho
  · exact hleaves attributes arguments hparse
  · exact ha.opened o ho

/-- No label among them is wider than the widest. -/
theorem roomy_widestText (t : Tree) (children : List Nat) :
    t.Roomy children (clampCells (widestText t children + gridMargin)) := by
  intro c hc label hlabel
  have hwidest : Text.displayWidth label.toList ≤ widestText t children := by
    refine Nat.le_trans ?_ (le_rowHeight (List.mem_map_of_mem hc))
    dsimp only
    rw [hlabel]
    exact Nat.le_max_right ..
  unfold clampCells
  omega

theorem Lays.closeContainer (ha : a.Lays lines) (hlt : a.tree.Ordered) (hcontent : ∀ c ∈ a.content.toList, c < a.tree.size)
    (h : a.closeContainer n data = .ok a') : a'.Lays lines := by
  unfold Assembly.closeContainer at h
  dsimp only at h
  split at h
  · cases h
  split at h
  · cases h
  · next o rest ho =>
    obtain ⟨arrangement, harrangement, h⟩ := Except.bind_eq_ok.1 h
    obtain ⟨⟨b, id⟩, hb, rfl⟩ := Except.map_eq_ok.1 (liftError_eq_ok.1 h)
    have hopened := ha.opened
    rw [ho, List.forall_mem_cons] at hopened
    constructor
    · show ∀ i, b.tree.Laid lines i
      refine laid_addWidget hb ha.laid hlt rfl hcontent ?_
      intro cellWidth columnGap rowGap align children focus heq hline
      cases heq
      obtain ⟨hkind, rfl⟩ := ContainerKind.cellWidth_eq (liftError_eq_ok.1 harrangement)
      rw [Arguments.nat?, hopened.1 hkind hline, Option.bind_none, Option.getD_none]
      exact roomy_widestText a.tree a.content.toList
    · show ∀ o ∈ b.opened, _
      rw [(addWidget_added hb).opened]
      exact hopened.2

theorem Lays.addCommand (ha : a.Lays lines) (hlt : a.tree.Ordered) (hcontent : ∀ c ∈ a.content.toList, c < a.tree.size)
    {opcode : Opcode} (h : a.addCommand n opcode data = .ok a') (hlt' : a'.tree.Ordered)
    (hleaves : ∀ attributes arguments, Attributes.parse data n = .ok (attributes, arguments) → opcode = .opening .grid →
      LeavesWidth lines n → arguments.find? "cell_width" = none) : a'.Lays lines := by
  cases opcode with
  | header => exact ha.addHeader hlt h
  | footer => exact ha.addFooter hlt h
  | text => exact ha.addRead hlt (Leaf.bare_text data) h
  | button => exact ha.addRead hlt (Leaf.bare_button data) h
  | edit => exact ha.addRead hlt (Leaf.bare_edit data) h
  | checkBox => exact ha.addRead hlt (Leaf.bare_checkBox data) h
  | radioButton =>
    obtain ⟨leaf, hleaf, h⟩ := Except.bind_eq_ok.1 h
    exact ha.addRadioButton hlt (Leaf.bare_radioButton data leaf (liftError_eq_ok.1 hleaf)) (liftError_eq_ok.1 h) hlt'
  | divider => exact ha.addRead hlt (Leaf.bare_divider data) h
  | opening kind =>
    refine ha.openContainer (liftError_eq_ok.1 h) fun attributes arguments hparse hkind => ?_
    exact hleaves attributes arguments hparse (congrArg Opcode.opening hkind)
  | closing => exact ha.closeContainer hlt hcontent h

/-- A line with the number of another one is the same. -/
def Numbered (lines : List (List Char × Nat)) : Prop :=
  ∀ raw raw' n, (raw, n) ∈ lines → (raw', n) ∈ lines → raw = raw'

theorem Lays.addLine (ha : a.Lays lines) (hlt : a.tree.Ordered) (hcontent : ∀ c ∈ a.content.toList, c < a.tree.size)
    (hnumbered : Numbered lines) {l : List Char × Nat} (hl : l ∈ lines) (h : a.addLine l = .ok a')
    (hlt' : a'.tree.Ordered) : a'.Lays lines := by
  obtain ⟨line, hline, h⟩ := Except.bind_eq_ok.1 h
  have hline := liftError_eq_ok.1 hline
  cases line with
  | comment =>
    cases h
    exact ha
  | blank =>
    cases h
    refine ⟨Tree.laid_add ha.laid hlt (List.forall_mem_nil _) ?_ ?_, ha.opened⟩
    · intro _ _ heq
      cases heq
    · intro _ _ _ _ _ _ heq
      cases heq
  | command opcode data =>
    refine ha.addCommand hlt hcontent h hlt' ?_
    rintro attributes arguments hparse rfl ⟨raw, data', attributes', arguments', hraw, hline', hparse', hnone⟩
    obtain rfl := hnumbered _ _ _ hl hraw
    cases hline.symm.trans hline'
    cases hparse.symm.trans hparse'
    exact hnone
  | rule fill data => exact ha.addRead hlt (Leaf.bare_rule fill data) h

theorem Built.content_lt {rs : List Row} (h : a.Built rs) : ∀ c ∈ a.content.toList, c < a.tree.size := by
  intro c hc
  have hloose : c ∈ a.loose := by simp only [loose, List.append_assoc, List.mem_append, hc, true_or]
  exact h.forest.mem_iff.1 (.inr hloose)

/-- The lines are read one after the other, and what they make stays as it should be. -/
theorem Lays.foldlM {rest : List (List Char × Nat)} {rs : List Row} (hrest : rest ⊆ lines) (hnumbered : Numbered lines)
    (ha : a.Lays lines) (hb : a.Built rs) (h : rest.foldlM Assembly.addLine a = .ok a') : a'.Lays lines := by
  induction rest generalizing a rs with
  | nil =>
    cases h
    exact ha
  | cons l rest ih =>
    obtain ⟨b, hl, h⟩ := Except.bind_eq_ok.1 h
    rw [List.cons_subset] at hrest
    have hbuilt := hb.grown (addLine_grown hl)
    exact ih hrest.2 (ha.addLine hb.forest.ordered hb.content_lt hnumbered hrest.1 hl hbuilt.forest.ordered) hbuilt h

theorem Lays.finish (ha : a.Lays lines) (hlt : a.tree.Ordered) (hcontent : ∀ c ∈ a.content.toList, c < a.tree.size)
    {f : Form} (h : a.finish = .ok f) (id : Nat) : f.tree.Laid lines id := by
  unfold Assembly.finish at h
  split at h
  · cases h
  · cases h
    have hlist : ∀ c ∈ a.list.children, c < a.tree.size := hcontent
    have hadded : ∀ id, (a.tree.add a.list {}).Laid lines id := by
      refine Tree.laid_add ha.laid hlt hlist ?_ ?_
      · intro _ _ heq
        cases heq
      · intro _ _ _ _ _ _ heq
        cases heq
    exact Tree.laid_wrapStyle hadded (hlt.add hlist _) (by simp) _ _ id

end Assembly

namespace Form

variable {description : String} {palette : Palette} {strings : StringTable} {text : List Char} {f : Form}

theorem numbered_numberedLines (text : List Char) : Assembly.Numbered (numberedLines text) := by
  intro raw raw' n hraw hraw'
  have hnodup : ((numberedLines text).map Prod.snd).Nodup :=
    List.pairwise_map.2 ((pairwise_numberedLines text).imp Nat.ne_of_lt)
  exact congrArg Prod.fst (List.inj_on_of_nodup_map hnodup hraw hraw' rfl)

/-- The grids of a form have room for their labels where their lines leave the width to them. -/
theorem parse_laid (h : parse description palette strings = .ok f) (ht : strings.substituteChars description.toList = .ok text)
    (id : Nat) : f.tree.Laid (numberedLines text) id := by
  obtain ⟨text', a, ht', ha, hf⟩ := parse_ok h
  obtain rfl : text' = text := Except.ok.inj (ht'.symm.trans ht)
  have hbuilt := built_of_foldlM ha
  have hlays : a.Lays (numberedLines text') := by
    refine Assembly.Lays.foldlM (List.Subset.refl _) (numbered_numberedLines text') ?_
      (Assembly.built_initial palette strings) ha
    exact ⟨fun id => Tree.laid_of_size_le (Nat.zero_le id), List.forall_mem_nil _⟩
  exact hlays.finish hbuilt.forest.ordered hbuilt.content_lt hf id

end Form

/-! ## Cells and labels -/

theorem Widget.leaf_of_label {w : Widget} (h : w.label?.isSome) :
    w.children = [] ∧ w.isContainer = false ∧ ∀ width, w.leafRows width = 1 := by
  cases w with
  | button | checkBox | radioButton => exact ⟨rfl, rfl, fun _ => rfl⟩
  | _ => cases h

namespace Tree

variable {t : Tree} {lines : List (List Char × Nat)}

theorem Hands.trans {through : Nat → Prop} {id m n : Nat} {area a a' : Area} (h : t.Hands through id area m a)
    (h' : t.Hands through m a n a') : t.Hands through id area n a' := by
  induction h with
  | self => exact h'
  | down visible free slot child _ ih => exact .down visible free slot child (ih h')

/-- A label in its style takes one row. -/
theorem rows_label (hlt : t.Ordered) {c : Nat} (hc : c < t.size) (hlabel : ((t.widget (t.unwrap c)).label?).isSome)
    (width : Nat) : t.rows c width = 1 := by
  induction c using Nat.strongRecOn generalizing width with
  | _ c ih =>
    by_cases hp : t.Plain c
    · rw [hp.unwrap] at hlabel
      obtain ⟨hchildren, hcontainer, hrows⟩ := Widget.leaf_of_label hlabel
      rw [rows_leaf hc rfl hchildren hcontainer, hrows]
    · obtain ⟨wrapping, child, hw⟩ := not_plain hp
      have hchild := hlt c child (by simp [Tree.children, hw, Widget.children])
      rw [unwrap_wrapper hlt hw] at hlabel
      rw [rows_wrapper hlt hw]
      exact ih child hchild (Nat.lt_trans hchild hc) hlabel _

/-- A style hands on all of its area. -/
theorem hands_unwrap (hlt : t.Ordered) {size : Nat} (hlaid : ∀ i < size, t.Laid lines i) {c : Nat} (hc : c < size)
    {area : Area} (hvisible : area.isEmpty = false) : t.Hands (fun _ => True) c area (t.unwrap c) area := by
  induction c using Nat.strongRecOn with
  | _ c ih =>
    by_cases hp : t.Plain c
    · rw [hp.unwrap]
      exact .self c area
    · obtain ⟨wrapping, child, hw⟩ := not_plain hp
      obtain ⟨normal, focus, names, rfl⟩ := (hlaid c hc).styled wrapping child hw
      have hchild := hlt c child (by simp [Tree.children, hw, Widget.children])
      have hslot : (⟨0, area⟩ : Slot) ∈ t.slots c area := by
        rw [slots, hw]
        exact List.mem_singleton_self _
      rw [unwrap_wrapper hlt hw]
      exact .down hvisible trivial hslot (by simp [Tree.children, hw, Widget.children]) (ih child hchild (by omega))

/-- In the cells of a grid that fits its labels they can be read in full. -/
theorem spells_grid (hlt : t.Ordered) {size : Nat} (hsize : size ≤ t.size) (hlaid : ∀ i < size, t.Laid lines i)
    {id cellWidth columnGap rowGap focus : Nat} {align : Align} {children : List Nat} (hid : id < size)
    (hw : t.widget id = .container (.grid cellWidth columnGap rowGap align) children focus)
    (hline : LeavesWidth lines (t.about id).line) {area : Area} (hfit : cellWidth ≤ area.width) {s : Slot}
    (hs : s ∈ t.slots id area) {c : Nat} {label : String} (hc : children[s.index]? = some c)
    (hlabel : (t.widget (t.unwrap c)).label? = some label) (hmax : Text.displayWidth label.toList ≤ 65531)
    (hdrawn : Buffer.drawnWidth (t.widget (t.unwrap c)).face.toList ≤ Text.displayWidth label.toList + 4) :
    s.area.width = cellWidth ∧ Buffer.drawnWidth (t.widget (t.unwrap c)).face.toList ≤ s.area.width ∧
      t.Hands (fun _ => True) id area (t.unwrap c) s.area ∧ s.area.isEmpty = false := by
  have hchild : c < id := hlt id c (by simpa [Tree.children, hw, Widget.children] using List.mem_of_getElem? hc)
  have hroomy := (hlaid id hid).roomy cellWidth columnGap rowGap align children focus hw hline c (List.mem_of_getElem? hc)
    label hlabel
  have hwide : Text.displayWidth label.toList + 4 ≤ cellWidth := by
    have hclamp : clampCells (Text.displayWidth label.toList + gridMargin) = Text.displayWidth label.toList + 4 :=
      Nat.min_eq_left (by unfold gridMargin maxCells; omega)
    rwa [hclamp] at hroomy
  have hcell : gridCell cellWidth area.width = cellWidth := by
    unfold gridCell
    omega
  rw [slots, hw] at hs
  obtain ⟨hwidth, hvisible⟩ := Arrangement.size_of_mem_slots_grid (by omega) hs
  rw [hcell] at hwidth
  have hvisible : s.area.isEmpty = false := by
    refine hvisible 1 (getElem?_childRows.2 ⟨c, gridCell cellWidth area.width, hc, ?_, ?_⟩) Nat.one_ne_zero
    · exact List.getElem?_replicate_of_lt (List.getElem?_eq_some_iff.1 hc).1
    · exact rows_label hlt (by omega) (by rw [hlabel]; rfl) _
  have harea : area.isEmpty = false := by
    obtain ⟨hleft, hright, htop, hbottom⟩ := ((Arrangement.tiles_slots ..).within s hs).edges hvisible
    simp only [Area.isEmpty, Bool.or_eq_false_iff, decide_eq_false_iff_not, Area.right, Area.bottom] at hvisible hright hbottom ⊢
    omega
  refine ⟨hwidth, by omega, ?_, hvisible⟩
  refine .down harea trivial (s := s) (by rw [slots, hw]; exact hs) ?_ (hands_unwrap hlt hlaid (by omega) hvisible)
  rwa [Tree.children, hw, Widget.children]

open Buffer in
/-- A row of a grid has as many cells as fit beside each other. Where the grid has its height, each child of a row that
is not empty has one slot, in its row and column, and the last row ends at the bottom. Where the line of the grid leaves
the width of the cells to it, its labels can be read in full as soon as one cell fits, if their signs take no more than
four columns. -/
theorem Ordered.grid_cells (h : t.Ordered) {id cellWidth columnGap rowGap focus : Nat} {align : Align} {children : List Nat}
    (hw : t.widget id = .container (.grid cellWidth columnGap rowGap align) children focus) {area : Area}
    (hwidth : 1 ≤ area.width) :
    let cell := min (max cellWidth 1) area.width
    let perRow := gridPerRow cellWidth columnGap area.width
    let heights := t.childRows (.grid cellWidth columnGap rowGap align) children area.width
    let rows := chunks perRow heights
    let slot := gridSlot area cell columnGap rowGap perRow align rows
    1 ≤ perRow ∧ IsGreatest {n | n * cell + (n - 1) * columnGap ≤ area.width} perRow ∧
    (t.rows id area.width ≤ area.height → t.rows id area.width < maxCells → ∀ i < children.length,
      ∃ row, rows[i / perRow]? = some row ∧ row[i % perRow]? = heights[i]? ∧
        (rowHeight row ≠ 0 → (t.slots id area).filter (·.index = i) = [slot i] ∧ (slot i).area.Within area) ∧
        (i / perRow + 1 = rows.length → (slot i).area.bottom = area.y + t.rows id area.width)) ∧
    ∀ description palette strings text (f : Form), Form.parse description palette strings = .ok f →
      strings.substituteChars description.toList = .ok text → f.tree.Extends t → id < f.tree.size →
      LeavesWidth (Form.numberedLines text) (t.about id).line → cellWidth ≤ area.width →
      ∀ s ∈ t.slots id area, ∀ c label, children[s.index]? = some c → (t.widget (t.unwrap c)).label? = some label →
        Text.displayWidth label.toList ≤ 65531 →
        let face := (t.widget (t.unwrap c)).face.toList
        drawnWidth face ≤ Text.displayWidth label.toList + 4 →
        s.area.width = cellWidth ∧ drawnWidth face ≤ s.area.width ∧
          ∀ top whole focused b, t.Narrow → t.Hands (fun _ => True) top whole id area → whole.Inside b → b.Whole →
            (t.paint top whole focused b).Spells s.area.x s.area.y (visibleClusters face) := by
  intro cell perRow heights rows slot
  have hcell := gridCell_eq hwidth cellWidth
  have hper : 1 ≤ perRow := gridPerRow_pos ..
  have hgreatest := isGreatest_gridPerRow hwidth cellWidth columnGap
  rw [hcell] at hgreatest
  refine ⟨hper, hgreatest, fun hfit hmax i hi => ?_, ?_⟩
  · rw [rows_container h hw] at hfit hmax
    have hi : i < heights.length := by rwa [length_childRows]
    obtain ⟨row, hrow, hget⟩ := exists_chunk hper hi
    refine ⟨row, hrow, hget, fun hne => ?_, fun hlast => ?_⟩
    · have hone := Arrangement.filter_slots_grid hwidth hfit hmax focus hi hrow hne
      have hmem := Arrangement.gridSlot_mem_slots hwidth hfit hmax focus hi hrow hne
      rw [hcell] at hone hmem
      rw [slots, hw]
      exact ⟨hone, (Arrangement.tiles_slots ..).within _ hmem⟩
    · rw [rows_container h hw]
      simp only [Arrangement.height] at hmax ⊢
      rw [clampCells_eq hmax]
      exact bottom_gridSlot hlast
  · intro description palette strings text f hparse htext hgrows hid hline hfit s hs c label hc hlabel hmax face hdrawn
    have hlaid : ∀ i < f.tree.size, t.Laid (Form.numberedLines text) i := fun i hi =>
      (Form.parse_laid hparse htext i).mono hgrows (Form.InUse.parsed hparse).attentive.tree.ordered h hi
    obtain ⟨hcellWidth, hdrawn, hlabelHands, hvisible⟩ :=
      spells_grid h hgrows.1 hlaid hid hw hline hfit hs hc hlabel hmax hdrawn
    refine ⟨hcellWidth, hdrawn, fun top whole focused b hnarrow hhands hin hb => ?_⟩
    have htop : top < t.size := by
      cases hhands with
      | self => exact lt_size_of_isContainer (by rw [hw]; rfl)
      | down visible free slot child rest => exact lt_size_of_mem_children (List.mem_of_getElem? child)
    exact spells_paint h hnarrow htop (hhands.trans hlabelHands) hvisible (by rw [hlabel]; rfl) hin hb hdrawn focused

open Buffer in
/-- Three labels, one of them in a style, of which two fit a row. -/
theorem Ordered.grid_cells_styled : ∃ f : Form,
    f.tree.widget 4 = .container (.grid 8 1 1 .center) [1, 2, 3] 0 ∧ f.tree.rows 4 18 = 3 ∧ f.tree.unwrap 1 = 0 ∧
    IsGreatest {n | n * 8 + (n - 1) * 1 ≤ 18} 2 ∧
    (f.tree.slots 4 ⟨2, 1, 18, 3⟩).filter (·.index = 2) = [⟨2, 7, 3, 8, 1⟩] ∧
    (f.tree.paint f.root ⟨2, 1, 18, 3⟩ true (.blank 20 4)).Spells 2 1 (visibleClusters "< Save >".toList) := by
  let description := "GFl\nBtn [Save]\nChc [Loud]\nRdo [Off]\nEnd"
  let palette := Palette.ofLayer ((Layer.parse "Button : DC, Lg, BO").toOption.getD default)
  let f := ((Form.parse description palette {}).toOption).getD default
  have hparse : Form.parse description palette {} = .ok f := by decide +kernel
  have h : f.InUse := .parsed hparse
  obtain ⟨hw, hrows, hunwrap, hlabel, hface, hsize, hslot, hroot⟩ :
      f.tree.widget 4 = .container (.grid 8 1 1 .center) [1, 2, 3] 0 ∧ f.tree.rows 4 18 = 3 ∧ f.tree.unwrap 1 = 0 ∧
      (f.tree.widget (f.tree.unwrap 1)).label? = some "Save" ∧ (f.tree.widget (f.tree.unwrap 1)).face = "< Save >" ∧
      4 < f.tree.size ∧ ⟨0, 2, 1, 8, 1⟩ ∈ f.tree.slots 4 ⟨2, 1, 18, 3⟩ ∧
      ⟨0, 2, 1, 18, 3⟩ ∈ f.tree.slots f.root ⟨2, 1, 18, 3⟩ ∧ (f.tree.children f.root)[0]? = some 4 := by
    decide +kernel
  have hlines : LeavesWidth (Form.numberedLines description.toList) (f.tree.about 4).line :=
    ⟨"GFl".toList, [], {}, {}, by decide +kernel⟩
  have hhands : f.tree.Hands (fun _ => True) f.root ⟨2, 1, 18, 3⟩ 4 ⟨2, 1, 18, 3⟩ :=
    .down rfl trivial hroot.1 hroot.2 (.self 4 _)
  obtain ⟨-, hgreatest, hplaces, hlabels⟩ := h.attentive.tree.ordered.grid_cells hw
    (show 1 ≤ (⟨2, 1, 18, 3⟩ : Area).width by decide)
  obtain ⟨row, hrow, -, hone, -⟩ := hplaces (Nat.le_of_eq hrows) (by rw [hrows]; decide) 2 (by decide)
  obtain rfl : [1] = row := Option.some.inj ((by decide +kernel : (_ : Option (List Nat)) = some [1]).symm.trans hrow)
  obtain ⟨-, -, hspells⟩ := hlabels description palette {} description.toList f hparse (by decide +kernel) (.refl _) hsize
    hlines (by decide) _ hslot 1 "Save" rfl hlabel (by decide +kernel) (by rw [hface]; decide +kernel)
  rw [hface] at hspells
  refine ⟨f, hw, hrows, hunwrap, hgreatest, (hone (by decide)).1.trans (by decide +kernel), ?_⟩
  exact hspells f.root _ true (.blank 20 4) h.sized.narrow hhands ⟨by decide, by decide, by decide, by decide⟩ (whole_blank ..)

end Tree

namespace Text

/-- By themselves the two letters of the ligature take a cell each. -/
theorem single_of_ligature : ∀ c ∈ ['\u0644', '\u0627'], Single c := by
  have hrole : ClusterRole.ofChar '\u0644' = .other ∧ ClusterRole.ofChar '\u0627' = .other := by
    simp only [ClusterRole.ofChar, CharSet.contains_eq_any]
    constructor <;> decide +kernel
  have hcolumns : cellWidth ['\u0644'] = 1 ∧ cellWidth ['\u0627'] = 1 := by
    simp only [cellWidth, Edition.width, Edition.measure, Ahead.step, Ahead.opened, Ahead.stepUnselected, Opening.continue?,
      Option.getD, Edition.columns, laterColumns, CharSet.contains_eq_any]
    constructor <;> decide +kernel
  have hconsonant {c : Char} (hc : c.toNat < 0x900) : Table.consonants.contains c = false :=
    CharSet.contains_of_lt (by decide +kernel) hc
  simp only [List.forall_mem_cons, List.not_mem_nil, false_implies, implies_true, and_true]
  exact ⟨⟨hrole.1, hconsonant (by decide), rfl, hcolumns.1⟩, ⟨hrole.2, hconsonant (by decide), rfl, hcolumns.2⟩⟩

theorem visibleClusters_ligature : Buffer.visibleClusters "< \u0644\u0627 >".toList =
    [(['<'], 1), ([' '], 1), (['\u0644'], 1), (['\u0627'], 1), ([' '], 1), (['>'], 1)] := by
  have hletters := single_of_ligature
  have hopen : Single '<' := single_of_printable (by decide) (by decide)
  have hblank : Single ' ' := single_of_printable (by decide) (by decide)
  have hclose : Single '>' := single_of_printable (by decide) (by decide)
  rw [show "< \u0644\u0627 >".toList = ['<', ' ', '\u0644', '\u0627', ' ', '>'] from rfl, visibleClusters_of_single]
  · rfl
  · simp only [List.forall_mem_cons] at hletters ⊢
    exact ⟨hopen, hblank, hletters.1, hletters.2.1, hblank, hclose, by simp⟩

/-- As a line of text they take one column. -/
theorem measure_ligature : Edition.layout.measure ['\u0644', '\u0627'] = (1, .opened .nothing) := by
  have hlam : Edition.layout.columns '\u0644' = 1 := by
    simp only [Edition.columns, laterColumns, CharSet.contains_eq_any]
    decide +kernel
  have halef : Edition.layout.columns '\u0627' = 1 := by
    simp only [Edition.columns, laterColumns, CharSet.contains_eq_any]
    decide +kernel
  have hpicture : Opening.isPicture .layout '\u0627' = false := by
    simp only [Opening.isPicture, CharSet.contains_eq_any]
    decide +kernel
  have hlast : Opening.ofLast .layout '\u0627' = .ligature .alef false := by
    rw [Opening.ofLast, if_neg (by decide), if_neg (by decide), if_neg (by simp [hpicture])]
    rfl
  have hcontinue : (Opening.ofLast .layout '\u0627').continue? .layout '\u0644' = some (0, .nothing) := by
    rw [hlast, Opening.continue?, if_neg (by simp [Ligature.passes, Ligature.isTransparent, hlam])]
    rfl
  rw [Edition.measure_pair (by decide) (by decide) hcontinue, halef]
  rfl

end Text

open Text Buffer in
/-- Two letters that a line of text joins into one column stand in two on a screen. The cell is made for the line, so the
sign after them is cut off. -/
theorem Tree.grid_clips_ligature : ∃ f : Form,
    Form.parse "GFl #g\nBtn [\u0644\u0627]\nEnd" {} {} = .ok f ∧
    f.tree.widget 1 = .container (.grid 5 1 1 .center) [0] 0 ∧
    LeavesWidth (Form.numberedLines "GFl #g\nBtn [\u0644\u0627]\nEnd".toList) (f.tree.about 1).line ∧
    f.tree.widget 0 = .button "\u0644\u0627" ∧
    Text.displayWidth "\u0644\u0627".toList = 1 ∧ Text.displayWidth "< \u0644\u0627 >".toList = 1 + 4 ∧
    drawnWidth "\u0644\u0627".toList = 2 ∧ drawnWidth "< \u0644\u0627 >".toList = 2 + 4 ∧
    f.tree.rows 1 12 = 1 ∧ f.tree.slots 1 ⟨0, 0, 12, 1⟩ = [⟨0, 3, 0, 5, 1⟩] ∧
    ¬ (f.tree.paint 1 ⟨0, 0, 12, 1⟩ true (.blank 12 1)).Spells 3 0 (visibleClusters "< \u0644\u0627 >".toList) := by
  obtain ⟨f, hf, hgrid, hbutton, hline, hrows, hslots, hplaced⟩ :
      ∃ f ∈ (Form.parse "GFl #g\nBtn [\u0644\u0627]\nEnd" {} {}).toOption,
        f.tree.widget 1 = .container (.grid 5 1 1 .center) [0] 0 ∧ f.tree.widget 0 = .button "\u0644\u0627" ∧
        (f.tree.about 1).line = 1 ∧ f.tree.rows 1 12 = 1 ∧ f.tree.slots 1 ⟨0, 0, 12, 1⟩ = [⟨0, 3, 0, 5, 1⟩] ∧
        f.tree.placed 1 ⟨0, 0, 12, 1⟩ true = [(1, ⟨0, 0, 12, 1⟩, true), (0, ⟨3, 0, 5, 1⟩, true)] := by
    decide +kernel
  have hparse : Form.parse "GFl #g\nBtn [\u0644\u0627]\nEnd" {} {} = .ok f := Except.toOption_eq_some.1 hf
  have hletters : "\u0644\u0627".toList = ['\u0644', '\u0627'] := rfl
  have hface : (Widget.button "\u0644\u0627").face = "< \u0644\u0627 >" := rfl
  refine ⟨f, hparse, hgrid, ?_, hbutton, ?_, ?_, ?_, ?_, hrows, hslots, ?_⟩
  · rw [hline]
    exact ⟨"GFl #g".toList, "#g".toList, { id := some "g" }, {}, by decide +kernel⟩
  · rw [displayWidth_of_line (by decide), Text.width, Edition.width, hletters, measure_ligature]
    rfl
  · have hmeasure := Widget.measure_face (e := .layout) (w := .button "\u0644\u0627") rfl
    rw [hletters, measure_ligature, hface] at hmeasure
    rw [displayWidth_of_line (by decide), Text.width, Edition.width, hmeasure]
    rfl
  · rw [drawnWidth, hletters, visibleClusters_of_single single_of_ligature]
    rfl
  · rw [drawnWidth, visibleClusters_ligature]
    rfl
  · have hpaint : f.tree.paint 1 ⟨0, 0, 12, 1⟩ true (.blank 12 1) =
        (f.tree.widget 0).paintSelf ⟨3, 0, 5, 1⟩ true ((f.tree.widget 1).paintSelf ⟨0, 0, 12, 1⟩ true (.blank 12 1)) := by
      rw [Tree.paint_eq, hplaced]
      rfl
    have hblank : (f.tree.widget 1).paintSelf ⟨0, 0, 12, 1⟩ true (.blank 12 1) = .blank 12 1 := by
      rw [hgrid]
      rfl
    rw [hpaint, hblank, hbutton, Widget.paintSelf_label rfl, putLines_singleton _ (by decide), hface, putText,
      visibleClusters_ligature]
    decide +kernel

end ScreenForm
