import ScreenForm.Proofs.Text.Break
import ScreenForm.Proofs.Text.Words
import ScreenForm.Proofs.Form.Growth
import ScreenForm.Proofs.Widget.Focus
/-!
# Comments and margins

A description is read into the same form when its lines have other numbers, and when the margins of its lines change:
only the lines that its widgets and its error give are the other ones (`Form.parse_ignores_layout`). Each line keeps
this (`Assembly.addLine_reline`).
-/

namespace ScreenForm

open Description

/-! ## Other numbers -/

def RuntimeError.reline (f : Nat → Nat) : RuntimeError → RuntimeError
  | bindingMismatch event widget line => .bindingMismatch event widget (f line)
  | e => e

def FormError.reline (f : Nat → Nat) : FormError → FormError
  | syntaxError cause => .syntaxError (cause.reline f)
  | runtimeError cause => .runtimeError (cause.reline f)
  | e => e

def Meta.reline (f : Nat → Nat) (about : Meta) : Meta :=
  { about with line := f about.line }

def Node.reline (f : Nat → Nat) (n : Node) : Node :=
  { n with about := n.about.reline f }

def Tree.reline (f : Nat → Nat) (t : Tree) : Tree :=
  ⟨t.nodes.map (·.reline f)⟩

def OpenContainer.reline (f : Nat → Nat) (o : OpenContainer) : OpenContainer :=
  { o with line := f o.line }

def Assembly.reline (f : Nat → Nat) (a : Assembly) : Assembly :=
  { a with tree := a.tree.reline f, opened := a.opened.map (·.reline f) }

def Form.reline (f : Nat → Nat) (form : Form) : Form :=
  { form with tree := form.tree.reline f }

/-! ## Trees -/

namespace Tree

variable (f : Nat → Nat) (t : Tree)

@[simp] theorem size_reline : (t.reline f).size = t.size := Array.size_map ..

@[simp] theorem widget_reline (id : Nat) : (t.reline f).widget id = t.widget id := by
  rw [widget, widget, node, node, reline, Array.getElem?_map]
  cases t.nodes[id]? <;> rfl

theorem reline_add (w : Widget) (about : Meta) : (t.add w about).reline f = (t.reline f).add w (about.reline f) := by
  simp [add, reline, Node.reline]

theorem unwrap_reline (id : Nat) : (t.reline f).unwrap id = t.unwrap id := by
  have hwithin : ∀ l id, (t.reline f).unwrapWithin l id = t.unwrapWithin l id := by
    intro l
    induction l with
    | zero => exact fun _ => rfl
    | succ l ih =>
      intro id
      rw [unwrapWithin, unwrapWithin, widget_reline]
      split
      · exact ih _
      · rfl
  rw [unwrap, unwrap, size_reline, hwithin]

theorem isSelectable_reline (id : Nat) : (t.reline f).isSelectable id = t.isSelectable id := by
  have hwithin : ∀ l id, (t.reline f).isSelectableWithin l id = t.isSelectableWithin l id := by
    intro l
    induction l with
    | zero => exact fun _ => rfl
    | succ l ih =>
      intro id
      have hall : (t.reline f).isSelectableWithin l = t.isSelectableWithin l := funext ih
      rw [isSelectableWithin, isSelectableWithin, children, children, widget_reline, hall]
  rw [isSelectable, isSelectable, size_reline, hwithin]

theorem firstSelectable_reline (children : List Nat) :
    (t.reline f).firstSelectable children = t.firstSelectable children :=
  firstSelectable_congr fun c _ => t.isSelectable_reline f c

theorem clearGroup_reline (keep : Nat) (group : String) :
    (t.reline f).clearGroup keep group = (t.clearGroup keep group).reline f := by
  rw [clearGroup, clearGroup, reline, reline, Tree.mk.injEq]
  refine Array.ext_getElem? fun i => ?_
  rw [Array.getElem?_mapIdx, Array.getElem?_map, Array.getElem?_map, Array.getElem?_mapIdx, Option.map_map,
    Option.map_map]
  congr 1
  funext n
  dsimp only [Function.comp_apply, Node.reline]
  split <;> rfl

/-- The wrapper of a style comes from no line. -/
theorem wrapStyle_reline {f : Nat → Nat} (h0 : f 0 = 0) (id : Nat) (palette : Palette) (names : List String) :
    (t.reline f).wrapStyle id palette names =
      ((t.wrapStyle id palette names).1.reline f, (t.wrapStyle id palette names).2) := by
  rw [wrapStyle, wrapStyle]
  cases palette.resolve names with
  | none => rfl
  | some resolved => simp [reline_add, Meta.reline, h0]

end Tree

/-! ## Lines -/

namespace Assembly

variable {f : Nat → Nat} (a : Assembly) (n : Nat)

theorem applyStyle_reline (h0 : f 0 = 0) (id : Nat) (names : List String) :
    (a.reline f).applyStyle id names = ((a.applyStyle id names).1.reline f, (a.applyStyle id names).2) := by
  have hwrap := a.tree.wrapStyle_reline h0 id a.palette names
  simp only [applyStyle, reline, hwrap]

theorem checkBindings_reline (w : Widget) (events : Bindings) :
    Parallel (RuntimeError.reline f · = ·) Eq (checkBindings w events n) (checkBindings w events (f n)) := by
  unfold checkBindings
  split
  · exact .error rfl
  · exact .ok rfl

/-- A key that is missing is missing wherever it stands. -/
theorem checkKeys_reline (strings : StringTable) (attributes : Attributes) :
    Parallel (RuntimeError.reline f · = ·) Eq (checkKeys strings attributes) (checkKeys strings attributes) := by
  unfold checkKeys
  induction attributes.info.toList ++ attributes.tooltip.toList with
  | nil => exact .ok rfl
  | cons key keys ih =>
    have hget : Parallel (RuntimeError.reline f · = ·) Eq (strings.get key) (strings.get key) := by
      unfold StringTable.get
      split
      · exact .ok rfl
      · exact .error rfl
    rw [List.forM]
    exact (hget.bind fun _ _ _ => .ok rfl).bind fun _ _ _ => ih

theorem registerName_reline (names : NameTable) (id : Option String) (widget : Nat) :
    Parallel (RuntimeError.reline f · = ·) Eq (registerName names id widget) (registerName names id widget) := by
  cases id with
  | none => exact .ok rfl
  | some name =>
    unfold registerName NameTable.register
    dsimp only
    split
    · exact .error rfl
    · exact .ok rfl

theorem addWidget_reline (h0 : f 0 = 0) (w : Widget) (attributes : Attributes) (className : String) :
    Parallel (RuntimeError.reline f · = ·) (fun x y => (x.1.reline f, x.2) = y)
      (a.addWidget w attributes className n) ((a.reline f).addWidget w attributes className (f n)) := by
  unfold addWidget
  have hsize : (a.reline f).tree.size = a.tree.size := a.tree.size_reline f
  rw [hsize]
  refine (checkBindings_reline n w attributes.events).bind fun _ _ _ => ?_
  refine (checkKeys_reline a.strings attributes).bind fun _ _ _ => ?_
  refine (registerName_reline a.names attributes.id a.tree.size).bind fun names _ hnames => ?_
  subst hnames
  refine .ok ?_
  rw [← applyStyle_reline _ h0]
  simp only [reline, Tree.reline_add]
  rfl

theorem addLeaf_reline (h0 : f 0 = 0) (leaf : Leaf) :
    Parallel (RuntimeError.reline f · = ·) (Assembly.reline f · = ·) (a.addLeaf leaf n)
      ((a.reline f).addLeaf leaf (f n)) := by
  refine (a.addWidget_reline n h0 leaf.widget leaf.attributes leaf.widget.kindName).map fun x y h => ?_
  subst h
  rfl

theorem addRadioButton_reline (h0 : f 0 = 0) (leaf : Leaf) :
    Parallel (RuntimeError.reline f · = ·) (Assembly.reline f · = ·) (a.addRadioButton leaf n)
      ((a.reline f).addRadioButton leaf (f n)) := by
  unfold addRadioButton
  have hsize : (a.reline f).tree.size = a.tree.size := a.tree.size_reline f
  rw [hsize]
  refine (a.addLeaf_reline n h0 leaf).bind fun b c h => ?_
  subst h
  split
  · refine .ok ?_
    simp only [reline, Tree.clearGroup_reline]
  · exact .ok rfl

theorem addBlank_reline : (a.addBlank n).reline f = (a.reline f).addBlank (f n) := by
  simp only [addBlank, reline, Tree.reline_add, Tree.size_reline]
  rfl

/-! What is wrong with a line, and what is wrong with the names on it, is an error of the form. -/

theorem lift_runtime {α β : Type} {x : Except RuntimeError α} {y : Except RuntimeError β} {R : α → β → Prop}
    (h : Parallel (RuntimeError.reline f · = ·) R x y) :
    Parallel (FormError.reline f · = ·) R (liftError x) (liftError y) :=
  h.lift fun _ _ he => congrArg FormError.runtimeError he

theorem lift_rereads {n : Nat} {α : Type} {x y : Except SyntaxError α} (h : Rereads f n x y) :
    Parallel (FormError.reline f · = ·) Eq (liftError x) (liftError y) :=
  h.lift fun _ _ he => congrArg FormError.syntaxError he.2.symm

theorem addRead_reline (h0 : f 0 = 0) {read read' : Except SyntaxError Leaf} (h : Rereads f n read read') :
    Parallel (FormError.reline f · = ·) (Assembly.reline f · = ·) (a.addRead read n)
      ((a.reline f).addRead read' (f n)) := by
  refine (lift_rereads h).bind fun leaf _ hleaf => ?_
  subst hleaf
  exact lift_runtime (a.addLeaf_reline n h0 leaf)

/-- The text of a header or of a footer, which is put in its place. -/
theorem addText_reline (h0 : f 0 = 0) (data : List Char) (className : String) {place : Assembly × Nat → Assembly}
    (hplace : ∀ x, (place x).reline f = place (x.1.reline f, x.2)) :
    Parallel (FormError.reline f · = ·) (Assembly.reline f · = ·)
      (liftError (Leaf.text n data) >>= fun leaf =>
        liftError (a.addWidget leaf.widget leaf.attributes className n) >>= fun x => .ok (place x))
      (liftError (Leaf.text (f n) data) >>= fun leaf =>
        liftError ((a.reline f).addWidget leaf.widget leaf.attributes className (f n)) >>= fun x => .ok (place x)) := by
  refine (lift_rereads (rereads_text data)).bind fun leaf _ hleaf => ?_
  subst hleaf
  refine (lift_runtime (a.addWidget_reline n h0 leaf.widget leaf.attributes className)).bind fun x y h => ?_
  subst h
  exact .ok (hplace x)

theorem addHeader_reline (h0 : f 0 = 0) (data : List Char) :
    Parallel (FormError.reline f · = ·) (Assembly.reline f · = ·) (a.addHeader n data)
      ((a.reline f).addHeader (f n) data) := by
  unfold addHeader
  have hheader : (a.reline f).header = a.header := rfl
  rw [hheader]
  dsimp only
  split
  · exact .error rfl
  · exact a.addText_reline n h0 data "header" fun _ => rfl

theorem addFooter_reline (h0 : f 0 = 0) (data : List Char) :
    Parallel (FormError.reline f · = ·) (Assembly.reline f · = ·) (a.addFooter n data)
      ((a.reline f).addFooter (f n) data) := by
  unfold addFooter
  have hfooter : (a.reline f).footer = a.footer := rfl
  rw [hfooter]
  dsimp only
  split
  · exact .error rfl
  · exact a.addText_reline n h0 data "footer" fun _ => rfl

theorem openContainer_reline (kind : ContainerKind) (data : List Char) :
    Parallel (FormError.reline f · = ·) (Assembly.reline f · = ·) (liftError (a.openContainer kind n data))
      (liftError ((a.reline f).openContainer kind (f n) data)) := by
  refine Parallel.lift (Parallel.bind (rereads_parseAttributes data) fun read _ h => ?_) fun _ _ he =>
    congrArg FormError.syntaxError he.2.symm
  subst h
  exact .ok rfl

theorem widestText_reline (t : Tree) (ids : List Nat) : widestText (t.reline f) ids = widestText t ids := by
  simp only [widestText, Tree.widget_reline, Tree.unwrap_reline]

theorem closeContainer_reline (h0 : f 0 = 0) (data : List Char) :
    Parallel (FormError.reline f · = ·) (Assembly.reline f · = ·) (a.closeContainer n data)
      ((a.reline f).closeContainer (f n) data) := by
  unfold closeContainer
  dsimp only
  split
  · exact .error rfl
  · have hopened : (a.reline f).opened = a.opened.map (·.reline f) := rfl
    rw [hopened]
    cases a.opened with
    | nil => exact .error rfl
    | cons o opened =>
      have hcontent : (a.reline f).content = a.content := rfl
      have htree : (a.reline f).tree = a.tree.reline f := rfl
      rw [List.map_cons]
      dsimp only
      rw [hcontent, htree, widestText_reline, Tree.firstSelectable_reline]
      refine (lift_rereads (rereads_readAll _ _ (readsAlike_arrangement _ _ _))).bind fun arrangement _ h => ?_
      subst h
      let outer : Assembly := { a with content := o.before, opened := opened }
      refine lift_runtime ((outer.addWidget_reline o.line h0 _ o.attributes o.kind.name).map fun x y h => ?_)
      subst h
      rfl

theorem addCommand_reline (h0 : f 0 = 0) (opcode : Opcode) (data : List Char) :
    Parallel (FormError.reline f · = ·) (Assembly.reline f · = ·) (a.addCommand n opcode data)
      ((a.reline f).addCommand (f n) opcode data) := by
  cases opcode with
  | header => exact a.addHeader_reline n h0 data
  | footer => exact a.addFooter_reline n h0 data
  | text => exact a.addRead_reline n h0 (rereads_text data)
  | button => exact a.addRead_reline n h0 (rereads_button data)
  | edit => exact a.addRead_reline n h0 (rereads_edit data)
  | checkBox => exact a.addRead_reline n h0 (rereads_checkBox data)
  | radioButton =>
    refine (lift_rereads (rereads_radioButton data)).bind fun leaf _ hleaf => ?_
    subst hleaf
    exact lift_runtime (a.addRadioButton_reline n h0 leaf)
  | divider => exact a.addRead_reline n h0 (rereads_divider data)
  | opening kind => exact a.openContainer_reline n kind data
  | closing => exact a.closeContainer_reline n h0 data

/-- A line adds the same to an assembly wherever the line stands. -/
theorem addLine_reline (h0 : f 0 = 0) (l : List Char × Nat) :
    Parallel (FormError.reline f · = ·) (Assembly.reline f · = ·) (a.addLine l)
      ((a.reline f).addLine (l.1, f l.2)) := by
  refine (lift_rereads (rereads_parseLine l.1)).bind fun line _ hline => ?_
  subst hline
  cases line with
  | comment => exact .ok rfl
  | blank => exact .ok (a.addBlank_reline l.2)
  | command opcode data => exact a.addCommand_reline l.2 h0 opcode data
  | rule fill data => exact a.addRead_reline l.2 h0 (rereads_rule fill data)

theorem foldlM_reline (h0 : f 0 = 0) (ls : List (List Char × Nat)) :
    Parallel (FormError.reline f · = ·) (Assembly.reline f · = ·) (ls.foldlM addLine a)
      ((ls.map fun l => (l.1, f l.2)).foldlM addLine (a.reline f)) := by
  induction ls generalizing a with
  | nil => exact .ok rfl
  | cons l ls ih =>
    refine (a.addLine_reline h0 l).bind fun b c h => ?_
    subst h
    exact ih b

theorem finish_reline (h0 : f 0 = 0) :
    Parallel (FormError.reline f · = ·) (Form.reline f · = ·) a.finish (a.reline f).finish := by
  cases ho : a.opened with
  | nil =>
    have ho' : (a.reline f).opened = [] := by rw [reline, ho]; rfl
    have hlist : (a.reline f).list = a.list := by
      rw [list, list, reline, Tree.firstSelectable_reline]
    have hadded : { a.reline f with tree := (a.reline f).tree.add a.list {} } =
        reline f { a with tree := a.tree.add a.list {} } := by
      simp only [reline, Tree.reline_add, Meta.reline, h0]
    have hsize : (a.reline f).tree.size = a.tree.size := a.tree.size_reline f
    rw [finish_of_closed ho, finish_of_closed ho', hlist, hsize, hadded, applyStyle_reline _ h0]
    exact .ok rfl
  | cons o rest =>
    have ho' : (a.reline f).opened = o.reline f :: rest.map (·.reline f) := by rw [reline, ho]; rfl
    rw [finish_of_opened ho, finish_of_opened ho', List.length_map]
    exact .error rfl

end Assembly

/-! ## Comments and margins -/

namespace Form

/-- The text of which these are the lines. -/
def joined (lines : List (List Char)) : String :=
  String.ofList (['\n'].intercalate lines)

/-- The number of a line after another one has come behind the first `i` lines. -/
def below (i n : Nat) : Nat :=
  if n ≤ i then n else n + 1

/-- The line with more white space at either end. -/
def Padded (line padded : List Char) : Prop :=
  ∃ left right, padded = left ++ line ++ right ∧ ∀ c ∈ left ++ right, Text.isBlank c = true ∧ c ≠ '\n'

variable {palette : Palette} {strings : StringTable} {lines : List (List Char)}

theorem splitOn_eq (cs : List Char) : Text.splitOn (· = '\n') cs = cs.splitOn '\n' := by
  induction cs with
  | nil => rfl
  | cons c cs ih =>
    have hcons : (c :: cs).splitOn '\n' = if c = '\n' then [] :: cs.splitOn '\n' else
        (cs.splitOn '\n').modifyHead (List.cons c) := by
      simp [List.splitOn, List.splitOnP_cons_eq_if_modifyHead]
    rw [Text.splitOn, hcons, ih]
    by_cases hc : c = '\n'
    · rw [if_pos (decide_eq_true hc), if_pos hc]
    · rw [if_neg (by simpa using hc), if_neg hc]
      obtain ⟨line, lines, hlines⟩ := List.exists_cons_of_ne_nil (List.splitOn_ne_nil '\n' cs)
      rw [hlines, List.modifyHead_cons]

/-- A text is its lines. -/
theorem joined_lines (description : String) : joined (Text.splitOn (· = '\n') description.toList) = description := by
  rw [joined, splitOn_eq, List.intercalate_splitOn, String.ofList_toList]

theorem lines_joined (hne : lines ≠ []) (hlines : ∀ line ∈ lines, '\n' ∉ line) :
    Text.splitOn (· = '\n') (joined lines).toList = lines := by
  rw [joined, String.toList_ofList, splitOn_eq, List.splitOn_intercalate _ hlines hne]

/-- The lines have all characters of a text but its line feeds. -/
theorem mem_flatten_lines {c : Char} (hc : c ≠ '\n') (cs : List Char) :
    c ∈ (Text.splitOn (· = '\n') cs).flatten ↔ c ∈ cs := by
  simp [Text.flatten_splitOn, hc]

theorem parse_of_plain {description : String} (h : '$' ∉ description.toList) :
    parse description palette strings =
      ((numberedLines description.toList).foldlM Assembly.addLine { palette, strings } >>= Assembly.finish) := by
  have htext : strings.substituteChars description.toList = .ok description.toList := by
    rw [StringTable.substituteChars_of_reads (Template.reads_plain h), StringTable.values_plain]
  rw [parse, htext]
  rfl

theorem addLine_comment {comment : List Char} (h : (Text.trim comment).head? = some '#') (a : Assembly) (n : Nat) :
    a.addLine (comment, n) = .ok a := by
  have hline : Line.parse n comment = .ok .comment := by
    rw [Line.parse, List.eq_cons_of_mem_head? h]
    rfl
  rw [Assembly.addLine, hline]
  rfl

theorem numbered_below (before after : List (List Char)) :
    ((before ++ after).zipIdx 1).map (fun l => (l.1, below before.length l.2)) =
      before.zipIdx 1 ++ after.zipIdx (before.length + 2) := by
  rw [List.zipIdx_append, List.map_append]
  congr 1
  · refine (List.map_congr_left fun l hl => ?_).trans (List.map_id _)
    have hnumber := List.snd_lt_of_mem_zipIdx hl
    rw [below, if_pos (by omega)]
    rfl
  · have hnext : after.zipIdx (before.length + 2) = (after.zipIdx (1 + before.length)).map (Prod.map id (· + 1)) := by
      rw [List.map_snd_add_zipIdx_eq_zipIdx, Nat.add_comm 1 before.length, Nat.add_comm 1]
    rw [hnext]
    refine List.map_congr_left fun l hl => ?_
    have hnumber := List.le_snd_of_mem_zipIdx hl
    rw [below, if_neg (by omega)]
    rfl

theorem addLine_padded {line padded : List Char} (h : Padded line padded) (a : Assembly) (n : Nat) :
    a.addLine (padded, n) = a.addLine (line, n) := by
  obtain ⟨left, right, rfl, hblank⟩ := h
  rw [List.forall_mem_append] at hblank
  have htrim := Text.trim_between (fun c hc => (hblank.1 c hc).1) (fun c hc => (hblank.2 c hc).1) line
  rw [Assembly.addLine, Assembly.addLine, Line.parse, htrim, Line.parse]

theorem Padded.plain {line padded : List Char} (h : Padded line padded) (hline : '\n' ∉ line ∧ '$' ∉ line) :
    '\n' ∉ padded ∧ '$' ∉ padded := by
  obtain ⟨left, right, rfl, hblank⟩ := h
  have hnew : ∀ c, ¬ (Text.isBlank c = true ∧ c ≠ '\n') → c ∉ line → c ∉ left ++ line ++ right := by
    intro c hc hnot hmem
    rw [List.append_assoc, List.mem_append, List.mem_append] at hmem
    obtain hleft | hmem | hright := hmem
    · exact hc (hblank c (List.mem_append_left _ hleft))
    · exact hnot hmem
    · exact hc (hblank c (List.mem_append_right _ hright))
  exact ⟨hnew '\n' (by simp) hline.1, hnew '$' (by decide) hline.2⟩

theorem plain_padded {padded : List (List Char)} (h : List.Forall₂ Padded lines padded)
    (hlines : ∀ line ∈ lines, '\n' ∉ line ∧ '$' ∉ line) : ∀ line ∈ padded, '\n' ∉ line ∧ '$' ∉ line := by
  induction h with
  | nil => exact List.forall_mem_nil _
  | cons h _ ih =>
    rw [List.forall_mem_cons] at hlines ⊢
    exact ⟨h.plain hlines.1, ih hlines.2⟩

theorem foldlM_padded {padded : List (List Char)} (h : List.Forall₂ Padded lines padded) (k : Nat) (a : Assembly) :
    (padded.zipIdx k).foldlM Assembly.addLine a = (lines.zipIdx k).foldlM Assembly.addLine a := by
  induction h generalizing k a with
  | nil => rfl
  | cons h _ ih =>
    rw [List.zipIdx_cons, List.zipIdx_cons, List.foldlM_cons, List.foldlM_cons, addLine_padded h]
    congr 1
    funext b
    exact ih (k + 1) b

/-- A description without keys is read line by line as it stands. -/
theorem parse_joined (hne : lines ≠ []) (hlines : ∀ line ∈ lines, '\n' ∉ line ∧ '$' ∉ line) :
    parse (joined lines) palette strings =
      ((lines.zipIdx 1).foldlM Assembly.addLine { palette, strings } >>= Assembly.finish) := by
  have hsplit := lines_joined hne fun line hline => (hlines line hline).1
  have hplain : '$' ∉ (joined lines).toList := by
    rw [← mem_flatten_lines (by decide), hsplit]
    intro hmem
    obtain ⟨line, hline, hdollar⟩ := List.mem_flatten.1 hmem
    exact (hlines line hline).2 hdollar
  rw [parse_of_plain hplain, numberedLines, hsplit]

theorem foldlM_comment {before after : List (List Char)} {comment : List Char}
    (h : (Text.trim comment).head? = some '#') (a : Assembly) :
    ((before ++ comment :: after).zipIdx 1).foldlM Assembly.addLine a =
      (before.zipIdx 1 ++ after.zipIdx (before.length + 2)).foldlM Assembly.addLine a := by
  rw [List.zipIdx_append, List.zipIdx_cons, List.foldlM_append, List.foldlM_append]
  congr 1
  funext b
  rw [List.foldlM_cons, addLine_comment h, Nat.add_comm 1 before.length]
  rfl

/-- What is behind a comment comes from the next line, and what is before it stays. -/
theorem parse_comment {before after : List (List Char)} {comment : List Char} (hne : before ++ after ≠ [])
    (hlines : ∀ line ∈ before ++ after, '\n' ∉ line ∧ '$' ∉ line) (hplain : '\n' ∉ comment ∧ '$' ∉ comment)
    (hcomment : (Text.trim comment).head? = some '#') :
    Parallel (FormError.reline (below before.length) · = ·) (Form.reline (below before.length) · = ·)
      (parse (joined (before ++ after)) palette strings)
      (parse (joined (before ++ comment :: after)) palette strings) := by
  have hlines' : ∀ line ∈ before ++ comment :: after, '\n' ∉ line ∧ '$' ∉ line := by
    intro line hline
    rw [List.mem_append, List.mem_cons] at hline
    obtain hbefore | rfl | hafter := hline
    · exact hlines line (List.mem_append_left _ hbefore)
    · exact hplain
    · exact hlines line (List.mem_append_right _ hafter)
  have hinitial : Assembly.reline (below before.length) { palette, strings } = { palette, strings } := by
    simp [Assembly.reline, Tree.reline]
  have hfold := Assembly.foldlM_reline { palette, strings } (f := below before.length) rfl
    ((before ++ after).zipIdx 1)
  rw [hinitial, numbered_below] at hfold
  rw [parse_joined hne hlines, parse_joined (by simp) hlines', foldlM_comment hcomment]
  refine hfold.bind fun a b h => ?_
  subst h
  exact a.finish_reline rfl

theorem parse_padded {padded : List (List Char)} (hne : lines ≠ [])
    (hlines : ∀ line ∈ lines, '\n' ∉ line ∧ '$' ∉ line) (h : List.Forall₂ Padded lines padded) :
    parse (joined padded) palette strings = parse (joined lines) palette strings := by
  have hne' : padded ≠ [] := by
    rintro rfl
    cases h
    exact hne rfl
  rw [parse_joined hne' (plain_padded h hlines), parse_joined hne hlines, foldlM_padded h]

/-- The numbers of lines are the only trace of a comment, and margins leave none: a description without keys is read
into the same form, or fails with the same error. -/
theorem parse_ignores_layout {description : String} (hplain : '$' ∉ description.toList) (palette : Palette)
    (strings : StringTable) :
    (∀ before after comment, Text.splitOn (· = '\n') description.toList = before ++ after →
      '\n' ∉ comment → '$' ∉ comment → (Text.trim comment).head? = some '#' →
      Parallel (FormError.reline (below before.length) · = ·) (Form.reline (below before.length) · = ·)
        (parse description palette strings) (parse (joined (before ++ comment :: after)) palette strings)) ∧
    ∀ padded, List.Forall₂ Padded (Text.splitOn (· = '\n') description.toList) padded →
      parse (joined padded) palette strings = parse description palette strings := by
  have hlines : ∀ line ∈ Text.splitOn (· = '\n') description.toList, '\n' ∉ line ∧ '$' ∉ line := by
    intro line hline
    refine ⟨fun hfeed => by simpa using Text.eq_false_of_mem_splitOn hline '\n' hfeed, fun hdollar => hplain ?_⟩
    exact (mem_flatten_lines (by decide) _).1 (List.mem_flatten.2 ⟨line, hline, hdollar⟩)
  have hne := Text.splitOn_ne_nil (· = '\n') description.toList
  have hdescription := joined_lines description
  generalize Text.splitOn (· = '\n') description.toList = lines at hlines hne hdescription ⊢
  subst hdescription
  constructor
  · rintro before after comment rfl hfeed hdollar hcomment
    exact parse_comment hne hlines ⟨hfeed, hdollar⟩ hcomment
  · intro padded hpadded
    exact parse_padded hne hlines hpadded

/-- A comment before a button moves it one line down, and an error with it. Carriage returns move nothing. -/
theorem parse_ignores_layout_returns :
    let description := "Ple\nBtn [OK] #ok\n\nEnd"
    ∃ f, parse description {} {} = .ok f ∧ (f.tree.about 0).line = 2 ∧
      parse "Ple\n # OK\nBtn [OK] #ok\n\nEnd" {} {} = .ok (f.reline (below 1)) ∧
      ((f.reline (below 1)).tree.about 0).line = 3 ∧
      parse "Ple\r\n  Btn [OK] #ok\r\n\r\nEnd \t" {} {} = .ok f ∧
      parse "Btn [OK]\nEnd" {} {} = .error (.syntaxError (.unbalancedEnd 2)) ∧
      parse "# OK\nBtn [OK]\nEnd" {} {} = .error (.syntaxError (.unbalancedEnd 3)) := by
  intro description
  let f := ((parse description {} {}).toOption).getD default
  have hparse : parse description {} {} = .ok f := by decide +kernel
  have herror : parse "Btn [OK]\nEnd" {} {} = .error (.syntaxError (.unbalancedEnd 2)) := by decide +kernel
  obtain ⟨hcomment, hmargins⟩ := parse_ignores_layout (by decide : '$' ∉ description.toList) {} {}
  obtain ⟨hcomment', -⟩ := parse_ignores_layout (by decide : '$' ∉ "Btn [OK]\nEnd".toList) {} {}
  refine ⟨f, hparse, by decide +kernel, ?_, by decide +kernel, ?_, herror, ?_⟩
  · have h := hcomment ["Ple".toList] ["Btn [OK] #ok".toList, [], "End".toList] " # OK".toList
      (by decide +kernel) (by decide) (by decide) (by decide +kernel)
    rw [hparse] at h
    generalize hagain : parse (joined _) {} {} = again at h
    cases h with
    | ok h =>
      subst h
      exact hagain
  · rw [← hparse]
    have hlines : Text.splitOn (· = '\n') description.toList =
        ["Ple".toList, "Btn [OK] #ok".toList, [], "End".toList] := by decide +kernel
    refine hmargins ["Ple\r".toList, "  Btn [OK] #ok\r".toList, ['\r'], "End \t".toList] ?_
    rw [hlines]
    refine .cons ⟨[], ['\r'], rfl, ?_⟩ (.cons ⟨[' ', ' '], ['\r'], rfl, ?_⟩
      (.cons ⟨[], ['\r'], rfl, ?_⟩ (.cons ⟨[], [' ', '\t'], rfl, ?_⟩ .nil)))
    all_goals
      simp
      decide
  · have h := hcomment' [] ["Btn [OK]".toList, "End".toList] "# OK".toList
      (by decide +kernel) (by decide) (by decide) (by decide +kernel)
    rw [herror] at h
    generalize hagain : parse (joined _) {} {} = again at h
    cases h with
    | error h =>
      subst h
      exact hagain

end Form

end ScreenForm
