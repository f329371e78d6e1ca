import ScreenForm.Proofs.Description.MarkerText
import ScreenForm.Proofs.Form.Made
import ScreenForm.Proofs.Text.Break
/-!
# What can be written on one line

The labels and the names of a form come from the lines of its description. So none of them breaks a line, and what a
marker says has only the characters of names (`Form.parse_legible`). Use of the form changes neither.
-/

namespace ScreenForm

open Description Description.Marker

/-! ## Names -/

/-- It can stand as one word of a line. -/
def OneWord (s : String) : Prop := ' ' ∉ s.toList ∧ '\n' ∉ s.toList

namespace Description.Marker

theorem IsName.oneWord {name : String} (h : IsName name) : OneWord name := by
  constructor
  · intro hc
    cases h.2 ' ' hc
  · intro hc
    cases h.2 '\n' hc

theorem isName_of_all {name : String} (h : (!name.toList.isEmpty && name.toList.all isNameChar) = true) :
    IsName name := by
  rw [Bool.and_eq_true, Bool.not_eq_true', List.isEmpty_eq_false_iff, List.all_eq_true] at h
  exact h

theorem isName_kindName (w : Widget) : IsName w.kindName := by
  have hnames : ∀ name ∈ ["Text", "Button", "Edit", "CheckBox", "RadioButton", "Divider", "Pile", "Columns", "GridFlow",
      "ListBox", "Padding", "AttrMap"], (!name.toList.isEmpty && name.toList.all isNameChar) = true := by decide
  refine isName_of_all (hnames _ ?_)
  cases w with
  | container arrangement => cases arrangement <;> simp [Widget.kindName, Arrangement.name]
  | wrapper wrapping => cases wrapping <;> simp [Widget.kindName, Wrapping.name]
  | _ => simp [Widget.kindName]

theorem Fronts.proper {rest cs : List Char} {ms : List Marker} (h : Fronts rest cs ms) : ∀ m ∈ ms, m.Proper := by
  induction h with
  | nil => exact List.forall_mem_nil _
  | cons _ proper _ ih => exact List.forall_mem_cons.2 ⟨proper, ih⟩

end Description.Marker

/-- What the markers say are names. -/
structure Description.Attributes.Legible (a : Attributes) : Prop where
  id : ∀ name, a.id = some name → IsName name
  styles : ∀ name ∈ a.styles, IsName name
  responder : ∀ kind name, a.events.get? kind = some name → IsName name

/-- The label does not break a line, and neither do the names that belong to the widget. -/
structure Node.Legible (n : Node) : Prop where
  label : ∀ s, n.widget.label? = some s → '\n' ∉ s.toList
  id : ∀ name, n.about.id = some name → IsName name
  responder : ∀ kind name, n.about.events.get? kind = some name → IsName name
  style : ∀ normal focus names child, n.widget = .wrapper (.styled normal focus names) child →
    ∀ name, names.normal = some name → OneWord name

namespace Description

theorem Attributes.yields_parse (cs : List Char) (n : Nat) :
    Yields (fun x => x.1.Legible) (Attributes.parse cs n) := by
  rintro ⟨a, args⟩ h
  have hgathers := Attributes.gathers_parse h
  obtain ⟨⟨b, rest⟩, hscan, -⟩ := Except.bind_eq_ok.1 h
  obtain ⟨_, -, hfronts, -⟩ := Attributes.fronts_of_addMarkers hscan
  have hproper := hfronts.proper
  refine ⟨fun name hname => ?_, fun name hname => ?_, fun kind name hname => ?_⟩
  · have hmem : name ∈ a.id.toList := Option.mem_toList.2 hname
    rw [hgathers.id] at hmem
    obtain ⟨m, hm, hid⟩ := List.mem_filterMap.1 hmem
    cases m <;> cases hid
    exact hproper _ hm
  · rw [hgathers.styles] at hname
    obtain ⟨m, hm, hstyle⟩ := List.mem_filterMap.1 hname
    cases m <;> cases hstyle
    exact hproper _ hm
  · have hmem : name ∈ (a.events.get? kind).toList := Option.mem_toList.2 hname
    rw [hgathers.events] at hmem
    obtain ⟨m, hm, hresponder⟩ := List.mem_filterMap.1 hmem
    cases m with
    | event kind' responder =>
      have := hproper _ hm
      simp only [responder?] at hresponder
      split at hresponder <;> cases hresponder
      exact this
    | _ => cases hresponder

/-! ## Lines -/

/-- The leaf has no line feed in its label. -/
structure Leaf.Legible (leaf : Leaf) : Prop where
  label : ∀ s, leaf.widget.label? = some s → '\n' ∉ s.toList
  attributes : leaf.attributes.Legible

theorem mem_of_bracketed? {data label rest : List Char} (h : bracketed? data = some (label, rest)) :
    ∀ c ∈ label, c ∈ data := by
  intro c hc
  unfold bracketed? at h
  split at h
  · next cs htrim =>
    have hmem : c ∈ Text.trimStart data := by
      rw [htrim, Text.eq_of_splitOnce h]
      simp [hc]
    exact (List.dropWhile_suffix _).mem hmem
  · cases h

theorem mem_of_trim {cs : List Char} {c : Char} (h : c ∈ Text.trim cs) : c ∈ cs := by
  have hmem := (List.dropWhile_suffix _).mem (List.mem_reverse.1 h)
  exact (List.dropWhile_suffix _).mem (List.mem_reverse.1 hmem)

namespace Leaf

variable {n : Nat} {data : List Char}

/-- A widget without a label has nothing that could break a line. -/
theorem legible_of_none {w : Widget} {a : Attributes} (hw : w.label? = none) (ha : a.Legible) :
    Legible ⟨w, a⟩ := by
  refine ⟨fun s hs => ?_, ha⟩
  rw [hw] at hs
  cases hs

theorem legible_text (data : List Char) : Yields Legible (Leaf.text n data) := by
  unfold Leaf.text
  split
  exact (Attributes.yields_parse _ _).bind_of fun _ ha => .bind fun _ => .ok (legible_of_none rfl ha)

theorem legible_edit (data : List Char) : Yields Legible (Leaf.edit n data) := by
  unfold Leaf.edit
  dsimp only
  split
  · exact .error _
  · exact (Attributes.yields_parse _ _).bind_of fun _ ha => .bind fun _ => .ok (legible_of_none rfl ha)

theorem gives_unlabelled (fill : Char) : Gives (fun w => w.label? = none) (dividerOf n fill) :=
  .bind fun _ => .bind fun _ => .pure rfl

theorem legible_divider (data : List Char) : Yields Legible (Leaf.divider n data) :=
  (Attributes.yields_parse _ _).bind_of fun _ ha =>
    .bind_of (yields_readAll _ _ (.bind fun fill => gives_unlabelled fill)) fun _ hw => .ok (legible_of_none hw ha)

theorem legible_rule (fill : Char) (data : List Char) : Yields Legible (Leaf.rule n fill data) := by
  unfold Leaf.rule
  refine (Attributes.yields_parse _ _).bind_of fun ⟨attributes, args⟩ ha => ?_
  dsimp only
  split
  · exact .error _
  · exact .bind_of (yields_readAll _ _ (gives_unlabelled fill)) fun _ hw => .ok (legible_of_none hw ha)

theorem legible_of_bracketed? {w : Widget} {a : Attributes} {label rest : List Char} (hdata : '\n' ∉ data)
    (hlabel : bracketed? data = some (label, rest)) (hw : w.label? = some (String.ofList label)) (ha : a.Legible) :
    Legible ⟨w, a⟩ := by
  refine ⟨fun s hs => ?_, ha⟩
  rw [hw] at hs
  cases hs
  rw [String.toList_ofList]
  exact fun hfeed => hdata (mem_of_bracketed? hlabel _ hfeed)

theorem legible_button (hdata : '\n' ∉ data) : Yields Legible (Leaf.button n data) := by
  unfold Leaf.button
  split
  · next hb =>
    exact (Attributes.yields_parse _ _).bind_of fun _ ha => .bind fun _ => .ok (legible_of_bracketed? hdata hb rfl ha)
  · exact .error _

theorem legible_checkBox (hdata : '\n' ∉ data) : Yields Legible (Leaf.checkBox n data) := by
  unfold Leaf.checkBox
  split
  · exact .error _
  · next hb =>
    exact (Attributes.yields_parse _ _).bind_of fun _ ha => .bind fun _ => .ok (legible_of_bracketed? hdata hb rfl ha)

theorem legible_radioButton (hdata : '\n' ∉ data) : Yields Legible (Leaf.radioButton n data) := by
  unfold Leaf.radioButton
  split
  · exact .error _
  · next hb =>
    exact (Attributes.yields_parse _ _).bind_of fun _ ha => .bind fun _ => .ok (legible_of_bracketed? hdata hb rfl ha)

end Leaf

/-- The data of a command are part of its line. -/
theorem Line.mem_of_parse {n : Nat} {raw data : List Char} {opcode : Opcode}
    (h : Line.parse n raw = .ok (.command opcode data)) : ∀ c ∈ data, c ∈ raw := by
  intro c hc
  refine mem_of_trim ?_
  unfold Line.parse Line.ofTrimmed at h
  split at h
  · cases h
  · cases h
  · next a b d rest _ htrim =>
    dsimp only at h
    split at h
    · cases h
      rw [htrim]
      exact List.mem_cons_of_mem _ (List.mem_cons_of_mem _ (List.mem_cons_of_mem _ (mem_of_trim hc)))
    · split at h <;> cases h
  · cases h

end Description

/-! ## Trees -/

namespace Node

/-- Use changes nothing that could break a line. -/
theorem Legible.congr {n n' : Node} (h : n.Legible) (habout : n'.about = n.about)
    (hwidget : n'.widget.fixed = n.widget.fixed) : n'.Legible where
  label s hs := h.label s (Widget.label?_congr hwidget ▸ hs)
  id name hname := h.id name (habout ▸ hname)
  responder kind name hname := h.responder kind name (habout ▸ hname)
  style normal focus names child hw name hname := by
    refine h.style normal focus names child ?_ name hname
    rw [hw] at hwidget
    cases hn : n.widget <;> rw [hn] at hwidget <;> cases hwidget
    rfl

theorem legible_bare {w : Widget} {about : Meta} (hlabel : ∀ s, w.label? = some s → '\n' ∉ s.toList)
    (plain : w.isWrapper = false) (hid : ∀ name, about.id = some name → IsName name)
    (hresponder : ∀ kind name, about.events.get? kind = some name → IsName name) : Legible ⟨w, about⟩ where
  label := hlabel
  id := hid
  responder := hresponder
  style normal focus names child hw := by
    dsimp only at hw
    subst hw
    cases plain

end Node

/-- All widgets can be written on a line each. -/
def Tree.Legible (t : Tree) : Prop := ∀ id, (t.node id).Legible

namespace Tree

variable {t t' : Tree}

theorem legible_empty : Legible {} := fun _ =>
  Node.legible_bare nofun rfl nofun fun kind _ h => by cases kind <;> cases h

theorem Legible.of_fixed (h : t.Legible) (hf : t'.fixed = t.fixed) : t'.Legible := fun id =>
  (h id).congr (about_of_fixed hf id) (widget_fixed_of_fixed hf id)

theorem Legible.add (h : t.Legible) {w : Widget} {about : Meta} (hn : Node.Legible ⟨w, about⟩) :
    (t.add w about).Legible := by
  intro id
  rw [node_add]
  split
  · exact hn
  · exact h id

theorem Legible.wrapStyle (h : t.Legible) (id : Nat) (palette : Palette) {names : List String}
    (hnames : ∀ name ∈ names, OneWord name) : (t.wrapStyle id palette names).1.Legible := by
  unfold Tree.wrapStyle
  cases hresolve : palette.resolve names with
  | none => exact h
  | some resolved =>
    refine h.add ⟨nofun, nofun, fun kind _ h => (by cases kind <;> cases h), ?_⟩
    rintro _ _ _ _ ⟨⟩ name hname
    unfold Palette.resolve at hresolve
    dsimp only at hresolve
    split at hresolve
    · cases hresolve
    · cases hresolve
      exact hnames name (List.mem_of_find?_eq_some hname)

end Tree

/-! ## Lines of a description -/

namespace Assembly

/-- The widgets so far, and the names of the containers that are still open. -/
structure Legible (a : Assembly) : Prop where
  tree : a.tree.Legible
  opened : ∀ o ∈ a.opened, o.attributes.Legible

variable {a a' : Assembly} {n id : Nat} {data : List Char}

theorem oneWord_styleNames {attributes : Attributes} (h : attributes.Legible) {className : String}
    (hclass : IsName className) : ∀ name ∈ styleNames attributes.id attributes.styles className, OneWord name := by
  intro name hname
  simp only [styleNames, List.mem_append, List.mem_singleton, Option.mem_toList, Option.map_eq_some_iff] at hname
  obtain (⟨id, hid, rfl⟩ | hstyle) | rfl := hname
  · obtain ⟨hspace, hfeed⟩ := (h.id id hid).oneWord
    simp [OneWord, hspace, hfeed]
  · exact (h.styles name hstyle).oneWord
  · exact hclass.oneWord

theorem legible_addWidget {w : Widget} {attributes : Attributes} {className : String}
    (h : a.addWidget w attributes className n = .ok (a', id)) (ha : a.tree.Legible)
    (hlabel : ∀ s, w.label? = some s → '\n' ∉ s.toList) (plain : w.isWrapper = false)
    (hattributes : attributes.Legible) (hclass : IsName className) : a'.tree.Legible := by
  unfold addWidget at h
  obtain ⟨_, -, h⟩ := Except.bind_eq_ok.1 h
  obtain ⟨_, -, h⟩ := Except.bind_eq_ok.1 h
  obtain ⟨names, -, h⟩ := Except.bind_eq_ok.1 h
  cases h
  refine Tree.Legible.wrapStyle (ha.add ?_) _ _ (oneWord_styleNames hattributes hclass)
  exact Node.legible_bare hlabel plain hattributes.id hattributes.responder

theorem Legible.addWidget (ha : a.Legible) {w : Widget} {attributes : Attributes} {className : String}
    (h : a.addWidget w attributes className n = .ok (a', id)) (hlabel : ∀ s, w.label? = some s → '\n' ∉ s.toList)
    (plain : w.isWrapper = false) (hattributes : attributes.Legible) (hclass : IsName className) : a'.Legible where
  tree := legible_addWidget h ha.tree hlabel plain hattributes hclass
  opened := by
    rw [(addWidget_added h).opened]
    exact ha.opened

theorem Legible.addLeaf (ha : a.Legible) {leaf : Leaf} (bare : leaf.Bare) (legible : leaf.Legible)
    (h : a.addLeaf leaf n = .ok a') : a'.Legible := by
  obtain ⟨⟨b, id⟩, hb, rfl⟩ := Except.map_eq_ok.1 h
  have hb := ha.addWidget hb legible.label bare.plain legible.attributes (Marker.isName_kindName _)
  exact ⟨hb.tree, hb.opened⟩

theorem Legible.addRead (ha : a.Legible) {read : Except SyntaxError Leaf} (bare : Yields Leaf.Bare read)
    (legible : Yields Leaf.Legible read) (h : a.addRead read n = .ok a') : a'.Legible := by
  obtain ⟨leaf, hleaf, h⟩ := Except.bind_eq_ok.1 h
  have hleaf := liftError_eq_ok.1 hleaf
  exact ha.addLeaf (bare leaf hleaf) (legible leaf hleaf) (liftError_eq_ok.1 h)

theorem Legible.addRadioButton (ha : a.Legible) {leaf : Leaf} (bare : leaf.Bare) (legible : leaf.Legible)
    (h : a.addRadioButton leaf n = .ok a') : a'.Legible := by
  obtain ⟨b, hb, h⟩ := Except.bind_eq_ok.1 h
  have hb := ha.addLeaf bare legible hb
  split at h
  · cases h
    exact ⟨hb.tree.of_fixed (Tree.fixed_clearGroup ..), hb.opened⟩
  · cases h
    exact hb

/-- The texts of a header or a footer. -/
theorem Legible.addText (ha : a.Legible) {leaf : Leaf} {className : String} {x : Assembly × Nat}
    (hleaf : liftError (Leaf.text n data) = (.ok leaf : Except FormError Leaf)) (hclass : IsName className)
    (hx : liftError (a.addWidget leaf.widget leaf.attributes className n) =
      (.ok x : Except FormError (Assembly × Nat))) : x.1.Legible := by
  have hleaf := liftError_eq_ok.1 hleaf
  have legible := Leaf.legible_text data leaf hleaf
  have plain := (Leaf.bare_text data leaf hleaf).plain
  exact ha.addWidget (liftError_eq_ok.1 hx) legible.label plain legible.attributes hclass

theorem Legible.addHeader (ha : a.Legible) (h : a.addHeader n data = .ok a') : a'.Legible := by
  unfold Assembly.addHeader at h
  dsimp only at h
  split at h
  · cases h
  · obtain ⟨leaf, hleaf, h⟩ := Except.bind_eq_ok.1 h
    obtain ⟨⟨b, id⟩, hb, h⟩ := Except.bind_eq_ok.1 h
    cases h
    have hb := ha.addText hleaf (Marker.isName_of_all (by decide)) hb
    exact ⟨hb.tree, hb.opened⟩

theorem Legible.addFooter (ha : a.Legible) (h : a.addFooter n data = .ok a') : a'.Legible := by
  unfold Assembly.addFooter at h
  dsimp only at h
  split at h
  · cases h
  · obtain ⟨leaf, hleaf, h⟩ := Except.bind_eq_ok.1 h
    obtain ⟨⟨b, id⟩, hb, h⟩ := Except.bind_eq_ok.1 h
    cases h
    have hb := ha.addText hleaf (Marker.isName_of_all (by decide)) hb
    exact ⟨hb.tree, hb.opened⟩

theorem Legible.openContainer (ha : a.Legible) {kind : ContainerKind} (h : a.openContainer kind n data = .ok a') :
    a'.Legible := by
  obtain ⟨⟨attributes, arguments⟩, hparse, h⟩ := Except.bind_eq_ok.1 h
  cases h
  exact ⟨ha.tree, List.forall_mem_cons.2 ⟨Attributes.yields_parse data n _ hparse, ha.opened⟩⟩

theorem Legible.closeContainer (ha : a.Legible) (h : a.closeContainer n data = .ok a') : a'.Legible := by
  unfold Assembly.closeContainer at h
  dsimp only at h
  split at h
  · cases h
  split at h
  · cases h
  · next o rest ho =>
    obtain ⟨arrangement, -, h⟩ := Except.bind_eq_ok.1 h
    obtain ⟨⟨b, id⟩, hb, rfl⟩ := Except.map_eq_ok.1 (liftError_eq_ok.1 h)
    have hopened := ha.opened
    rw [ho, List.forall_mem_cons] at hopened
    have houter : Legible { a with content := o.before, opened := rest } := ⟨ha.tree, hopened.2⟩
    have hclass : IsName o.kind.name := by cases o.kind <;> exact Marker.isName_of_all (by decide)
    have hb := houter.addWidget hb nofun rfl hopened.1 hclass
    exact ⟨hb.tree, hb.opened⟩

theorem Legible.addCommand (ha : a.Legible) {opcode : Opcode} (hdata : '\n' ∉ data)
    (h : a.addCommand n opcode data = .ok a') : a'.Legible := by
  cases opcode with
  | header => exact ha.addHeader h
  | footer => exact ha.addFooter h
  | text => exact ha.addRead (Leaf.bare_text data) (Leaf.legible_text data) h
  | button => exact ha.addRead (Leaf.bare_button data) (Leaf.legible_button hdata) h
  | edit => exact ha.addRead (Leaf.bare_edit data) (Leaf.legible_edit data) h
  | checkBox => exact ha.addRead (Leaf.bare_checkBox data) (Leaf.legible_checkBox hdata) h
  | radioButton =>
    obtain ⟨leaf, hleaf, h⟩ := Except.bind_eq_ok.1 h
    have hleaf := liftError_eq_ok.1 hleaf
    exact ha.addRadioButton (Leaf.bare_radioButton data leaf hleaf) (Leaf.legible_radioButton hdata leaf hleaf)
      (liftError_eq_ok.1 h)
  | divider => exact ha.addRead (Leaf.bare_divider data) (Leaf.legible_divider data) h
  | opening kind => exact ha.openContainer (liftError_eq_ok.1 h)
  | closing => exact ha.closeContainer h

theorem Legible.addLine (ha : a.Legible) {l : List Char × Nat} (hl : '\n' ∉ l.1) (h : a.addLine l = .ok a') :
    a'.Legible := by
  obtain ⟨line, hline, h⟩ := Except.bind_eq_ok.1 h
  cases line with
  | comment =>
    cases h
    exact ha
  | blank =>
    cases h
    refine ⟨ha.tree.add (Node.legible_bare nofun rfl nofun fun kind _ h => ?_), ha.opened⟩
    cases kind <;> cases h
  | command opcode data =>
    exact ha.addCommand (fun hfeed => hl (Line.mem_of_parse (liftError_eq_ok.1 hline) _ hfeed)) h
  | rule fill data => exact ha.addRead (Leaf.bare_rule fill data) (Leaf.legible_rule fill data) h

theorem Legible.foldlM (ha : a.Legible) {lines : List (List Char × Nat)} (hlines : ∀ l ∈ lines, '\n' ∉ l.1)
    (h : lines.foldlM Assembly.addLine a = .ok a') : a'.Legible := by
  induction lines generalizing a with
  | nil =>
    cases h
    exact ha
  | cons l lines ih =>
    rw [List.forall_mem_cons] at hlines
    obtain ⟨b, hb, h⟩ := Except.bind_eq_ok.1 h
    exact ih (ha.addLine hlines.1 hb) hlines.2 h

end Assembly

namespace Form

variable {description : String} {palette : Palette} {strings : StringTable} {f : Form}

theorem parse_legible (h : parse description palette strings = .ok f) : f.tree.Legible := by
  obtain ⟨text, a, -, ha, hf⟩ := parse_ok h
  have hlines : ∀ l ∈ numberedLines text, '\n' ∉ l.1 := by
    intro l hl hfeed
    simpa using Text.eq_false_of_mem_splitOn (List.fst_mem_of_mem_zipIdx hl) '\n' hfeed
  have hlegible := Assembly.Legible.foldlM ⟨Tree.legible_empty, List.forall_mem_nil _⟩ hlines ha
  cases ho : a.opened with
  | cons o rest =>
    rw [Assembly.finish_of_opened ho] at hf
    cases hf
  | nil =>
    rw [Assembly.finish_of_closed ho] at hf
    cases hf
    refine Tree.Legible.wrapStyle (hlegible.tree.add ?_) _ _ ?_
    · exact Node.legible_bare nofun rfl nofun fun kind _ h => by cases kind <;> cases h
    · exact List.forall_mem_singleton.2 (Marker.isName_of_all (by decide)).oneWord

end Form

end ScreenForm
