import ScreenForm.Proofs.Form.Made
import ScreenForm.Proofs.Widget.SeeThrough
/-!
# Forms without styles

A description is read into the same widgets under every palette: without its
wrappers, the form is the one that is made with no palette at all
(`Form.parse_unstyled`), and what fails fails with the same error. Each line keeps this
(`Assembly.addLine_unstyled`).
-/

namespace ScreenForm

open Description

/-- Two computations end in the same error, or in results that the relation holds of. -/
inductive Alongside {ε α β : Type} (R : α → β → Prop) : Except ε α → Except ε β → Prop
  | ok {a : α} {b : β} (h : R a b) : Alongside R (.ok a) (.ok b)
  | error (e : ε) : Alongside R (.error e) (.error e)

namespace Alongside

variable {ε α β γ δ : Type} {R : α → β → Prop} {Q : γ → δ → Prop}

theorem same (x : Except ε α) : Alongside Eq x x := by
  cases x with
  | ok a => exact .ok rfl
  | error e => exact .error e

theorem bind {x : Except ε α} {y : Except ε β} {f : α → Except ε γ} {g : β → Except ε δ} (h : Alongside R x y)
    (hfg : ∀ a b, x = .ok a → R a b → Alongside Q (f a) (g b)) : Alongside Q (x >>= f) (y >>= g) := by
  cases h with
  | ok h => exact hfg _ _ rfl h
  | error e => exact .error e

theorem map {x : Except ε α} {y : Except ε β} {f : α → γ} {g : β → δ} (h : Alongside R x y)
    (hfg : ∀ a b, R a b → Q (f a) (g b)) : Alongside Q (x.map f) (y.map g) := by
  cases h with
  | ok h => exact .ok (hfg _ _ h)
  | error e => exact .error e

theorem lift [Coe ε FormError] {x : Except ε α} {y : Except ε β} (h : Alongside R x y) :
    Alongside R (liftError x) (liftError y) := by
  cases h with
  | ok h => exact .ok h
  | error e => exact .error _

/-- Two computations that go alongside the same third one. -/
theorem common {x : Except ε α} {y : Except ε β} {z : Except ε γ}
    {R : α → γ → Prop} {Q : β → γ → Prop} {P : α → β → Prop}
    (hx : Alongside R x z) (hy : Alongside Q y z) (hP : ∀ a b c, R a c → Q b c → P a b) : Alongside P x y := by
  cases hx with
  | ok hac =>
    cases hy with
    | ok hbc => exact .ok (hP _ _ _ hac hbc)
  | error e =>
    cases hy with
    | error => exact .error e

/-- The same computation goes first in both. -/
theorem after {x : Except ε α} {f : α → Except ε γ} {g : α → Except ε δ}
    (h : ∀ a, x = .ok a → Alongside Q (f a) (g a)) :
    Alongside Q (x >>= f) (x >>= g) :=
  (same x).bind fun a _ hx hab => hab ▸ h a hx

end Alongside

theorem Widget.Bare.renumber_eq {w : Widget} (h : w.Bare) (number : Nat → Nat) : w.renumber number = w :=
  Widget.renumber_of_children_eq_nil number h.children

/-! ## Names -/

namespace NameTable

/-- The names with their widgets under other numbers. -/
def renumber (number : Nat → Nat) (names : NameTable) : NameTable :=
  ⟨names.entries.map fun e => (e.1, number e.2)⟩

variable (number : Nat → Nat) (names : NameTable)

theorem lookup_renumber (name : String) :
    (names.renumber number).entries.lookup name = (names.entries.lookup name).map number := by
  rw [renumber]
  induction names.entries with
  | nil => rfl
  | cons e entries ih =>
    rw [List.map_cons, List.lookup_cons, List.lookup_cons]
    split
    · rfl
    · exact ih

theorem get_renumber (name : String) : (names.renumber number).get name = (names.get name).map number := by
  rw [get, get, lookup_renumber]
  cases names.entries.lookup name <;> rfl

theorem register_renumber (name : String) (widget : Nat) :
    (names.renumber number).register name (number widget) = (names.register name widget).map (renumber number) := by
  rw [register, register, contains, contains, lookup_renumber, Option.isSome_map]
  split
  · rfl
  · simp [renumber, Except.map]

end NameTable

/-! ## Assemblies -/

def OpenContainer.renumber (number : Nat → Nat) (o : OpenContainer) : OpenContainer :=
  { o with before := (o.before.toList.map number).toArray }

namespace Assembly

/-- The assembly without styles. -/
def unstyled (a : Assembly) : Assembly where
  palette := {}
  strings := a.strings
  tree := a.tree.unstyled
  names := a.names.renumber a.tree.core
  content := (a.content.toList.map a.tree.core).toArray
  opened := a.opened.map (·.renumber a.tree.core)
  header := a.header.map a.tree.core
  footer := a.footer.map a.tree.core

/-- It refers to widgets that are there, and by name to no wrapper. All its wrappers come from styles. -/
structure Neat (a : Assembly) : Prop where
  ordered : a.tree.Ordered
  styled : a.tree.Styled
  loose : ∀ id ∈ a.loose, id < a.tree.size
  names : ∀ e ∈ a.names.entries, e.2 < a.tree.size ∧ a.tree.Plain e.2

variable {a : Assembly} {t : Tree} {n id : Nat}

theorem neat_initial (palette : Palette) (strings : StringTable) : Neat { palette, strings } where
  ordered _ _ hc := absurd (Tree.lt_size_of_mem_children hc) (Nat.not_lt_zero _)
  styled _ _ _ hw := absurd (Tree.lt_size_of_wrapper hw) (Nat.not_lt_zero _)
  loose := List.forall_mem_nil _
  names := List.forall_mem_nil _

namespace Neat

theorem mem_content (h : a.Neat) (hid : id ∈ a.content.toList) : id < a.tree.size :=
  h.loose id (by simp [Assembly.loose, Array.mem_toList_iff.1 hid])

theorem mem_before (h : a.Neat) {o : OpenContainer} (ho : o ∈ a.opened) (hid : id ∈ o.before.toList) : id < a.tree.size :=
  h.loose id (by
    simp only [Assembly.loose, List.mem_append, List.mem_flatMap]
    exact .inl (.inl (.inr ⟨o, ho, hid⟩)))

theorem mem_header (h : a.Neat) (hid : a.header = some id) : id < a.tree.size :=
  h.loose id (by simp [Assembly.loose, hid])

theorem mem_footer (h : a.Neat) (hid : a.footer = some id) : id < a.tree.size :=
  h.loose id (by simp [Assembly.loose, hid])

theorem grow (h : a.Neat) (hext : a.tree.Extends t) (hlt : t.Ordered) (hs : t.Styled) : Neat { a with tree := t } where
  ordered := hlt
  styled := hs
  loose id hid := Nat.lt_of_lt_of_le (h.loose id hid) hext.1
  names e he := by
    obtain ⟨hid, hp⟩ := h.names e he
    exact ⟨Nat.lt_of_lt_of_le hid hext.1,
      (congrArg (· = false) (Widget.isWrapper_congr (hext.widget_fixed hid))).mpr hp⟩

end Neat

/-- What it refers to keeps its number when the tree grows. -/
theorem unstyled_grow (h : a.Neat) (hext : a.tree.Extends t) (hlt : t.Ordered) :
    unstyled { a with tree := t } = { a.unstyled with tree := t.unstyled } := by
  have hcore {id : Nat} (hid : id < a.tree.size) : t.core id = a.tree.core id := hext.core h.ordered hlt hid
  have hoption {o : Option Nat} (ho : ∀ id, o = some id → id < a.tree.size) : o.map t.core = o.map a.tree.core := by
    cases o with
    | none => rfl
    | some id => exact congrArg some (hcore (ho id rfl))
  have hopened : a.opened.map (·.renumber t.core) = a.opened.map (·.renumber a.tree.core) :=
    List.map_congr_left fun o ho => congrArg (fun before : List Nat => { o with before := before.toArray })
      (List.map_congr_left fun id hid => hcore (h.mem_before ho hid))
  have hnames : a.names.renumber t.core = a.names.renumber a.tree.core :=
    congrArg NameTable.mk (List.map_congr_left fun e he => congrArg (e.1, ·) (hcore (h.names e he).1))
  simp only [unstyled, Assembly.mk.injEq, true_and]
  exact ⟨hnames, congrArg List.toArray (List.map_congr_left fun id hid => hcore (h.mem_content hid)), hopened,
    hoption fun _ => h.mem_header, hoption fun _ => h.mem_footer⟩

/-! ## One widget more -/

/-- The second assembly is the first one without styles, and the numbers are the ones of the same widget. -/
structure Sheds (x y : Assembly × Nat) : Prop where
  neat : x.1.Neat
  lt : x.2 < x.1.tree.size
  eq : y = (x.1.unstyled, x.1.tree.core x.2)

theorem applyStyle_empty (h : a.palette = {}) (id : Nat) (styles : List String) : a.applyStyle id styles = (a, id) := by
  have hnone (styles : List String) : ({} : Palette).firstKnown? styles = none := by
    simp [Palette.firstKnown?, Palette.contains, Palette.find?]
  have hresolve : a.palette.resolve styles = none := by simp [h, Palette.resolve, hnone]
  rw [applyStyle, Tree.wrapStyle, hresolve]

theorem applyStyle_unstyled (h : a.Neat) (hid : id < a.tree.size) (styles : List String) :
    Sheds (a.applyStyle id styles) (a.unstyled, a.tree.core id) := by
  rw [applyStyle, Tree.wrapStyle]
  cases a.palette.resolve styles with
  | none => exact ⟨h, hid, rfl⟩
  | some resolved =>
    dsimp only
    -- The new wrapper is seen through.
    have hmem : ∀ c ∈ (Widget.wrapper (.styled (a.palette.style resolved.normal) (a.palette.style resolved.focus) resolved)
        id).children, c < a.tree.size := by simpa [Widget.children] using hid
    have hext := Tree.extends_add a.tree
      (.wrapper (.styled (a.palette.style resolved.normal) (a.palette.style resolved.focus) resolved) id) {}
    have hlt := h.ordered.add hmem {}
    refine ⟨h.grow hext hlt (h.styled.wrap _ _ _ id {}), by simp, ?_⟩
    rw [unstyled_grow h hext hlt, Tree.core_wrapper hlt (Tree.widget_add_self ..), hext.core h.ordered hlt hid,
      Tree.unstyled_add h.ordered hmem]
    rfl

theorem checkBindings_renumber (number : Nat → Nat) (w : Widget) (events : Bindings) (n : Nat) :
    checkBindings (w.renumber number) events n = checkBindings w events n := by
  simp only [checkBindings, Widget.accepts_renumber, Widget.kindName_renumber]

theorem registerName_renumber (number : Nat → Nat) (names : NameTable) (name : Option String) (widget : Nat) :
    registerName (names.renumber number) name (number widget) =
      (registerName names name widget).map (·.renumber number) := by
  cases name with
  | none => rfl
  | some name => exact names.register_renumber number name widget

theorem mem_registerName {names names' : NameTable} {name : Option String} {widget : Nat}
    (h : registerName names name widget = .ok names') {e : String × Nat} (he : e ∈ names'.entries) :
    e ∈ names.entries ∨ e.2 = widget := by
  cases name with
  | none =>
    cases h
    exact .inl he
  | some name =>
    simp only [registerName, NameTable.register] at h
    split at h
    · cases h
    · cases h
      rcases List.mem_append.1 he with he | he
      · exact .inl he
      · exact .inr (by rw [List.mem_singleton.1 he])

/-- The assembly with a widget more, which has neither a name nor a style. -/
theorem add_unstyled (h : a.Neat) {w : Widget} (plain : w.isWrapper = false) (hw : ∀ c ∈ w.children, c < a.tree.size)
    (about : Meta) : Neat { a with tree := a.tree.add w about } ∧
      unstyled { a with tree := a.tree.add w about } =
        { a.unstyled with tree := a.unstyled.tree.add (w.renumber a.tree.core) about } ∧
      (a.tree.add w about).Plain a.tree.size ∧ (a.tree.add w about).core a.tree.size = a.unstyled.tree.size := by
  have hext := Tree.extends_add a.tree w about
  have hlt := h.ordered.add hw about
  have hp : (a.tree.add w about).Plain a.tree.size := by rw [Tree.Plain, Tree.widget_add_self, plain]
  refine ⟨h.grow hext hlt (h.styled.add plain about), ?_, hp, ?_⟩
  · rw [unstyled_grow h hext hlt, Tree.unstyled_add h.ordered hw about, if_neg (by simp [plain])]
    rfl
  · rw [hp.core, hext.rank (Nat.le_refl _)]
    exact (Tree.size_unstyled ..).symm

theorem addWidget_unstyled (h : a.Neat) {w : Widget} (plain : w.isWrapper = false)
    (hw : ∀ c ∈ w.children, c < a.tree.size)
    (attributes : Attributes) (className : String) (n : Nat) :
    Alongside Sheds (a.addWidget w attributes className n)
      (a.unstyled.addWidget (w.renumber a.tree.core) attributes className n) := by
  unfold addWidget
  rw [checkBindings_renumber]
  refine .after fun _ _ => .after fun _ _ => ?_
  let about : Meta := ⟨attributes.id, attributes.info, attributes.tooltip, attributes.events, n⟩
  let core := (a.tree.add w about).core
  obtain ⟨hadded, hunstyled, hp, hsize⟩ := add_unstyled h plain hw about
  have hnames : a.unstyled.names = a.names.renumber core := (congrArg Assembly.names hunstyled).symm
  rw [hnames, ← hsize]
  dsimp only
  rw [registerName_renumber]
  cases hr : registerName a.names attributes.id a.tree.size with
  | error e => exact .error e
  | ok names =>
    let b : Assembly := { a with tree := a.tree.add w about, names := names }
    have hb : b.Neat := by
      refine ⟨hadded.ordered, hadded.styled, hadded.loose, fun e he => ?_⟩
      rcases mem_registerName hr he with he | he
      · exact hadded.names e he
      · rw [he]
        exact ⟨by simp [b], hp⟩
    have hbare : b.unstyled = { a.unstyled with
        tree := a.unstyled.tree.add (w.renumber a.tree.core) about, names := names.renumber core } :=
      congrArg (fun u : Assembly => { u with names := names.renumber core }) hunstyled
    refine .ok ?_
    show Sheds (b.applyStyle a.tree.size _) (applyStyle { a.unstyled with
      tree := a.unstyled.tree.add (w.renumber a.tree.core) about, names := names.renumber core } _ _)
    rw [← hbare, applyStyle_empty (a := b.unstyled) rfl]
    exact applyStyle_unstyled hb (by simp [b]) _

/-! ## Lines -/

/-- The second assembly is the first one without styles. -/
structure Strips (a b : Assembly) : Prop where
  neat : a.Neat
  eq : b = a.unstyled

theorem Sheds.place {x y : Assembly × Nat} (h : Sheds x y) : Strips (place x) (place y) := by
  obtain ⟨b, id⟩ := x
  obtain ⟨hb, hid, rfl⟩ := h
  refine ⟨⟨hb.ordered, hb.styled, fun i hi => ?_, hb.names⟩, ?_⟩
  · by_cases hold : i = id
    · exact hold ▸ hid
    · exact hb.loose i (by simpa [Assembly.loose, Assembly.place, hold] using hi)
  · simp [Assembly.place, unstyled]

theorem addLeaf_unstyled (h : a.Neat) {leaf : Leaf} (bare : leaf.Bare) (n : Nat) :
    Alongside Strips (a.addLeaf leaf n) (a.unstyled.addLeaf leaf n) := by
  have hw : ∀ c ∈ leaf.widget.children, c < a.tree.size := by
    rw [bare.children]
    exact List.forall_mem_nil _
  have hadd := addWidget_unstyled h bare.plain hw leaf.attributes leaf.widget.kindName n
  rw [bare.renumber_eq] at hadd
  exact hadd.map fun _ _ => Sheds.place

theorem addRead_unstyled (h : a.Neat) {read : Except SyntaxError Leaf} (bare : Yields Leaf.Bare read) (n : Nat) :
    Alongside Strips (a.addRead read n) (a.unstyled.addRead read n) :=
  .after fun leaf hleaf => (addLeaf_unstyled h (bare leaf (liftError_eq_ok.1 hleaf)) n).lift

/-- The widget itself is the first one that is added for a leaf, whatever wraps it. -/
theorem plain_of_addLeaf {b : Assembly} {leaf : Leaf} (bare : leaf.Bare) (h : a.addLeaf leaf n = .ok b) :
    b.tree.Plain a.tree.size ∧ b.tree.rank a.tree.size = a.unstyled.tree.size := by
  obtain ⟨b, id, hadded, rfl⟩ := addLeaf_added h
  obtain ⟨about, -, hwrap⟩ := hadded.tree
  have hext := hwrap.grows
  constructor
  · have hfixed := hext.widget_fixed (show a.tree.size < (a.tree.add leaf.widget about).size by simp)
    rw [Tree.widget_add_self] at hfixed
    exact (Widget.isWrapper_congr hfixed).trans bare.plain
  · exact (((Tree.extends_add ..).trans hext).rank (Nat.le_refl _)).trans (Tree.size_unstyled _).symm

theorem clearGroup_unstyled (h : a.Neat) {keep : Nat} (hp : a.tree.Plain keep) (group : String) :
    Strips { a with tree := a.tree.clearGroup keep group }
      { a.unstyled with tree := a.unstyled.tree.clearGroup (a.tree.rank keep) group } := by
  have hfixed := Tree.fixed_clearGroup a.tree keep group
  have hext := Tree.extends_of_fixed hfixed
  have hlt := h.ordered.of_fixed hfixed
  refine ⟨h.grow hext hlt (h.styled.of_fixed hfixed), ?_⟩
  rw [unstyled_grow h hext hlt, Tree.unstyled_clearGroup hp]
  rfl

theorem addRadioButton_unstyled (h : a.Neat) {leaf : Leaf} (bare : leaf.Bare) (n : Nat) :
    Alongside Strips (a.addRadioButton leaf n) (a.unstyled.addRadioButton leaf n) := by
  refine (addLeaf_unstyled h bare n).bind fun b c hadd hstrips => ?_
  obtain ⟨hb, rfl⟩ := hstrips
  obtain ⟨hp, hrank⟩ := plain_of_addLeaf bare hadd
  split
  · rw [← hrank]
    exact .ok (clearGroup_unstyled hb hp _)
  · exact .ok ⟨hb, rfl⟩

theorem addBlank_unstyled (h : a.Neat) (n : Nat) : Strips (a.addBlank n) (a.unstyled.addBlank n) := by
  obtain ⟨hadded, hunstyled, -, hsize⟩ := add_unstyled h (w := .text "" .left) rfl (List.forall_mem_nil _) { line := n }
  have hsheds : Sheds ({ a with tree := a.tree.add (.text "" .left) { line := n } }, a.tree.size)
      ({ a.unstyled with tree := a.unstyled.tree.add (.text "" .left) { line := n } }, a.unstyled.tree.size) :=
    ⟨hadded, by simp, Prod.ext hunstyled.symm hsize.symm⟩
  exact hsheds.place

theorem openContainer_unstyled (h : a.Neat) (kind : ContainerKind) (n : Nat) (data : List Char) :
    Alongside Strips (a.openContainer kind n data) (a.unstyled.openContainer kind n data) := by
  refine .after fun ⟨attributes, arguments⟩ _ => .ok ⟨⟨h.ordered, h.styled, fun id hid => h.loose id ?_, h.names⟩, ?_⟩
  · simpa [loose] using hid
  · simp [unstyled, OpenContainer.renumber]

/-- The texts of a header or a footer. -/
theorem addText_unstyled (h : a.Neat) {leaf : Leaf} {data : List Char}
    (hleaf : liftError (Leaf.text n data) = (.ok leaf : Except FormError Leaf)) (className : String) :
    Alongside Sheds (liftError (a.addWidget leaf.widget leaf.attributes className n) :
      Except FormError (Assembly × Nat))
      (liftError (a.unstyled.addWidget leaf.widget leaf.attributes className n)) := by
  have bare : leaf.widget.Bare := Leaf.bare_text data leaf (liftError_eq_ok.1 hleaf)
  have hw : ∀ c ∈ leaf.widget.children, c < a.tree.size := by
    rw [bare.children]
    exact List.forall_mem_nil _
  have hadd := addWidget_unstyled h bare.plain hw leaf.attributes className n
  rw [bare.renumber_eq] at hadd
  exact hadd.lift

theorem addHeader_unstyled (h : a.Neat) (n : Nat) (data : List Char) :
    Alongside Strips (a.addHeader n data) (a.unstyled.addHeader n data) := by
  have hsome : a.unstyled.header.isSome = a.header.isSome := Option.isSome_map
  unfold addHeader
  rw [hsome]
  dsimp only
  split
  · exact .error _
  · refine .after fun leaf hleaf => (addText_unstyled h hleaf "header").bind fun ⟨b, id⟩ y _ hsheds => ?_
    obtain ⟨hb, hid, rfl⟩ := hsheds
    refine .ok ⟨⟨hb.ordered, hb.styled, fun i hi => ?_, hb.names⟩, rfl⟩
    by_cases hold : i = id
    · exact hold ▸ hid
    · refine hb.loose i ?_
      simp only [loose, Option.toList_some, List.mem_append, List.mem_singleton] at hi ⊢
      tauto

theorem addFooter_unstyled (h : a.Neat) (n : Nat) (data : List Char) :
    Alongside Strips (a.addFooter n data) (a.unstyled.addFooter n data) := by
  have hsome : a.unstyled.footer.isSome = a.footer.isSome := Option.isSome_map
  unfold addFooter
  rw [hsome]
  dsimp only
  split
  · exact .error _
  · refine .after fun leaf hleaf => (addText_unstyled h hleaf "footer").bind fun ⟨b, id⟩ y _ hsheds => ?_
    obtain ⟨hb, hid, rfl⟩ := hsheds
    refine .ok ⟨⟨hb.ordered, hb.styled, fun i hi => ?_, hb.names⟩, rfl⟩
    by_cases hold : i = id
    · exact hold ▸ hid
    · refine hb.loose i ?_
      simp only [loose, Option.toList_some, List.mem_append, List.mem_singleton] at hi ⊢
      tauto

theorem widestText_unstyled (hlt : t.Ordered) (ids : List Nat) :
    widestText t.unstyled (ids.map t.core) = widestText t ids := by
  have hw (id : Nat) : t.unstyled.widget (t.unstyled.unwrap (t.core id)) =
        (t.widget (t.unwrap id)).renumber t.core := by
    rw [Tree.unwrap_unstyled, Tree.core, Tree.widget_unstyled (Tree.plain_unwrap hlt id)]
  simp only [widestText, List.map_map, Function.comp_def, hw, Widget.text?_renumber, Widget.label?_renumber]

theorem closeContainer_unstyled (h : a.Neat) (n : Nat) (data : List Char) :
    Alongside Strips (a.closeContainer n data) (a.unstyled.closeContainer n data) := by
  unfold closeContainer
  dsimp only
  split
  · exact .error _
  · cases ho : a.opened with
    | nil =>
      rw [show a.unstyled.opened = [] by rw [unstyled, ho]; rfl]
      exact .error _
    | cons o opened =>
      rw [show a.unstyled.opened = o.renumber a.tree.core :: opened.map (·.renumber a.tree.core)
            by rw [unstyled, ho]; rfl]
      have hcontent : a.unstyled.content.toList = a.content.toList.map a.tree.core := rfl
      have hwidest : widestText a.unstyled.tree (a.content.toList.map a.tree.core) =
          widestText a.tree a.content.toList :=
        widestText_unstyled h.ordered _
      have hfirst : a.unstyled.tree.firstSelectable (a.content.toList.map a.tree.core) =
          a.tree.firstSelectable a.content.toList :=
        Tree.firstSelectable_unstyled h.ordered _
      dsimp only [OpenContainer.renumber]
      rw [hcontent, hwidest, hfirst, List.length_map]
      refine .after fun arrangement _ => ?_
      have houter : Neat { a with content := o.before, opened := opened } := by
        refine ⟨h.ordered, h.styled, fun id hid => h.loose id ?_, h.names⟩
        simp only [loose, ho, List.flatMap_cons, List.mem_append] at hid ⊢
        tauto
      have hadd := addWidget_unstyled houter
            (w := .container arrangement a.content.toList (a.tree.firstSelectable a.content.toList)) rfl
        (fun c hc => h.mem_content hc) o.attributes o.kind.name o.line
      exact (hadd.map fun _ _ => Sheds.place).lift

theorem addCommand_unstyled (h : a.Neat) (n : Nat) (opcode : Opcode) (data : List Char) :
    Alongside Strips (a.addCommand n opcode data) (a.unstyled.addCommand n opcode data) := by
  cases opcode with
  | header => exact addHeader_unstyled h n data
  | footer => exact addFooter_unstyled h n data
  | text => exact addRead_unstyled h (Leaf.bare_text data) n
  | button => exact addRead_unstyled h (Leaf.bare_button data) n
  | edit => exact addRead_unstyled h (Leaf.bare_edit data) n
  | checkBox => exact addRead_unstyled h (Leaf.bare_checkBox data) n
  | radioButton =>
    exact .after fun leaf hleaf =>
      (addRadioButton_unstyled h (Leaf.bare_radioButton data leaf (liftError_eq_ok.1 hleaf)) n).lift
  | divider => exact addRead_unstyled h (Leaf.bare_divider data) n
  | opening kind => exact (openContainer_unstyled h kind n data).lift
  | closing => exact closeContainer_unstyled h n data

theorem addLine_unstyled (h : a.Neat) (l : List Char × Nat) :
    Alongside Strips (a.addLine l) (a.unstyled.addLine l) := by
  refine .after fun line _ => ?_
  cases line with
  | comment => exact .ok ⟨h, rfl⟩
  | blank => exact .ok (addBlank_unstyled h l.2)
  | command opcode data => exact addCommand_unstyled h l.2 opcode data
  | rule fill data => exact addRead_unstyled h (Leaf.bare_rule fill data) l.2

theorem foldlM_unstyled (h : a.Neat) (lines : List (List Char × Nat)) :
    Alongside Strips (lines.foldlM addLine a) (lines.foldlM addLine a.unstyled) := by
  induction lines generalizing a with
  | nil => exact .ok ⟨h, rfl⟩
  | cons l lines ih =>
    refine (addLine_unstyled h l).bind fun b c _ hstrips => ?_
    obtain ⟨hb, rfl⟩ := hstrips
    exact ih hb

end Assembly

/-! ## Forms -/

namespace Form

/-- The form without styles. -/
def unstyled (f : Form) : Form where
  tree := f.tree.unstyled
  names := f.names.renumber f.tree.core
  strings := f.strings
  palette := {}
  header := f.header.map f.tree.core
  footer := f.footer.map f.tree.core
  body := f.tree.core f.body
  root := f.tree.core f.root

/-- It refers to widgets that are there, and by name to no wrapper. All its wrappers come from styles. -/
structure Neat (f : Form) : Prop where
  ordered : f.tree.Ordered
  styled : f.tree.Styled
  names : ∀ e ∈ f.names.entries, e.2 < f.tree.size ∧ f.tree.Plain e.2
  header : ∀ id, f.header = some id → id < f.tree.size
  footer : ∀ id, f.footer = some id → id < f.tree.size
  body : f.body < f.tree.size ∧ f.tree.Plain f.body
  root : f.root < f.tree.size

/-- The second form is the first one without styles. -/
structure Strips (f g : Form) : Prop where
  neat : f.Neat
  eq : g = f.unstyled

end Form

namespace Assembly

variable {a : Assembly}

theorem list_unstyled (h : a.Neat) : a.unstyled.list = a.list.renumber a.tree.core :=
  congrArg (Widget.container (.list none false) (a.content.toList.map a.tree.core))
    (Tree.firstSelectable_unstyled h.ordered _)

theorem Sheds.toForm {x y : Assembly × Nat} (h : Sheds x y) {body body' : Nat} (hbody : body < x.1.tree.size)
    (hp : x.1.tree.Plain body) (hcore : x.1.tree.core body = body') : Form.Strips (toForm body x) (toForm body' y) := by
  obtain ⟨hneat, hroot, rfl⟩ := h
  subst hcore
  exact ⟨⟨hneat.ordered, hneat.styled, hneat.names, fun _ => hneat.mem_header,
      fun _ => hneat.mem_footer, ⟨hbody, hp⟩, hroot⟩,
    rfl⟩

theorem finish_unstyled (h : a.Neat) : Alongside Form.Strips a.finish a.unstyled.finish := by
  cases ho : a.opened with
  | cons o rest =>
    have ho' : a.unstyled.opened = o.renumber a.tree.core :: rest.map (·.renumber a.tree.core) := by
      rw [unstyled, ho]
      rfl
    rw [finish_of_opened ho, finish_of_opened ho', List.length_map]
    exact .error _
  | nil =>
    have ho' : a.unstyled.opened = [] := by
      rw [unstyled, ho]
      rfl
    obtain ⟨hadded, hunstyled, hp, hsize⟩ := add_unstyled h (w := a.list) rfl (fun c hc => h.mem_content hc) {}
    have hlt : a.tree.size < (a.tree.add a.list {}).size := by simp
    have hsheds := applyStyle_unstyled hadded hlt ["Frame"]
    -- The body is the list itself, inside the wrapper that it may have.
    have hext := (Tree.wrapped_wrapStyle (a.tree.add a.list {}) a.tree.size a.palette ["Frame"]).grows
    have hbody := hext.core hadded.ordered hsheds.neat.ordered hlt
    have hbare : applyStyle { a.unstyled with tree := a.unstyled.tree.add a.unstyled.list {} } a.unstyled.tree.size ["Frame"] =
        (unstyled { a with tree := a.tree.add a.list {} }, (a.tree.add a.list {}).core a.tree.size) := by
      rw [applyStyle_empty rfl, list_unstyled h, ← hunstyled, ← hsize]
    rw [finish_of_closed ho, finish_of_closed ho', hbare]
    refine .ok (hsheds.toForm (Nat.lt_of_lt_of_le (by simp) hext.1) ?_ (hbody.trans hsize))
    exact (Widget.isWrapper_congr (hext.widget_fixed (by simp))).trans hp

end Assembly

theorem Form.parse_unstyled (description : String) (palette : Palette) (strings : StringTable) :
    Alongside Form.Strips (parse description palette strings) (parse description {} strings) :=
  .after fun text _ => (Assembly.foldlM_unstyled (Assembly.neat_initial palette strings) (numberedLines text)).bind
    fun a b _ hstrips => by
      obtain ⟨ha, rfl⟩ := hstrips
      exact Assembly.finish_unstyled ha

end ScreenForm
