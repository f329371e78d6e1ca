import ScreenForm.Proofs.Description.Range
import ScreenForm.Proofs.Dialog.Panel
import ScreenForm.Proofs.Form.Use
/-!
# How a form is made

A form, in a dialog or not, is made by adding widgets to a tree, one after the
other (`Adds`). Each line adds widgets that passed all checks, a dialog adds some
that have no name and no bindings, and use of the form adds nothing
(`Form.InUse.made`). So its widgets have the sizes of a screen (`Form.InUse.sized`).
-/

namespace ScreenForm

open Description Relation

/-! ## One widget more -/

/-- The widget can produce the events that are bound, and the keys of the footer are defined. -/
structure Meta.Fits (m : Meta) (w : Widget) (strings : StringTable) : Prop where
  plain : w.isWrapper = false
  accepts : ∀ kind responder, m.events.get? kind = some responder → kind.accepts w
  defined : ∀ key, m.info = some key ∨ m.tooltip = some key → ∃ text, strings.get key = .ok text

/-- What happens to the tree and to the names when a form is made. -/
inductive Adds (strings : StringTable) : Tree × NameTable → Tree × NameTable → Prop
  | widget {t : Tree} {names names' : NameTable} {w : Widget} {m : Meta} (fits : m.Fits w strings) (sized : w.Sized)
      (registered : Assembly.registerName names m.id t.size = .ok names') : Adds strings (t, names) (t.add w m, names')
  | wrapper {t : Tree} {names : NameTable} {wrapping : Wrapping} {child : Nat} (narrow : wrapping.Narrow) :
      Adds strings (t, names) (t.add (.wrapper wrapping child) {}, names)
  | cleared {t : Tree} {names : NameTable} (keep : Nat) (group : String) :
      Adds strings (t, names) (t.clearGroup keep group, names)

/-- What happens to them in the end. -/
abbrev Made (strings : StringTable) : Tree × NameTable → Tree × NameTable → Prop :=
  ReflTransGen (Adds strings)

theorem Meta.fits_empty {w : Widget} (plain : w.isWrapper = false) (line : Nat)
    (strings : StringTable) : Meta.Fits { line := line } w strings where
  plain := plain
  accepts kind responder h := by cases kind <;> cases h
  defined := by rintro key (h | h) <;> cases h

section

variable {strings : StringTable} {names : NameTable} {t : Tree}

/-- A widget that has neither a name nor a binding. -/
theorem made_nameless {w : Widget} (plain : w.isWrapper = false) (sized : w.Sized) (line : Nat) :
    Made strings (t, names) (t.add w { line := line }, names) :=
  .single (.widget (Meta.fits_empty plain line strings) sized rfl)

theorem made_wrapStyle (t : Tree) (id : Nat) (palette : Palette) (styles : List String) :
    Made strings (t, names) ((t.wrapStyle id palette styles).1, names) := by
  unfold Tree.wrapStyle
  split
  · exact .refl
  · exact .single (.wrapper trivial)

end

/-! ## Lines -/

theorem Widget.Bare.plain {w : Widget} (h : w.Bare) : w.isWrapper = false := by
  cases w with
  | wrapper wrapping child => cases h.children
  | _ => rfl

namespace Assembly

/-- The tree and the names grew into those of the other assembly. -/
structure Makes (a a' : Assembly) : Prop where
  strings : a'.strings = a.strings
  made : Made a.strings (a.tree, a.names) (a'.tree, a'.names)

variable {a a' a'' : Assembly} {n id : Nat} {data : List Char}

theorem Makes.refl (a : Assembly) : a.Makes a := ⟨rfl, .refl⟩

theorem Makes.trans (h : a.Makes a') (h' : a'.Makes a'') : a.Makes a'' :=
  ⟨h'.strings.trans h.strings, h.made.trans (h.strings ▸ h'.made)⟩

theorem accepts_of_checkBindings {w : Widget} {events : Bindings} (h : checkBindings w events n = .ok ())
    {kind : EventKind} {responder : String} (hr : events.get? kind = some responder) : kind.accepts w := by
  unfold checkBindings at h
  split at h
  · cases h
  · next hnone => simpa using List.find?_eq_none.1 hnone _ (Bindings.mem_toList.2 hr)

theorem defined_of_checkKeys {strings : StringTable} {attributes : Attributes}
    (h : checkKeys strings attributes = .ok ())
    {key : String} (hkey : attributes.info = some key ∨ attributes.tooltip = some key) :
    ∃ text, strings.get key = .ok text := by
  have hmem : key ∈ attributes.info.toList ++ attributes.tooltip.toList := by
    simpa [Option.mem_toList] using hkey
  unfold checkKeys at h
  generalize attributes.info.toList ++ attributes.tooltip.toList = keys at h hmem
  induction keys with
  | nil => cases hmem
  | cons k keys ih =>
    obtain ⟨_, hk, h⟩ := Except.bind_eq_ok.1 h
    obtain ⟨text, htext, -⟩ := Except.bind_eq_ok.1 hk
    rcases List.mem_cons.1 hmem with rfl | hmem
    · exact ⟨text, htext⟩
    · exact ih h hmem

theorem addWidget_makes {w : Widget} {attributes : Attributes} {className : String}
    (plain : w.isWrapper = false) (sized : w.Sized) (h : a.addWidget w attributes className n = .ok (a', id)) :
    a.Makes a' := by
  unfold addWidget at h
  obtain ⟨_, hbindings, h⟩ := Except.bind_eq_ok.1 h
  obtain ⟨_, hkeys, h⟩ := Except.bind_eq_ok.1 h
  obtain ⟨names, hnames, h⟩ := Except.bind_eq_ok.1 h
  cases h
  refine ⟨rfl, .head (.widget ⟨plain, ?_, ?_⟩ sized hnames) (made_wrapStyle ..)⟩
  · exact fun kind responder hr => accepts_of_checkBindings hbindings hr
  · exact fun key hkey => defined_of_checkKeys hkeys hkey

theorem addLeaf_makes {leaf : Leaf} (bare : leaf.Bare) (sized : leaf.Sized) (h : a.addLeaf leaf n = .ok a') :
    a.Makes a' := by
  obtain ⟨⟨b, id⟩, hb, rfl⟩ := Except.map_eq_ok.1 h
  have hm := addWidget_makes bare.plain sized hb
  exact ⟨hm.strings, hm.made⟩

theorem addRead_makes {read : Except SyntaxError Leaf} (bare : Yields Leaf.Bare read) (sized : Yields Leaf.Sized read)
    (h : a.addRead read n = .ok a') : a.Makes a' := by
  obtain ⟨leaf, hleaf, h⟩ := Except.bind_eq_ok.1 h
  have hleaf := liftError_eq_ok.1 hleaf
  exact addLeaf_makes (bare leaf hleaf) (sized leaf hleaf) (liftError_eq_ok.1 h)

theorem addRadioButton_makes {leaf : Leaf} (bare : leaf.Bare) (sized : leaf.Sized)
    (h : a.addRadioButton leaf n = .ok a') : a.Makes a' := by
  obtain ⟨b, hb, h⟩ := Except.bind_eq_ok.1 h
  have hm := addLeaf_makes bare sized hb
  split at h
  · cases h
    exact ⟨hm.strings, hm.made.tail (.cleared ..)⟩
  · cases h
    exact hm

/-- A header or a footer. -/
theorem addText_makes {attributes : Attributes} {className : String} {leaf : Leaf} {x : Assembly × Nat}
    (hleaf : liftError (Leaf.text n data) = (.ok leaf : Except FormError Leaf))
    (hx : liftError (a.addWidget leaf.widget attributes className n) = (.ok x : Except FormError (Assembly × Nat))) :
    a.Makes x.1 := by
  have hleaf := liftError_eq_ok.1 hleaf
  exact addWidget_makes (Leaf.bare_text data leaf hleaf).plain (Leaf.sized_text data leaf hleaf) (liftError_eq_ok.1 hx)

theorem addHeader_makes (h : a.addHeader n data = .ok a') : a.Makes a' := by
  unfold addHeader at h
  dsimp only at h
  split at h
  · cases h
  · obtain ⟨leaf, hleaf, h⟩ := Except.bind_eq_ok.1 h
    obtain ⟨x, hx, h⟩ := Except.bind_eq_ok.1 h
    cases h
    have hm := addText_makes hleaf hx
    exact ⟨hm.strings, hm.made⟩

theorem addFooter_makes (h : a.addFooter n data = .ok a') : a.Makes a' := by
  unfold addFooter at h
  dsimp only at h
  split at h
  · cases h
  · obtain ⟨leaf, hleaf, h⟩ := Except.bind_eq_ok.1 h
    obtain ⟨x, hx, h⟩ := Except.bind_eq_ok.1 h
    cases h
    have hm := addText_makes hleaf hx
    exact ⟨hm.strings, hm.made⟩

theorem openContainer_makes {kind : ContainerKind} (h : a.openContainer kind n data = .ok a') : a.Makes a' := by
  obtain ⟨⟨attributes, arguments⟩, -, h⟩ := Except.bind_eq_ok.1 h
  cases h
  exact ⟨rfl, .refl⟩

theorem closeContainer_makes (h : a.closeContainer n data = .ok a') : a.Makes a' := by
  unfold closeContainer at h
  dsimp only at h
  split at h
  · cases h
  split at h
  · cases h
  · next o rest ho =>
    obtain ⟨arrangement, harrangement, h⟩ := Except.bind_eq_ok.1 h
    obtain ⟨⟨b, id⟩, hb, rfl⟩ := Except.map_eq_ok.1 (liftError_eq_ok.1 h)
    have hsized := Leaf.yields_readAll _ _ (o.kind.gives_sized _ _ _) arrangement (liftError_eq_ok.1 harrangement)
    have hm := addWidget_makes (w := .container arrangement _ _) rfl hsized hb
    exact ⟨hm.strings, hm.made⟩

theorem addCommand_makes {opcode : Opcode} (h : a.addCommand n opcode data = .ok a') : a.Makes a' := by
  cases opcode with
  | header => exact addHeader_makes h
  | footer => exact addFooter_makes h
  | text => exact addRead_makes (Leaf.bare_text data) (Leaf.sized_text data) h
  | button => exact addRead_makes (Leaf.bare_button data) (Leaf.sized_button data) h
  | edit => exact addRead_makes (Leaf.bare_edit data) (Leaf.sized_edit data) h
  | checkBox => exact addRead_makes (Leaf.bare_checkBox data) (Leaf.sized_checkBox data) h
  | radioButton =>
    obtain ⟨leaf, hleaf, h⟩ := Except.bind_eq_ok.1 h
    have hleaf := liftError_eq_ok.1 hleaf
    exact addRadioButton_makes (Leaf.bare_radioButton data leaf hleaf) (Leaf.sized_radioButton data leaf hleaf)
      (liftError_eq_ok.1 h)
  | divider => exact addRead_makes (Leaf.bare_divider data) (Leaf.sized_divider data) h
  | opening kind => exact openContainer_makes (liftError_eq_ok.1 h)
  | closing => exact closeContainer_makes h

theorem addLine_makes {l : List Char × Nat} (h : a.addLine l = .ok a') : a.Makes a' := by
  obtain ⟨line, hline, h⟩ := Except.bind_eq_ok.1 h
  cases line with
  | comment =>
    cases h
    exact .refl a
  | blank =>
    cases h
    exact ⟨rfl, made_nameless (w := .text "" .left) rfl trivial _⟩
  | command opcode data => exact addCommand_makes h
  | rule fill data => exact addRead_makes (Leaf.bare_rule fill data) (Leaf.sized_rule fill data) h

theorem foldlM_makes {lines : List (List Char × Nat)} (h : lines.foldlM addLine a = .ok a') : a.Makes a' := by
  induction lines generalizing a with
  | nil =>
    cases h
    exact .refl _
  | cons l lines ih =>
    obtain ⟨b, hb, h⟩ := Except.bind_eq_ok.1 h
    exact (addLine_makes hb).trans (ih h)

theorem finish_makes {f : Form} (h : a.finish = .ok f) :
    f.strings = a.strings ∧ Made a.strings (a.tree, a.names) (f.tree, f.names) := by
  unfold finish at h
  split at h
  · cases h
  · cases h
    exact ⟨rfl, (made_nameless rfl (Nat.zero_le _) 0).trans (made_wrapStyle _ _ a.palette ["Frame"])⟩

end Assembly

theorem Form.parse_made {description : String} {palette : Palette} {strings : StringTable} {f : Form}
    (h : parse description palette strings = .ok f) :
    f.strings = strings ∧ Made strings ({}, {}) (f.tree, f.names) := by
  obtain ⟨_, a, -, ha, hf⟩ := parse_ok h
  obtain ⟨hstrings, hmade⟩ := Assembly.foldlM_makes ha
  obtain ⟨hs, hm⟩ := Assembly.finish_makes hf
  exact ⟨hs.trans hstrings, hmade.trans (hstrings ▸ hm)⟩

/-! ## Dialogs -/

namespace Panel

/-- The widgets that dressing up adds. -/
inductive Trim : Widget → Prop
  | text (text : String) : Trim (.text text .left)
  | spacer : Trim (.divider ' ' "" 0 0)
  | pile (children : List Nat) (focus : Nat) : Trim (.container .pile children focus)
  | columns {widths : List ColumnWidth} (known : ∀ w ∈ widths, w = .weight 1 ∨ w = .fixed shadowWidth)
      (children : List Nat) : Trim (.container (.columns widths 0) children 0)
  | padding (child : Nat) : Trim (.wrapper (.padding 1 1) child)
  | styled (normal focus : Style) (names : StyleNames) (child : Nat) :
      Trim (.wrapper (.styled normal focus names) child)

theorem Trim.sized {w : Widget} (h : Trim w) : w.Sized := by
  cases h with
  | text | pile | styled => trivial
  | spacer => exact ⟨by decide, by decide⟩
  | columns known =>
    refine ⟨fun w hw => ?_, Nat.zero_le _⟩
    rcases known w hw with rfl | rfl <;> decide
  | padding => exact (by decide : 1 + 1 ≤ maxCells)

/-- `R` relates a tree to what becomes of it when trims are added. -/
structure Closed (R : Tree → Tree → Prop) : Prop where
  refl : ∀ t, R t t
  trans : ∀ t t' t'', R t t' → R t' t'' → R t t''
  add : ∀ t w, Trim w → R t (t.add w {})

/-- `R` relates every tree to what a step makes of it. -/
def Relates (R : Tree → Tree → Prop) {α : Type} (x : Build α) : Prop :=
  ∀ t, R t (x.run t).2

section

variable {R : Tree → Tree → Prop} (hR : Closed R) {α β : Type}
include hR

theorem relates_pure (a : α) : Relates R (Pure.pure a : Build α) := fun t => hR.refl t

theorem relates_bind {x : Build α} {f : α → Build β} (hx : Relates R x) (hf : ∀ a, Relates R (f a)) :
    Relates R (x >>= f) :=
  fun t => hR.trans t _ _ (hx t) (hf _ _)

theorem relates_add {w : Widget} (h : Trim w) : Relates R (add w) := fun t => hR.add t w h

theorem relates_wrap (palette : Palette) (name : String) (id : Nat) : Relates R (wrap palette name id) := by
  intro t
  show R t (t.wrapStyle id palette [name]).1
  unfold Tree.wrapStyle
  split
  · exact hR.refl t
  · exact hR.add t _ (.styled ..)

theorem relates_text (palette : Palette) (name text : String) :
    Relates R (do wrap palette name (← add (.text text .left))) :=
  relates_bind hR (relates_add hR (.text text)) fun id => relates_wrap hR palette name id

theorem relates_above (f : Form) (header : Option String) : Relates R (above f header) := by
  have hheader : Relates R (headerOf f header) := by
    cases header with
    | none => exact relates_pure hR _
    | some text =>
      exact relates_bind hR (relates_add hR (.text text)) fun id =>
        relates_bind hR (relates_wrap hR f.palette "header" id) fun _ => relates_pure hR _
  refine relates_bind hR hheader fun id? => ?_
  cases id? with
  | none => exact relates_pure hR _
  | some id => exact relates_bind hR (relates_add hR .spacer) fun _ => relates_pure hR _

theorem relates_below (f : Form) : Relates R (below f) := by
  unfold below
  split
  · exact relates_bind hR (relates_add hR .spacer) fun _ => relates_pure hR _
  · exact relates_pure hR _

theorem relates_content (f : Form) (header : Option String) : Relates R (content f header) := by
  refine relates_bind hR (relates_above hR f header) fun above => relates_bind hR (relates_below hR f) fun below => ?_
  split
  · exact relates_pure hR _
  · exact relates_add hR (.pile ..)

theorem relates_withShadow (palette : Palette) (framed : Nat) : Relates R (withShadow palette framed) :=
  relates_bind hR (relates_text hR palette "shadow" "") fun _ =>
    relates_bind hR (relates_text hR palette "shadow.border" "") fun _ =>
      relates_bind hR (relates_text hR palette "shadow" "") fun _ =>
        relates_bind hR (relates_add hR (.columns (by simp) _)) fun _ =>
          relates_bind hR (relates_add hR (.columns (by simp) _)) fun _ => relates_add hR (.pile ..)

theorem relates_dress (f : Form) (header : Option String) : Relates R (dress f header) := by
  refine relates_bind hR (relates_content hR f header) fun inner => ?_
  refine relates_bind hR (relates_add hR (.padding inner)) fun padded => ?_
  refine relates_bind hR (relates_wrap hR f.palette "dialog" padded) fun framed => ?_
  split
  · exact relates_withShadow hR f.palette framed
  · exact relates_pure hR _

end

/-- What dressing up adds has no name. -/
theorem closed_made : Closed fun t t' => ∀ strings names, Made strings (t, names) (t', names) where
  refl _ _ _ := .refl
  trans _ _ _ h h' strings names := (h strings names).trans (h' strings names)
  add t w h strings names := by
    have hsized := h.sized
    cases h with
    | text | spacer | pile | columns => exact made_nameless rfl hsized 0
    | padding | styled => exact .single (.wrapper hsized)

end Panel

/-- A dialog takes over the names and the strings of the form that it shows. -/
theorem DialogPlan.build_made {H E : Type} {plan : DialogPlan H E} {base : Palette} {d : Dialog H E}
    (h : plan.build base = .ok d) :
    d.form.strings = plan.strings ∧ Made plan.strings ({}, {}) (d.form.tree, d.form.names) := by
  obtain ⟨palette, -, h⟩ := Except.bind_eq_ok.1 h
  obtain ⟨form, hform, h⟩ := Except.bind_eq_ok.1 h
  cases h
  obtain ⟨hstrings, hmade⟩ := Form.parse_made hform
  have hdress := Panel.relates_dress Panel.closed_made form plan.header form.tree plan.strings form.names
  exact ⟨hstrings, hmade.trans hdress⟩

/-! ## Forms in use -/

theorem Tree.sized_of_made {strings : StringTable} {x : Tree × NameTable} (h : Made strings ({}, {}) x) :
    x.1.Sized := by
  induction h with
  | refl => exact Tree.sized_empty
  | tail _ hadds ih =>
    cases hadds with
    | widget fits sized registered => exact ih.add sized _
    | @wrapper _ _ wrapping child narrow => exact ih.add (w := .wrapper wrapping child) narrow _
    | cleared keep group => exact ih.clearGroup keep group

namespace Form

/-- Only the tree of a form is used. -/
theorem use_eq (f : Form) (u : FormUse) : f.use u = { f with tree := (f.use u).tree } := by
  have hchange (name : String) (write : Widget → Option Widget) (missing : String → RuntimeError) :
      (f.change name write missing).toOption.getD f =
        { f with tree := ((f.change name write missing).toOption.getD f).tree } := by
    obtain heq | ⟨_, _, -, heq⟩ := f.change_cases name write missing <;> rw [heq]
  cases u with
  | setText name text => exact hchange ..
  | setEditText name text => exact hchange ..
  | _ => rfl

theorem InUse.made {f : Form} (h : f.InUse) : ∃ t, f.tree.fixed = t.fixed ∧ Made f.strings ({}, {}) (t, f.names) := by
  induction h with
  | parsed h =>
    obtain ⟨hstrings, hmade⟩ := parse_made h
    exact ⟨_, rfl, hstrings ▸ hmade⟩
  | built h =>
    obtain ⟨hstrings, hmade⟩ := DialogPlan.build_made h
    exact ⟨_, rfl, hstrings ▸ hmade⟩
  | @used f _ u ih =>
    obtain ⟨t, hfixed, hmade⟩ := ih
    refine ⟨t, (f.fixed_use u).trans hfixed, ?_⟩
    rw [f.use_eq u]
    exact hmade

theorem InUse.sized {f : Form} (h : f.InUse) : f.tree.Sized := by
  induction h with
  | parsed h => exact Tree.sized_of_made (parse_made h).2
  | built h => exact Tree.sized_of_made (DialogPlan.build_made h).2
  | @used f _ u ih => exact Tree.turns_sized.use f u ih

end Form

end ScreenForm
