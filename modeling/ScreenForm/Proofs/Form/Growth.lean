import Mathlib.Data.List.Infix
import ScreenForm.Proofs.Description.Bracket
import ScreenForm.Proofs.Description.Fault
import ScreenForm.Proofs.Widget.Shape
/-!
# What a line adds to a form

`Grown a n role a'` lists all that line `n` can make of an assembly (`addLine_grown`).
If the line makes none, its error is one of some line, or it closes a container
and none is open (`failsOnly_addLine`).
-/

namespace ScreenForm

open Description

/-- A result, if there is one, satisfies `Q`. -/
def Yields {ε α : Type} (Q : α → Prop) (x : Except ε α) : Prop := ∀ a, x = .ok a → Q a

namespace Yields

variable {ε α β : Type} {Q : α → Prop} {R : β → Prop}

theorem ok {a : α} (h : Q a) : Yields Q (.ok a : Except ε α) := by intro a' ha; cases ha; exact h

theorem error (e : ε) : Yields Q (.error e) := by intro a ha; cases ha

theorem bind {x : Except ε α} {f : α → Except ε β} (hf : ∀ a, Yields R (f a)) : Yields R (x >>= f) := by
  cases x with
  | ok a => exact hf a
  | error e => exact .error e

theorem bind_of {x : Except ε α} {f : α → Except ε β} (hx : Yields Q x) (hf : ∀ a, Q a → Yields R (f a)) :
    Yields R (x >>= f) := by
  cases x with
  | ok a => exact hf a (hx a rfl)
  | error e => exact .error e

end Yields

/-! ## Leaves have no children -/

/-- The widget has no children, and has no place for any. -/
structure Widget.Bare (w : Widget) : Prop where
  children : w.children = []
  isContainer : w.isContainer = false

namespace Description.Leaf

def Bare (leaf : Leaf) : Prop := leaf.widget.Bare

variable {n : Nat}

theorem bare_text (data : List Char) : Yields Bare (Leaf.text n data) := by
  unfold Leaf.text
  split
  exact .bind fun _ => .bind fun _ => .ok ⟨rfl, rfl⟩

theorem still_text (data : List Char) : Yields (·.widget.isFocusable = false) (Leaf.text n data) := by
  unfold Leaf.text
  split
  exact .bind fun _ => .bind fun _ => .ok rfl

theorem bare_button (data : List Char) : Yields Bare (Leaf.button n data) := by
  unfold Leaf.button
  split
  · exact .bind fun _ => .bind fun _ => .ok ⟨rfl, rfl⟩
  · exact .error _

theorem bare_edit (data : List Char) : Yields Bare (Leaf.edit n data) := by
  unfold Leaf.edit
  dsimp only
  split
  · exact .error _
  · exact .bind fun _ => .bind fun _ => .ok ⟨rfl, rfl⟩

theorem bare_checkBox (data : List Char) : Yields Bare (Leaf.checkBox n data) := by
  unfold Leaf.checkBox
  split
  · exact .error _
  · exact .bind fun _ => .bind fun _ => .ok ⟨rfl, rfl⟩

theorem bare_radioButton (data : List Char) : Yields Bare (Leaf.radioButton n data) := by
  unfold Leaf.radioButton
  split
  · exact .error _
  · exact .bind fun _ => .bind fun _ => .ok ⟨rfl, rfl⟩

/-- What a reader of arguments gives satisfies `Q`. -/
def Gives {α : Type} (Q : α → Prop) (reader : ArgumentReader α) : Prop :=
  ∀ args, Yields Q (reader.run.run args).1

theorem Gives.bind {α β : Type} {Q : β → Prop} {r : ArgumentReader α} {f : α → ArgumentReader β}
    (hf : ∀ a, Gives Q (f a)) : Gives Q (r >>= f) := by
  intro args b hb
  rw [ExceptT.run_bind, StateT.run_bind] at hb
  rcases hx : r.run.run args with ⟨_ | a, args'⟩
  · rw [hx] at hb
    cases hb
  · rw [hx] at hb
    exact hf a args' b hb

theorem Gives.pure {α : Type} {Q : α → Prop} {a : α} (h : Q a) : Gives Q (Pure.pure a) := fun _ => .ok h

theorem gives_dividerOf (fill : Char) : Gives Widget.Bare (dividerOf n fill) :=
  .bind fun _ => .bind fun _ => .pure ⟨rfl, rfl⟩

theorem yields_readAll {α : Type} {Q : α → Prop} (args : Arguments) (widget : String) {reader : ArgumentReader α}
    (h : Gives Q reader) : Yields Q (args.readAll widget n reader) := by
  intro a ha
  unfold Arguments.readAll at ha
  dsimp only at ha
  rw [ExceptT.run_bind, StateT.run_bind] at ha
  rcases hx : reader.run.run args with ⟨_ | b, args'⟩
  · rw [hx] at ha
    cases ha
  · rw [hx] at ha
    have hb := h args b (by rw [hx])
    -- The check for arguments that are left over changes nothing of the result.
    have hg : Gives (· = b) (do ArgumentReader.finish widget n; return b) := .bind fun _ => .pure rfl
    exact hg args' a ha ▸ hb

theorem bare_divider (data : List Char) : Yields Bare (Leaf.divider n data) :=
  .bind fun _ => .bind_of (yields_readAll _ _ (.bind fun fill => gives_dividerOf fill)) fun _ h => .ok h

theorem bare_rule (fill : Char) (data : List Char) : Yields Bare (Leaf.rule n fill data) := by
  unfold Leaf.rule
  refine .bind fun ⟨attributes, args⟩ => ?_
  dsimp only
  split
  · exact .error _
  · exact .bind_of (yields_readAll _ _ (gives_dividerOf fill)) fun _ h => .ok h

end Description.Leaf

/-! ## One widget more -/

namespace Tree

/-- `outer` is the widget `id`, or a new wrapper around it. -/
inductive Wrapped (t : Tree) (id : Nat) : Tree → Nat → Prop
  | bare : Wrapped t id t id
  | styled (wrapping : Wrapping) : Wrapped t id (t.add (.wrapper wrapping id) {}) t.size

theorem wrapped_wrapStyle (t : Tree) (id : Nat) (palette : Palette) (names : List String) :
    t.Wrapped id (t.wrapStyle id palette names).1 (t.wrapStyle id palette names).2 := by
  unfold wrapStyle
  split
  · exact .bare
  · exact .styled _

end Tree

namespace Assembly

/-- The assembly `a'` is `a` with a widget more, which line `line` describes; `id` is its number or the one of the
wrapper around it. -/
structure Added (a : Assembly) (w : Widget) (line : Nat) (a' : Assembly) (id : Nat) : Prop where
  tree : ∃ about : Meta, about.line = line ∧ (a.tree.add w about).Wrapped a.tree.size a'.tree id
  content : a'.content = a.content
  opened : a'.opened = a.opened
  header : a'.header = a.header
  footer : a'.footer = a.footer

/-- What line `n` makes of an assembly, when it is of this role. -/
inductive Grown (a : Assembly) (n : Nat) : Role → Assembly → Prop
  | comment : Grown a n .aside a
  | header {w : Widget} {a' : Assembly} {id : Nat} (bare : w.Bare) (still : w.isFocusable = false)
      (added : a.Added w n a' id) (first : a.header = none) : Grown a n .aside { a' with header := some id }
  | footer {w : Widget} {a' : Assembly} {id : Nat} (bare : w.Bare) (still : w.isFocusable = false)
      (added : a.Added w n a' id) (first : a.footer = none) : Grown a n .aside { a' with footer := some id }
  | leaf {w : Widget} {a' : Assembly} {id : Nat} {t : Tree} (bare : w.Bare) (added : a.Added w n a' id)
      (agrees : a'.tree.Agrees t) : Grown a n .leaf { a' with tree := t, content := a'.content.push id }
  | opened (o : OpenContainer) (line : o.line = n) (before : o.before = a.content) :
      Grown a n .opening { a with content := #[], opened := o :: a.opened }
  | closed {o : OpenContainer} {rest : List OpenContainer} {arrangement : Arrangement} {a' : Assembly} {id : Nat}
      (opened : a.opened = o :: rest)
      (added : ({ a with content := o.before, opened := rest } : Assembly).Added
        (.container arrangement a.content.toList (a.tree.firstSelectable a.content.toList)) o.line a' id) :
      Grown a n .closing { a' with content := a'.content.push id }

variable {a a' : Assembly} {n : Nat}

theorem addWidget_added {w : Widget} {attributes : Attributes} {className : String} {id : Nat}
    (h : a.addWidget w attributes className n = .ok (a', id)) : a.Added w n a' id := by
  unfold addWidget at h
  obtain ⟨-, -, h⟩ := Except.bind_eq_ok.1 h
  obtain ⟨-, -, h⟩ := Except.bind_eq_ok.1 h
  obtain ⟨names, -, h⟩ := Except.bind_eq_ok.1 h
  cases h
  exact ⟨⟨_, rfl, Tree.wrapped_wrapStyle ..⟩, rfl, rfl, rfl, rfl⟩

theorem addLeaf_added {leaf : Leaf} (h : a.addLeaf leaf n = .ok a') :
    ∃ b id, a.Added leaf.widget n b id ∧ a' = { b with content := b.content.push id } := by
  obtain ⟨⟨b, id⟩, hb, rfl⟩ := Except.map_eq_ok.1 h
  exact ⟨b, id, addWidget_added hb, rfl⟩

theorem addRead_grown {read : Except SyntaxError Leaf} (hbare : Yields Leaf.Bare read)
    (h : a.addRead read n = .ok a') : a.Grown n .leaf a' := by
  obtain ⟨leaf, hleaf, h⟩ := Except.bind_eq_ok.1 h
  obtain ⟨b, id, hb, rfl⟩ := addLeaf_added (liftError_eq_ok.1 h)
  exact .leaf (hbare leaf (liftError_eq_ok.1 hleaf)) hb (.refl _)

theorem addBlank_grown (a : Assembly) (n : Nat) : a.Grown n .leaf (a.addBlank n) := by
  have added : a.Added (.text "" .left) n { a with tree := a.tree.add (.text "" .left) { line := n } } a.tree.size :=
    ⟨⟨_, rfl, .bare⟩, rfl, rfl, rfl, rfl⟩
  have grown := Grown.leaf ⟨rfl, rfl⟩ added (.refl _)
  exact grown

theorem addRadioButton_grown {leaf : Leaf} (hbare : leaf.Bare) (h : a.addRadioButton leaf n = .ok a') :
    a.Grown n .leaf a' := by
  obtain ⟨c, hc, h⟩ := Except.bind_eq_ok.1 h
  obtain ⟨b, id, hb, rfl⟩ := addLeaf_added hc
  split at h
  · cases h
    exact .leaf hbare hb (Tree.agrees_clearGroup ..)
  · cases h
    exact .leaf hbare hb (.refl _)

/-- The text of a header or a footer. -/
theorem addText_added {data : List Char} {leaf : Leaf} {attributes : Attributes} {className : String}
    {x : Assembly × Nat} (hleaf : liftError (Leaf.text n data) = (.ok leaf : Except FormError Leaf))
    (hx : liftError (a.addWidget leaf.widget attributes className n) = (.ok x : Except FormError (Assembly × Nat))) :
    leaf.widget.Bare ∧ leaf.widget.isFocusable = false ∧ a.Added leaf.widget n x.1 x.2 := by
  have hleaf := liftError_eq_ok.1 hleaf
  exact ⟨Leaf.bare_text _ leaf hleaf, Leaf.still_text _ leaf hleaf, addWidget_added (liftError_eq_ok.1 hx)⟩

theorem addHeader_grown {data : List Char} (h : a.addHeader n data = .ok a') : a.Grown n .aside a' := by
  unfold addHeader at h
  dsimp only at h
  split at h
  · cases h
  · next hnone =>
    obtain ⟨leaf, hleaf, h⟩ := Except.bind_eq_ok.1 h
    obtain ⟨⟨b, id⟩, hb, h⟩ := Except.bind_eq_ok.1 h
    cases h
    obtain ⟨bare, still, added⟩ := addText_added hleaf hb
    exact .header bare still added (by simpa using hnone)

theorem addFooter_grown {data : List Char} (h : a.addFooter n data = .ok a') : a.Grown n .aside a' := by
  unfold addFooter at h
  dsimp only at h
  split at h
  · cases h
  · next hnone =>
    obtain ⟨leaf, hleaf, h⟩ := Except.bind_eq_ok.1 h
    obtain ⟨⟨b, id⟩, hb, h⟩ := Except.bind_eq_ok.1 h
    cases h
    obtain ⟨bare, still, added⟩ := addText_added hleaf hb
    exact .footer bare still added (by simpa using hnone)

theorem openContainer_grown {kind : ContainerKind} {data : List Char} (h : a.openContainer kind n data = .ok a') :
    a.Grown n .opening a' := by
  obtain ⟨⟨attributes, arguments⟩, -, h⟩ := Except.bind_eq_ok.1 h
  cases h
  exact .opened ⟨kind, a.content, attributes, arguments, n⟩ rfl rfl

theorem closeContainer_grown {data : List Char} (h : a.closeContainer n data = .ok a') : a.Grown n .closing a' := by
  unfold closeContainer at h
  dsimp only at h
  split at h
  · cases h
  split at h
  · cases h
  · next o rest ho =>
    obtain ⟨arrangement, -, h⟩ := Except.bind_eq_ok.1 h
    obtain ⟨⟨b, id⟩, hb, rfl⟩ := Except.map_eq_ok.1 (liftError_eq_ok.1 h)
    exact .closed ho (addWidget_added hb)

theorem addCommand_grown {opcode : Opcode} {data : List Char} (h : a.addCommand n opcode data = .ok a') :
    a.Grown n opcode.role a' := by
  cases opcode with
  | header => exact addHeader_grown h
  | footer => exact addFooter_grown h
  | text => exact addRead_grown (Leaf.bare_text data) h
  | button => exact addRead_grown (Leaf.bare_button data) h
  | edit => exact addRead_grown (Leaf.bare_edit data) h
  | checkBox => exact addRead_grown (Leaf.bare_checkBox data) h
  | radioButton =>
    obtain ⟨leaf, hleaf, h⟩ := Except.bind_eq_ok.1 h
    exact addRadioButton_grown (Leaf.bare_radioButton data leaf (liftError_eq_ok.1 hleaf)) (liftError_eq_ok.1 h)
  | divider => exact addRead_grown (Leaf.bare_divider data) h
  | opening kind => exact openContainer_grown (liftError_eq_ok.1 h)
  | closing => exact closeContainer_grown h

/-- A line adds what its role says, and nothing else. -/
theorem addLine_grown {raw : List Char} (h : a.addLine (raw, n) = .ok a') : a.Grown n (rowOf (raw, n)).2 a' := by
  obtain ⟨line, hline, h⟩ := Except.bind_eq_ok.1 h
  rw [rowOf_of_parse (liftError_eq_ok.1 hline)]
  cases line with
  | comment => cases h; exact .comment
  | blank => cases h; exact addBlank_grown a n
  | command opcode data => exact addCommand_grown h
  | rule fill data => exact addRead_grown (Leaf.bare_rule fill data) h

end Assembly

/-! ## The end -/

namespace Assembly

/-- The list of the widgets that stand in no container. -/
def list (a : Assembly) : Widget :=
  .container (.list none false) a.content.toList (a.tree.firstSelectable a.content.toList)

/-- The form with this body, and with this root. -/
def toForm (body : Nat) (x : Assembly × Nat) : Form where
  tree := x.1.tree
  names := x.1.names
  strings := x.1.strings
  palette := x.1.palette
  header := x.1.header
  footer := x.1.footer
  body := body
  root := x.2

theorem finish_of_closed {a : Assembly} (h : a.opened = []) : a.finish =
    .ok (toForm a.tree.size (applyStyle { a with tree := a.tree.add a.list {} } a.tree.size ["Frame"])) := by
  rw [finish, h]
  rfl

theorem finish_of_opened {a : Assembly} {o : OpenContainer} {rest : List OpenContainer} (h : a.opened = o :: rest) :
    a.finish = .error (.syntaxError (.unclosedContainer (rest.length + 1))) := by
  rw [finish, h]
  rfl

/-- The form is made of the assembly. -/
structure Finished (a : Assembly) (f : Form) : Prop where
  opened : a.opened = []
  tree : (a.tree.add a.list {}).Wrapped a.tree.size f.tree f.root
  body : f.body = a.tree.size
  header : f.header = a.header
  footer : f.footer = a.footer

theorem finish_finished {a : Assembly} {f : Form} (h : a.finish = .ok f) : a.Finished f := by
  unfold finish at h
  split at h
  · cases h
  · next ho =>
    cases h
    exact ⟨by simpa using ho, Tree.wrapped_wrapStyle .., rfl, rfl, rfl⟩

end Assembly

/-! ## Lines that fail -/

/-- The error, if the text of a line is at fault, is at line `n`. -/
def FormError.AtLine (n : Nat) (e : FormError) : Prop := ∀ s, e = .syntaxError s → s.AtLine n

/-- The error is one of a line, and none of the bracket structure. -/
def FormError.InLine (e : FormError) : Prop := ∀ s, e = .syntaxError s → ∃ n, s.AtLine n

theorem FormError.AtLine.inLine {e : FormError} {n : Nat} (h : e.AtLine n) : e.InLine := fun s hs => ⟨n, h s hs⟩

theorem failsOnly_liftSyntax {α : Type} {n : Nat} {x : Except SyntaxError α} (h : FailsOnly (SyntaxError.AtLine n) x) :
    FailsOnly (FormError.AtLine n) (liftError x) := by
  cases x with
  | ok a => exact .ok a
  | error e => exact .error fun s hs => by cases hs; exact h e rfl

theorem failsOnly_liftRuntime {α : Type} (n : Nat) (x : Except RuntimeError α) :
    FailsOnly (FormError.AtLine n) (liftError x) := by
  cases x with
  | ok a => exact .ok a
  | error e => exact .error nofun

namespace Assembly

variable (a : Assembly) (n : Nat)

theorem failsOnly_addRead {read : Except SyntaxError Leaf} (h : FailsOnly (SyntaxError.AtLine n) read) :
    FailsOnly (FormError.AtLine n) (a.addRead read n) :=
  (failsOnly_liftSyntax h).bind fun _ => failsOnly_liftRuntime n _

theorem failsOnly_addHeader (data : List Char) : FailsOnly (FormError.AtLine n) (a.addHeader n data) := by
  unfold addHeader
  dsimp only
  split
  · exact .error fun s hs => by cases hs; exact ⟨rfl, nofun⟩
  · refine (failsOnly_liftSyntax (rereads_text (f := id) data).failsOnly).bind fun _ => ?_
    exact (failsOnly_liftRuntime n _).bind fun _ => .ok _

theorem failsOnly_addFooter (data : List Char) : FailsOnly (FormError.AtLine n) (a.addFooter n data) := by
  unfold addFooter
  dsimp only
  split
  · exact .error fun s hs => by cases hs; exact ⟨rfl, nofun⟩
  · refine (failsOnly_liftSyntax (rereads_text (f := id) data).failsOnly).bind fun _ => ?_
    exact (failsOnly_liftRuntime n _).bind fun _ => .ok _

theorem failsOnly_openContainer (kind : ContainerKind) (data : List Char) :
    FailsOnly (SyntaxError.AtLine n) (a.openContainer kind n data) :=
  (rereads_parseAttributes (f := id) data).failsOnly.bind fun _ => .ok _

/-- The error of a line, or of a closing line that no open container belongs to. -/
def Fault (role : Role) (e : FormError) : Prop :=
  e.InLine ∨ a.opened = [] ∧ role = .closing ∧ e = .syntaxError (.unbalancedEnd n)

theorem failsOnly_closeContainer (data : List Char) : FailsOnly (a.Fault n .closing) (a.closeContainer n data) := by
  unfold closeContainer
  dsimp only
  split
  · exact .error (.inl fun s hs => by cases hs; exact ⟨n, rfl, nofun⟩)
  split
  · next ho => exact .error (.inr ⟨ho, rfl, rfl⟩)
  · next o _ _ =>
    refine FailsOnly.mono (P := FormError.AtLine o.line) (fun _ h => .inl h.inLine) ?_
    exact (failsOnly_liftSyntax (rereads_readAll (f := id) _ _ (readsAlike_arrangement _ _ _)).failsOnly).bind fun _ =>
      failsOnly_liftRuntime _ _

/-- Only the end of a container can fail at another line, the one that opened it. -/
theorem failsOnly_addCommand_of_ne {opcode : Opcode} (h : opcode ≠ .closing) (data : List Char) :
    FailsOnly (FormError.AtLine n) (a.addCommand n opcode data) := by
  cases opcode with
  | header => exact a.failsOnly_addHeader n data
  | footer => exact a.failsOnly_addFooter n data
  | text => exact a.failsOnly_addRead n (rereads_text (f := id) data).failsOnly
  | button => exact a.failsOnly_addRead n (rereads_button (f := id) data).failsOnly
  | edit => exact a.failsOnly_addRead n (rereads_edit (f := id) data).failsOnly
  | checkBox => exact a.failsOnly_addRead n (rereads_checkBox (f := id) data).failsOnly
  | radioButton =>
    exact (failsOnly_liftSyntax (rereads_radioButton (f := id) data).failsOnly).bind fun _ => failsOnly_liftRuntime n _
  | divider => exact a.failsOnly_addRead n (rereads_divider (f := id) data).failsOnly
  | opening kind => exact failsOnly_liftSyntax (a.failsOnly_openContainer n kind data)
  | closing => exact absurd rfl h

theorem failsOnly_addLine_of_ne {raw : List Char} (h : ∀ data, Line.parse n raw ≠ .ok (.command .closing data)) :
    FailsOnly (FormError.AtLine n) (a.addLine (raw, n)) := by
  unfold addLine
  dsimp only
  cases hline : Line.parse n raw with
  | error e => exact .error fun s hs => by cases hs; exact (rereads_parseLine (f := id) raw).failsOnly e hline
  | ok line =>
    cases line with
    | comment => exact FailsOnly.ok (P := FormError.AtLine n) a
    | blank => exact FailsOnly.ok (P := FormError.AtLine n) (a.addBlank n)
    | command opcode data => exact a.failsOnly_addCommand_of_ne n (fun hc => h data (hc ▸ hline)) data
    | rule fill data => exact a.failsOnly_addRead n (rereads_rule (f := id) fill data).failsOnly

theorem failsOnly_addLine (raw : List Char) : FailsOnly (a.Fault n (rowOf (raw, n)).2) (a.addLine (raw, n)) := by
  by_cases h : ∃ data, Line.parse n raw = .ok (.command .closing data)
  · obtain ⟨data, hline⟩ := h
    rw [rowOf_of_parse hline, addLine, hline]
    exact a.failsOnly_closeContainer n data
  · exact (a.failsOnly_addLine_of_ne n (not_exists.1 h)).mono fun _ he => .inl he.inLine

/-! ## All lines -/

variable {a a' : Assembly} {P : Assembly → List Row → Prop} {lines : List (List Char × Nat)} {rs : List Row}

/-- What every line keeps holds after all of them. -/
theorem foldlM_ok (hstep : ∀ a rs n role a', P a rs → a.Grown n role a' → P a' (rs ++ [(n, role)])) (hp : P a rs)
    (h : lines.foldlM addLine a = .ok a') : P a' (rs ++ lines.map rowOf) := by
  induction lines generalizing a rs with
  | nil => cases h; simpa using hp
  | cons l lines ih =>
    obtain ⟨b, hb, h⟩ := Except.bind_eq_ok.1 h
    have hpb : P b (rs ++ [rowOf l]) := hstep a rs l.2 _ b hp (addLine_grown hb)
    simpa using ih hpb h

/-- Every line of a description that does not fail can be read. -/
theorem foldlM_reads (h : lines.foldlM addLine a = .ok a') : ∀ l ∈ lines, ∃ line, Line.parse l.2 l.1 = .ok line := by
  induction lines generalizing a with
  | nil => simp
  | cons l lines ih =>
    obtain ⟨b, hb, h⟩ := Except.bind_eq_ok.1 h
    obtain ⟨line, hline, -⟩ := Except.bind_eq_ok.1 hb
    rw [List.forall_mem_cons]
    exact ⟨⟨line, liftError_eq_ok.1 hline⟩, ih h⟩

/-- If the lines fail, what every line keeps holds before the one at fault. -/
theorem foldlM_error {e : FormError} (hstep : ∀ a rs n role a', P a rs → a.Grown n role a' → P a' (rs ++ [(n, role)]))
    (hp : P a rs) (h : lines.foldlM addLine a = .error e) :
    ∃ before l after b, lines = before ++ l :: after ∧ P b (rs ++ before.map rowOf) ∧ b.addLine l = .error e := by
  induction lines generalizing a rs with
  | nil => cases h
  | cons l lines ih =>
    rw [List.foldlM_cons] at h
    cases hb : a.addLine l with
    | error e' =>
      rw [hb] at h
      cases h
      exact ⟨[], l, lines, a, rfl, by simpa using hp, hb⟩
    | ok b =>
      rw [hb] at h
      have hpb : P b (rs ++ [rowOf l]) := hstep a rs l.2 _ b hp (addLine_grown hb)
      obtain ⟨before, l', after, c, rfl, hc, he⟩ := ih hpb h
      exact ⟨l :: before, l', after, c, rfl, by simpa using hc, he⟩

end Assembly

end ScreenForm
