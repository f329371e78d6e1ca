import ScreenForm.Proofs.Description.Marker
import ScreenForm.Proofs.Form.Structure
/-!
# The markers of a form

Each line that describes a widget has it in the form, and what the markers of the
line say is kept with it (`Form.parse_bears`): while the lines are read it is
there or with a container that is still open (`Assembly.Carries`).
-/

namespace ScreenForm

open Description

/-! ## Leaves -/

namespace Description

/-- What is kept of the attributes with a widget. -/
def Attributes.about (a : Attributes) (line : Nat) : Meta :=
  { id := a.id, info := a.info, tooltip := a.tooltip, events := a.events, line := line }

/-- The leaf is what the line describes. -/
structure Leaf.Reads (leaf : Leaf) (n : Nat) (line : Line) : Prop where
  gathers : leaf.attributes.Gathers (line.markers n)
  accepts : ∀ kind : EventKind, kind.accepts leaf.widget = line.produces kind

namespace Leaf

variable {n : Nat} {data : List Char} {leaf : Leaf}

theorem reads_text {opcode : Opcode} (hopcode : opcode = .text ∨ opcode = .header ∨ opcode = .footer)
    (h : Leaf.text n data = .ok leaf) : leaf.Reads n (.command opcode data) := by
  unfold Leaf.text at h
  split at h
  next text rest hsplit =>
  obtain ⟨⟨attributes, arguments⟩, hparse, h⟩ := Except.bind_eq_ok.1 h
  obtain ⟨align, -, h⟩ := Except.bind_eq_ok.1 h
  cases h
  have hrest : (Line.command .text data).details = rest := by
    rw [Line.details]
    split at hsplit <;> next hword =>
      cases hsplit
      rw [hword]
      rfl
  have hgathers := Attributes.gathers_markers hparse hrest
  rcases hopcode with rfl | rfl | rfl <;> exact ⟨hgathers, fun kind => by cases kind <;> rfl⟩

theorem reads_button (h : Leaf.button n data = .ok leaf) : leaf.Reads n (.command .button data) := by
  unfold Leaf.button at h
  split at h
  · next c label rest hb =>
    obtain ⟨⟨attributes, arguments⟩, hparse, h⟩ := Except.bind_eq_ok.1 h
    obtain ⟨_, -, h⟩ := Except.bind_eq_ok.1 h
    cases h
    have hrest : (Line.command .button data).details = rest := by rw [Line.details, hb]; rfl
    exact ⟨Attributes.gathers_markers hparse hrest, fun kind => by cases kind <;> rfl⟩
  · cases h

theorem reads_edit (h : Leaf.edit n data = .ok leaf) : leaf.Reads n (.command .edit data) := by
  unfold Leaf.edit at h
  dsimp only at h
  split at h
  · cases h
  · next caption text rest hparts =>
    obtain ⟨⟨attributes, arguments⟩, hparse, h⟩ := Except.bind_eq_ok.1 h
    obtain ⟨_, -, h⟩ := Except.bind_eq_ok.1 h
    cases h
    have hrest : (Line.command .edit data).details = rest := by
      obtain ⟨r, hr, hparts⟩ := Option.bind_eq_some_iff.1 hparts
      obtain ⟨q, hq, hparts⟩ := Option.map_eq_some_iff.1 hparts
      cases hparts
      rw [Line.details, hr, Option.bind_some, hq]
      rfl
    exact ⟨Attributes.gathers_markers hparse hrest, fun kind => by cases kind <;> rfl⟩

theorem reads_checkBox (h : Leaf.checkBox n data = .ok leaf) : leaf.Reads n (.command .checkBox data) := by
  unfold Leaf.checkBox at h
  split at h
  · cases h
  · next label rest hb =>
    obtain ⟨⟨attributes, arguments⟩, hparse, h⟩ := Except.bind_eq_ok.1 h
    obtain ⟨_, -, h⟩ := Except.bind_eq_ok.1 h
    cases h
    have hrest : (Line.command .checkBox data).details = rest := by rw [Line.details, hb]; rfl
    exact ⟨Attributes.gathers_markers hparse hrest, fun kind => by cases kind <;> rfl⟩

theorem reads_radioButton (h : Leaf.radioButton n data = .ok leaf) : leaf.Reads n (.command .radioButton data) := by
  unfold Leaf.radioButton at h
  split at h
  · cases h
  · next label rest hb =>
    obtain ⟨⟨attributes, arguments⟩, hparse, h⟩ := Except.bind_eq_ok.1 h
    obtain ⟨_, -, h⟩ := Except.bind_eq_ok.1 h
    cases h
    have hrest : (Line.command .radioButton data).details = rest := by rw [Line.details, hb]; rfl
    exact ⟨Attributes.gathers_markers hparse hrest, fun kind => by cases kind <;> rfl⟩

/-- What a blank line can produce, the focus and keys, is all that comes from a divider. -/
theorem gives_still (fill : Char) :
    Gives (fun w => ∀ kind : EventKind, kind.accepts w = Line.blank.produces kind) (dividerOf n fill) :=
  .bind fun _ => .bind fun _ => .pure fun kind => by cases kind <;> rfl

theorem reads_divider (h : Leaf.divider n data = .ok leaf) : leaf.Reads n (.command .divider data) := by
  obtain ⟨⟨attributes, arguments⟩, hparse, h⟩ := Except.bind_eq_ok.1 h
  obtain ⟨w, hw, h⟩ := Except.bind_eq_ok.1 h
  cases h
  have hstill : Gives (fun w => ∀ kind : EventKind, kind.accepts w = Line.blank.produces kind)
      (do dividerOf n (← takeFill n)) := .bind gives_still
  have haccepts := yields_readAll arguments "Divider" hstill w hw
  exact ⟨Attributes.gathers_markers hparse rfl, fun kind => (haccepts kind).trans (by cases kind <;> rfl)⟩

theorem reads_rule {fill : Char} (h : Leaf.rule n fill data = .ok leaf) : leaf.Reads n (.rule fill data) := by
  obtain ⟨⟨attributes, arguments⟩, hparse, h⟩ := Except.bind_eq_ok.1 h
  dsimp only at h
  split at h
  · cases h
  · obtain ⟨w, hw, h⟩ := Except.bind_eq_ok.1 h
    cases h
    have haccepts := yields_readAll arguments "Divider" (gives_still fill) w hw
    exact ⟨Attributes.gathers_markers hparse rfl, fun kind => (haccepts kind).trans (by cases kind <;> rfl)⟩

end Leaf

end Description

/-! ## Lines -/

/-- What a widget accepts does not change with its use. -/
theorem Widget.accepts_congr {w w' : Widget} (h : w'.fixed = w.fixed) (kind : EventKind) :
    kind.accepts w' = kind.accepts w := by
  have hfixed (w : Widget) : kind.accepts w.fixed = kind.accepts w := by cases kind <;> cases w <;> rfl
  rw [← hfixed, h, hfixed]

/-- The tree has a widget that is what the line describes. -/
structure Tree.Bears (t : Tree) (n : Nat) (line : Line) (id : Nat) : Prop where
  lt : id < t.size
  about : ∃ attributes : Attributes, t.about id = attributes.about n ∧ attributes.Gathers (line.markers n)
  accepts : ∀ kind : EventKind, kind.accepts (t.widget id) = line.produces kind

theorem Tree.Bears.grow {t t' : Tree} {n id : Nat} {line : Line} (h : t.Bears n line id) (ht : t.Extends t') :
    t'.Bears n line id where
  lt := Nat.lt_of_lt_of_le h.lt ht.1
  about := ht.about h.lt ▸ h.about
  accepts kind := (Widget.accepts_congr (ht.widget_fixed h.lt) kind).trans (h.accepts kind)

namespace Tree.Bears

variable {t : Tree} {n id : Nat} {line : Line} (h : t.Bears n line id)
include h

theorem number : (t.about id).line = n := by
  obtain ⟨attributes, habout, -⟩ := h.about
  rw [habout, Attributes.about]

theorem mem_ids {name : String} : name ∈ (line.markers n).filterMap Marker.id? ↔ (t.about id).id = some name := by
  obtain ⟨attributes, habout, hgathers⟩ := h.about
  rw [habout, ← hgathers.id, Option.mem_toList]
  rfl

theorem nodup_ids : ((line.markers n).filterMap Marker.id?).Nodup := by
  obtain ⟨attributes, -, hgathers⟩ := h.about
  rw [← hgathers.id]
  cases attributes.id <;> simp

theorem mem_events {kind : EventKind} {responder : String} (hm : .event kind responder ∈ line.markers n) :
    (t.about id).events.get? kind = some responder := by
  obtain ⟨attributes, habout, hgathers⟩ := h.about
  have hmem : responder ∈ (line.markers n).filterMap (Marker.responder? kind) :=
    List.mem_filterMap.2 ⟨_, hm, by simp [Marker.responder?]⟩
  rw [← hgathers.events, Option.mem_toList] at hmem
  rw [habout]
  exact hmem

theorem info_eq : (t.about id).info = ((line.markers n).filterMap Marker.info?).getLast? := by
  obtain ⟨attributes, habout, hgathers⟩ := h.about
  rw [habout, ← hgathers.info]
  rfl

theorem tooltip_eq : (t.about id).tooltip = ((line.markers n).filterMap Marker.tooltip?).getLast? := by
  obtain ⟨attributes, habout, hgathers⟩ := h.about
  rw [habout, ← hgathers.tooltip]
  rfl

end Tree.Bears

namespace Assembly

/-- What the line describes is a widget, or a container that is open. -/
inductive Carries (a : Assembly) (n : Nat) (line : Line) : Prop
  | beside (none : line.describes = false)
  | made {id : Nat} (bears : a.tree.Bears n line id)
  | waiting {o : OpenContainer} (mem : o ∈ a.opened) (number : o.line = n)
      (gathers : o.attributes.Gathers (line.markers n))
      (produces : ∀ kind : EventKind, kind.accepts (.container .pile [] 0) = line.produces kind)

/-- After line `n` the assembly carries it too. -/
structure Takes (a : Assembly) (n : Nat) (line : Line) (a' : Assembly) : Prop where
  keeps : ∀ m l, a.Carries m l → a'.Carries m l
  carries : a'.Carries n line

variable {a a' b : Assembly} {n id : Nat} {line : Line} {w : Widget} {attributes : Attributes} {className : String}

theorem Carries.grow (h : a.Carries n line) (ht : a.tree.Extends a'.tree) (ho : ∀ o ∈ a.opened, o ∈ a'.opened) :
    a'.Carries n line := by
  cases h with
  | beside none => exact .beside none
  | made bears => exact .made (bears.grow ht)
  | waiting mem number gathers produces => exact .waiting (ho _ mem) number gathers produces

/-- The widget that is added has the attributes. -/
theorem bears_of_addWidget (h : a.addWidget w attributes className n = .ok (a', id))
    (gathers : attributes.Gathers (line.markers n)) (accepts : ∀ kind : EventKind, kind.accepts w = line.produces kind) :
    a'.tree.Bears n line a.tree.size := by
  unfold addWidget at h
  obtain ⟨_, -, h⟩ := Except.bind_eq_ok.1 h
  obtain ⟨_, -, h⟩ := Except.bind_eq_ok.1 h
  obtain ⟨names, -, h⟩ := Except.bind_eq_ok.1 h
  cases h
  have hadded : (a.tree.add w (attributes.about n)).Bears n line a.tree.size :=
    ⟨by simp, ⟨attributes, by simp [Tree.about], gathers⟩, fun kind => by simp [Tree.widget, accepts]⟩
  exact hadded.grow (Tree.wrapped_wrapStyle ..).grows

theorem takes_addWidget (h : a.addWidget w attributes className n = .ok (a', id))
    (gathers : attributes.Gathers (line.markers n)) (accepts : ∀ kind : EventKind, kind.accepts w = line.produces kind) :
    a.Takes n line a' := by
  have hadded := addWidget_added h
  exact ⟨fun _ _ hc => hc.grow hadded.grows fun _ mem => hadded.opened ▸ mem,
    .made (bears_of_addWidget h gathers accepts)⟩

theorem Takes.congr (h : a.Takes n line b) (ht : a'.tree.fixed = b.tree.fixed) (ho : a'.opened = b.opened) :
    a.Takes n line a' := by
  have hgrow {m : Nat} {l : Line} (hc : b.Carries m l) : a'.Carries m l :=
    hc.grow (Tree.extends_of_fixed ht) fun _ mem => ho ▸ mem
  exact ⟨fun m l hc => hgrow (h.keeps m l hc), hgrow h.carries⟩

theorem addLeaf_takes {leaf : Leaf} (reads : leaf.Reads n line)
    (h : a.addLeaf leaf n = .ok a') : a.Takes n line a' := by
  obtain ⟨⟨b, id⟩, hb, rfl⟩ := Except.map_eq_ok.1 h
  exact (takes_addWidget hb reads.gathers reads.accepts).congr rfl rfl

theorem addRead_takes {read : Except SyntaxError Leaf} (reads : Yields (Leaf.Reads · n line) read)
    (h : a.addRead read n = .ok a') : a.Takes n line a' := by
  obtain ⟨leaf, hleaf, h⟩ := Except.bind_eq_ok.1 h
  exact addLeaf_takes (reads leaf (liftError_eq_ok.1 hleaf)) (liftError_eq_ok.1 h)

variable {data : List Char}

theorem addRadioButton_takes {leaf : Leaf} (reads : leaf.Reads n line) (h : a.addRadioButton leaf n = .ok a') :
    a.Takes n line a' := by
  obtain ⟨b, hb, h⟩ := Except.bind_eq_ok.1 h
  have ht := addLeaf_takes reads hb
  split at h
  · cases h
    exact ht.congr (Tree.fixed_clearGroup ..) rfl
  · cases h
    exact ht

theorem addHeader_takes (h : a.addHeader n data = .ok a') : a.Takes n (.command .header data) a' := by
  unfold addHeader at h
  dsimp only at h
  split at h
  · cases h
  · obtain ⟨leaf, hleaf, h⟩ := Except.bind_eq_ok.1 h
    obtain ⟨⟨b, id⟩, hb, h⟩ := Except.bind_eq_ok.1 h
    cases h
    have reads := Leaf.reads_text (.inr (.inl rfl)) (liftError_eq_ok.1 hleaf)
    exact (takes_addWidget (liftError_eq_ok.1 hb) reads.gathers reads.accepts).congr rfl rfl

theorem addFooter_takes (h : a.addFooter n data = .ok a') : a.Takes n (.command .footer data) a' := by
  unfold addFooter at h
  dsimp only at h
  split at h
  · cases h
  · obtain ⟨leaf, hleaf, h⟩ := Except.bind_eq_ok.1 h
    obtain ⟨⟨b, id⟩, hb, h⟩ := Except.bind_eq_ok.1 h
    cases h
    have reads := Leaf.reads_text (.inr (.inr rfl)) (liftError_eq_ok.1 hleaf)
    exact (takes_addWidget (liftError_eq_ok.1 hb) reads.gathers reads.accepts).congr rfl rfl

/-- What the line says waits for the end of the container. -/
theorem openContainer_takes {kind : ContainerKind} (h : a.openContainer kind n data = .ok a') :
    a.Takes n (.command (.opening kind) data) a' := by
  obtain ⟨⟨attributes, arguments⟩, hparse, h⟩ := Except.bind_eq_ok.1 h
  cases h
  refine ⟨fun _ _ hc => hc.grow (.refl _) fun _ mem => List.mem_cons_of_mem _ mem, ?_⟩
  exact .waiting List.mem_cons_self rfl (Attributes.gathers_markers hparse rfl) fun kind => by cases kind <;> rfl

theorem closeContainer_takes (h : a.closeContainer n data = .ok a') : a.Takes n (.command .closing data) a' := by
  unfold closeContainer at h
  dsimp only at h
  split at h
  · cases h
  split at h
  · cases h
  · next o rest ho =>
    obtain ⟨arrangement, -, h⟩ := Except.bind_eq_ok.1 h
    obtain ⟨⟨b, id⟩, hb, rfl⟩ := Except.map_eq_ok.1 (liftError_eq_ok.1 h)
    have hadded := addWidget_added hb
    refine ⟨fun m l hc => ?_, .beside rfl⟩
    cases hc with
    | beside none => exact .beside none
    | made bears => exact .made (bears.grow hadded.grows)
    | waiting mem number gathers produces =>
      rw [ho] at mem
      rcases List.mem_cons.1 mem with rfl | mem
      · subst number
        have hbears := bears_of_addWidget hb gathers fun kind => by rw [← produces kind]; cases kind <;> rfl
        exact .made hbears
      · exact .waiting (hadded.opened ▸ mem) number gathers produces

theorem addCommand_takes {opcode : Opcode} (h : a.addCommand n opcode data = .ok a') :
    a.Takes n (.command opcode data) a' := by
  cases opcode with
  | header => exact addHeader_takes h
  | footer => exact addFooter_takes h
  | text => exact addRead_takes (fun _ => Leaf.reads_text (.inl rfl)) h
  | button => exact addRead_takes (fun _ => Leaf.reads_button) h
  | edit => exact addRead_takes (fun _ => Leaf.reads_edit) h
  | checkBox => exact addRead_takes (fun _ => Leaf.reads_checkBox) h
  | radioButton =>
    obtain ⟨leaf, hleaf, h⟩ := Except.bind_eq_ok.1 h
    exact addRadioButton_takes (Leaf.reads_radioButton (liftError_eq_ok.1 hleaf)) (liftError_eq_ok.1 h)
  | divider => exact addRead_takes (fun _ => Leaf.reads_divider) h
  | opening kind => exact openContainer_takes (liftError_eq_ok.1 h)
  | closing => exact closeContainer_takes h

/-- The text for a blank line has no attributes. -/
theorem addBlank_takes (a : Assembly) (n : Nat) : a.Takes n .blank (a.addBlank n) := by
  have hgrows : a.tree.Extends (a.addBlank n).tree := Tree.extends_add ..
  have hbears : (a.addBlank n).tree.Bears n .blank a.tree.size := by
    refine ⟨?_, ⟨{}, ?_, ?_⟩, fun kind => ?_⟩
    · simp [addBlank]
    · simp [addBlank, Tree.about, Attributes.about]
    · rw [Line.markers, Line.details, Marker.leading_of_none rfl]
      exact Attributes.gathers_nil
    · simp only [addBlank, Tree.widget, Tree.node_add_self]
      cases kind <;> rfl
  exact ⟨fun _ _ hc => hc.grow hgrows fun _ mem => mem, .made hbears⟩

theorem addLine_takes {l : List Char × Nat} (h : a.addLine l = .ok a') :
    ∃ line, Line.parse l.2 l.1 = .ok line ∧ a.Takes l.2 line a' := by
  obtain ⟨line, hline, h⟩ := Except.bind_eq_ok.1 h
  refine ⟨line, liftError_eq_ok.1 hline, ?_⟩
  cases line with
  | comment =>
    cases h
    exact ⟨fun _ _ hc => hc, .beside rfl⟩
  | blank =>
    cases h
    exact addBlank_takes a l.2
  | command opcode data => exact addCommand_takes h
  | rule fill data => exact addRead_takes (fun _ => Leaf.reads_rule) h

/-- No line forgets what another one has said. -/
theorem foldlM_carries {lines : List (List Char × Nat)} (h : lines.foldlM addLine a = .ok a') :
    (∀ n line, a.Carries n line → a'.Carries n line) ∧
      ∀ l ∈ lines, ∃ line, Line.parse l.2 l.1 = .ok line ∧ a'.Carries l.2 line := by
  induction lines generalizing a with
  | nil =>
    cases h
    exact ⟨fun _ _ => id, List.forall_mem_nil _⟩
  | cons l lines ih =>
    obtain ⟨b, hb, h⟩ := Except.bind_eq_ok.1 h
    obtain ⟨line, hline, htakes⟩ := addLine_takes hb
    obtain ⟨hkeeps, hlines⟩ := ih h
    refine ⟨fun n line' hc => hkeeps n line' (htakes.keeps n line' hc), List.forall_mem_cons.2 ⟨?_, hlines⟩⟩
    exact ⟨line, hline, hkeeps _ _ htakes.carries⟩

end Assembly

/-- Each line of the description of a form that describes a widget has it there, with what the markers of the line
say. -/
theorem Form.parse_bears {description : String} {palette : Palette} {strings : StringTable} {f : Form}
    (h : parse description palette strings = .ok f) :
    ∃ text, strings.substituteChars description.toList = .ok text ∧
      ∀ l ∈ numberedLines text, ∃ line, Line.parse l.2 l.1 = .ok line ∧
        (line.describes = false ∨ ∃ id, f.tree.Bears l.2 line id) := by
  obtain ⟨text, a, ht, ha, hf⟩ := parse_ok h
  have hfinished := Assembly.finish_finished hf
  refine ⟨text, ht, fun l hl => ?_⟩
  obtain ⟨line, hline, hcarries⟩ := (Assembly.foldlM_carries ha).2 l hl
  refine ⟨line, hline, ?_⟩
  cases hcarries with
  | beside none => exact .inl none
  | made bears => exact .inr ⟨_, bears.grow ((Tree.extends_add ..).trans hfinished.tree.grows)⟩
  | waiting mem =>
    rw [hfinished.opened] at mem
    cases mem

end ScreenForm
