import ScreenForm.Proofs.Form.Made
import ScreenForm.Proofs.Widget.Group
/-!
# The radio buttons of a form

While the lines of a description are read, the last line that checks a radio button of a group decides
(`Assembly.addLine_checks`). So a form begins with at most one checked button in each group, and no use of it
checks a second one or leaves a group without the one it had (`Form.settles_use`).
-/

namespace ScreenForm

open Description

/-! ## Lines that check a radio button -/

/-- The group in which line `n` checks its radio button. -/
def Description.Line.checks? (n : Nat) : Line → Option String
  | .command .radioButton data => (Leaf.radioButton n data).toOption.bind (·.widget.checkedGroup?)
  | _ => none

namespace Form

/-- The group in which a line of a description checks its radio button. -/
def checkedBy? (l : List Char × Nat) : Option String :=
  (Line.parse l.2 l.1).toOption.bind (Line.checks? l.2)

/-- The lines that check a radio button of a group, in the order of the description. -/
def checkingLines (lines : List (List Char × Nat)) (group : String) : List Nat :=
  (lines.filter fun l => checkedBy? l = some group).map Prod.snd

end Form

namespace Description.Leaf

variable {n : Nat}

/-- The widget of the leaf is no checked radio button. -/
def Unchecked (leaf : Leaf) : Prop := leaf.widget.checkedGroup? = none

theorem unchecked_text (data : List Char) : Yields Unchecked (Leaf.text n data) := by
  unfold Leaf.text
  split
  exact .bind fun _ => .bind fun _ => .ok rfl

theorem unchecked_button (data : List Char) : Yields Unchecked (Leaf.button n data) := by
  unfold Leaf.button
  split
  · exact .bind fun _ => .bind fun _ => .ok rfl
  · exact .error _

theorem unchecked_edit (data : List Char) : Yields Unchecked (Leaf.edit n data) := by
  unfold Leaf.edit
  dsimp only
  split
  · exact .error _
  · exact .bind fun _ => .bind fun _ => .ok rfl

theorem unchecked_checkBox (data : List Char) : Yields Unchecked (Leaf.checkBox n data) := by
  unfold Leaf.checkBox
  split
  · exact .error _
  · exact .bind fun _ => .bind fun _ => .ok rfl

theorem gives_unchecked (fill : Char) : Gives (·.checkedGroup? = none) (dividerOf n fill) :=
  .bind fun _ => .bind fun _ => .pure rfl

theorem unchecked_divider (data : List Char) : Yields Unchecked (Leaf.divider n data) :=
  .bind fun _ => .bind_of (yields_readAll _ _ (.bind fun fill => gives_unchecked fill)) fun _ h => .ok h

theorem unchecked_rule (fill : Char) (data : List Char) : Yields Unchecked (Leaf.rule n fill data) := by
  unfold Leaf.rule
  refine .bind fun ⟨attributes, args⟩ => ?_
  dsimp only
  split
  · exact .error _
  · exact .bind_of (yields_readAll _ _ (gives_unchecked fill)) fun _ h => .ok h

end Description.Leaf

/-! ## The lines of the checked buttons -/

namespace Tree

variable {t t' : Tree} {id : Nat} {group : String} {w : Widget}

/-- The lines of the checked radio buttons of a group. -/
def checkedLines (t : Tree) (group : String) : List Nat :=
  (t.checkedIn group).map fun id => (t.about id).line

theorem checkedLines_add (t : Tree) (w : Widget) (m : Meta) (group : String) :
    (t.add w m).checkedLines group = t.checkedLines group ++ if w.checkedGroup? = some group then [m.line] else [] := by
  rw [checkedLines, checkedIn_add, List.map_append, checkedLines]
  congr 1
  · refine List.map_congr_left fun id hid => ?_
    rw [about, node_add_of_ne (Nat.ne_of_lt (lt_size_of_mem_checkedIn hid)), about]
  · split
    · simp [about]
    · rfl

theorem checkedLines_add_of_none (h : w.checkedGroup? = none) (m : Meta) (group : String) :
    (t.add w m).checkedLines group = t.checkedLines group := by
  rw [checkedLines_add, h, if_neg (by nofun), List.append_nil]

theorem Wrapped.checkedLines {outer : Nat} (h : t.Wrapped id t' outer) (group : String) :
    t'.checkedLines group = t.checkedLines group := by
  cases h with
  | bare => rfl
  | styled wrapping => exact checkedLines_add_of_none rfl _ _

end Tree

/-! ## Reading the lines -/

namespace Assembly

variable {a a' : Assembly} {n id : Nat} {data : List Char} {w : Widget}

/-- If line `n` checks a radio button of a group, that one is checked now, and otherwise those that were. -/
def Checks (a : Assembly) (n : Nat) (checks? : Option String) (a' : Assembly) : Prop :=
  ∀ group, a'.tree.checkedLines group = if checks? = some group then [n] else a.tree.checkedLines group

theorem checks_of_eq (h : ∀ group, a'.tree.checkedLines group = a.tree.checkedLines group) : a.Checks n none a' :=
  fun group => by rw [h, if_neg (by nofun)]

theorem Added.checkedIn (h : a.Added w n a' id) (group : String) : a'.tree.checkedIn group =
    a.tree.checkedIn group ++ if w.checkedGroup? = some group then [a.tree.size] else [] := by
  obtain ⟨about, -, hwrap⟩ := h.tree
  rw [hwrap.checkedIn, Tree.checkedIn_add]

theorem Added.line (h : a.Added w n a' id) : (a'.tree.about a.tree.size).line = n := by
  obtain ⟨about, hline, hwrap⟩ := h.tree
  rw [hwrap.grows.about (by simp), Tree.about, Tree.node_add_self, hline]

theorem Added.checkedLines_eq (h : a.Added w n a' id) (hw : w.checkedGroup? = none) (group : String) :
    a'.tree.checkedLines group = a.tree.checkedLines group := by
  obtain ⟨about, -, hwrap⟩ := h.tree
  rw [hwrap.checkedLines, Tree.checkedLines_add_of_none hw]

theorem Added.checks (h : a.Added w n a' id) (hw : w.checkedGroup? = none) : a.Checks n none a' :=
  checks_of_eq (h.checkedLines_eq hw)

theorem addRead_checks {read : Except SyntaxError Leaf} (hread : Yields Leaf.Unchecked read)
    (h : a.addRead read n = .ok a') : a.Checks n none a' := by
  obtain ⟨leaf, hleaf, h⟩ := Except.bind_eq_ok.1 h
  obtain ⟨b, id, hb, rfl⟩ := addLeaf_added (liftError_eq_ok.1 h)
  exact hb.checks (hread leaf (liftError_eq_ok.1 hleaf))

theorem addRadioButton_checks {leaf : Leaf} (h : a.addRadioButton leaf n = .ok a') :
    a.Checks n leaf.widget.checkedGroup? a' := by
  obtain ⟨c, hc, h⟩ := Except.bind_eq_ok.1 h
  obtain ⟨b, id, hb, rfl⟩ := addLeaf_added hc
  split at h
  · next label own hw =>
    cases h
    have hown : leaf.widget.checkedGroup? = some own := by rw [hw]; rfl
    intro group
    show ((b.tree.clearGroup a.tree.size own).checkedIn group).map _ = _
    simp only [Tree.about_clearGroup, hown, Option.some.injEq]
    by_cases hg : own = group
    · -- Of its group the new button is the only one that is left.
      subst hg
      have hold : (a.tree.checkedIn own).filter (· = a.tree.size) = [] :=
        List.filter_eq_nil_iff.2 fun i hi => by simpa using Nat.ne_of_lt (Tree.lt_size_of_mem_checkedIn hi)
      rw [Tree.checkedIn_clearGroup, hb.checkedIn, hown, if_pos rfl, if_pos rfl, List.filter_append, hold]
      simp [hb.line]
    · rw [Tree.checkedIn_clearGroup_of_ne (Ne.symm hg), if_neg hg, hb.checkedIn, hown,
        if_neg (fun h => hg (Option.some.inj h)), List.append_nil]
      refine List.map_congr_left fun i hi => ?_
      rw [hb.grows.about (Tree.lt_size_of_mem_checkedIn hi)]
  · next hother =>
    cases h
    have hnone : leaf.widget.checkedGroup? = none := by
      cases hw : leaf.widget with
      | radioButton label checked group' =>
        cases checked with
        | false => rfl
        | true =>
          cases group' with
          | none => rfl
          | some own => exact absurd hw (hother label own)
      | _ => rfl
    rw [hnone]
    exact hb.checks hnone

/-- A header or a footer. -/
theorem addText_checks {attributes : Attributes} {className : String} {leaf : Leaf} {x : Assembly × Nat}
    (hleaf : liftError (Leaf.text n data) = (.ok leaf : Except FormError Leaf))
    (hx : liftError (a.addWidget leaf.widget attributes className n) = (.ok x : Except FormError (Assembly × Nat))) :
    a.Checks n none x.1 :=
  (addWidget_added (liftError_eq_ok.1 hx)).checks (Leaf.unchecked_text data leaf (liftError_eq_ok.1 hleaf))

theorem addHeader_checks (h : a.addHeader n data = .ok a') : a.Checks n none a' := by
  unfold addHeader at h
  dsimp only at h
  split at h
  · cases h
  · obtain ⟨leaf, hleaf, h⟩ := Except.bind_eq_ok.1 h
    obtain ⟨x, hx, h⟩ := Except.bind_eq_ok.1 h
    cases h
    exact addText_checks hleaf hx

theorem addFooter_checks (h : a.addFooter n data = .ok a') : a.Checks n none a' := by
  unfold addFooter at h
  dsimp only at h
  split at h
  · cases h
  · obtain ⟨leaf, hleaf, h⟩ := Except.bind_eq_ok.1 h
    obtain ⟨x, hx, h⟩ := Except.bind_eq_ok.1 h
    cases h
    exact addText_checks hleaf hx

theorem closeContainer_checks (h : a.closeContainer n data = .ok a') : a.Checks n none a' := by
  unfold closeContainer at h
  dsimp only at h
  split at h
  · cases h
  split at h
  · cases h
  · next o rest ho =>
    obtain ⟨arrangement, -, h⟩ := Except.bind_eq_ok.1 h
    obtain ⟨⟨b, id⟩, hb, rfl⟩ := Except.map_eq_ok.1 (liftError_eq_ok.1 h)
    exact checks_of_eq ((addWidget_added hb).checkedLines_eq rfl)

theorem addCommand_checks {opcode : Opcode} (h : a.addCommand n opcode data = .ok a') :
    a.Checks n ((Line.command opcode data).checks? n) a' := by
  cases opcode with
  | header => exact addHeader_checks h
  | footer => exact addFooter_checks h
  | text => exact addRead_checks (Leaf.unchecked_text data) h
  | button => exact addRead_checks (Leaf.unchecked_button data) h
  | edit => exact addRead_checks (Leaf.unchecked_edit data) h
  | checkBox => exact addRead_checks (Leaf.unchecked_checkBox data) h
  | radioButton =>
    obtain ⟨leaf, hleaf, h⟩ := Except.bind_eq_ok.1 h
    rw [Line.checks?, liftError_eq_ok.1 hleaf]
    exact addRadioButton_checks (liftError_eq_ok.1 h)
  | divider => exact addRead_checks (Leaf.unchecked_divider data) h
  | opening kind =>
    obtain ⟨⟨attributes, arguments⟩, -, h⟩ := Except.bind_eq_ok.1 (liftError_eq_ok.1 h)
    cases h
    exact checks_of_eq fun _ => rfl
  | closing => exact closeContainer_checks h

theorem addLine_checks {l : List Char × Nat} (h : a.addLine l = .ok a') : a.Checks l.2 (Form.checkedBy? l) a' := by
  obtain ⟨line, hline, h⟩ := Except.bind_eq_ok.1 h
  rw [Form.checkedBy?, liftError_eq_ok.1 hline]
  cases line with
  | comment =>
    cases h
    exact checks_of_eq fun _ => rfl
  | blank =>
    cases h
    exact checks_of_eq fun group => Tree.checkedLines_add_of_none rfl _ group
  | command opcode data => exact addCommand_checks h
  | rule fill data => exact addRead_checks (Leaf.unchecked_rule fill data) h

/-- The last line that checks a button of a group decides. -/
theorem checkedLines_foldlM {lines : List (List Char × Nat)} (h : lines.foldlM addLine a = .ok a') (group : String) :
    a'.tree.checkedLines group =
      ((Form.checkingLines lines group).getLast?.map fun n => [n]).getD (a.tree.checkedLines group) := by
  induction lines generalizing a with
  | nil =>
    cases h
    rfl
  | cons l lines ih =>
    obtain ⟨b, hb, h⟩ := Except.bind_eq_ok.1 h
    rw [ih h, addLine_checks hb group, Form.checkingLines, Form.checkingLines, List.filter_cons]
    by_cases hl : Form.checkedBy? l = some group
    · simp only [hl, decide_true, if_true, List.map_cons, List.getLast?_cons, Option.map_some, Option.getD_some]
      cases (List.map Prod.snd (List.filter (fun l => decide (Form.checkedBy? l = some group)) lines)).getLast? <;> rfl
    · simp only [hl, decide_false, if_false, Bool.false_eq_true]

end Assembly

/-! ## Forms and their use -/

namespace Form

variable {f : Form}

/-- Of the lines that check a radio button of a group the last one decides which one is checked at first. -/
theorem parse_checkedLines {description : String} {palette : Palette} {strings : StringTable}
    (h : parse description palette strings = .ok f) :
    ∃ text, strings.substituteChars description.toList = .ok text ∧
      ∀ group, f.tree.checkedLines group = (checkingLines (numberedLines text) group).getLast?.toList := by
  obtain ⟨text, a, ht, ha, hf⟩ := parse_ok h
  refine ⟨text, ht, fun group => ?_⟩
  rw [(Assembly.finish_finished hf).tree.checkedLines, Tree.checkedLines_add_of_none rfl,
    Assembly.checkedLines_foldlM ha]
  cases (checkingLines (numberedLines text) group).getLast? <;> rfl

theorem parse_sole {description : String} {palette : Palette} {strings : StringTable}
    (h : parse description palette strings = .ok f) : f.tree.Sole := by
  obtain ⟨text, -, hlines⟩ := parse_checkedLines h
  intro group
  have hlength := congrArg List.length (hlines group)
  rw [Tree.checkedLines, List.length_map] at hlength
  rw [hlength]
  cases (checkingLines (numberedLines text) group).getLast? <;> simp

/-- No use of a form checks a second button of a group, or leaves a group without the one it had. -/
theorem settles_use (f : Form) (u : FormUse) : f.tree.Settles (f.use u).tree := Tree.turns_settles.use f u

theorem settles_uses (f : Form) (uses : List FormUse) : f.tree.Settles (uses.foldl use f).tree := by
  induction uses generalizing f with
  | nil => exact .refl _
  | cons u uses ih => exact (settles_use f u).trans (ih _)

theorem stable_sole : ∀ (f : Form) u, f.tree.Sole → (f.use u).tree.Sole := fun f u h => h.settles (settles_use f u)

/-- What a press on a radio button of a group does, by its name or with a key when it has the focus. -/
structure Picks (f : Form) (id : Nat) (group : String) : Prop where
  press : f.tree.Chosen (f.use (.activate id)).tree id group
  key : f.tree.focused? f.root = some id → ∀ key : Key, key.code = .enter ∨ key.code = .char ' ' →
    f.use (.key key) = f.use (.activate id) ∧ (f.tree.keypress f.root key).2 = .pressed id

theorem Attentive.picks (h : f.Attentive) {id : Nat} {group : String} (hid : (f.tree.widget id).group? = some group) :
    f.Picks id group := by
  obtain ⟨t, hact, hchosen⟩ := Tree.activate?_radioButton hid
  have huse : f.use (.activate id) = { f with tree := t } := by rw [Form.use, hact]; rfl
  refine ⟨huse ▸ hchosen, fun hf key hkey => ?_⟩
  have hpress := Tree.keypress_focused h.tree.ordered (h.dressed.lt h.body_lt) hf hkey hact
  rw [huse, Form.use, hpress]
  exact ⟨rfl, rfl⟩

end Form

/-- Dressing up a form adds no radio buttons. -/
theorem Panel.closed_checkedIn : Closed fun t t' => ∀ group, t'.checkedIn group = t.checkedIn group where
  refl _ _ := rfl
  trans _ _ _ h h' group := (h' group).trans (h group)
  add t w h group := by cases h <;> exact Tree.checkedIn_add_of_none rfl _ _

theorem DialogPlan.build_sole {H E : Type} {plan : DialogPlan H E} {base : Palette} {d : Dialog H E}
    (h : plan.build base = .ok d) : d.form.tree.Sole := by
  obtain ⟨palette, -, h⟩ := Except.bind_eq_ok.1 h
  obtain ⟨form, hform, h⟩ := Except.bind_eq_ok.1 h
  cases h
  intro group
  have hdress := Panel.relates_dress Panel.closed_checkedIn form plan.header form.tree group
  exact (congrArg List.length hdress).trans_le (Form.parse_sole hform group)

end ScreenForm
