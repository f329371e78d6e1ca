import ScreenForm.Proofs.Form.Checked
import ScreenForm.Proofs.Widget.Path
/-!
# Texts by name

A form gives its texts away by the names of their widgets, and takes new ones the same way. What was written is read
back, all other names read as before, the last text that is written under a name stays, and under different names
the order does not matter (`Form.InUse.accesses_texts`). For this no two names may belong to one widget, which the
making of a form sees to.
-/

namespace ScreenForm

/-! ## Widgets -/

/-- Which text of a widget is read or written: the one on display, or the one that is edited. -/
inductive TextAccess where
  | shown
  | edited
  deriving Repr, DecidableEq

namespace TextAccess

def read : TextAccess → Widget → Option String
  | shown => Widget.text?
  | edited => Widget.editText?

def write : TextAccess → Widget → String → Option Widget
  | shown => Widget.setText?
  | edited => Widget.setEditText?

/-- The error for a widget without the text. -/
def missing : TextAccess → String → RuntimeError
  | shown => .notText
  | edited => .notEditable

end TextAccess

namespace Widget

/-- How a text shows in the widget: a field puts its caption before it. -/
def showing (w : Widget) (s : String) : String :=
  match w with
  | edit e => e.caption ++ s
  | _ => s

variable {w w' : Widget} {s : String} {k : TextAccess}

theorem setText?_eq_none_iff : w.setText? s = none ↔ w.text? = none := by
  cases w <;> simp [setText?, text?]

theorem setEditText?_eq_none_iff : w.setEditText? s = none ↔ w.editText? = none := by
  cases w <;> simp [setEditText?, editText?]

theorem write_eq_none_iff : k.write w s = none ↔ k.read w = none := by
  cases k with
  | shown => exact setText?_eq_none_iff
  | edited => exact setEditText?_eq_none_iff

/-- Whichever text is written, it is the widget's own text that changes. -/
theorem setText?_of_write (h : k.write w s = some w') : w.setText? s = some w' := by
  cases k with
  | shown => exact h
  | edited =>
    cases w with
    | edit e => exact h
    | _ => cases h

/-- The widgets with a text are the texts, the fields and the dividers. -/
theorem setText?_cases (h : w.setText? s = some w') :
    (∃ old align, w = .text old align ∧ w' = .text s align) ∨ (∃ e, w = .edit e ∧ w' = .edit (e.setText s)) ∨
      ∃ fill old top bottom, w = .divider fill old top bottom ∧ w' = .divider fill s top bottom := by
  cases w with
  | text old align => exact .inl ⟨old, align, rfl, (Option.some.inj h).symm⟩
  | edit e => exact .inr (.inl ⟨e, rfl, (Option.some.inj h).symm⟩)
  | divider fill old top bottom => exact .inr (.inr ⟨fill, old, top, bottom, rfl, (Option.some.inj h).symm⟩)
  | _ => cases h

theorem text?_of_setText? (h : w.setText? s = some w') : w'.text? = some (w.showing s) := by
  obtain ⟨old, align, rfl, rfl⟩ | ⟨e, rfl, rfl⟩ | ⟨fill, old, top, bottom, rfl, rfl⟩ := setText?_cases h <;> rfl

theorem editText?_of_write (h : TextAccess.edited.write w s = some w') : w'.editText? = some s := by
  cases w with
  | edit e =>
    cases h
    rfl
  | _ => cases h

/-- What is written last stays. -/
theorem write_of_setText? (h : w.setText? s = some w') (k : TextAccess) (s' : String) :
    k.write w' s' = k.write w s' := by
  obtain ⟨old, align, rfl, rfl⟩ | ⟨e, rfl, rfl⟩ | ⟨fill, old, top, bottom, rfl, rfl⟩ := setText?_cases h <;>
    cases k <;> rfl

end Widget

/-! ## Names -/

theorem Tree.Checked.name_unique {t : Tree} {names : NameTable} {strings : StringTable} (h : t.Checked names strings)
    {n m : String} {id : Nat} (hn : names.get n = .ok id) (hm : names.get m = .ok id) : n = m := by
  have hid := (h.named n id).1 hn
  rw [(h.named m id).1 hm] at hid
  exact (Option.some.inj hid).symm

namespace Form

variable {f f' g : Form} {k k' : TextAccess} {n m s r : String} {id : Nat} {w : Widget}

theorem InUse.checked (h : f.InUse) : f.Checked := by
  induction h with
  | parsed h => exact parse_checked h
  | built h => exact DialogPlan.build_checked h
  | used _ u ih => exact ih.use u

/-! ## Reading and writing -/

def readText (f : Form) (k : TextAccess) (name : String) : Except RuntimeError String :=
  match k with
  | .shown => f.text name
  | .edited => f.editText name

def writeText (f : Form) (k : TextAccess) (name text : String) : Except RuntimeError Form :=
  match k with
  | .shown => f.setText name text
  | .edited => f.setEditText name text

theorem readText_eq (f : Form) (k : TextAccess) (name : String) :
    f.readText k name = f.property name k.read k.missing := by
  cases k <;> rfl

theorem writeText_eq (f : Form) (k : TextAccess) (name text : String) :
    f.writeText k name text = f.change name (k.write · text) k.missing := by
  cases k <;> rfl

theorem property_of_widget {α : Type} (hid : f.widget n = .ok id) (read : Widget → Option α)
    (missing : String → RuntimeError) :
    f.property n read missing = (read (f.tree.widget id)).elim (.error (missing n)) .ok := by
  cases hr : read (f.tree.widget id) with
  | none => simp only [property, hid, bind, Except.bind, hr]; rfl
  | some a => simp only [property, hid, bind, Except.bind, hr]; rfl

/-- A property by name is the same with another tree where it is the same of the widget. -/
theorem property_of_tree {α : Type} {read : Widget → Option α} (t : Tree)
    (hread : ∀ id, f.widget n = .ok id → read (t.widget id) = read (f.tree.widget id))
    (missing : String → RuntimeError) : property { f with tree := t } n read missing = f.property n read missing := by
  cases hid : f.widget n with
  | error e =>
    have hid' : widget { f with tree := t } n = .error e := hid
    simp only [property, hid, hid', bind, Except.bind]
  | ok id =>
    have hid' : widget { f with tree := t } n = .ok id := hid
    rw [property_of_widget hid, property_of_widget hid', hread id hid]

theorem writeText_eq_ok_iff : f.writeText k n s = .ok f' ↔ ∃ id w, f.widget n = .ok id ∧
    k.write (f.tree.widget id) s = some w ∧ f' = { f with tree := f.tree.modify id fun _ => w } := by
  rw [writeText_eq]
  cases hid : f.widget n with
  | error e =>
    simp only [change, hid, bind, Except.bind, reduceCtorEq, false_and, exists_const]
  | ok id =>
    rw [change_of_widget hid]
    cases hw : k.write (f.tree.widget id) s with
    | none => simp [hw]
    | some w => simp [hw, eq_comm]

/-- A text can be written where it can be read, and both fail with the same error. -/
theorem writeText_eq_error_iff {e : RuntimeError} : f.writeText k n s = .error e ↔ f.readText k n = .error e := by
  rw [writeText_eq, readText_eq]
  cases hid : f.widget n with
  | error e' =>
    simp only [change, property, hid, bind, Except.bind, Except.error.injEq]
  | ok id =>
    rw [change_of_widget hid, property_of_widget hid]
    cases hw : k.write (f.tree.widget id) s with
    | none =>
      rw [Widget.write_eq_none_iff.1 hw]
      simp
    | some w =>
      have hread : k.read (f.tree.widget id) ≠ none := by
        rw [ne_eq, ← Widget.write_eq_none_iff, hw]
        simp
      obtain ⟨text, htext⟩ := Option.ne_none_iff_exists'.1 hread
      simp [htext]

/-! ## What a write leaves -/

theorem bindings_of_fixed (h : f'.tree.fixed = f.tree.fixed) : f'.bindings = f.bindings := by
  have hfixed : ∀ g : Form, g.bindings = g.tree.fixed.nodes.toList.flatMap (·.about.events.toList) := by
    intro g
    rw [bindings, Tree.fixed, Array.toList_map, List.flatMap_map]
    rfl
  rw [hfixed, hfixed, h]

/-- The name reads the text that was written, and a field has its cursor behind it. -/
structure Written (f : Form) (k : TextAccess) (n s : String) (f' : Form) : Prop where
  text : ∃ id, f.widget n = .ok id ∧ f'.text n = .ok ((f.tree.widget id).showing s)
  editText : k = .edited → f'.editText n = .ok s
  field : ∀ id e, f'.widget n = .ok id → f'.tree.widget id = .edit e → f'.editText n = .ok s ∧ e.text = s ∧
    e.cursor = s.length

/-- All but the widget of this name is the same in both forms. -/
structure SameBeside (f : Form) (n : String) (f' : Form) : Prop where
  text : ∀ m, m ≠ n → f'.text m = f.text m
  editText : ∀ m, m ≠ n → f'.editText m = f.editText m
  label : ∀ m, f'.label m = f.label m
  checked : ∀ m, f'.checked m = f.checked m
  widget : ∀ m, f'.widget m = f.widget m
  node : ∀ id, f.widget n ≠ .ok id → f'.tree.node id = f.tree.node id
  named : ∀ m, m ≠ n → ∀ id, f.widget m = .ok id → f'.tree.node id = f.tree.node id
  focusIndex : ∀ id, (f'.tree.widget id).focusIndex = (f.tree.widget id).focusIndex
  bindings : f'.bindings = f.bindings
  /-- Only the tree is another one. -/
  rest : f' = { f with tree := f'.tree }

theorem Checked.lt_size (hf : f.Checked) (hid : f.widget n = .ok id) : id < f.tree.size := by
  refine Nat.lt_of_not_le fun h => ?_
  have hname := (hf.named n id).1 hid
  rw [Tree.about, Tree.node_of_size_le h] at hname
  cases hname

theorem Checked.written (hf : f.Checked) (h : f.writeText k n s = .ok f') : f.Written k n s f' := by
  obtain ⟨id, w, hid, hw, rfl⟩ := writeText_eq_ok_iff.1 h
  have hset := Widget.setText?_of_write hw
  have hself : (f.tree.modify id fun _ => w).widget id = w := Tree.widget_modify_self (hf.lt_size hid) _
  have hread : ∀ {α : Type} (read : Widget → Option α) (missing : String → RuntimeError),
      property { f with tree := f.tree.modify id fun _ => w } n read missing =
        (read w).elim (.error (missing n)) .ok := by
    intro α read missing
    have hid' : widget { f with tree := f.tree.modify id fun _ => w } n = .ok id := hid
    rw [property_of_widget hid', hself]
  refine ⟨⟨id, hid, ?_⟩, ?_, ?_⟩
  · rw [text, hread, Widget.text?_of_setText? hset]
    rfl
  · rintro rfl
    rw [editText, hread, Widget.editText?_of_write hw]
    rfl
  · intro id' e hid' he
    obtain rfl : id = id' := Except.ok.inj (hid.symm.trans hid')
    rw [hself] at he
    subst he
    obtain ⟨_, _, -, he⟩ | ⟨old, -, he⟩ | ⟨_, _, _, _, -, he⟩ := Widget.setText?_cases hset <;> cases he
    refine ⟨?_, rfl, rfl⟩
    rw [editText, hread]
    rfl

/-- What has a text has neither a label nor a check. -/
theorem label?_of_setText? {w w' : Widget} (h : w.setText? s = some w') :
    w'.label? = w.label? ∧ w'.checked? = w.checked? := by
  obtain ⟨_, _, rfl, rfl⟩ | ⟨_, rfl, rfl⟩ | ⟨_, _, _, _, rfl, rfl⟩ := Widget.setText?_cases h <;> exact ⟨rfl, rfl⟩

theorem Checked.sameBeside (hf : f.Checked) (h : f.writeText k n s = .ok f') : f.SameBeside n f' := by
  obtain ⟨id, w, hid, hw, rfl⟩ := writeText_eq_ok_iff.1 h
  have hset := Widget.setText?_of_write hw
  obtain ⟨hfixed, hfocus⟩ := Widget.fixed_of_setText? hset
  have hagrees : f.tree.Agrees (f.tree.modify id fun _ => w) := Tree.agrees_modify hfixed hfocus
  have hnode : ∀ i, i ≠ id → (f.tree.modify id fun _ => w).node i = f.tree.node i := by
    intro i hi
    rw [Tree.node_modify, if_neg fun h => hi h.1]
  -- Another name belongs to another widget.
  have hother : ∀ m, m ≠ n → ∀ i, f.widget m = .ok i → (f.tree.modify id fun _ => w).node i = f.tree.node i := by
    intro m hm i hi
    refine hnode i ?_
    rintro rfl
    exact hm (Tree.Checked.name_unique hf hi hid)
  -- What the widget itself has been written to changes only its text.
  have hbare : ∀ {α : Type} {read : Widget → Option α}, read w = read (f.tree.widget id) →
      ∀ i, read ((f.tree.modify id fun _ => w).widget i) = read (f.tree.widget i) := by
    intro α read hread i
    rw [Tree.widget, Tree.node_modify]
    split
    · next hi => rw [hread, hi.1]
    · rfl
  obtain ⟨hlabel, hchecked⟩ := label?_of_setText? hset
  constructor
  case text => exact fun m hm => property_of_tree _ (fun i hi => congrArg (Widget.text? ·.widget) (hother m hm i hi)) _
  case editText =>
    exact fun m hm => property_of_tree _ (fun i hi => congrArg (Widget.editText? ·.widget) (hother m hm i hi)) _
  case label => exact fun m => property_of_tree _ (fun i _ => hbare hlabel i) _
  case checked => exact fun m => property_of_tree _ (fun i _ => hbare hchecked i) _
  case widget => exact fun _ => rfl
  case node =>
    intro i hi
    refine hnode i ?_
    rintro rfl
    exact hi hid
  case named => exact hother
  case focusIndex => exact hagrees.focusIndex
  case bindings => exact bindings_of_fixed hagrees.fixed
  case rest => rfl

/-- Of two texts that are written under one name, the last one stays, whichever way they are written. -/
theorem Checked.writeText_writeText (hf : f.Checked) (h : f.writeText k n s = .ok f') (k' : TextAccess) (r : String) :
    f'.writeText k' n r = f.writeText k' n r := by
  obtain ⟨id, w, hid, hw, rfl⟩ := writeText_eq_ok_iff.1 h
  have hset := Widget.setText?_of_write hw
  have hid' : widget { f with tree := f.tree.modify id fun _ => w } n = .ok id := hid
  have hself : (f.tree.modify id fun _ => w).widget id = w := Tree.widget_modify_self (hf.lt_size hid) _
  rw [writeText_eq, writeText_eq, change_of_widget hid', change_of_widget hid, hself, Widget.write_of_setText? hset]
  simp only [Tree.modify_modify]

/-- Texts that are written to two widgets can be written in any order. -/
theorem Checked.writeText_comm (hf : f.Checked) (hne : m ≠ n) (h : f.writeText k n s = .ok f')
    (h' : f.writeText k' m r = .ok g) : ∃ both, f'.writeText k' m r = .ok both ∧ g.writeText k n s = .ok both := by
  obtain ⟨id, w, hid, hw, rfl⟩ := writeText_eq_ok_iff.1 h
  obtain ⟨id', w', hid', hw', rfl⟩ := writeText_eq_ok_iff.1 h'
  have hids : id ≠ id' := by
    rintro rfl
    exact hne (Tree.Checked.name_unique hf hid' hid)
  refine ⟨{ f with tree := (f.tree.modify id fun _ => w).modify id' fun _ => w' }, ?_, ?_⟩
  · refine writeText_eq_ok_iff.2 ⟨id', w', hid', ?_, rfl⟩
    rwa [Tree.widget_modify_of_ne (Ne.symm hids)]
  · refine writeText_eq_ok_iff.2 ⟨id, w, hid, ?_, ?_⟩
    · rwa [Tree.widget_modify_of_ne hids]
    · rw [Tree.modify_comm _ hids]

/-- In every form in use, a text is written where it is read: a write under a name fails as the reading does, and one
that succeeds changes the text of this name alone. -/
theorem InUse.accesses_texts (h : f.InUse) (k : TextAccess) (n s : String) :
    (∀ e, f.writeText k n s = .error e ↔ f.readText k n = .error e) ∧
      ∀ f', f.writeText k n s = .ok f' → f.Written k n s f' ∧ f.SameBeside n f' ∧
        (∀ k' r, f'.writeText k' n r = f.writeText k' n r) ∧
        ∀ k' m r g, m ≠ n → f.writeText k' m r = .ok g →
          ∃ both, f'.writeText k' m r = .ok both ∧ g.writeText k n s = .ok both := by
  have hf := h.checked
  refine ⟨fun e => writeText_eq_error_iff, fun f' hwrite => ⟨hf.written hwrite, hf.sameBeside hwrite, ?_, ?_⟩⟩
  · intro k' r
    exact hf.writeText_writeText hwrite k' r
  · intro k' m r g hm hwrite'
    exact hf.writeText_comm hm hwrite hwrite'

/-- A field shows what is written to it behind its caption, and the text above it can be written before or after. -/
theorem InUse.accesses_texts_captioned : ∃ f f' g both : Form, f.InUse ∧
    f.writeText .edited "subject" "Re: é" = .ok f' ∧ f'.text "subject" = .ok "Subject Re: é" ∧
    f'.editText "subject" = .ok "Re: é" ∧ f'.text "hello" = .ok "Hello" ∧
    f.writeText .shown "hello" "Bye" = .ok g ∧ f'.writeText .shown "hello" "Bye" = .ok both ∧
    g.writeText .edited "subject" "Re: é" = .ok both ∧
    f.writeText .edited "hello" "Bye" = .error (.notEditable "hello") := by
  let description := "Txt Hello args:#hello\nEdt Subject [Hi] #subject"
  let f := ((parse description {} {}).toOption).getD default
  have h : f.InUse := .parsed (by decide +kernel : parse description {} {} = .ok f)
  obtain ⟨hfails, -⟩ := h.accesses_texts .edited "hello" "Bye"
  obtain ⟨-, hworks⟩ := h.accesses_texts .edited "subject" "Re: é"
  obtain ⟨f', hf'⟩ : ∃ f', f.writeText .edited "subject" "Re: é" = .ok f' :=
    ⟨_, writeText_eq_ok_iff.2 ⟨1, .edit ⟨"Subject ", "Re: é", 5, false⟩, by decide +kernel, by decide +kernel, rfl⟩⟩
  obtain ⟨g, hg⟩ : ∃ g, f.writeText .shown "hello" "Bye" = .ok g :=
    ⟨_, writeText_eq_ok_iff.2 ⟨0, .text "Bye" .left, by decide +kernel, by decide +kernel, rfl⟩⟩
  obtain ⟨⟨⟨id, hid, htext⟩, hedit, -⟩, hbeside, -, hcomm⟩ := hworks f' hf'
  obtain ⟨both, hboth, hboth'⟩ := hcomm .shown "hello" "Bye" g (by decide) hg
  refine ⟨f, f', g, both, h, hf', ?_, hedit rfl, ?_, hg, hboth, hboth', ?_⟩
  · obtain rfl : 1 = id := Except.ok.inj ((by decide +kernel : f.widget "subject" = .ok 1).symm.trans hid)
    rw [htext]
    decide +kernel
  · rw [hbeside.text "hello" (by decide)]
    decide +kernel
  · exact (hfails _).2 (by decide +kernel)

end Form

end ScreenForm
