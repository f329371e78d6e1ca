import Mathlib.Logic.Relation
import ScreenForm.Dialog.Basic
import ScreenForm.Proofs.Form.Structure
import ScreenForm.Proofs.Widget.Focus
/-!
# The focus of a form

A form that is made of a description has its focus on the first widget that can
have it (`parse_focused?`), and no use of a form takes the focus from its
widgets (`Attentive.use`). A dialog keeps the form that it dresses up.
-/

namespace ScreenForm

open Description

/-! ## Making a form -/

namespace Tree

variable {t t' : Tree} {id outer : Nat}

theorem Wrapped.focusesFirst (h : t.Wrapped id t' outer) (hid : id < t.size) (hlt : t.Ordered)
    (hf : t.FocusesFirst) : t'.FocusesFirst := by
  cases h with
  | bare => exact hf
  | styled wrapping =>
    refine hf.add hlt (by simpa [Widget.children] using hid) ?_ {}
    simp only [Widget.focusIndex, Widget.children, firstSelectable, List.findIdx?_cons, List.findIdx?_nil]
    split <;> rfl

end Tree

namespace Assembly

variable {a a' : Assembly} {n : Nat} {rs : List Row}

theorem Added.focusesFirst {w : Widget} {id : Nat} {tops : List Nat} (h : a.Added w n a' id)
    (hforest : a.tree.Forest (w.children ++ tops)) (hf : a.tree.FocusesFirst)
    (hw : w.focusIndex = a.tree.firstSelectable w.children) : a'.tree.FocusesFirst := by
  obtain ⟨about, -, hwrap⟩ := h.tree
  have hmem : ∀ c ∈ w.children, c < a.tree.size := fun c hc => hforest.mem_iff.1 (.inr (List.mem_append_left _ hc))
  exact hwrap.focusesFirst (by simp) (hforest.add about).ordered (hf.add hforest.ordered hmem hw about)

theorem focusIndex_bare {w : Widget} (h : w.Bare) : w.focusIndex = a.tree.firstSelectable w.children := by
  rw [h.children]
  have := h.isContainer
  cases w <;> simp_all [Widget.isContainer, Widget.focusIndex, Tree.firstSelectable]

/-- The header and the footer are no widgets to be focused. -/
def Still (a : Assembly) : Prop :=
  ∀ id, a.header = some id ∨ a.footer = some id → a.tree.Quiet id

/-- The widgets are what the rows describe, and each container has its focus on the first child that
can take it. -/
structure Poised (a : Assembly) (rs : List Row) : Prop extends Built a rs where
  focusesFirst : a.tree.FocusesFirst
  still : a.Still

/-- A text takes no focus, in a wrapper or not. -/
theorem Added.quiet {w : Widget} {id : Nat} (h : a.Added w n a' id) (bare : w.Bare)
    (still : w.isFocusable = false) (hlt : a'.tree.Ordered) : a'.tree.Quiet id := by
  obtain ⟨core, hcore, hw, -, hd⟩ := h.core
  refine ⟨hd.lt hcore, ?_⟩
  rw [← Bool.not_eq_true, Tree.isSelectable_iff hlt (hd.lt hcore)]
  rintro ⟨k, hk, hf⟩
  have hchildren : a'.tree.children core = [] := by
    rw [Tree.children, Widget.children_congr hw, bare.children]
  have hstill : (a'.tree.widget core).isFocusable = false := by
    rw [Widget.isFocusable_congr hw, still]
  obtain rfl | ⟨m, hm, -⟩ := Tree.reaches_iff.1 (hd.reaches_of_isFocusable hk hf)
  · simp [hstill] at hf
  · simp [hchildren] at hm

theorem Poised.grown {role : Role} (h : Poised a rs) (hg : a.Grown n role a') : Poised a' (rs ++ [(n, role)]) := by
  have hb := h.toBuilt.grown hg
  -- What is old stays as it is, since the tree only grows.
  have old (hext : a.tree.Extends a'.tree) {id : Nat} (hid : a.header = some id ∨ a.footer = some id) :
      a'.tree.Quiet id := (h.still id hid).grows hext h.forest.ordered hb.forest.ordered
  cases hg with
  | comment => exact ⟨hb, h.focusesFirst, h.still⟩
  | @header w b id bare still added first =>
    refine ⟨hb, ?_, ?_⟩
    · exact added.focusesFirst (by rw [bare.children]; exact h.forest) h.focusesFirst (focusIndex_bare bare)
    · rintro i (hi | hi)
      · obtain rfl := Option.some.inj hi
        exact added.quiet bare still hb.forest.ordered
      · exact old added.grows (.inr (added.footer ▸ hi))
  | @footer w b id bare still added first =>
    refine ⟨hb, ?_, ?_⟩
    · exact added.focusesFirst (by rw [bare.children]; exact h.forest) h.focusesFirst (focusIndex_bare bare)
    · rintro i (hi | hi)
      · exact old added.grows (.inl (added.header ▸ hi))
      · obtain rfl := Option.some.inj hi
        exact added.quiet bare still hb.forest.ordered
  | @leaf w b id t bare added agrees =>
    refine ⟨hb, ?_, ?_⟩
    · exact (added.focusesFirst (by rw [bare.children]; exact h.forest) h.focusesFirst (focusIndex_bare bare)).agrees
        agrees
    · intro i hi
      rw [added.header, added.footer] at hi
      exact old (added.grows.trans (Tree.extends_of_fixed agrees.fixed)) hi
  | opened o line before => exact ⟨hb, h.focusesFirst, h.still⟩
  | @closed o rest arrangement b id opened added =>
    refine ⟨hb, ?_, ?_⟩
    · exact added.focusesFirst (forest_closing h.forest opened) h.focusesFirst rfl
    · intro i hi
      rw [added.header, added.footer] at hi
      exact old added.grows hi

theorem poised_initial (palette : Palette) (strings : StringTable) : Poised { palette, strings } [] where
  toBuilt := built_initial palette strings
  focusesFirst _ := rfl
  still := by rintro id (hid | hid) <;> cases hid

end Assembly

/-! ## Forms and their use -/

/-- Something that the user or a handler does to a form. -/
inductive FormUse where
  | key (key : Key)
  | step (direction : Direction)
  | activate (widget : Nat)
  | setText (name text : String)
  | setEditText (name text : String)
  deriving Repr, DecidableEq

namespace Form

/-- The form after a use. What fails leaves it as it is. -/
def use (f : Form) : FormUse → Form
  | .key key => { f with tree := (f.tree.keypress f.root key).1 }
  | .step d => { f with tree := (f.tree.stepFocus? f.root d).getD f.tree }
  | .activate widget => { f with tree := (f.tree.activate? widget).getD f.tree }
  | .setText name text => (f.setText name text).toOption.getD f
  | .setEditText name text => (f.setEditText name text).toOption.getD f

/-- The focus of the form leads to a widget of its body, if there is one to have it. -/
structure Attentive (f : Form) : Prop where
  tree : f.tree.Attentive
  body_lt : f.body < f.tree.size
  dressed : f.tree.Dressed f.body f.root

variable {f f' : Form}

theorem Attentive.focused?_isSome_iff (h : f.Attentive) :
    (f.tree.focused? f.root).isSome ↔ ∃ n, f.tree.Reaches f.body n ∧ (f.tree.widget n).isFocusable := by
  rw [Tree.focused?_isSome_iff h.tree.ordered (h.dressed.lt h.body_lt) fun n _ => h.tree.attends n]
  constructor
  · rintro ⟨n, hn, hf⟩
    exact ⟨n, h.dressed.reaches_of_isFocusable hn hf, hf⟩
  · rintro ⟨n, hn, hf⟩
    exact ⟨n, h.dressed.reaches.trans hn, hf⟩

/-- The tree changed as use changes it. -/
structure Careful (f f' : Form) : Prop where
  tree : f.tree.Careful f'.tree
  body : f'.body = f.body
  root : f'.root = f.root

theorem Attentive.careful (h : f.Attentive) (hc : f.Careful f') : f'.Attentive where
  tree := h.tree.careful hc.tree
  body_lt := by
    rw [hc.body, Tree.size_eq_of_fixed hc.tree.fixed]
    exact h.body_lt
  dressed := by
    rw [hc.body, hc.root]
    exact h.dressed.mono (Tree.extends_of_fixed hc.tree.fixed)

theorem change_of_widget {name : String} {id : Nat} (hid : f.widget name = .ok id) (write : Widget → Option Widget)
    (missing : String → RuntimeError) :
    f.change name write missing = (write (f.tree.widget id)).elim (.error (missing name))
      fun w => .ok { f with tree := f.tree.modify id fun _ => w } := by
  cases hw : write (f.tree.widget id) with
  | none => simp only [change, hid, bind, Except.bind, hw]; rfl
  | some w => simp only [change, hid, bind, Except.bind, hw]; rfl

/-- A change of a form fails, or writes one widget. -/
theorem change_cases (f : Form) (name : String) (write : Widget → Option Widget) (missing : String → RuntimeError) :
    (f.change name write missing).toOption.getD f = f ∨ ∃ id w, write (f.tree.widget id) = some w ∧
      (f.change name write missing).toOption.getD f = { f with tree := f.tree.modify id fun _ => w } := by
  cases hid : f.widget name with
  | error e => exact .inl (by rw [change, hid]; rfl)
  | ok id =>
    rw [change_of_widget hid]
    cases hw : write (f.tree.widget id) with
    | none => exact .inl rfl
    | some w => exact .inr ⟨id, w, hw, rfl⟩

theorem agrees_change {name : String} {write : Widget → Option Widget} {missing : String → RuntimeError}
    (hw : ∀ w w', write w = some w' → w'.fixed = w.fixed ∧ w'.focusIndex = w.focusIndex) :
    f.tree.Agrees ((f.change name write missing).toOption.getD f).tree := by
  obtain heq | ⟨n, w, hwrite, heq⟩ := f.change_cases name write missing
  · rw [heq]
    exact .refl f.tree
  · obtain ⟨hfixed, hfocus⟩ := hw _ w hwrite
    rw [heq]
    exact Tree.agrees_modify (f := fun _ => w) hfixed hfocus

theorem careful_change {name : String} {write : Widget → Option Widget} {missing : String → RuntimeError}
    (hw : ∀ w w', write w = some w' → w'.fixed = w.fixed ∧ w'.focusIndex = w.focusIndex) :
    f.Careful ((f.change name write missing).toOption.getD f) := by
  refine ⟨(agrees_change hw).careful, ?_, ?_⟩
  all_goals obtain heq | ⟨_, _, -, heq⟩ := f.change_cases name write missing <;> rw [heq]

/-- No use of a form makes its widgets others. -/
theorem fixed_use (f : Form) (u : FormUse) : (f.use u).tree.fixed = f.tree.fixed := by
  cases u with
  | key key => exact (Tree.careful_keypress ..).fixed
  | step d =>
    cases ht : f.tree.stepFocus? f.root d with
    | none => rw [use, ht, Option.getD_none]
    | some t => simpa [use, ht] using Tree.fixed_stepFocus? ht
  | activate widget =>
    cases ht : f.tree.activate? widget with
    | none => rw [use, ht, Option.getD_none]
    | some t => simpa [use, ht] using (Tree.agrees_activate? ht).fixed
  | setText name text => exact (careful_change fun _ _ => Widget.fixed_of_setText?).tree.fixed
  | setEditText name text => exact (careful_change fun _ _ => Widget.fixed_of_setEditText?).tree.fixed

/-- No use of a form takes the focus from its widgets. -/
theorem Attentive.use (h : f.Attentive) (u : FormUse) : f.Careful (f.use u) := by
  cases u with
  | key key => exact ⟨Tree.careful_keypress .., rfl, rfl⟩
  | step d =>
    cases ht : f.tree.stepFocus? f.root d with
    | none => exact ⟨by rw [Form.use, ht]; exact .refl _, rfl, rfl⟩
    | some t => exact ⟨by rw [Form.use, ht]; exact Tree.careful_stepFocus? h.tree.ordered ht, rfl, rfl⟩
  | activate widget =>
    cases ht : f.tree.activate? widget with
    | none => exact ⟨by rw [Form.use, ht]; exact .refl _, rfl, rfl⟩
    | some t => exact ⟨by rw [Form.use, ht]; exact (Tree.agrees_activate? ht).careful, rfl, rfl⟩
  | setText name text => exact careful_change fun _ _ => Widget.fixed_of_setText?
  | setEditText name text => exact careful_change fun _ _ => Widget.fixed_of_setEditText?

/-- The header and the footer are no widgets to be focused. -/
def Still (f : Form) : Prop :=
  ∀ id, f.header = some id ∨ f.footer = some id → f.tree.Quiet id

end Form

theorem Assembly.Poised.finish {a : Assembly} {rs : List Row} {f : Form} (h : a.Poised rs) (hf : a.Finished f) :
    f.BodySpans rs ∧ f.tree.FocusesFirst ∧ f.Still := by
  have hb := h.toBuilt.finish hf
  have hmem : ∀ c ∈ a.list.children, c < a.tree.size := fun c hc =>
    h.forest.mem_iff.1 (.inr (by simp only [loose, List.mem_append]; exact .inl (.inl (.inl hc))))
  refine ⟨hb, ?_, ?_⟩
  · exact hf.tree.focusesFirst (by simp) (h.forest.ordered.add hmem {})
      (h.focusesFirst.add h.forest.ordered hmem rfl {})
  · intro id hid
    rw [hf.header, hf.footer] at hid
    exact (h.still id hid).grows ((Tree.extends_add ..).trans hf.tree.grows) h.forest.ordered hb.forest.ordered

namespace Form

variable {f : Form} {description : String} {palette : Palette} {strings : StringTable}

theorem parse_poised (h : parse description palette strings = .ok f) :
    ∃ text, f.BodySpans (rows text) ∧ f.tree.FocusesFirst ∧ f.Still := by
  obtain ⟨text, a, -, ha, hf⟩ := parse_ok h
  have hp := Assembly.foldlM_ok (P := Assembly.Poised) (fun _ _ _ _ _ hp hg => hp.grown hg)
    (Assembly.poised_initial palette strings) ha
  exact ⟨text, hp.finish (Assembly.finish_finished hf)⟩

theorem parse_attentive (h : parse description palette strings = .ok f) : f.Attentive := by
  obtain ⟨_, hb, hf, -⟩ := parse_poised h
  exact ⟨⟨hb.forest.ordered, hf.attends⟩, hb.lt, hb.dressed⟩

/-- A widget that can have the focus is described by a line. -/
theorem BodySpans.line_pos {rs : List Row} (h : f.BodySpans rs) (hpos : ∀ r ∈ rs, 0 < r.1) {n : Nat}
    (hn : f.tree.Reaches f.root n) (hf : (f.tree.widget n).isFocusable) : 0 < (f.tree.about n).line := by
  obtain rfl | ⟨i, hi, hn⟩ := Tree.reaches_iff.1 (h.dressed.reaches_of_isFocusable hn hf)
  · rw [Widget.isFocusable_of_isContainer h.container] at hf
    cases hf
  · have hmem := h.spans.lineOf_mem h.forest.ordered hi hn
    rw [Tree.lineOf, Tree.unwrap_focusable hf, mem_contentLines] at hmem
    obtain ⟨role, -, hr⟩ := hmem
    exact hpos _ hr

/-- The focus of a new form is on the widget of the first line that describes one to have it. -/
theorem parse_focused? (h : parse description palette strings = .ok f) :
    f.tree.focused? f.root = (f.tree.walk f.root).find? fun n => (f.tree.widget n).isFocusable := by
  obtain ⟨_, hb, hf, -⟩ := parse_poised h
  exact hf.focused?_eq hb.forest.ordered (hb.dressed.lt hb.lt)

theorem parse_focused?_le (h : parse description palette strings = .ok f) {n m : Nat}
    (hn : f.tree.focused? f.root = some n) (hm : f.tree.Reaches f.root m) (hf : (f.tree.widget m).isFocusable) :
    (f.tree.about n).line ≤ (f.tree.about m).line := by
  obtain ⟨text, hb, -, -⟩ := parse_poised h
  have hroot := hb.dressed.lt hb.lt
  rw [parse_focused? h, List.find?_eq_some_iff_append] at hn
  obtain ⟨hnf, before, after, hwalk, hbefore⟩ := hn
  have hmem := (Tree.mem_walk hb.forest.ordered hroot).2 hm
  have hpos {k : Nat} (hk : f.tree.Reaches f.root k) (hkf : (f.tree.widget k).isFocusable) : (f.tree.about k).line ≠ 0 :=
    Nat.ne_of_gt (hb.line_pos (fun _ => pos_of_mem_rows) hk hkf)
  have hlines := (hb.follows (pairwise_rows text) fun _ => pos_of_mem_rows).increasing
  rw [Tree.lines, hwalk, List.filter_append, List.map_append] at hlines
  rw [hwalk, List.mem_append, List.mem_cons] at hmem
  -- Before the focused widget the walk meets none that can have the focus, and behind it lines only grow.
  rcases hmem with hmem | rfl | hmem
  · exact absurd hf (by simpa using hbefore m hmem)
  · exact Nat.le_refl _
  · have hnreach : f.tree.Reaches f.root n :=
      (Tree.mem_walk hb.forest.ordered hroot).1 (by simp [hwalk])
    rw [List.filter_cons_of_pos (by simpa using hpos hnreach hnf), List.map_cons] at hlines
    have hafter := (List.pairwise_cons.1 (List.pairwise_append.1 hlines).2.1).1
    exact Nat.le_of_lt (hafter _ (List.mem_map.2 ⟨m, List.mem_filter.2 ⟨hmem, by simpa using hpos hm hf⟩, rfl⟩))

end Form

end ScreenForm
