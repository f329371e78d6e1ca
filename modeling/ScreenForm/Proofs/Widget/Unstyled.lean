import Mathlib.Data.Nat.Find
import ScreenForm.Proofs.Widget.Focus
/-!
# Trees without wrappers

The cores of a tree are its widgets that are no wrappers. They are numbered anew in
their order, and a wrapper gets the number of what it wraps (`Tree.core`).
`Tree.unstyled` is the tree of the cores alone, and adding and changing widgets goes
the same way with and without the wrappers.
-/

namespace ScreenForm

namespace Widget

/-- The widget with its children under other numbers. -/
def renumber (number : Nat → Nat) : Widget → Widget
  | container arrangement children focus => container arrangement (children.map number) focus
  | wrapper wrapping child => wrapper wrapping (number child)
  | w => w

section

variable (number : Nat → Nat) (w : Widget)

@[simp] theorem children_renumber : (w.renumber number).children = w.children.map number := by cases w <;> rfl

@[simp] theorem focusIndex_renumber : (w.renumber number).focusIndex = w.focusIndex := by cases w <;> rfl

@[simp] theorem isContainer_renumber : (w.renumber number).isContainer = w.isContainer := by cases w <;> rfl

@[simp] theorem isWrapper_renumber : (w.renumber number).isWrapper = w.isWrapper := by cases w <;> rfl

@[simp] theorem isFocusable_renumber : (w.renumber number).isFocusable = w.isFocusable := by cases w <;> rfl

@[simp] theorem isClickable_renumber : (w.renumber number).isClickable = w.isClickable := by cases w <;> rfl

@[simp] theorem isEditable_renumber : (w.renumber number).isEditable = w.isEditable := by cases w <;> rfl

@[simp] theorem kindName_renumber : (w.renumber number).kindName = w.kindName := by cases w <;> rfl

@[simp] theorem text?_renumber : (w.renumber number).text? = w.text? := by cases w <;> rfl

@[simp] theorem label?_renumber : (w.renumber number).label? = w.label? := by cases w <;> rfl

@[simp] theorem group?_renumber : (w.renumber number).group? = w.group? := by cases w <;> rfl

@[simp] theorem uncheck_renumber : (w.renumber number).uncheck = w.uncheck.renumber number := by cases w <;> rfl

@[simp] theorem setFocusIndex_renumber (i : Nat) :
    (w.renumber number).setFocusIndex i = (w.setFocusIndex i).renumber number := by
  cases w <;> rfl

@[simp] theorem accepts_renumber (kind : EventKind) : kind.accepts (w.renumber number) = kind.accepts w := by
  cases kind <;> simp [EventKind.accepts]

theorem setText?_renumber (s : String) : (w.renumber number).setText? s = w.setText? s := by cases w <;> rfl

theorem setEditText?_renumber (s : String) : (w.renumber number).setEditText? s = w.setEditText? s := by cases w <;> rfl

theorem renumber_congr {number' : Nat → Nat} (h : ∀ c ∈ w.children, number c = number' c) :
    w.renumber number = w.renumber number' := by
  cases w with
  | container arrangement children focus => exact congrArg (container arrangement · focus) (List.map_congr_left h)
  | wrapper wrapping child => rw [renumber, renumber, h child (List.mem_singleton_self child)]
  | _ => rfl

end

theorem isWrapper_congr {w w' : Widget} (h : w'.fixed = w.fixed) : w'.isWrapper = w.isWrapper := by
  have hfixed (w : Widget) : w.fixed.isWrapper = w.isWrapper := by cases w <;> rfl
  rw [← hfixed, h, hfixed]

theorem isWrapper_eq_false {w : Widget} : w.isWrapper = false ↔ ∀ wrapping child, w ≠ .wrapper wrapping child := by
  cases w <;> simp [isWrapper]

theorem renumber_of_children_eq_nil (number : Nat → Nat) {w : Widget} (h : w.children = []) :
    w.renumber number = w := by
  cases w with
  | container arrangement children focus =>
    obtain rfl : children = [] := h
    rfl
  | wrapper => cases h
  | _ => rfl

end Widget

/-- The node with the children of its widget under other numbers. -/
def Node.renumber (number : Nat → Nat) (n : Node) : Node :=
  { n with widget := n.widget.renumber number }

namespace Tree

variable {t t' : Tree} {i j id : Nat}

/-! ## Cores -/

/-- The widget is no wrapper. -/
def Plain (t : Tree) (id : Nat) : Prop := (t.widget id).isWrapper = false

instance (t : Tree) : DecidablePred t.Plain := fun id => inferInstanceAs (Decidable ((t.widget id).isWrapper = false))

/-- The widgets that are no wrappers, in their order. -/
def cores (t : Tree) : List Nat := (List.range t.size).filter fun id => !(t.widget id).isWrapper

/-- The number of widgets before it that are no wrappers. -/
def rank (t : Tree) (id : Nat) : Nat := (List.range id).countP fun id => !(t.widget id).isWrapper

/-- The number that a widget has among the cores, seen through the wrappers around it. -/
def core (t : Tree) (id : Nat) : Nat := t.rank (t.unwrap id)

/-- The tree of the cores, each with the cores of its children. -/
def unstyled (t : Tree) : Tree := ⟨(t.cores.map fun id => (t.node id).renumber t.core).toArray⟩

theorem Plain.unwrap (h : t.Plain id) : t.unwrap id = id :=
  unwrap_of_ne (Widget.isWrapper_eq_false.1 h)

theorem Plain.core (h : t.Plain id) : t.core id = t.rank id := congrArg t.rank h.unwrap

theorem plain_of_size_le (h : t.size ≤ id) : t.Plain id := by
  rw [Plain, widget, node_of_size_le h]
  rfl

theorem plain_of_isFocusable (h : (t.widget id).isFocusable) : t.Plain id := by
  rw [Plain]
  cases hw : t.widget id with
  | wrapper => simp [hw, Widget.isFocusable, Widget.isClickable, Widget.isEditable] at h
  | _ => rfl

theorem not_plain (h : ¬ t.Plain id) : ∃ wrapping child, t.widget id = .wrapper wrapping child := by
  rw [Plain] at h
  cases hw : t.widget id with
  | wrapper wrapping child => exact ⟨wrapping, child, rfl⟩
  | _ =>
    rw [hw] at h
    exact absurd rfl h

/-- To show something of all widgets, show it of a wrapper from what it wraps, and of another one from its
children. -/
theorem Ordered.induct (hlt : t.Ordered) {P : Nat → Prop}
    (wrapped : ∀ id wrapping child, t.widget id = .wrapper wrapping child → P child → P id)
    (plain : ∀ id, t.Plain id → (∀ c ∈ t.children id, P c) → P id) (id : Nat) : P id := by
  induction id using Nat.strongRecOn with
  | _ id ih =>
    have below (c : Nat) (hc : c ∈ t.children id) : P c := ih c (hlt id c hc)
    by_cases h : t.Plain id
    · exact plain id h below
    · obtain ⟨wrapping, child, hw⟩ := not_plain h
      exact wrapped id wrapping child hw (below child (by simp [children, hw, Widget.children]))

theorem plain_unwrap (hlt : t.Ordered) (id : Nat) : t.Plain (t.unwrap id) := by
  induction id using hlt.induct with
  | wrapped id wrapping child hw ih => rwa [unwrap_wrapper hlt hw]
  | plain id h _ => rwa [h.unwrap]

theorem unwrap_le (hlt : t.Ordered) (id : Nat) : t.unwrap id ≤ id := (reaches_unwrap id).le hlt

theorem core_wrapper (hlt : t.Ordered) {wrapping : Wrapping} {child : Nat}
    (hw : t.widget id = .wrapper wrapping child) :
    t.core id = t.core child :=
  congrArg t.rank (unwrap_wrapper hlt hw)

/-! ## Ranks -/

theorem rank_succ (t : Tree) (id : Nat) : t.rank (id + 1) = t.rank id + if t.Plain id then 1 else 0 := by
  rw [rank, List.range_succ, List.countP_append, List.countP_singleton]
  cases h : (t.widget id).isWrapper <;> simp [Plain, rank, h]

theorem rank_mono (h : i ≤ j) : t.rank i ≤ t.rank j := by
  induction h with
  | refl => exact Nat.le_refl _
  | step _ ih =>
    rw [rank_succ]
    omega

theorem rank_lt (hi : t.Plain i) (h : i < j) : t.rank i < t.rank j := by
  have := rank_mono (t := t) (Nat.succ_le_of_lt h)
  rw [Nat.succ_eq_add_one, rank_succ, if_pos hi] at this
  omega

theorem rank_inj (hi : t.Plain i) (hj : t.Plain j) : t.rank i = t.rank j ↔ i = j := by
  constructor
  · intro h
    rcases Nat.lt_trichotomy i j with hij | hij | hij
    · have := rank_lt hi hij
      omega
    · exact hij
    · have := rank_lt hj hij
      omega
  · rintro rfl
    rfl

theorem length_cores (t : Tree) : t.cores.length = t.rank t.size := List.countP_eq_length_filter.symm

@[simp] theorem size_unstyled (t : Tree) : t.unstyled.size = t.rank t.size := by
  simp [unstyled, size, length_cores]

theorem rank_lt_size (hi : t.Plain i) : t.rank i < t.unstyled.size ↔ i < t.size := by
  rw [size_unstyled]
  constructor
  · intro h
    by_contra hle
    exact absurd h (Nat.not_lt.2 (rank_mono (Nat.le_of_not_lt hle)))
  · exact rank_lt hi

theorem getElem?_cores (hi : t.Plain i) (h : i < t.size) : t.cores[t.rank i]? = some i := by
  have hrange (n : Nat) (hn : i < n) :
        ((List.range n).filter fun id => !(t.widget id).isWrapper)[t.rank i]? = some i := by
    induction n with
    | zero => omega
    | succ n ih =>
      rw [List.range_succ, List.filter_append]
      rcases Nat.lt_succ_iff_lt_or_eq.1 hn with hin | rfl
      · rw [List.getElem?_append_left, ih hin]
        exact (List.getElem?_eq_some_iff.1 (ih hin)).1
      · have hlen : ((List.range i).filter fun id => !(t.widget id).isWrapper).length = t.rank i :=
            List.countP_eq_length_filter.symm
        rw [List.getElem?_append_right (Nat.le_of_eq hlen), hlen, Nat.sub_self]
        rw [Plain] at hi
        simp [hi]
  exact hrange t.size h

/-- Each number has a core, or stands for a number beyond the tree. -/
theorem exists_rank (t : Tree) (k : Nat) : ∃ i, t.Plain i ∧ t.rank i = k := by
  have hgrows (m : Nat) : m ≤ t.rank (t.size + m) := by
    induction m with
    | zero => exact Nat.zero_le _
    | succ m ih =>
      rw [← Nat.add_assoc, rank_succ, if_pos (plain_of_size_le (Nat.le_add_right ..))]
      omega
  have hex : ∃ j, k < t.rank j := ⟨t.size + (k + 1), hgrows (k + 1)⟩
  obtain ⟨i, hi⟩ : ∃ i, Nat.find hex = i + 1 := by
    refine Nat.exists_eq_succ_of_ne_zero fun hzero => ?_
    have := Nat.find_spec hex
    rw [hzero] at this
    simp [rank] at this
  have hle : t.rank i ≤ k := Nat.le_of_not_lt (Nat.find_min hex (hi ▸ Nat.lt_succ_self i))
  have hlt : k < t.rank (i + 1) := hi ▸ Nat.find_spec hex
  rw [rank_succ] at hlt
  split at hlt
  · next hp => exact ⟨i, hp, by omega⟩
  · omega

theorem node_unstyled (hi : t.Plain i) : t.unstyled.node (t.rank i) = (t.node i).renumber t.core := by
  by_cases h : i < t.size
  · simp [unstyled, node, getElem?_cores hi h]
  · have hle := Nat.le_of_not_lt h
    have hsize : t.unstyled.size ≤ t.rank i := Nat.le_of_not_lt fun hlt => h ((rank_lt_size hi).1 hlt)
    rw [node_of_size_le hle, node_of_size_le hsize]
    rfl

theorem widget_unstyled (hi : t.Plain i) : t.unstyled.widget (t.rank i) = (t.widget i).renumber t.core :=
  congrArg Node.widget (node_unstyled hi)

theorem children_unstyled (hi : t.Plain i) : t.unstyled.children (t.rank i) = (t.children i).map t.core := by
  rw [children, widget_unstyled hi, Widget.children_renumber]
  rfl

theorem plain_unstyled (t : Tree) (k : Nat) : t.unstyled.Plain k := by
  obtain ⟨i, hi, rfl⟩ := t.exists_rank k
  rw [Plain, widget_unstyled hi, Widget.isWrapper_renumber]
  exact hi

theorem ordered_unstyled (hlt : t.Ordered) : t.unstyled.Ordered := by
  intro k c hc
  obtain ⟨i, hi, rfl⟩ := t.exists_rank k
  rw [children_unstyled hi] at hc
  obtain ⟨c, hci, rfl⟩ := List.mem_map.1 hc
  exact rank_lt (plain_unwrap hlt c) (Nat.lt_of_le_of_lt (unwrap_le hlt c) (hlt i c hci))

/-- A tree has the cores of another one if its nodes are these. -/
theorem eq_unstyled {u : Tree} (hsize : u.size = t.unstyled.size)
    (h : ∀ i, t.Plain i → u.node (t.rank i) = (t.node i).renumber t.core) : u = t.unstyled := by
  have hnodes : u.nodes = t.unstyled.nodes := by
    refine Array.ext hsize fun k hk hk' => ?_
    obtain ⟨i, hi, rfl⟩ := t.exists_rank k
    have := (h i hi).trans (node_unstyled hi).symm
    simpa [node, Array.getElem?_eq_getElem hk, Array.getElem?_eq_getElem hk'] using this
  cases u
  cases hu : t.unstyled
  simp_all

/-! ## Trees that are changed -/

section

variable (h : t'.fixed = t.fixed)
include h

theorem isWrapper_of_fixed (id : Nat) : (t'.widget id).isWrapper = (t.widget id).isWrapper :=
  Widget.isWrapper_congr (widget_fixed_of_fixed h id)

theorem plain_iff_of_fixed (id : Nat) : t'.Plain id ↔ t.Plain id := by
  rw [Plain, Plain, isWrapper_of_fixed h]

theorem rank_of_fixed : t'.rank = t.rank := by
  funext id
  simp only [rank, isWrapper_of_fixed h]

theorem core_of_fixed : t'.core = t.core := by
  funext id
  rw [core, core, rank_of_fixed h, unwrap_of_fixed h]

theorem cores_of_fixed : t'.cores = t.cores := by
  simp only [cores, size_eq_of_fixed h, isWrapper_of_fixed h]

end

theorem unstyled_modify (hid : t.Plain id) {f g : Widget → Widget}
    (hf : (f (t.widget id)).fixed = (t.widget id).fixed)
    (hg : g ((t.widget id).renumber t.core) = (f (t.widget id)).renumber t.core) :
    (t.modify id f).unstyled = t.unstyled.modify (t.rank id) g := by
  have hfixed := fixed_modify (t := t) hf
  refine (eq_unstyled ?_ fun i hi => ?_).symm
  · rw [size_modify, size_unstyled, size_unstyled, rank_of_fixed hfixed, size_modify]
  · rw [plain_iff_of_fixed hfixed] at hi
    rw [rank_of_fixed hfixed, core_of_fixed hfixed, node_modify, node_modify]
    simp only [rank_inj hi hid, rank_lt_size hi, node_unstyled hi, widget_unstyled hi]
    split
    · next heq =>
      obtain ⟨rfl, -⟩ := heq
      rw [hg]
      rfl
    · rfl

theorem unstyled_setFocus (hid : t.Plain id) (index : Nat) :
    (t.setFocus id index).unstyled = t.unstyled.setFocus (t.rank id) index :=
  unstyled_modify hid (Widget.fixed_setFocusIndex ..) (Widget.setFocusIndex_renumber ..)

theorem node_clearGroup_eq (t : Tree) (keep : Nat) (group : String) (i : Nat) :
    (t.clearGroup keep group).node i =
      if i ≠ keep ∧ (t.widget i).group? = some group then { t.node i with widget := (t.widget i).uncheck }
        else t.node i := by
  have hnone : (default : Node).widget.group? = none := rfl
  simp only [clearGroup, node, widget, Array.getElem?_mapIdx]
  by_cases hi : i < t.nodes.size
  · simp [hi]
  · simp [hi, hnone]

theorem unstyled_clearGroup {keep : Nat} (hkeep : t.Plain keep) (group : String) :
    (t.clearGroup keep group).unstyled = t.unstyled.clearGroup (t.rank keep) group := by
  have hfixed := fixed_clearGroup t keep group
  refine (eq_unstyled ?_ fun i hi => ?_).symm
  · rw [size_clearGroup, size_unstyled, size_unstyled, rank_of_fixed hfixed, size_clearGroup]
  · rw [plain_iff_of_fixed hfixed] at hi
    rw [rank_of_fixed hfixed, core_of_fixed hfixed, node_clearGroup_eq, node_clearGroup_eq]
    simp only [node_unstyled hi, widget_unstyled hi, Widget.group?_renumber, Ne, rank_inj hi hkeep]
    split
    · simp [Node.renumber]
    · rfl

theorem unstyled_activate? (hid : t.Plain id) :
    t.unstyled.activate? (t.rank id) = (t.activate? id).map unstyled := by
  rw [activate?, activate?, widget_unstyled hid]
  cases hw : t.widget id with
  | button => rfl
  | checkBox label checked =>
    have hfixed : (Widget.checkBox label !checked).fixed = (t.widget id).fixed := by
      rw [hw]
      rfl
    have hmodify : (t.modify id fun _ => .checkBox label !checked).unstyled =
        t.unstyled.modify (t.rank id) fun _ => .checkBox label !checked := unstyled_modify hid hfixed rfl
    exact congrArg some hmodify.symm
  | radioButton label checked group =>
    have hfixed : (Widget.radioButton label true group).fixed = (t.widget id).fixed := by
      rw [hw]
      rfl
    have hmodify : (t.modify id fun _ => .radioButton label true group).unstyled =
        t.unstyled.modify (t.rank id) fun _ => .radioButton label true group := unstyled_modify hid hfixed rfl
    cases group with
    | none => exact congrArg some hmodify.symm
    | some group =>
      have hfixed := fixed_modify (t := t) (f := fun _ => .radioButton label true (some group)) hfixed
      have hclear := unstyled_clearGroup ((plain_iff_of_fixed hfixed id).2 hid) group
      rw [rank_of_fixed hfixed, hmodify] at hclear
      exact congrArg some hclear.symm
  | _ => rfl

/-! ## Trees that grow -/

theorem Extends.unwrap (h : t.Extends t') (hlt : t.Ordered) (hlt' : t'.Ordered) (hid : id < t.size) :
    t'.unwrap id = t.unwrap id := by
  induction id using Nat.strongRecOn with
  | _ id ih =>
    by_cases hp : t.Plain id
    · have hp' : t'.Plain id := by rwa [Plain, Widget.isWrapper_congr (h.widget_fixed hid)]
      rw [hp.unwrap, hp'.unwrap]
    · obtain ⟨wrapping, child, hw⟩ := not_plain hp
      have hw' : t'.widget id = .wrapper wrapping child :=
        Widget.eq_wrapper_of_fixed (by rw [h.widget_fixed hid, hw, Widget.fixed])
      have hc : child < id := hlt id child (by simp [Tree.children, hw, Widget.children])
      rw [unwrap_wrapper hlt hw, unwrap_wrapper hlt' hw', ih child hc (Nat.lt_trans hc hid)]

theorem Extends.rank (h : t.Extends t') (hid : id ≤ t.size) : t'.rank id = t.rank id := by
  refine List.countP_congr fun i hi => ?_
  have hi : i < t.size := Nat.lt_of_lt_of_le (List.mem_range.1 hi) hid
  rw [Widget.isWrapper_congr (h.widget_fixed hi)]

theorem Extends.core (h : t.Extends t') (hlt : t.Ordered) (hlt' : t'.Ordered) (hid : id < t.size) :
    t'.core id = t.core id := by
  rw [Tree.core, h.unwrap hlt hlt' hid]
  exact h.rank (Nat.le_of_lt (Nat.lt_of_le_of_lt (unwrap_le hlt id) hid))

theorem cores_add (t : Tree) (w : Widget) (m : Meta) :
    (t.add w m).cores = t.cores ++ if w.isWrapper then [] else [t.size] := by
  have hold : (List.range t.size).filter (fun id => !((t.add w m).widget id).isWrapper) = t.cores := by
    refine List.filter_congr fun i hi => ?_
    rw [widget, node_add_of_ne (Nat.ne_of_lt (List.mem_range.1 hi))]
    rfl
  rw [cores, size_add, List.range_succ, List.filter_append, hold]
  cases h : w.isWrapper <;> simp [widget, h]

/-- The wrappers are left out. -/
theorem unstyled_add {w : Widget} (hlt : t.Ordered) (hw : ∀ c ∈ w.children, c < t.size) (m : Meta) :
    (t.add w m).unstyled =
    if w.isWrapper then t.unstyled else t.unstyled.add (w.renumber t.core) m := by
  have hlt' : (t.add w m).Ordered := hlt.add hw m
  have hcore {i : Nat} (hi : i < t.size) : (t.add w m).core i = t.core i := (extends_add t w m).core hlt hlt' hi
  have hnode {i : Nat} (hi : i ∈ t.cores) :
      ((t.add w m).node i).renumber (t.add w m).core = (t.node i).renumber t.core := by
    have hi : i < t.size := List.mem_range.1 (List.mem_of_mem_filter hi)
    rw [node_add_of_ne (Nat.ne_of_lt hi)]
    exact congrArg (Node.mk · _) (Widget.renumber_congr _ _ fun c hc => hcore (Nat.lt_trans (hlt i c hc) hi))
  rw [unstyled, cores_add, List.map_append, List.map_congr_left fun i hi => hnode hi]
  split
  · rw [List.map_nil, List.append_nil]
    rfl
  · have hnew : w.renumber (t.add w m).core = w.renumber t.core := Widget.renumber_congr _ _ fun c hc => hcore (hw c hc)
    rw [List.map_singleton, node_add_self, Node.renumber, hnew]
    simp [unstyled, add]

end Tree

end ScreenForm
