import Mathlib
import ScreenForm.Proofs.Form.Unstyled
import ScreenForm.Proofs.Layout.Safe
import ScreenForm.Proofs.Style.Layering
/-!
# A list with too many rows

A description of some dividers, each as high as a widget can be, and of a button
below them. The button has the focus, so all rows count. Up to 65536 dividers a word
can count them, and the form can be painted. With more of them it cannot be
(`render?_form_eq_none_iff`).
-/

namespace ScreenForm.Tower

open Description Layout Machine

def tallLine : List Char := "---top=65534".toList

def tall : Widget := .divider '-' "" 65534 0

def buttonLine : List Char := "Btn [Here]".toList

def text (n : Nat) : List Char :=
  (List.replicate n tallLine).flatMap (· ++ ['\n']) ++ buttonLine

/-! ## Reading the description -/

theorem not_mem_text (n : Nat) : '$' ∉ text n := by
  have htall : '$' ∉ tallLine ++ ['\n'] := by decide
  have hbutton : '$' ∉ buttonLine := by decide
  simp only [text, List.mem_append, List.mem_flatMap, List.mem_replicate, not_or, not_exists, not_and]
  exact ⟨fun line hline => hline.2 ▸ by simpa using htall, hbutton⟩

/-- A text in which no key can begin stays as it is. -/
theorem substituteChars_of_not_mem (t : StringTable) {cs : List Char} (h : '$' ∉ cs) :
    t.substituteChars cs = .ok cs := by
  fun_induction StringTable.substituteChars t cs with
  | case1 => rfl
  | case2 cs ih => simp at h
  | case3 cs hcut => simp at h
  | case4 cs key rest hcut hlt ih => simp at h
  | case5 c cs _ _ ih =>
    rw [ih fun hmem => h (List.mem_cons_of_mem c hmem)]
    rfl

theorem numberedLines_text (n : Nat) :
    Form.numberedLines (text n) = (List.replicate n tallLine).zipIdx 1 ++ [(buttonLine, n + 1)] := by
  have hsplit : Text.splitOn (· = '\n') (text n) = List.replicate n tallLine ++ [buttonLine] := by
    induction n with
    | zero => decide
    | succ n ih =>
      have htall : Text.splitOn (· = '\n') tallLine = [tallLine] := by decide
      have htext : text (n + 1) = tallLine ++ '\n' :: text n := by simp [text, List.replicate_succ]
      rw [htext, Text.splitOn_append (by decide), htall, ih, List.replicate_succ, List.singleton_append,
        List.cons_append]
  rw [Form.numberedLines, hsplit, List.zipIdx_append, List.length_replicate, Nat.add_comm 1 n]
  rfl

def dividers : Nat → Tree
  | 0 => {}
  | n + 1 => (dividers n).add tall { line := n + 1 }

@[simp] theorem size_dividers (n : Nat) : (dividers n).size = n := by
  induction n with
  | zero => rfl
  | succ n ih => rw [dividers, Tree.size_add, ih]

/-- What has been read when there are these widgets, none of which is in another one. -/
def reading (t : Tree) : Assembly where
  palette := {}
  strings := {}
  tree := t
  content := .range t.size

/-- A leaf without attributes is just added. -/
theorem addRead_reading (t : Tree) {read : Except SyntaxError Leaf} {w : Widget} (hread : read = .ok ⟨w, {}⟩)
    (line : Nat) : (reading t).addRead read line = .ok (reading (t.add w { line := line })) := by
  have hadd : (reading t).addWidget w {} w.kindName line =
      .ok ({ reading t with tree := t.add w { line := line } }, t.size) :=
    congrArg Except.ok (Assembly.applyStyle_empty (a := { reading t with tree := t.add w { line := line } }) rfl _ _)
  have hplace : Assembly.place ({ reading t with tree := t.add w { line := line } }, t.size) =
      reading (t.add w { line := line }) := by
    simp [Assembly.place, reading, Array.range_succ]
  have hleaf : (reading t).addLeaf ⟨w, {}⟩ line = .ok (reading (t.add w { line := line })) := by
    rw [Assembly.addLeaf, hadd, ← hplace]
    rfl
  rw [hread]
  show liftError ((reading t).addLeaf ⟨w, {}⟩ line) = _
  rw [hleaf]
  rfl

theorem addLine_tall (t : Tree) (line : Nat) :
    (reading t).addLine (tallLine, line) = .ok (reading (t.add tall { line := line })) := by
  have hparse : Line.parse line tallLine = .ok (.rule '-' "top=65534".toList) := by cbv
  have hleaf : Leaf.rule line '-' "top=65534".toList = .ok ⟨tall, {}⟩ := by cbv
  rw [Assembly.addLine, hparse]
  exact addRead_reading t hleaf line

theorem addLine_button (t : Tree) (line : Nat) :
    (reading t).addLine (buttonLine, line) = .ok (reading (t.add (.button "Here") { line := line })) := by
  have hparse : Line.parse line buttonLine = .ok (.command .button "[Here]".toList) := by cbv
  have hleaf : Leaf.button line "[Here]".toList = .ok ⟨.button "Here", {}⟩ := by cbv
  rw [Assembly.addLine, hparse]
  exact addRead_reading t hleaf line

theorem foldlM_tall (n : Nat) :
    ((List.replicate n tallLine).zipIdx 1).foldlM Assembly.addLine (reading {}) = .ok (reading (dividers n)) := by
  induction n with
  | zero => rfl
  | succ n ih =>
    have hlast := addLine_tall (dividers n) (1 + n)
    rw [List.replicate_succ', List.zipIdx_append, List.foldlM_append, ih, List.length_replicate]
    show ((reading (dividers n)).addLine (tallLine, 1 + n) >>= pure) = _
    rw [hlast, dividers, Nat.add_comm 1 n]
    rfl

/-- The dividers and the button below them. -/
def leaves (n : Nat) : Tree :=
  (dividers n).add (.button "Here") { line := n + 1 }

def list (n : Nat) : Widget :=
  .container (.list none false) (List.range (n + 1)) ((leaves n).firstSelectable (List.range (n + 1)))

/-- The form that the description describes. -/
def form (n : Nat) : Form where
  tree := (leaves n).add (list n) {}
  names := {}
  strings := {}
  palette := {}
  header := none
  footer := none
  body := n + 1
  root := n + 1

theorem finish_leaves (n : Nat) : (reading (leaves n)).finish = .ok (form n) := by
  have hsize : (leaves n).size = n + 1 := by simp [leaves]
  have hlist : Widget.container (.list none false) (reading (leaves n)).content.toList
      ((leaves n).firstSelectable (reading (leaves n)).content.toList) = list n := by
    simp [list, reading, hsize]
  have hopened : ¬ (!(reading (leaves n)).opened.isEmpty) = true := by simp [reading]
  have htree : (reading (leaves n)).tree = leaves n := rfl
  rw [Assembly.finish, if_neg hopened]
  dsimp only
  rw [Assembly.applyStyle_empty rfl, htree, hlist, hsize]
  rfl

theorem parse_text (n : Nat) : Form.parse (String.ofList (text n)) {} {} = .ok (form n) := by
  have hsubstitute : StringTable.substituteChars {} (String.ofList (text n)).toList = .ok (text n) := by
    rw [String.toList_ofList]
    exact substituteChars_of_not_mem {} (not_mem_text n)
  have hfold : (Form.numberedLines (text n)).foldlM Assembly.addLine (reading {}) = .ok (reading (leaves n)) := by
    have hlast := addLine_button (dividers n) (n + 1)
    rw [numberedLines_text, List.foldlM_append, foldlM_tall]
    show ((reading (dividers n)).addLine (buttonLine, n + 1) >>= pure) = _
    rw [hlast]
    rfl
  rw [Form.parse, hsubstitute]
  show ((Form.numberedLines (text n)).foldlM Assembly.addLine (reading {}) >>= Assembly.finish) = _
  rw [hfold]
  exact finish_leaves n

/-! ## Counting the rows -/

section

variable {n k : Nat}

theorem widget_dividers (h : k < n) : (dividers n).widget k = tall := by
  induction n with
  | zero => omega
  | succ n ih =>
    rw [dividers, Tree.widget, Tree.node_add, size_dividers]
    split
    · rfl
    · exact ih (by omega)

theorem widget_leaves (h : k ≤ n) : (leaves n).widget k = if k = n then .button "Here" else tall := by
  rw [leaves, Tree.widget, Tree.node_add, size_dividers]
  split
  · rfl
  · exact widget_dividers (by omega)

@[simp] theorem size_leaves (n : Nat) : (leaves n).size = n + 1 := by rw [leaves, Tree.size_add, size_dividers]

/-- The button is the only leaf that can have the focus. -/
theorem firstSelectable_leaves (n : Nat) : (leaves n).firstSelectable (List.range (n + 1)) = n := by
  have hselectable (k : Nat) (hk : k ≤ n) : (leaves n).isSelectable k = decide (k = n) := by
    rw [Tree.isSelectable, size_leaves, Tree.isSelectableWithin, Tree.children, widget_leaves hk]
    by_cases hlast : k = n
    · simp [hlast, Widget.isFocusable, Widget.isClickable]
    · simp [hlast, tall, Widget.isFocusable, Widget.isClickable, Widget.isEditable, Widget.children]
  have hfind : (List.range (n + 1)).findIdx? (leaves n).isSelectable = some n := by
    rw [List.findIdx?_eq_some_iff_getElem]
    refine ⟨by simp, by simp [hselectable], fun k hk => ?_⟩
    simp [hselectable k (by omega), Nat.ne_of_lt hk]
  rw [Tree.firstSelectable, hfind]
  rfl

theorem widget_form (h : k ≤ n) : (form n).tree.widget k = if k = n then .button "Here" else tall := by
  rw [form, Tree.widget, Tree.node_add_of_ne (by rw [size_leaves]; omega)]
  exact widget_leaves h

theorem widget_root (n : Nat) :
    (form n).tree.widget (n + 1) = .container (.list none false) (List.range (n + 1)) n := by
  have hlist : (form n).tree.widget (leaves n).size = list n := congrArg Node.widget (Tree.node_add_self ..)
  rw [size_leaves] at hlist
  rw [hlist, list, firstSelectable_leaves]

theorem size_form (n : Nat) : (form n).tree.size = n + 2 := by rw [form, Tree.size_add, size_leaves]

theorem rows_form (h : k ≤ n) (width : Nat) : (form n).tree.rows k width = if k = n then 1 else maxCells := by
  have hid : k < (form n).tree.size := by
    rw [size_form]
    omega
  rw [Tree.rows_leaf hid (widget_form h) (by split <;> rfl) (by split <;> rfl)]
  split <;> rfl

theorem childRows_form (n width : Nat) :
    (form n).tree.childRows (.list none false) (List.range (n + 1)) width = List.replicate n maxCells ++ [1] := by
  have hlength := (form n).tree.length_childRows (.list none false) (List.range (n + 1)) width
  refine List.ext_getElem (by simp [hlength]) fun k hk _ => ?_
  have hle : k ≤ n := by
    rw [hlength, List.length_range] at hk
    omega
  rw [List.getElem_append]
  by_cases hlast : k < n
  · simp [Tree.childRows, Arrangement.childWidths, rows_form hle, Nat.ne_of_lt hlast, hlast]
  · obtain rfl : k = n := by omega
    simp [Tree.childRows, Arrangement.childWidths, rows_form hle]

/-- Only the list has rows to count, all of them. -/
theorem countsRows_root (n width : Nat) : (form n).tree.countsRows (n + 1) width = decide (n ≤ 65536) := by
  have htotal : total ((List.replicate n maxCells ++ [1]).take (n + 1)) = maxCells * n + 1 := by
    rw [List.take_of_length_le (by simp), total_eq_sum]
    simp [Nat.mul_comm]
  have hlength : ¬ (List.replicate n maxCells ++ [1]).length ≤ n := by simp
  simp only [Tree.countsRows, widget_root, childRows_form, Arrangement.countsRows, htotal, decide_eq_false hlength,
    Bool.false_or, decide_eq_decide]
  unfold rowWord maxCells
  omega

theorem countsRows_leaf (h : k ≤ n) (width : Nat) : (form n).tree.countsRows k width = true := by
  rw [Tree.countsRows, widget_form h]
  split
  · next heq => split at heq <;> cases heq
  · rfl

end

/-! ## Painting -/

theorem inUse_form (n : Nat) : (form n).InUse := .parsed (parse_text n)

/-- The widgets of the form are in memory as soon as the numbers of its lines are. -/
theorem storable_form {n : Nat} (hn : n + 1 < 2 ^ 63) {k : Nat} (hk : k < (form n).tree.size) :
    ((form n).tree.widget k).Storable ∧ ((form n).tree.widget k).Countable := by
  rw [size_form] at hk
  rcases Nat.lt_succ_iff_lt_or_eq.1 hk with hlt | rfl
  · rw [widget_form (Nat.le_of_lt_succ hlt)]
    split <;> exact ⟨trivial, trivial⟩
  · rw [widget_root]
    exact ⟨by simpa [Widget.Storable] using hn, trivial⟩

theorem regular_form {n : Nat} (hn : n + 1 < 2 ^ 63) : (form n).tree.Regular :=
  (inUse_form n).regular (fun _ hk => (storable_form hn hk).1) fun _ hk => (storable_form hn hk).2

/-- Painting stops the program from the first divider on that makes the rows too many to count, in whatever area. -/
theorem render?_form_eq_none_iff (n : Nat) {area : Area} (hvisible : area.isEmpty = false) (focused : Bool)
    (b : Buffer) : (form n).tree.render? (form n).root area focused b = none ↔ 65536 < n := by
  have hordered : (form n).tree.Ordered := (inUse_form n).attentive.tree.ordered
  have hroot : (form n).root < (form n).tree.size := by
    rw [size_form]
    exact Nat.lt_succ_self _
  rw [Tree.render?_eq_none_iff hordered hroot]
  constructor
  · rintro ⟨m, a, hm, -, hcounts⟩
    have hsize := Tree.lt_size_of_hands hordered hm hroot
    rw [size_form] at hsize
    rcases Nat.lt_succ_iff_lt_or_eq.1 hsize with hlt | rfl
    · rw [countsRows_leaf (Nat.le_of_lt_succ hlt)] at hcounts
      cases hcounts
    · rw [countsRows_root, decide_eq_false_iff_not] at hcounts
      exact Nat.lt_of_not_le hcounts
  · intro hlt
    refine ⟨(form n).root, area, .self .., hvisible, ?_⟩
    exact (countsRows_root n area.width).trans (decide_eq_false (Nat.not_le.2 hlt))

/-- One divider more than a word can count the rows of. -/
theorem paint?_fails : ∃ f : Form, Form.parse (String.ofList (text 65537)) {} {} = .ok f ∧
    (∀ id < f.tree.size, (f.tree.widget id).Storable ∧ (f.tree.widget id).Countable) ∧
    (Area.ofSize 12 2).Inside (.blank 12 2) ∧
    f.tree.paint? f.root (.ofSize 12 2) true (.blank 12 2) = none ∧
    f.tree.render? f.root (.ofSize 12 2) true (.blank 12 2) = none := by
  have hlines : 65537 + 1 < 2 ^ 63 := by decide
  have hin : (Area.ofSize 12 2).Inside (.blank 12 2) := ⟨by decide, by decide, by decide, by decide⟩
  have hstops : (form 65537).tree.render? (form 65537).root (.ofSize 12 2) true (.blank 12 2) = none :=
    (render?_form_eq_none_iff 65537 rfl true _).2 (by decide)
  have hroot : (form 65537).root < (form 65537).tree.size := by
    rw [size_form]
    exact Nat.lt_succ_self _
  have hwords := (regular_form hlines).paint?_eq hroot hin true
  exact ⟨form 65537, parse_text 65537, fun _ => storable_form hlines, hin, hwords.trans hstops, hstops⟩

end ScreenForm.Tower
