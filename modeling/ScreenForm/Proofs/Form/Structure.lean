import Mathlib.Data.List.Infix
import ScreenForm.Proofs.Form.Growth
import ScreenForm.Proofs.Form.Nesting
/-!
# The structure of a form

A form that is made of a description has the bracket structure of its lines
(`Form.Follows`), and a description whose brackets do not match is refused
(`parse_structure`). While the lines are read, the widgets so far are what the
lines so far describe (`Assembly.Built`).
-/

namespace ScreenForm

open Description

/-! ## Widgets that are added -/

namespace Tree

variable {t t' : Tree} {id outer : Nat}

theorem Wrapped.grows (h : t.Wrapped id t' outer) : t.Extends t' := by
  cases h with
  | bare => exact .refl t
  | styled => exact extends_add ..

theorem Wrapped.dressed (h : t.Wrapped id t' outer) : t'.Dressed id outer := by
  cases h with
  | bare => exact .bare
  | styled wrapping => exact .styled (by simp [widget]; rfl) (by simp [about])

theorem Wrapped.forest {tops : List Nat} (h : t.Wrapped id t' outer) (hf : t.Forest (id :: tops)) :
    t'.Forest (outer :: tops) := by
  cases h with
  | bare => exact hf
  | styled => exact hf.add {}

end Tree

namespace Assembly

variable {a a' : Assembly} {w : Widget} {n id : Nat}

namespace Added

variable (h : a.Added w n a' id)
include h

theorem grows : a.tree.Extends a'.tree := by
  obtain ⟨about, -, hw⟩ := h.tree
  exact (Tree.extends_add ..).trans hw.grows

theorem forest {tops : List Nat} (hf : a.tree.Forest (w.children ++ tops)) : a'.tree.Forest (id :: tops) := by
  obtain ⟨about, -, hw⟩ := h.tree
  exact hw.forest (hf.add about)

/-- The widget has the number after all others, and its line. -/
theorem core : ∃ core < a'.tree.size, (a'.tree.widget core).fixed = w.fixed ∧ (a'.tree.about core).line = n ∧
    a'.tree.Dressed core id := by
  obtain ⟨about, rfl, hw⟩ := h.tree
  have hlt : a.tree.size < (a.tree.add w about).size := by simp
  refine ⟨a.tree.size, Nat.lt_of_lt_of_le hlt hw.grows.1, ?_, ?_, hw.dressed⟩
  · rw [hw.grows.widget_fixed hlt]
    simp [Tree.widget]
  · rw [hw.grows.about hlt]
    simp [Tree.about]

theorem spans_leaf (bare : w.Bare) : a'.tree.Spans [id] [(n, .leaf)] := by
  obtain ⟨core, hlt, hw, hl, hd⟩ := h.core
  refine .leaf hlt hl ?_ ?_ hd .nil
  · rw [Tree.children, Widget.children_congr hw, bare.children]
  · rw [Widget.isContainer_congr hw, bare.isContainer]

theorem spans_group {arrangement : Arrangement} {content : List Nat} {focus b : Nat} {inner : List Row}
    (hw : w = .container arrangement content focus) (hs : a.tree.Spans content inner) :
    a'.tree.Spans [id] ((n, .opening) :: (inner ++ [(b, .closing)])) := by
  obtain ⟨core, hlt, hc, hl, hd⟩ := h.core
  refine .group hlt hl ?_ hd ?_ .nil
  · rw [Widget.isContainer_congr hc, hw, Widget.isContainer]
  · rw [Tree.children, Widget.children_congr hc, hw, Widget.children]
    exact hs.mono h.grows

end Added

/-! ## Open containers -/

/-- The rows are those of the open containers, each with what was before it, and of the content of
the innermost. -/
inductive Stacked (t : Tree) : List Row → List OpenContainer → List Nat → Prop
  | base {rs : List Row} {content : List Nat} (spans : t.Spans content rs) : Stacked t rs [] content
  | inner {rs inner : List Row} {o : OpenContainer} {opened : List OpenContainer} {content : List Nat}
      (outer : Stacked t rs opened o.before.toList) (spans : t.Spans content inner) :
      Stacked t (rs ++ (o.line, .opening) :: inner) (o :: opened) content

namespace Stacked

variable {t t' : Tree} {rs rs' : List Row} {opened : List OpenContainer} {content ids : List Nat}

theorem mono (h : Stacked t rs opened content) (ht : t.Extends t') : Stacked t' rs opened content := by
  induction h with
  | base spans => exact .base (spans.mono ht)
  | inner _ spans ih => exact .inner ih (spans.mono ht)

theorem append (h : Stacked t rs opened content) (hs : t.Spans ids rs') :
    Stacked t (rs ++ rs') opened (content ++ ids) := by
  cases h with
  | base spans => exact .base (spans.append hs)
  | inner outer spans => simpa using Stacked.inner outer (spans.append hs)

theorem spans (h : Stacked t rs [] content) : t.Spans content rs := by
  cases h with
  | base spans => exact spans

/-- As many containers are open as were opened and not closed. -/
theorem opens_eq (h : Stacked t rs opened content) : opens rs = closes rs + opened.length := by
  induction h with
  | base spans => simpa using spans.balanced.closes_eq.symm
  | inner _ spans ih =>
    have := spans.balanced.closes_eq
    simp only [opens_append, closes_append, opens_cons, closes_cons, reduceCtorEq, if_true, if_false,
      List.length_cons]
    omega

end Stacked

/-! ## The invariant -/

/-- The widgets that are no children yet. -/
def loose (a : Assembly) : List Nat :=
  a.content.toList ++ a.opened.flatMap (·.before.toList) ++ a.header.toList ++ a.footer.toList

/-- The content of the innermost container goes into it, and the rest stays loose. -/
theorem forest_closing {o : OpenContainer} {rest : List OpenContainer} (h : a.tree.Forest a.loose)
    (opened : a.opened = o :: rest) :
    a.tree.Forest (a.content.toList ++ (o.before.toList ++ rest.flatMap (·.before.toList) ++ a.header.toList ++ a.footer.toList)) := by
  simpa [loose, opened] using h

/-- The widgets are what the rows describe. -/
structure Built (a : Assembly) (rs : List Row) : Prop where
  forest : a.tree.Forest a.loose
  stacked : Stacked a.tree rs a.opened a.content.toList

theorem built_initial (palette : Palette) (strings : StringTable) : Built { palette, strings } [] where
  forest := ⟨fun _ _ hc => absurd (Tree.lt_size_of_mem_children hc) (Nat.not_lt_zero _), .refl _⟩
  stacked := .base .nil

theorem Built.grown {rs : List Row} {role : Role} (h : Built a rs) (hg : a.Grown n role a') :
    Built a' (rs ++ [(n, role)]) := by
  cases hg with
  | comment => exact ⟨h.forest, by simpa using h.stacked.append (.aside .nil)⟩
  | @header w b id bare _ added first =>
    constructor
    · have hf := added.forest (by rw [bare.children]; exact h.forest)
      refine hf.congr ?_
      simp only [loose, added.content, added.opened, added.footer, first, Option.toList_none, Option.toList_some,
        List.append_nil, List.append_assoc]
      have hp : (a.content.toList ++ a.opened.flatMap (·.before.toList) ++ id :: a.footer.toList).Perm
          (id :: (a.content.toList ++ a.opened.flatMap (·.before.toList) ++ a.footer.toList)) := List.perm_middle
      simpa using hp.symm
    · simp only [added.content, added.opened]
      simpa using (h.stacked.mono added.grows).append (.aside .nil)
  | @footer w b id bare _ added first =>
    constructor
    · have hf := added.forest (by rw [bare.children]; exact h.forest)
      refine hf.congr ?_
      simp only [loose, added.content, added.opened, added.header, first, Option.toList_none, Option.toList_some]
      simpa using (List.perm_append_singleton id (a.content.toList ++ a.opened.flatMap (·.before.toList) ++ a.header.toList)).symm
    · simp only [added.content, added.opened]
      simpa using (h.stacked.mono added.grows).append (.aside .nil)
  | @leaf w b id t bare added agrees =>
    have hb : b.tree.Extends t := Tree.extends_of_fixed agrees.fixed
    constructor
    · have hf := added.forest (by rw [bare.children]; exact h.forest)
      refine (hf.of_fixed agrees.fixed).congr ?_
      simp only [loose, added.content, added.opened, added.header, added.footer, List.append_assoc]
      simpa using List.perm_middle.symm
    · simp only [added.content, added.opened, Array.toList_push]
      exact (h.stacked.mono (added.grows.trans hb)).append ((added.spans_leaf bare).mono hb)
  | opened o line before =>
    constructor
    · simpa [loose, before] using h.forest
    · have hs := h.stacked
      rw [← before] at hs
      exact line ▸ .inner hs .nil
  | @closed o rest arrangement b id opened added =>
    -- The content of the innermost container becomes one widget of what is around it.
    have hs := h.stacked
    rw [opened] at hs
    constructor
    · refine (added.forest (forest_closing h.forest opened)).congr ?_
      simp only [loose, added.content, added.opened, added.header, added.footer, List.append_assoc]
      simpa using List.perm_middle.symm
    · simp only [added.content, added.opened, Array.toList_push]
      cases hs with
      | inner outer spans =>
        have hg := (outer.mono added.grows).append (added.spans_group (b := n) rfl spans)
        simpa using hg

end Assembly

/-! ## Forms -/

namespace Form

/-- The widgets that are no children. -/
def tops (f : Form) : List Nat := f.root :: (f.header.toList ++ f.footer.toList)

/-- The form is the bracket structure of the rows. -/
structure Follows (f : Form) (rs : List Row) : Prop where
  child_lt : ∀ id, ∀ c ∈ f.tree.children id, c < id
  /-- A widget that is no top stands once among all children, and a top never. -/
  count : ∀ n < f.tree.size, f.tree.links.count n = if n ∈ f.tops then 0 else 1
  tops_nodup : f.tops.Nodup
  way : ∀ n < f.tree.size, ∃! q : Nat × List Nat, q.1 ∈ f.tops ∧ f.tree.Way q.1 q.2 n
  /-- A walk from the root meets the lines of the body, each once and in their order. -/
  lines : f.tree.lines f.root = contentLines rs
  increasing : (f.tree.lines f.root).Pairwise (· < ·)
  balanced : Balanced rs
  container : ∀ a b, Matching rs a b →
    ∃ c, f.tree.Reaches f.root c ∧ (f.tree.widget c).isContainer ∧ (f.tree.about c).line = a
  closing : ∀ c, f.tree.Reaches f.root c → (f.tree.widget c).isContainer → (f.tree.about c).line ≠ 0 →
    ∃ b, Matching rs (f.tree.about c).line b
  /-- Below a container is what stands between its lines. Wrappers count as what they wrap. -/
  between : ∀ c b, f.tree.Reaches f.root c → Matching rs (f.tree.about c).line b →
    ∀ n, f.tree.Below c n ↔
      f.tree.Reaches f.root n ∧ (f.tree.about c).line < f.tree.lineOf n ∧ f.tree.lineOf n < b
  lineOf_eq : ∀ n, (f.tree.about n).line ≠ 0 → f.tree.Reaches f.root n → f.tree.lineOf n = (f.tree.about n).line

/-- What the form is, in terms of the widgets of its body. -/
structure BodySpans (f : Form) (rs : List Row) : Prop where
  forest : f.tree.Forest f.tops
  lt : f.body < f.tree.size
  container : (f.tree.widget f.body).isContainer
  line : (f.tree.about f.body).line = 0
  dressed : f.tree.Dressed f.body f.root
  spans : f.tree.Spans (f.tree.children f.body) rs

end Form

theorem Assembly.Built.finish {a : Assembly} {rs : List Row} {f : Form} (h : a.Built rs) (hf : a.Finished f) :
    f.BodySpans rs := by
  have hs := h.stacked
  rw [hf.opened] at hs
  have hlt : f.body < (a.tree.add a.list {}).size := by simp [hf.body]
  have hcore : (a.tree.add a.list {}).widget f.body = a.list := by simp [hf.body, Tree.widget]
  have hdressed := hf.tree.dressed
  rw [← hf.body] at hdressed
  refine ⟨?_, Nat.lt_of_lt_of_le hlt hf.tree.grows.1, ?_, ?_, hdressed, ?_⟩
  · rw [Form.tops, hf.header, hf.footer]
    exact hf.tree.forest (.add (by simpa [loose, hf.opened, list, Widget.children] using h.forest) {})
  · rw [hf.tree.grows.isContainer hlt, hcore, list, Widget.isContainer]
  · rw [hf.tree.grows.about hlt]
    simp [Tree.about, hf.body]
  · rw [hf.tree.grows.children hlt, Tree.children, hcore, list, Widget.children]
    exact hs.spans.mono ((Tree.extends_add ..).trans hf.tree.grows)

namespace Form.BodySpans

variable {f : Form} {rs : List Row} (h : f.BodySpans rs)
include h

theorem reaches_root {i n : Nat} (hi : i ∈ f.tree.children f.body) (hn : f.tree.Reaches i n) :
    f.tree.Reaches f.root n :=
  h.dressed.reaches.trans (hn.head hi)

theorem lines (hpos : ∀ r ∈ rs, 0 < r.1) : f.tree.lines f.root = contentLines rs := by
  rw [Tree.lines_dressed h.forest.ordered h.dressed, Tree.lines_eq h.forest.ordered h.lt, h.line,
    h.spans.lines_eq h.forest.ordered hpos]
  simp

/-- Only the body itself and its wrapper have no line. -/
theorem lineOf_cases {n : Nat} (hn : f.tree.Reaches f.root n) :
    f.tree.lineOf n = 0 ∨ f.tree.lineOf n ∈ contentLines rs := by
  have hbody := Tree.unwrap_container h.container
  rcases h.dressed.reaches_cases hn with rfl | rfl | ⟨i, hi, hn⟩
  · left
    rw [Tree.lineOf, h.dressed.unwrap_eq h.forest.ordered, hbody, h.line]
  · left
    rw [Tree.lineOf, hbody, h.line]
  · exact .inr (h.spans.lineOf_mem h.forest.ordered hi hn)

theorem lineOf_eq {n : Nat} (hline : (f.tree.about n).line ≠ 0) (hn : f.tree.Reaches f.root n) :
    f.tree.lineOf n = (f.tree.about n).line := by
  rcases h.dressed.reaches_cases hn with rfl | rfl | ⟨i, hi, hn⟩
  · rw [Tree.lineOf, h.dressed.unwrap_eq h.forest.ordered, Tree.unwrap_container h.container, h.dressed.eq_of_line hline]
  · exact absurd h.line hline
  · rw [Tree.lineOf, h.spans.unwrap_eq hi hn hline]

theorem closing {c : Nat} (hc : f.tree.Reaches f.root c) (hcon : (f.tree.widget c).isContainer)
    (hline : (f.tree.about c).line ≠ 0) : ∃ b, Matching rs (f.tree.about c).line b := by
  obtain rfl | ⟨i, hi, hn⟩ := Tree.reaches_iff.1 (h.dressed.reaches_of_isContainer hc hcon)
  · exact absurd h.line hline
  · exact h.spans.matching hi hn hcon

theorem container_of_matching {a b : Nat} (hm : Matching rs a b) :
    ∃ c, f.tree.Reaches f.root c ∧ (f.tree.widget c).isContainer ∧ (f.tree.about c).line = a := by
  obtain ⟨before, inner, after, hr, hi⟩ := hm
  obtain ⟨i, hmem, c, hc, hcon, hline, -⟩ := h.spans.container hi hr
  exact ⟨c, h.reaches_root hmem hc, hcon, hline⟩

variable (hrs : rs.Pairwise (·.1 < ·.1)) (hpos : ∀ r ∈ rs, 0 < r.1)
include hrs hpos

theorem eq_of_line {i j : Nat} (hi : f.tree.Reaches f.root i) (hj : f.tree.Reaches f.root j)
    (hn : (f.tree.about i).line ≠ 0) (hij : (f.tree.about i).line = (f.tree.about j).line) : i = j := by
  refine Tree.eq_of_line h.forest.ordered (h.dressed.lt h.lt) ?_ hi hj hn hij
  rw [h.lines hpos]
  exact (pairwise_contentLines hrs).imp fun hlt => Nat.ne_of_lt hlt

/-- The widgets below a container have the lines between its own and the one that closes it. -/
theorem below_iff {c b : Nat} (hc : f.tree.Reaches f.root c) (hm : Matching rs (f.tree.about c).line b) (n : Nat) :
    f.tree.Below c n ↔
      f.tree.Reaches f.root n ∧ (f.tree.about c).line < f.tree.lineOf n ∧ f.tree.lineOf n < b := by
  obtain ⟨before, inner, after, hr, hi⟩ := hm
  obtain ⟨i, hmem, c', hc', hcon, hline, hs⟩ := h.spans.container hi hr
  have hline0 : (f.tree.about c').line ≠ 0 := by
    rw [hline]
    exact Nat.ne_of_gt (hpos ((f.tree.about c).line, .opening) (by simp [hr]))
  obtain rfl := h.eq_of_line hrs hpos (h.reaches_root hmem hc') hc hline0 hline
  constructor
  · intro hn
    obtain ⟨m, hm, hmn⟩ := Tree.below_iff_children.1 hn
    have hin := hs.lineOf_mem h.forest.ordered hm hmn
    exact ⟨hc.trans hn.reaches, ((mem_contentLines_between hrs hr).1 hin).2⟩
  · rintro ⟨hn, hlo, hhi⟩
    refine h.forest.below_of_unwrap hcon ?_
    have hmem : f.tree.lineOf n ∈ contentLines rs := (h.lineOf_cases hn).resolve_left (by omega)
    have hin := (mem_contentLines_between hrs hr).2 ⟨hmem, hlo, hhi⟩
    -- The content of the container has a widget with this line, and only one widget has it.
    rw [← hs.lines_eq h.forest.ordered fun r hr' => hpos r (by simp [hr, hr']), List.mem_flatMap] at hin
    obtain ⟨m, hm, hin⟩ := hin
    obtain ⟨k, hk, hkl⟩ := (Tree.mem_lines h.forest.ordered (h.forest.lt_size hm) (by omega)).1 hin
    have hbelow : f.tree.Below c' k := Tree.below_iff_children.2 ⟨m, hm, hk⟩
    have heq := h.eq_of_line hrs hpos (hc.trans hbelow.reaches) (hn.trans (Tree.reaches_unwrap n)) (by omega) hkl
    exact heq ▸ hbelow

theorem follows : f.Follows rs where
  child_lt := h.forest.ordered
  count _ hn := h.forest.count_links hn
  tops_nodup := (List.nodup_append'.1 h.forest.nodup).2.1
  way _ hn := h.forest.existsUnique_way hn
  lines := h.lines hpos
  increasing := by
    rw [h.lines hpos]
    exact pairwise_contentLines hrs
  balanced := h.spans.balanced
  container _ _ hm := h.container_of_matching hm
  closing _ hc hcon hline := h.closing hc hcon hline
  between _ _ hc hm n := h.below_iff hrs hpos hc hm n
  lineOf_eq _ hline hn := h.lineOf_eq hline hn

end Form.BodySpans

namespace Form

variable {description : String} {palette : Palette} {strings : StringTable}

theorem parse_ok {f : Form} (h : parse description palette strings = .ok f) :
    ∃ text a, strings.substituteChars description.toList = .ok text ∧
      (numberedLines text).foldlM Assembly.addLine { palette, strings } = .ok a ∧ a.finish = .ok f := by
  obtain ⟨text, ht, h⟩ := Except.bind_eq_ok.1 h
  obtain ⟨a, ha, h⟩ := Except.bind_eq_ok.1 h
  exact ⟨text, a, liftError_eq_ok.1 ht, ha, h⟩

theorem built_of_foldlM {text : List Char} {a : Assembly}
    (h : (numberedLines text).foldlM Assembly.addLine { palette, strings } = .ok a) : a.Built (rows text) :=
  Assembly.foldlM_ok (P := Assembly.Built) (fun _ _ _ _ _ hb hg => hb.grown hg)
    (Assembly.built_initial palette strings) h

/-- A description fails where a string is missing, at one of its lines, or at its end. -/
theorem parse_error {e : FormError} (h : parse description palette strings = .error e) :
    (∃ cause, e = .runtimeError cause) ∨
      ∃ text, strings.substituteChars description.toList = .ok text ∧
        ((∃ before n role after, ∃ a : Assembly, rows text = before ++ (n, role) :: after ∧ a.Built before ∧
            a.Fault n role e) ∨
          ∃ a : Assembly, a.Built (rows text) ∧ a.opened ≠ [] ∧
            e = .syntaxError (.unclosedContainer a.opened.length)) := by
  unfold parse at h
  cases ht : strings.substituteChars description.toList with
  | error cause =>
    rw [ht] at h
    cases h
    exact .inl ⟨cause, rfl⟩
  | ok text =>
    rw [ht] at h
    refine .inr ⟨text, rfl, ?_⟩
    cases ha : (numberedLines text).foldlM Assembly.addLine { palette, strings } with
    | error e' =>
      obtain ⟨before, ⟨raw, n⟩, after, a, hsplit, hb, he⟩ := Assembly.foldlM_error (P := Assembly.Built)
        (fun _ _ _ _ _ hb hg => hb.grown hg) (Assembly.built_initial palette strings) ha
      have hee : e' = e := by
        simp only [liftError, bind, Except.bind, ha] at h
        exact Except.error.inj h
      refine .inl ⟨before.map rowOf, n, (rowOf (raw, n)).2, after.map rowOf, a, ?_, hb, ?_⟩
      · rw [rows, hsplit, List.map_append, List.map_cons]
        rfl
      · exact hee ▸ a.failsOnly_addLine n raw e' he
    | ok a =>
      have hf : a.finish = .error e := by
        simpa only [liftError, bind, Except.bind, ha] using h
      unfold Assembly.finish at hf
      split at hf
      · next ho =>
        cases hf
        exact .inr ⟨a, built_of_foldlM ha, by simpa using ho, rfl⟩
      · cases hf

/-- A form is the bracket structure of its description. A description is refused for its brackets
only where a container is closed that is not open, or where some are left open at the end. -/
theorem parse_structure (description : String) (palette : Palette) (strings : StringTable) :
    (∀ f, parse description palette strings = .ok f →
      ∃ text, strings.substituteChars description.toList = .ok text ∧
        (∀ l ∈ numberedLines text, ∃ line, Line.parse l.2 l.1 = .ok line) ∧ f.Follows (rows text)) ∧
    (∀ n, parse description palette strings = .error (.syntaxError (.unbalancedEnd n)) →
      ∃ text before after, strings.substituteChars description.toList = .ok text ∧
        rows text = before ++ (n, .closing) :: after ∧ Balanced before) ∧
    (∀ depth, parse description palette strings = .error (.syntaxError (.unclosedContainer depth)) →
      ∃ text, strings.substituteChars description.toList = .ok text ∧
        opens (rows text) = closes (rows text) + depth ∧ 0 < depth) := by
  refine ⟨fun f h => ?_, fun n h => ?_, fun depth h => ?_⟩
  · obtain ⟨text, a, ht, ha, hf⟩ := parse_ok h
    have hs := (built_of_foldlM ha).finish (Assembly.finish_finished hf)
    exact ⟨text, ht, Assembly.foldlM_reads ha, hs.follows (pairwise_rows text) fun _ => pos_of_mem_rows⟩
  · rcases parse_error h with ⟨_, he⟩ | ⟨text, ht, ⟨before, m, role, after, a, hr, hb, hfault⟩ | ⟨_, -, -, he⟩⟩
    · cases he
    · rcases hfault with hin | ⟨hnil, rfl, he⟩
      · obtain ⟨_, -, hne⟩ := hin _ rfl
        exact absurd rfl (hne n)
      · cases he
        -- No container is open here, so the rows so far are those of the content alone.
        have hs := hb.stacked
        rw [hnil] at hs
        exact ⟨text, before, after, ht, hr, hs.spans.balanced⟩
    · cases he
  · rcases parse_error h with ⟨_, he⟩ | ⟨text, ht, ⟨_, _, _, _, _, -, -, hin | ⟨-, -, he⟩⟩ | ⟨a, hb, hne, he⟩⟩
    · cases he
    · obtain ⟨_, hline, -⟩ := hin _ rfl
      cases hline
    · cases he
    · cases he
      exact ⟨text, ht, hb.stacked.opens_eq, List.length_pos_iff.2 hne⟩

end Form

end ScreenForm
