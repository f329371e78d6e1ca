import Mathlib.Data.List.Infix
import ScreenForm.Proofs.Description.Bracket
import ScreenForm.Proofs.Widget.Wrapper
/-!
# Widgets in the places of their lines

`Spans t ids rs` says that the widgets `ids`, with all below them, are what the
rows `rs` describe: a leaf line has its leaf, and the lines between an opening
line and its closing one have their widgets below the container.
-/

namespace ScreenForm

open Description

namespace Tree

variable {t t' : Tree}

/-- The widgets, with all below them, are what the rows describe, in their order. -/
inductive Spans (t : Tree) : List Nat → List Row → Prop
  | nil : Spans t [] []
  | aside {n : Nat} {ids : List Nat} {rs : List Row} (rest : Spans t ids rs) : Spans t ids ((n, .aside) :: rs)
  | leaf {n id outer : Nat} {ids : List Nat} {rs : List Row} (lt : id < t.size) (line : (t.about id).line = n)
      (children : t.children id = []) (container : (t.widget id).isContainer = false) (dressed : t.Dressed id outer)
      (rest : Spans t ids rs) : Spans t (outer :: ids) ((n, .leaf) :: rs)
  | group {a b id outer : Nat} {ids : List Nat} {inner rs : List Row} (lt : id < t.size)
      (line : (t.about id).line = a) (container : (t.widget id).isContainer) (dressed : t.Dressed id outer)
      (content : Spans t (t.children id) inner) (rest : Spans t ids rs) :
      Spans t (outer :: ids) ((a, .opening) :: (inner ++ (b, .closing) :: rs))

namespace Spans

variable {ids ids' : List Nat} {rs rs' : List Row}

theorem append (h : t.Spans ids rs) (h' : t.Spans ids' rs') : t.Spans (ids ++ ids') (rs ++ rs') := by
  induction h with
  | nil => exact h'
  | aside _ ih => exact .aside ih
  | leaf lt line children container dressed _ ih => exact .leaf lt line children container dressed ih
  | group lt line container dressed content _ _ ih =>
    simpa using Spans.group lt line container dressed content ih

/-- Widgets that are added later change nothing. -/
theorem mono (h : t.Spans ids rs) (ht : t.Extends t') : t'.Spans ids rs := by
  induction h with
  | nil => exact .nil
  | aside _ ih => exact .aside ih
  | leaf lt line children container dressed _ ih =>
    refine .leaf (Nat.lt_of_lt_of_le lt ht.1) ?_ ?_ ?_ (dressed.mono ht) ih
    · rw [ht.about lt, line]
    · rw [ht.children lt, children]
    · rw [ht.isContainer lt, container]
  | group lt line container dressed _ _ ihc ih =>
    refine .group (Nat.lt_of_lt_of_le lt ht.1) ?_ ?_ (dressed.mono ht) ?_ ih
    · rw [ht.about lt, line]
    · rw [ht.isContainer lt, container]
    · rw [ht.children lt]
      exact ihc

theorem balanced (h : t.Spans ids rs) : Balanced rs := by
  induction h with
  | nil => exact .nil
  | aside _ ih => exact ih.cons (by decide) (by decide)
  | leaf _ _ _ _ _ _ ih => exact ih.cons (by decide) (by decide)
  | group _ _ _ _ _ _ ihc ih => simpa using ihc.group.append ih

/-- A walk through the widgets meets the lines of the rows. -/
theorem lines_eq (h : t.Spans ids rs) (hlt : t.Ordered) (hpos : ∀ r ∈ rs, 0 < r.1) :
    ids.flatMap t.lines = contentLines rs := by
  induction h with
  | nil => rfl
  | aside _ ih => exact ih fun r hr => hpos r (List.mem_cons_of_mem _ hr)
  | @leaf n id outer ids rs lt line children _ dressed _ ih =>
    have hn : n ≠ 0 := Nat.ne_of_gt (hpos _ List.mem_cons_self)
    rw [List.flatMap_cons, lines_dressed hlt dressed, Tree.lines_eq hlt lt, children, line,
      ih fun r hr => hpos r (List.mem_cons_of_mem _ hr)]
    simp [contentLines_cons, Role.isContent, hn]
  | @group a b id outer ids inner rs lt line _ dressed _ _ ihc ih =>
    have ha : a ≠ 0 := Nat.ne_of_gt (hpos _ List.mem_cons_self)
    rw [List.flatMap_cons, lines_dressed hlt dressed, Tree.lines_eq hlt lt, line, ihc fun r hr => hpos r (by simp [hr]),
      ih fun r hr => hpos r (by simp [hr])]
    simp [contentLines_cons, Role.isContent, ha]

/-- Each widget from the given ones down is described by one of the rows, or wraps one that is. -/
theorem lineOf_mem (h : t.Spans ids rs) (hlt : t.Ordered) {i n : Nat} (hi : i ∈ ids)
    (hn : t.Reaches i n) : t.lineOf n ∈ contentLines rs := by
  induction h generalizing i with
  | nil => simp at hi
  | aside _ ih => exact ih hi hn
  | @leaf a id outer _ _ lt line children _ dressed _ ih =>
    rw [contentLines_cons]
    rcases List.mem_cons.1 hi with rfl | hi
    · have hid : t.unwrap id = id := unwrap_of_ne fun w c hw => by simp [Tree.children, hw, Widget.children] at children
      have hline : t.lineOf i = a := by rw [lineOf, dressed.unwrap_eq hlt, hid, line]
      rcases dressed.reaches_cases hn with rfl | rfl | ⟨m, hm, -⟩
      · simp [hline, Role.isContent]
      · simp [lineOf, hid, line, Role.isContent]
      · simp [children] at hm
    · simp [Role.isContent, ih hi hn]
  | @group a b id outer _ inner rs lt line container dressed _ _ ihc ih =>
    rw [contentLines_cons, contentLines_append, contentLines_cons]
    rcases List.mem_cons.1 hi with rfl | hi
    · have hid := unwrap_container container
      have hline : t.lineOf i = a := by rw [lineOf, dressed.unwrap_eq hlt, hid, line]
      rcases dressed.reaches_cases hn with rfl | rfl | ⟨m, hm, hmn⟩
      · simp [hline, Role.isContent]
      · simp [lineOf, hid, line, Role.isContent]
      · simp [Role.isContent, ihc hm hmn]
    · simp [Role.isContent, ih hi hn]

/-- A widget that a line describes is no wrapper. -/
theorem unwrap_eq (h : t.Spans ids rs) {i n : Nat} (hi : i ∈ ids) (hn : t.Reaches i n) (hline : (t.about n).line ≠ 0) :
    t.unwrap n = n := by
  induction h generalizing i with
  | nil => simp at hi
  | aside _ ih => exact ih hi hn
  | @leaf _ id _ _ _ _ _ children _ dressed _ ih =>
    have hid : t.unwrap id = id := unwrap_of_ne fun w c hw => by simp [Tree.children, hw, Widget.children] at children
    rcases List.mem_cons.1 hi with rfl | hi
    · rcases dressed.reaches_cases hn with rfl | rfl | ⟨m, hm, -⟩
      · rw [dressed.eq_of_line hline, hid]
      · exact hid
      · simp [children] at hm
    · exact ih hi hn
  | group _ _ container dressed _ _ ihc ih =>
    have hid := unwrap_container container
    rcases List.mem_cons.1 hi with rfl | hi
    · rcases dressed.reaches_cases hn with rfl | rfl | ⟨m, hm, hmn⟩
      · rw [dressed.eq_of_line hline, hid]
      · exact hid
      · exact ihc hm hmn
    · exact ih hi hn

/-- An opening line that a closing one belongs to has its container, and the rows between them are
what stands in it. -/
theorem container (h : t.Spans ids rs) {a b : Nat} {before inner after : List Row} (hi : Balanced inner)
    (hr : rs = before ++ (a, .opening) :: (inner ++ (b, .closing) :: after)) :
    ∃ i ∈ ids, ∃ id, t.Reaches i id ∧ (t.widget id).isContainer ∧ (t.about id).line = a ∧
      t.Spans (t.children id) inner := by
  induction h generalizing before after with
  | nil => simp at hr
  | aside _ ih =>
    cases before with
    | nil => simp at hr
    | cons r before =>
      obtain ⟨-, rfl⟩ := List.cons.inj hr
      exact ih rfl
  | leaf _ _ _ _ _ _ ih =>
    cases before with
    | nil => simp at hr
    | cons r before =>
      obtain ⟨-, rfl⟩ := List.cons.inj hr
      obtain ⟨i, hi, h⟩ := ih rfl
      exact ⟨i, List.mem_cons_of_mem _ hi, h⟩
  | @group a' b' id outer ids inner' rs lt line container dressed content rest ihc ih =>
    cases before with
    | nil =>
      obtain ⟨ha, htail⟩ := List.cons.inj hr
      obtain rfl : a' = a := congrArg Prod.fst ha
      -- Both contents are balanced and are followed by a closing line, so they end at the same one.
      obtain rfl := content.balanced.eq_of_closing hi htail
      exact ⟨outer, List.mem_cons_self, id, dressed.reaches, container, line, content⟩
    | cons r before =>
      obtain ⟨-, htail⟩ := List.cons.inj hr
      -- The container that is looked for is in the content of this one, or behind it.
      rcases content.balanced.opening_cases hi htail with ⟨after', hin⟩ | ⟨before', hrs⟩
      · obtain ⟨i, hmem, m, hm, hc⟩ := ihc hin
        exact ⟨outer, List.mem_cons_self, m, dressed.reaches.trans (.head hmem hm), hc⟩
      · obtain ⟨i, hmem, hc⟩ := ih hrs
        exact ⟨i, List.mem_cons_of_mem _ hmem, hc⟩

/-- A container belongs to an opening line that has its closing one. -/
theorem matching (h : t.Spans ids rs) {i n : Nat} (hi : i ∈ ids) (hn : t.Reaches i n) (hc : (t.widget n).isContainer) :
    ∃ b, Matching rs (t.about n).line b := by
  induction h generalizing i with
  | nil => simp at hi
  | aside _ ih => exact (ih hi hn).imp fun _ hm => hm.cons
  | leaf lt line children container dressed _ ih =>
    rcases List.mem_cons.1 hi with rfl | hi
    · have hsame := dressed.reaches_of_isContainer hn hc
      obtain rfl | ⟨m, hm, -⟩ := reaches_iff.1 hsame
      · simp [container] at hc
      · simp [children] at hm
    · exact (ih hi hn).imp fun _ hm => hm.cons
  | @group a b id outer _ inner rs lt line container dressed content _ ihc ih =>
    rcases List.mem_cons.1 hi with rfl | hi
    · obtain rfl | ⟨m, hm, hmn⟩ := reaches_iff.1 (dressed.reaches_of_isContainer hn hc)
      · exact ⟨b, [], inner, rs, by rw [line]; rfl, content.balanced⟩
      · exact (ihc hm hmn).imp fun _ hm => (hm.append _).cons
    · exact (ih hi hn).imp fun _ hm => (hm.cons.prepend inner).cons

end Spans

end Tree

end ScreenForm
