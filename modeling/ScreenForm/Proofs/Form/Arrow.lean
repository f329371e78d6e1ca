import Mathlib.Algebra.BigOperators.Group.Finset.Basic
import Mathlib.Algebra.Order.BigOperators.Group.Finset
import ScreenForm.Proofs.Dialog.Panel
/-!
# Getting anywhere with arrow keys

The widgets inside use an arrow key before those around them get it: a cursor
goes through its text, and a container through its children, before the
container around it moves. What they can use up is finite (`Tree.slack`), so
there are arrow keys that lead the focus of a form to any of its widgets
(`Form.InUse.exists_arrows`).
-/

namespace ScreenForm

open Relation (ReflTransGen)

/-! ## Arrow keys -/

namespace Key

/-- The arrow keys, without modifiers. -/
def arrows : List Key := [{ code := .up }, { code := .down }, { code := .left }, { code := .right }]

/-- The direction in which an arrow goes through texts and children. -/
def heading (key : Key) : Direction :=
  match key.code with
  | .down | .right => .forward
  | _ => .backward

theorem mem_arrows {key : Key} : key ∈ arrows ↔
    key = { code := .up } ∨ key = { code := .down } ∨ key = { code := .left } ∨ key = { code := .right } := by
  simp [arrows]

theorem not_presses {key : Key} (h : key ∈ arrows) : ¬ (key.code = .enter ∨ key.code = .char ' ') := by
  rcases mem_arrows.1 h with rfl | rfl | rfl | rfl <;> simp

end Key

theorem Direction.mem_indices {d : Direction} {i index size : Nat} :
    i ∈ d.indices index size ↔ i < size ∧ match d with
      | .forward => index < i
      | .backward => i < index := by
  cases d with
  | forward =>
    simp only [indices, List.mem_drop_iff_getElem, List.getElem_range, List.length_range]
    constructor
    · rintro ⟨j, hj, rfl⟩
      omega
    · rintro ⟨hs, hi⟩
      exact ⟨i - (index + 1), by omega, by omega⟩
  | backward => simp [indices, and_comm]

namespace Arrangement

/-- The arrow that moves the focus of a container in a direction. -/
def arrow (a : Arrangement) (d : Direction) : Key :=
  match a, d with
  | pile, .forward | list .., .forward => { code := .down }
  | pile, .backward | list .., .backward => { code := .up }
  | columns .., .forward | grid .., .forward => { code := .right }
  | columns .., .backward | grid .., .backward => { code := .left }

theorem arrow_mem (a : Arrangement) (d : Direction) : a.arrow d ∈ Key.arrows := by
  cases a <;> cases d <;> simp [arrow, Key.arrows]

@[simp] theorem heading_arrow (a : Arrangement) (d : Direction) : (a.arrow d).heading = d := by
  cases a <;> cases d <;> rfl

@[simp] theorem direction?_arrow (a : Arrangement) (d : Direction) : a.direction? (a.arrow d).code = some d := by
  cases a <;> cases d <;> rfl

theorem heading_of_direction? {a : Arrangement} {key : Key} {d : Direction} (h : a.direction? key.code = some d) :
    key.heading = d := by
  unfold direction? at h
  unfold Key.heading
  split at h <;> simp_all

end Arrangement

/-! ## What arrow keys use up -/

/-- How many arrow keys in a direction a widget can use at most. -/
def Widget.slack (d : Direction) : Widget → Nat
  | edit e =>
    match d with
    | .forward => e.text.length - e.cursor
    | .backward => min e.cursor e.text.length
  | container _ children focus =>
    match d with
    | .forward => children.length - focus
    | .backward => focus
  | _ => 0

theorem Widget.slack_clampCursor (d : Direction) (e : Edit) : (edit e.clampCursor).slack d = (edit e).slack d := by
  cases d <;> simp only [slack, Edit.clampCursor] <;> omega

theorem Edit.press?_left {e : Edit} (h : e.cursor ≤ e.text.length) :
    e.press? { code := .left } = if e.cursor = 0 then none else some { e with cursor := e.cursor - 1 } := by
  have hlen : e.text.toList.length = e.text.length := String.length_toList
  have hempty : (e.text.toList.take e.cursor).isEmpty ↔ e.cursor = 0 := by
    rw [List.isEmpty_iff_length_eq_zero, List.length_take]
    omega
  simp only [press?, halves_eq, hempty]

theorem Edit.press?_right {e : Edit} :
    e.press? { code := .right } = if e.cursor < e.text.length then some { e with cursor := e.cursor + 1 } else none := by
  have hlen : e.text.toList.length = e.text.length := String.length_toList
  cases hdrop : e.text.toList.drop e.cursor with
  | nil =>
    have hle := List.drop_eq_nil_iff.1 hdrop
    rw [if_neg (by omega)]
    simp [press?, halves_eq, hdrop]
  | cons c after =>
    have hlt := congrArg List.length hdrop
    rw [List.length_drop, List.length_cons] at hlt
    rw [if_pos (by omega)]
    simp [press?, halves_eq, hdrop]

/-- The cursor of a field that uses an arrow comes nearer to the end of the text that the arrow points to. -/
theorem Edit.slack_press? {e e' : Edit} {key : Key} (hkey : key ∈ Key.arrows)
    (h : e.clampCursor.press? key = some e') :
    (Widget.edit e').slack key.heading < (Widget.edit e).slack key.heading := by
  have hcursor : e.clampCursor.cursor ≤ e.clampCursor.text.length := Nat.min_le_right ..
  rw [← Widget.slack_clampCursor _ e]
  rcases Key.mem_arrows.1 hkey with rfl | rfl | rfl | rfl
  · simp [press?] at h
  · simp [press?] at h
  · rw [press?_left hcursor] at h
    split at h <;> cases h
    simp only [Widget.slack, Key.heading]
    omega
  · rw [press?_right] at h
    split at h <;> cases h
    simp only [Widget.slack, Key.heading]
    omega

namespace Tree

variable {t t' t'' : Tree} {key : Key} {id : Nat}

/-- How many arrow keys in a direction all widgets together can use at most. -/
def slack (t : Tree) (d : Direction) : Nat := ∑ id ∈ Finset.range t.size, (t.widget id).slack d

/-- What an arrow key does to a tree, with what comes of it: no widget gets more slack, and one gets less if
the key is used. -/
structure Spends (t : Tree) (key : Key) (t' : Tree) (outcome : KeyOutcome) : Prop where
  size : t'.size = t.size
  le : ∀ id, (t'.widget id).slack key.heading ≤ (t.widget id).slack key.heading
  outcome : outcome = .unhandled ∨
    outcome = .consumed ∧ ∃ id < t.size, (t'.widget id).slack key.heading < (t.widget id).slack key.heading

theorem Spends.unhandled (t : Tree) (key : Key) : t.Spends key t .unhandled := ⟨rfl, fun _ => Nat.le_refl _, .inl rfl⟩

theorem Spends.lt (h : t.Spends key t' .consumed) : t'.slack key.heading < t.slack key.heading := by
  obtain ⟨hsize, hle, ho | ⟨-, id, hid, hlt⟩⟩ := h
  · cases ho
  · rw [slack, slack, hsize]
    exact Finset.sum_lt_sum (fun i _ => hle i) ⟨id, Finset.mem_range.2 hid, hlt⟩

theorem Spends.trans {outcome : KeyOutcome} (h : t.Spends key t' .unhandled) (h' : t'.Spends key t'' outcome) :
    t.Spends key t'' outcome where
  size := h'.size.trans h.size
  le id := Nat.le_trans (h'.le id) (h.le id)
  outcome := h'.outcome.imp_right fun ⟨ho, id, hid, hlt⟩ =>
    ⟨ho, id, h.size ▸ hid, Nat.lt_of_lt_of_le hlt (h.le id)⟩

theorem slack_modify_le {d : Direction} {f : Widget → Widget} (h : (f (t.widget id)).slack d ≤ (t.widget id).slack d)
    (i : Nat) : ((t.modify id f).widget i).slack d ≤ (t.widget i).slack d := by
  by_cases hi : i = id ∧ i < t.size
  · obtain ⟨rfl, hlt⟩ := hi
    rwa [widget_modify_self hlt]
  · simp [widget, node_modify, hi]

theorem spends_modify {f : Widget → Widget} (hid : id < t.size)
    (h : (f (t.widget id)).slack key.heading < (t.widget id).slack key.heading) :
    t.Spends key (t.modify id f) .consumed where
  size := size_modify ..
  le := slack_modify_le (Nat.le_of_lt h)
  outcome := .inr ⟨rfl, id, hid, by rwa [widget_modify_self hid]⟩

theorem spends_navigate (t : Tree) (key : Key) (id : Nat) :
    t.Spends key (t.navigate id key).1 (t.navigate id key).2 := by
  unfold navigate
  split
  · next arrangement children focus hw =>
    split
    · next moved hm =>
      obtain ⟨d, hd, hm⟩ := Option.bind_eq_some_iff.1 hm
      obtain ⟨index, hfind, rfl⟩ := Option.map_eq_some_iff.1 hm
      have hmem := Direction.mem_indices.1 (List.mem_of_find?_eq_some hfind)
      have hid : id < t.size := lt_size_of_isContainer (by rw [hw]; rfl)
      rw [hw] at hmem
      refine spends_modify (f := (·.setFocusIndex index)) hid ?_
      rw [hw, Arrangement.heading_of_direction? hd]
      cases d <;> simp only [Widget.children, Widget.focusIndex, Widget.setFocusIndex, Widget.slack] at hmem ⊢ <;> omega
    · exact .unhandled t key
  · exact .unhandled t key

theorem spends_pressLeaf (hkey : key ∈ Key.arrows) (t : Tree) (id : Nat) :
    t.Spends key (t.pressLeaf id key).1 (t.pressLeaf id key).2 := by
  unfold pressLeaf
  split
  · next field hw =>
    dsimp only
    split
    · next changed hp =>
      have hid : id < t.size := lt_size_of_isFocusable (by rw [hw]; rfl)
      refine spends_modify (f := fun _ => .edit changed) hid ?_
      rw [hw]
      exact Edit.slack_press? hkey hp
    · refine ⟨size_modify .., slack_modify_le ?_, .inl rfl⟩
      rw [hw, Widget.slack_clampCursor]
  · rw [if_neg (by simpa using Key.not_presses hkey)]
    exact .unhandled t key

theorem spends_keypressWithin (hkey : key ∈ Key.arrows) (t : Tree) (l id : Nat) :
    t.Spends key (t.keypressWithin key l id).1 (t.keypressWithin key l id).2 := by
  induction l generalizing id with
  | zero => exact .unhandled t key
  | succ l ih =>
    unfold keypressWithin
    split
    · next child hc =>
      dsimp only
      split
      · next ho => exact Spends.trans (ho ▸ ih child) (spends_navigate ..)
      · exact ih child
    · split
      · exact spends_navigate ..
      · exact spends_pressLeaf hkey t id

/-- An arrow key is used by one widget, which has less slack then, or by none. -/
theorem spends_keypress (hkey : key ∈ Key.arrows) (t : Tree) (id : Nat) :
    t.Spends key (t.keypress id key).1 (t.keypress id key).2 :=
  spends_keypressWithin hkey t t.size id

/-! ## Which widgets an arrow key changes -/

theorem widget_navigate_of_ne {n : Nat} (h : n ≠ id) (t : Tree) (key : Key) :
    (t.navigate id key).1.widget n = t.widget n := by
  unfold navigate
  split
  · split
    · next moved hm =>
      obtain ⟨d, -, hm⟩ := Option.bind_eq_some_iff.1 hm
      obtain ⟨index, -, rfl⟩ := Option.map_eq_some_iff.1 hm
      exact widget_modify_of_ne h _
    · rfl
  · rfl

theorem widget_pressLeaf_of_ne (hkey : key ∈ Key.arrows) {n : Nat} (h : n ≠ id) (t : Tree) :
    (t.pressLeaf id key).1.widget n = t.widget n := by
  unfold pressLeaf
  split
  · dsimp only
    split <;> exact widget_modify_of_ne h _
  · rw [if_neg (by simpa using Key.not_presses hkey)]

theorem widget_keypressWithin_of_lt (hkey : key ∈ Key.arrows) (hlt : t.Ordered) {l n : Nat} (hn : id < n) :
    (t.keypressWithin key l id).1.widget n = t.widget n := by
  induction l generalizing id with
  | zero => rfl
  | succ l ih =>
    unfold keypressWithin
    split
    · next child hc =>
      have hchild := ih (Nat.lt_trans (hlt id child (mem_of_focusedChild? hc)) hn)
      dsimp only
      split
      · rw [widget_navigate_of_ne (Nat.ne_of_gt hn), hchild]
      · exact hchild
    · split
      · exact widget_navigate_of_ne (Nat.ne_of_gt hn) t key
      · exact widget_pressLeaf_of_ne hkey (Nat.ne_of_gt hn) t

/-- An arrow key changes nothing around the widget that it is offered to. -/
theorem widget_keypress_of_lt (hkey : key ∈ Key.arrows) (hlt : t.Ordered) {n : Nat} (hn : id < n) :
    (t.keypress id key).1.widget n = t.widget n :=
  widget_keypressWithin_of_lt hkey hlt hn

theorem keypressWithin_eq (hlt : t.Ordered) {l l' : Nat} (h : id < l) (h' : id < l') :
    t.keypressWithin key l id = t.keypressWithin key l' id := by
  induction l generalizing l' id with
  | zero => omega
  | succ l ih =>
    obtain ⟨l', rfl⟩ : ∃ k, l' = k + 1 := ⟨l' - 1, by omega⟩
    simp only [keypressWithin]
    cases hc : t.focusedChild? id with
    | none => rfl
    | some c =>
      have := hlt id c (mem_of_focusedChild? hc)
      have hrec : t.keypressWithin key l c = t.keypressWithin key l' c := ih (by omega) (by omega)
      simp only [hrec]

/-- A key goes to the child with the focus first. -/
theorem keypress_child (hlt : t.Ordered) {c : Nat} (h : t.focusedChild? id = some c) (key : Key) :
    t.keypress id key =
      if (t.keypress c key).2 = .unhandled then (t.keypress c key).1.navigate id key else t.keypress c key := by
  have hid := lt_size_of_mem_children (mem_of_focusedChild? h)
  rw [keypress, keypressWithin_eq hlt hid (Nat.lt_succ_of_lt hid), keypressWithin, h]
  rfl

/-! ## Guiding the focus -/

/-- An arrow key makes one tree of another when it is offered to the widget, and is used. -/
def Guides (id : Nat) (t t' : Tree) : Prop := ∃ key ∈ Key.arrows, t.keypress id key = (t', .consumed)

theorem Guides.careful (h : Guides id t t') : t.Careful t' := by
  obtain ⟨key, -, hk⟩ := h
  have := careful_keypress t id key
  rwa [hk] at this

theorem careful_of_guides (h : ReflTransGen (Guides id) t t') : t.Careful t' := by
  induction h with
  | refl => exact .refl t
  | tail _ hg ih => exact ih.trans hg.careful

/-- What the child with the focus uses, its parent never gets, and the focus of the parent stays. -/
theorem Guides.parent (hlt : t.Ordered) {c : Nat} (hc : t.focusedChild? id = some c) (h : Guides c t t') :
    Guides id t t' ∧ t'.focusedChild? id = some c := by
  obtain ⟨key, hkey, hk⟩ := h
  have hcid := hlt id c (mem_of_focusedChild? hc)
  have hw : t'.widget id = t.widget id := by
    rw [← widget_keypress_of_lt hkey hlt hcid, hk]
  refine ⟨⟨key, hkey, by rw [keypress_child hlt hc, hk, if_neg (by simp)]⟩, ?_⟩
  rw [focusedChild?, Tree.children, hw]
  exact hc

theorem guides_parent (hlt : t.Ordered) {c : Nat} (hc : t.focusedChild? id = some c)
    (h : ReflTransGen (Guides c) t t') : ReflTransGen (Guides id) t t' ∧ t'.focusedChild? id = some c := by
  induction h with
  | refl => exact ⟨.refl, hc⟩
  | tail hpath hg ih =>
    obtain ⟨hpath', hc'⟩ := ih
    obtain ⟨hg', hc''⟩ := hg.parent (hlt.of_fixed (careful_of_guides hpath).fixed) hc'
    exact ⟨hpath'.tail hg', hc''⟩

end Tree

theorem Direction.pairwise_indices (d : Direction) (index size : Nat) :
    (d.indices index size).Pairwise fun i j => j ∈ d.indices i size := by
  cases d with
  | forward =>
    refine (List.pairwise_lt_range.drop).imp_of_mem fun _ hj hlt => mem_indices.2 ⟨?_, hlt⟩
    exact List.mem_range.1 (List.mem_of_mem_drop hj)
  | backward =>
    refine (List.pairwise_reverse.2 List.pairwise_lt_range).imp_of_mem fun _ hj hlt => mem_indices.2 ⟨?_, hlt⟩
    have := List.mem_range.1 (List.mem_reverse.1 hj)
    omega

namespace Tree

variable {t t' t'' : Tree} {key : Key} {id : Nat} {a : Arrangement} {children : List Nat} {focus j c : Nat} {d : Direction}

/-- A container with a child in a direction that can take the focus moves it there, or not as far. -/
theorem exists_moveFocus? (hw : t.widget id = .container a children focus) (hj : children[j]? = some c)
    (hs : t.isSelectable c) (hd : j ∈ d.indices focus children.length) :
    ∃ index, t.moveFocus? id d = some (t.setFocus id index) ∧ (j = index ∨ j ∈ d.indices index children.length) := by
  obtain ⟨index, hfind⟩ := Option.isSome_iff_exists.1 (List.find?_isSome (p := fun i =>
    (children[i]?.map t.isSelectable).getD false).2 ⟨j, hd, by simp [hj, hs]⟩)
  refine ⟨index, by simp [moveFocus?, hw, Widget.children, Widget.focusIndex, hfind], ?_⟩
  obtain ⟨-, before, after, heq, hbefore⟩ := List.find?_eq_some_iff_append.1 hfind
  have hordered := d.pairwise_indices focus children.length
  rw [heq] at hd hordered
  -- No child before the one that the focus moves to can take it, so `j` is none of them.
  rcases List.mem_append.1 hd with hmem | hmem
  · exact absurd (hbefore j hmem) (by simp [hj, hs])
  · refine (List.mem_cons.1 hmem).imp_right fun hafter => ?_
    exact (List.pairwise_cons.1 (List.pairwise_append.1 hordered).2.1).1 j hafter

/-- One arrow key towards a child that can take the focus is used: below the child that has the focus, or to move
it on, but never past the other child. -/
theorem exists_guides_toward (h : t.Attentive) (hw : t.widget id = .container a children focus)
    (hj : children[j]? = some c) (hs : t.isSelectable c) (hd : j ∈ d.indices focus children.length) :
    ∃ t' focus', Guides id t t' ∧ t'.slack d < t.slack d ∧ t'.widget id = .container a children focus' ∧
      (j = focus' ∨ j ∈ d.indices focus' children.length) := by
  have hkey := a.arrow_mem d
  have hchildren : t.children id = children := by rw [Tree.children, hw, Widget.children]
  obtain ⟨k, hk, -⟩ := h.attends id ⟨c, hchildren ▸ List.mem_of_getElem? hj, hs⟩
  have hkid := h.ordered id k (mem_of_focusedChild? hk)
  have hspent := spends_keypress hkey t id
  -- Whatever uses the key, the container gets it last and is the same until then.
  generalize hb : t.keypress k (a.arrow d) = below at *
  have hbw : below.1.widget id = .container a children focus := by
    rw [← hb, widget_keypress_of_lt hkey h.ordered hkid, hw]
  have hbelow := spends_keypress hkey t k
  rw [hb] at hbelow
  rcases hbelow.outcome with ho | ⟨ho, -⟩
  · have hfixed : below.1.fixed = t.fixed := by rw [← hb, (careful_keypress ..).fixed]
    obtain ⟨index, hmove, hindex⟩ := exists_moveFocus? hbw hj (by rw [isSelectable_of_fixed hfixed, hs]) hd
    have hused : t.keypress id (a.arrow d) = (below.1.setFocus id index, .consumed) := by
      rw [keypress_child h.ordered hk, hb, if_pos ho]
      simp [navigate, hbw, hmove]
    rw [hused] at hspent
    refine ⟨_, index, ⟨_, hkey, hused⟩, by simpa using hspent.lt, ?_, hindex⟩
    rw [setFocus, widget_modify_self (lt_size_of_isContainer (by rw [hbw]; rfl)), hbw, Widget.setFocusIndex]
  · have hused : t.keypress id (a.arrow d) = (below.1, .consumed) := by
      rw [keypress_child h.ordered hk, hb, if_neg (by simp [ho]), ← ho]
    rw [hused] at hspent
    exact ⟨_, focus, ⟨_, hkey, hused⟩, by simpa using hspent.lt, hbw, .inr hd⟩

/-- The focus of a container can be brought to any child that can take it. -/
theorem exists_guides_focus (h : t.Attentive) (hw : t.widget id = .container a children focus)
    (hj : children[j]? = some c) (hs : t.isSelectable c) (hd : j = focus ∨ j ∈ d.indices focus children.length) :
    ∃ t', ReflTransGen (Guides id) t t' ∧ t'.focusedChild? id = some c := by
  induction hn : t.slack d using Nat.strongRecOn generalizing t focus with
  | _ n ih =>
    rcases hd with rfl | hd
    · exact ⟨t, .refl, by rw [focusedChild?, Tree.children, hw]; exact hj⟩
    · obtain ⟨t₁, focus₁, hg, hlt, hw₁, hd₁⟩ := exists_guides_toward h hw hj hs hd
      have hs₁ : t₁.isSelectable c := by rw [isSelectable_of_fixed hg.careful.fixed, hs]
      obtain ⟨t₂, hpath, hc⟩ := ih _ (hn ▸ hlt) (h.careful hg.careful) hw₁ hs₁ hd₁ rfl
      exact ⟨t₂, hpath.head hg, hc⟩

/-- The focus below a widget can be brought to any widget there that can have it. On the way down each container
first gets its focus to the next widget on the way, and keeps it while that one uses all keys. -/
theorem exists_guides (h : t.Attentive) {n : Nat} (hn : t.Reaches id n) (hf : (t.widget n).isFocusable) :
    ∃ t', ReflTransGen (Guides id) t t' ∧ t'.focusedLeaf id = n := by
  induction id using Nat.strongRecOn generalizing t with
  | _ id ih =>
    rcases reaches_iff.1 hn with rfl | ⟨c, hc, hcn⟩
    · exact ⟨t, .refl, focusedLeaf_self (by simp [focusedChild?, Tree.children, Widget.children_eq_nil hf])⟩
    · have hid := lt_size_of_mem_children hc
      have hcid := h.ordered id c hc
      have hs : t.isSelectable c := (isSelectable_iff h.ordered (Nat.lt_trans hcid hid)).2 ⟨n, hcn, hf⟩
      obtain ⟨t₁, hpath, hfocus⟩ : ∃ t₁, ReflTransGen (Guides id) t t₁ ∧ t₁.focusedChild? id = some c := by
        cases hw : t.widget id with
        | container a children focus =>
          obtain ⟨j, hj, hjc⟩ := List.mem_iff_getElem.1 hc
          simp only [Tree.children, hw, Widget.children] at hj hjc
          have hjc' : children[j]? = some c := by rw [List.getElem?_eq_getElem hj, hjc]
          rcases Nat.lt_trichotomy j focus with hlt | heq | hgt
          · exact exists_guides_focus h hw hjc' hs (d := .backward) (.inr (Direction.mem_indices.2 ⟨hj, hlt⟩))
          · exact exists_guides_focus h hw hjc' hs (d := .forward) (.inl heq)
          · exact exists_guides_focus h hw hjc' hs (d := .forward) (.inr (Direction.mem_indices.2 ⟨hj, hgt⟩))
        | wrapper wrapping child =>
          simp only [Tree.children, hw, Widget.children, List.mem_singleton] at hc
          exact ⟨t, .refl, by simp [focusedChild?, Tree.children, hw, Widget.children, Widget.focusIndex, hc]⟩
        | _ => simp [Tree.children, hw, Widget.children] at hc
      have hcareful := careful_of_guides hpath
      have h₁ := h.careful hcareful
      have hcn₁ : t₁.Reaches c n :=
        ((extends_of_fixed hcareful.fixed).reaches_iff h.ordered (Nat.lt_trans hcid hid)).2 hcn
      obtain ⟨t₂, hpath₂, hleaf⟩ := ih c hcid h₁ hcn₁ (by rw [isFocusable_eq_of_fixed hcareful.fixed, hf])
      obtain ⟨hpath₂', hfocus₂⟩ := guides_parent h₁.ordered hfocus hpath₂
      refine ⟨t₂, hpath.trans hpath₂', ?_⟩
      rw [focusedLeaf_child (h₁.careful (careful_of_guides hpath₂)).ordered hfocus₂, hleaf]

/-! ## The keys -/

/-- The tree after keys have been offered to a widget, one after the other. -/
def offer (t : Tree) (id : Nat) (keys : List Key) : Tree :=
  keys.foldl (fun t key => (t.keypress id key).1) t

theorem offer_concat (t : Tree) (id : Nat) (keys : List Key) (key : Key) :
    t.offer id (keys ++ [key]) = ((t.offer id keys).keypress id key).1 := by
  simp only [offer, List.foldl_append, List.foldl_cons, List.foldl_nil]

theorem exists_keys (h : ReflTransGen (Guides id) t t') :
    ∃ keys : List Key, (∀ key ∈ keys, key ∈ Key.arrows) ∧ t.offer id keys = t' := by
  induction h with
  | refl => exact ⟨[], List.forall_mem_nil _, rfl⟩
  | tail _ hg ih =>
    obtain ⟨keys, hkeys, rfl⟩ := ih
    obtain ⟨key, hkey, hk⟩ := hg
    refine ⟨keys ++ [key], ?_, by rw [offer_concat, hk]⟩
    rw [List.forall_mem_append]
    exact ⟨hkeys, List.forall_mem_singleton.2 hkey⟩

end Tree

/-- From whatever state of a form that is in use, arrow keys lead the focus to any widget that can have it. -/
theorem Form.InUse.exists_arrows {f : Form} (h : f.InUse) {n : Nat} (hn : f.tree.Reaches f.root n)
    (hf : (f.tree.widget n).isFocusable) :
    ∃ keys : List Key, (∀ key ∈ keys, key ∈ Key.arrows) ∧ (f.tree.offer f.root keys).focused? f.root = some n := by
  obtain ⟨t, hpath, hleaf⟩ := Tree.exists_guides h.attentive.tree hn hf
  obtain ⟨keys, hkeys, rfl⟩ := Tree.exists_keys hpath
  refine ⟨keys, hkeys, Tree.focused?_eq_some.2 ⟨hleaf, ?_⟩⟩
  rw [Tree.isFocusable_eq_of_fixed (Tree.careful_of_guides hpath).fixed, hf]

theorem Form.InUse.exists_arrows_nested :
    ∃ f g : Form, Form.parse "Col\nEdt A [xy]\nPle\nBtn [One]\nGFl\nChc [Red]\nEdt B [z]\nEnd\nEnd\nEnd" {} {} = .ok f ∧
      g = f.use (.key { code := .home }) ∧ g.tree.focused? g.root = some 0 ∧
      ∃ keys : List Key, (∀ key ∈ keys, key ∈ Key.arrows) ∧ (g.tree.offer g.root keys).focused? g.root = some 3 := by
  have hok : (Form.parse "Col\nEdt A [xy]\nPle\nBtn [One]\nGFl\nChc [Red]\nEdt B [z]\nEnd\nEnd\nEnd" {} {}).toOption.any
      fun f =>
        let g := f.use (.key { code := .home })
        g.tree.focused? g.root = some 0 && decide (3 ∈ g.tree.walk g.root) && (g.tree.widget 3).isFocusable := by
    decide +kernel
  cases hf : Form.parse "Col\nEdt A [xy]\nPle\nBtn [One]\nGFl\nChc [Red]\nEdt B [z]\nEnd\nEnd\nEnd" {} {} with
  | error e =>
    rw [hf] at hok
    cases hok
  | ok f =>
    rw [hf] at hok
    simp only [Except.toOption, Option.any_some, Bool.and_eq_true, decide_eq_true_eq] at hok
    obtain ⟨⟨hfirst, hmem⟩, hfocusable⟩ := hok
    have hg : (f.use (.key { code := .home })).InUse := .used (.parsed hf) _
    have hlt := hg.attentive.tree.ordered
    have hroot := hg.attentive.dressed.lt hg.attentive.body_lt
    exact ⟨f, _, rfl, rfl, hfirst, hg.exists_arrows ((Tree.mem_walk hlt hroot).1 hmem) hfocusable⟩

end ScreenForm
