import ScreenForm.Proofs.Form.Arrow
import ScreenForm.Proofs.Layout.Natural
import ScreenForm.Proofs.Widget.Unstyled
/-!
# Wrappers make no difference

Focus, keys and measuring see through wrappers: what they make of a tree is what they
make of the tree of its cores. Only the wrappers of styles make no difference to the
height of a widget, since others take columns away.
-/

namespace ScreenForm

/-- What came of a key, with the pressed widget under another number. -/
def KeyOutcome.renumber (number : Nat → Nat) : KeyOutcome → KeyOutcome
  | pressed widget => pressed (number widget)
  | outcome => outcome

namespace Tree

variable {t t' : Tree} {id : Nat}

/-! ## Focus -/

theorem unwrap_unstyled (t : Tree) (k : Nat) : t.unstyled.unwrap k = k := (t.plain_unstyled k).unwrap

theorem isSelectable_eq (hlt : t.Ordered) (id : Nat) :
    t.isSelectable id = ((t.widget id).isFocusable || (t.children id).any t.isSelectable) := by
  by_cases hid : id < t.size
  · rw [Bool.eq_iff_iff, isSelectable_iff hlt hid, Bool.or_eq_true, List.any_eq_true]
    constructor
    · rintro ⟨n, hn, hf⟩
      rcases reaches_iff.1 hn with rfl | ⟨c, hc, hn⟩
      · exact .inl hf
      · exact .inr ⟨c, hc, (isSelectable_iff hlt (Nat.lt_trans (hlt id c hc) hid)).2 ⟨n, hn, hf⟩⟩
    · rintro (hf | ⟨c, hc, hs⟩)
      · exact ⟨id, .refl t id, hf⟩
      · obtain ⟨n, hn, hf⟩ := (isSelectable_iff hlt (Nat.lt_trans (hlt id c hc) hid)).1 hs
        exact ⟨n, hn.head hc, hf⟩
  · have hle := Nat.le_of_not_lt hid
    have hw : t.widget id = (default : Node).widget := congrArg Node.widget (node_of_size_le hle)
    rw [children_of_size_le hle, hw, isSelectable]
    cases t.size with
    | zero => rfl
    | succ l =>
      rw [isSelectableWithin, children_of_size_le hle, hw]
      rfl

theorem isSelectable_unstyled (hlt : t.Ordered) (id : Nat) :
    t.unstyled.isSelectable (t.core id) = t.isSelectable id := by
  induction id using hlt.induct with
  | wrapped id wrapping child hw ih =>
    rw [core_wrapper hlt hw, ih, isSelectable_eq hlt id, children, hw]
    simp [Widget.isFocusable, Widget.isClickable, Widget.isEditable, Widget.children]
  | plain id hp ih =>
    rw [hp.core, isSelectable_eq (ordered_unstyled hlt), isSelectable_eq hlt id, widget_unstyled hp,
      children_unstyled hp, Widget.isFocusable_renumber, List.any_map]
    rw [Bool.eq_iff_iff, Bool.or_eq_true, Bool.or_eq_true, List.any_eq_true, List.any_eq_true]
    exact or_congr_right (exists_congr fun c => and_congr_right fun hc => by rw [Function.comp, ih c hc])

theorem firstSelectable_unstyled (hlt : t.Ordered) (ids : List Nat) :
    t.unstyled.firstSelectable (ids.map t.core) = t.firstSelectable ids := by
  have h : t.unstyled.isSelectable ∘ t.core = t.isSelectable := funext (isSelectable_unstyled hlt)
  rw [firstSelectable, firstSelectable, List.findIdx?_map, h]

theorem focusedChild?_unstyled (hp : t.Plain id) :
    t.unstyled.focusedChild? (t.rank id) = (t.focusedChild? id).map t.core := by
  rw [focusedChild?, focusedChild?, children_unstyled hp, widget_unstyled hp, Widget.focusIndex_renumber,
    List.getElem?_map]

/-- A wrapper passes the focus on. -/
theorem focusedChild?_wrapper {wrapping : Wrapping} {child : Nat} (hw : t.widget id = .wrapper wrapping child) :
    t.focusedChild? id = some child := by
  rw [focusedChild?, children, hw]
  rfl

theorem focusedLeaf_unstyled (hlt : t.Ordered) (id : Nat) :
    t.Plain (t.focusedLeaf id) ∧ t.unstyled.focusedLeaf (t.core id) = t.rank (t.focusedLeaf id) := by
  induction id using hlt.induct with
  | wrapped id wrapping child hw ih =>
    rwa [core_wrapper hlt hw, focusedLeaf_child hlt (focusedChild?_wrapper hw)]
  | plain id hp ih =>
    have hchild := focusedChild?_unstyled hp
    rw [hp.core]
    cases hc : t.focusedChild? id with
    | none =>
      rw [hc] at hchild
      rw [focusedLeaf_self hc, focusedLeaf_self hchild]
      exact ⟨hp, rfl⟩
    | some c =>
      rw [hc] at hchild
      rw [focusedLeaf_child hlt hc, focusedLeaf_child (ordered_unstyled hlt) hchild]
      exact ih c (mem_of_focusedChild? hc)

theorem focused?_unstyled (hlt : t.Ordered) (id : Nat) :
    t.unstyled.focused? (t.core id) = (t.focused? id).map t.core := by
  obtain ⟨hp, hleaf⟩ := focusedLeaf_unstyled hlt id
  rw [focused?, focused?, hleaf, widget_unstyled hp, Widget.isFocusable_renumber]
  split
  · exact congrArg some hp.core.symm
  · rfl

theorem outermost?_unstyled (hlt : t.Ordered) (id : Nat) :
    t.unstyled.outermost? (t.core id) = (t.outermost? id).map t.rank := by
  rw [outermost?, outermost?, unwrap_unstyled, core, widget_unstyled (plain_unwrap hlt id), Widget.isContainer_renumber]
  split
  · rfl
  · rfl

theorem moveFocus?_unstyled (hlt : t.Ordered) (hp : t.Plain id) (d : Direction) :
    t.unstyled.moveFocus? (t.rank id) d = (t.moveFocus? id d).map unstyled := by
  have hset : t.unstyled.setFocus (t.rank id) = unstyled ∘ t.setFocus id :=
    funext fun index => (unstyled_setFocus hp index).symm
  have hselectable (index : Nat) : ((t.widget id).children.map t.core)[index]?.map t.unstyled.isSelectable =
      (t.widget id).children[index]?.map t.isSelectable := by
    have h : t.unstyled.isSelectable ∘ t.core = t.isSelectable := funext (isSelectable_unstyled hlt)
    rw [List.getElem?_map, Option.map_map, h]
  rw [moveFocus?, moveFocus?, widget_unstyled hp, Option.map_map, ← hset]
  simp only [Widget.focusIndex_renumber, Widget.children_renumber, List.length_map, hselectable]

theorem stepFocus?_unstyled (hlt : t.Ordered) (root : Nat) (d : Direction) :
    t.unstyled.stepFocus? (t.core root) d = (t.stepFocus? root d).map unstyled := by
  rw [stepFocus?, stepFocus?, outermost?_unstyled hlt]
  cases ho : t.outermost? root with
  | none => rfl
  | some list =>
    have hp : t.Plain list := by
      simp only [outermost?] at ho
      split at ho
      · cases ho
        exact plain_unwrap hlt root
      · cases ho
    have hmoved (index : Nat) : ((t.unstyled.setFocus (t.rank list) index).focused? (t.core root)).isSome =
        ((t.setFocus list index).focused? root).isSome := by
      have hfixed := fixed_setFocus t list index
      rw [← unstyled_setFocus hp, ← core_of_fixed hfixed, focused?_unstyled (hlt.of_fixed hfixed), Option.isSome_map]
    show ((d.indices (t.unstyled.widget (t.rank list)).focusIndex _).findSome? _) =
      ((d.indices (t.widget list).focusIndex _).findSome? _).map unstyled
    rw [List.map_findSome?]
    simp only [widget_unstyled hp, Widget.focusIndex_renumber, Widget.children_renumber, List.length_map, hmoved]
    congr 1
    funext index
    rw [Function.comp, ← unstyled_setFocus hp]
    split
    · rfl
    · rfl

/-! ## Keys -/

theorem navigate_container {a : Arrangement} {children : List Nat} {focus : Nat}
    (hw : t.widget id = .container a children focus) (key : Key) :
    t.navigate id key = match (a.direction? key.code).bind (t.moveFocus? id) with
      | some moved => (moved, .consumed)
      | none => (t, .unhandled) := by
  rewrite [navigate, hw]
  rfl

theorem navigate_of_not_container (h : (t.widget id).isContainer = false) (key : Key) :
    t.navigate id key = (t, .unhandled) := by
  rw [navigate]
  cases hw : t.widget id with
  | container => simp [hw, Widget.isContainer] at h
  | _ => rfl

theorem navigate_unstyled (hlt : t.Ordered) (hp : t.Plain id) (key : Key) :
    t.unstyled.navigate (t.rank id) key = ((t.navigate id key).1.unstyled, (t.navigate id key).2.renumber t.core) := by
  have hw' := widget_unstyled hp
  cases hcon : (t.widget id).isContainer with
  | false =>
    rw [navigate_of_not_container hcon, navigate_of_not_container (by rw [hw', Widget.isContainer_renumber, hcon])]
    rfl
  | true =>
    cases hw : t.widget id with
    | container a children focus =>
      rw [hw] at hw'
      rw [navigate_container hw, navigate_container hw']
      cases a.direction? key.code with
      | none => rfl
      | some d =>
        rw [Option.bind_some, Option.bind_some, moveFocus?_unstyled hlt hp]
        cases t.moveFocus? id d with
        | none => rfl
        | some moved => rfl
    | _ => simp [hw, Widget.isContainer] at hcon

/-- What a key makes of a leaf that is no edit. -/
theorem pressLeaf_of_not_editable (h : (t.widget id).isEditable = false) (key : Key) :
    t.pressLeaf id key = if key.code = .enter || key.code = .char ' ' then
      match t.activate? id with
      | some pressed => (pressed, .pressed id)
      | none => (t, .unhandled)
    else (t, .unhandled) := by
  rw [pressLeaf]
  split
  · next field hw =>
    rw [hw] at h
    cases h
  · rfl

theorem pressLeaf_unstyled (hp : t.Plain id) (key : Key) :
    t.unstyled.pressLeaf (t.rank id) key =
      ((t.pressLeaf id key).1.unstyled, (t.pressLeaf id key).2.renumber t.core) := by
  cases he : (t.widget id).isEditable with
  | false =>
    rw [pressLeaf_of_not_editable he,
      pressLeaf_of_not_editable (by rw [widget_unstyled hp, Widget.isEditable_renumber, he]), unstyled_activate? hp]
    split
    · cases t.activate? id with
      | none => rfl
      | some pressed => simp [KeyOutcome.renumber, hp.core]
    · rfl
  | true =>
    obtain ⟨field, hw⟩ : ∃ field, t.widget id = .edit field := by
      cases hw : t.widget id with
      | edit field => exact ⟨field, rfl⟩
      | _ =>
        rw [hw] at he
        cases he
    have hmodify {e : Edit} (h : (Widget.edit e).fixed = (Widget.edit field).fixed) :
        (t.modify id fun _ => .edit e).unstyled = t.unstyled.modify (t.rank id) fun _ => .edit e :=
      unstyled_modify hp (by rw [hw, h]) rfl
    cases hpress : field.clampCursor.press? key with
    | none =>
      simp only [pressLeaf, widget_unstyled hp, hw, Widget.renumber, hpress, KeyOutcome.renumber]
      rw [hmodify (e := field.clampCursor) rfl]
    | some changed =>
      simp only [pressLeaf, widget_unstyled hp, hw, Widget.renumber, hpress, KeyOutcome.renumber]
      rw [hmodify ((Edit.fixed_press? hpress).trans rfl)]

theorem keypress_self (h : t.focusedChild? id = none) (hid : id < t.size) (key : Key) :
    t.keypress id key = if (t.widget id).isContainer then t.navigate id key else t.pressLeaf id key := by
  obtain ⟨l, hl⟩ : ∃ l, t.size = l + 1 := ⟨t.size - 1, by omega⟩
  rw [keypress, hl, keypressWithin, h]

theorem keypress_unstyled (hlt : t.Ordered) (hid : id < t.size) (key : Key) :
    t.unstyled.keypress (t.core id) key = ((t.keypress id key).1.unstyled, (t.keypress id key).2.renumber t.core) := by
  induction id using hlt.induct with
  | wrapped id wrapping child hw ih =>
    rw [core_wrapper hlt hw, ih (Nat.lt_trans (hlt id child (by simp [children, hw, Widget.children])) hid),
      keypress_child hlt (focusedChild?_wrapper hw)]
    split
    · next hun =>
      have hw' := widget_fixed_of_fixed (careful_keypress t child key).fixed id
      rw [hw, Widget.fixed] at hw'
      rw [navigate_of_not_container (by rw [Widget.eq_wrapper_of_fixed hw']; rfl), hun]
    · rfl
  | plain id hp ih =>
    have hchild := focusedChild?_unstyled hp
    rw [hp.core]
    cases hc : t.focusedChild? id with
    | none =>
      rw [hc] at hchild
      rw [keypress_self hc hid, keypress_self hchild ((rank_lt_size hp).2 hid), widget_unstyled hp,
        Widget.isContainer_renumber]
      split
      · exact navigate_unstyled hlt hp key
      · exact pressLeaf_unstyled hp key
    | some c =>
      rw [hc] at hchild
      have hmem := mem_of_focusedChild? hc
      have hfixed := (careful_keypress t c key).fixed
      have hun (o : KeyOutcome) : o.renumber t.core = .unhandled ↔ o = .unhandled := by
        cases o <;> simp [KeyOutcome.renumber]
      rw [keypress_child hlt hc, keypress_child (ordered_unstyled hlt) hchild,
        ih c hmem (Nat.lt_trans (hlt id c hmem) hid)]
      simp only [hun]
      split
      · rw [← rank_of_fixed hfixed, navigate_unstyled (hlt.of_fixed hfixed) ((plain_iff_of_fixed hfixed id).2 hp),
          core_of_fixed hfixed]
      · rfl

/-! ## Heights -/

/-- All its wrappers come from styles. -/
def Styled (t : Tree) : Prop :=
  ∀ id wrapping child, t.widget id = .wrapper wrapping child →
    ∃ normal focus names, wrapping = .styled normal focus names

theorem Styled.of_fixed (h : t.Styled) (hf : t'.fixed = t.fixed) : t'.Styled := by
  intro id wrapping child hw
  have hfixed := widget_fixed_of_fixed hf id
  rw [hw, Widget.fixed] at hfixed
  exact h id wrapping child (Widget.eq_wrapper_of_fixed hfixed.symm)

theorem Styled.add (h : t.Styled) {w : Widget} (hw : w.isWrapper = false) (m : Meta) : (t.add w m).Styled := by
  intro id wrapping child hid
  rw [widget, node_add] at hid
  split at hid
  · rw [show w = .wrapper wrapping child from hid] at hw
    cases hw
  · exact h id wrapping child hid

theorem Styled.wrap (h : t.Styled) (normal focus : Style) (names : StyleNames) (inner : Nat) (m : Meta) :
    (t.add (.wrapper (.styled normal focus names) inner) m).Styled := by
  intro id wrapping child hid
  rw [widget, node_add] at hid
  split at hid
  · cases hid
    exact ⟨normal, focus, names, rfl⟩
  · exact h id wrapping child hid

theorem rows_unstyled (hlt : t.Ordered) (hs : t.Styled) (hid : id < t.size) (width : Nat) :
    t.unstyled.rows (t.core id) width = t.rows id width := by
  induction id using hlt.induct generalizing width with
  | wrapped id wrapping child hw ih =>
    obtain ⟨normal, focus, names, rfl⟩ := hs id wrapping child hw
    rw [core_wrapper hlt hw, rows_wrapper hlt hw]
    exact ih (Nat.lt_trans (hlt id child (by simp [children, hw, Widget.children])) hid) width
  | plain id hp ih =>
    have hw' := widget_unstyled hp
    rw [hp.core]
    cases hw : t.widget id with
    | container a children focus =>
      rw [hw] at hw'
      rw [rows_container (ordered_unstyled hlt) hw', rows_container hlt hw, childRows, childRows, List.length_map,
        List.zipWith_map_left]
      congr 1
      rw [← List.map_uncurry_zip_eq_zipWith, ← List.map_uncurry_zip_eq_zipWith]
      refine List.map_congr_left fun p hp => ?_
      have hmem : p.1 ∈ t.children id := by simpa [Tree.children, hw, Widget.children] using (List.of_mem_zip hp).1
      exact ih p.1 hmem (Nat.lt_trans (hlt id p.1 hmem) hid) p.2
    | wrapper wrapping child =>
      rw [Plain, hw] at hp
      cases hp
    | _ =>
      rw [hw] at hw'
      rw [rows_leaf ((rank_lt_size hp).2 hid) hw' rfl rfl, rows_leaf hid hw rfl rfl]
      rfl

end Tree

end ScreenForm
