import ScreenForm.Proofs.Form.Arrow
import ScreenForm.Proofs.Form.Use
import ScreenForm.Proofs.Widget.SeeThrough
/-!
# Groups of radio buttons

`Tree.checkedIn` lists the checked radio buttons of a group. Two operations touch it: clearing a group but for
one button leaves that one at most, and a press leaves exactly the button that was pressed. Whatever is done
with a tree, the list of each group stays or has one button afterwards (`Tree.Settles`).
-/

namespace ScreenForm

namespace Widget

/-- The group whose checked radio button this is. -/
def checkedGroup? : Widget → Option String
  | radioButton _ true group => group
  | _ => none

theorem group?_of_checkedGroup? {w : Widget} {group : String} (h : w.checkedGroup? = some group) :
    w.group? = some group := by
  cases w with
  | radioButton label checked group' =>
    cases checked with
    | true => exact h
    | false => cases h
  | _ => cases h

theorem group?_congr {w w' : Widget} (h : w'.fixed = w.fixed) : w'.group? = w.group? := by
  have hfixed (w : Widget) : w.fixed.group? = w.group? := by cases w <;> rfl
  rw [← hfixed, h, hfixed]

@[simp] theorem checkedGroup?_uncheck (w : Widget) : w.uncheck.checkedGroup? = none := by cases w <;> rfl

@[simp] theorem checkedGroup?_setFocusIndex (w : Widget) (i : Nat) :
    (w.setFocusIndex i).checkedGroup? = w.checkedGroup? := by
  cases w <;> rfl

theorem checkedGroup?_of_setText? {w w' : Widget} {s : String} (h : w.setText? s = some w') :
    w'.checkedGroup? = w.checkedGroup? := by
  cases w <;> simp only [setText?, Option.some.injEq, reduceCtorEq] at h
  all_goals exact h ▸ rfl

end Widget

namespace Tree

variable {t t' t'' : Tree} {id : Nat} {group : String}

/-- The checked radio buttons of a group, in the order in which they were added. -/
def checkedIn (t : Tree) (group : String) : List Nat :=
  (List.range t.size).filter fun id => (t.widget id).checkedGroup? = some group

theorem mem_checkedIn : id ∈ t.checkedIn group ↔ (t.widget id).checkedGroup? = some group := by
  simp only [checkedIn, List.mem_filter, List.mem_range, decide_eq_true_eq, and_iff_right_iff_imp]
  intro h
  by_contra hn
  rw [widget, node_of_size_le (Nat.le_of_not_lt hn)] at h
  cases h

theorem lt_size_of_mem_checkedIn (h : id ∈ t.checkedIn group) : id < t.size :=
  List.mem_range.1 (List.mem_filter.1 h).1

theorem nodup_checkedIn (t : Tree) (group : String) : (t.checkedIn group).Nodup := List.nodup_range.filter _

theorem checkedIn_congr (hs : t'.size = t.size)
    (h : ∀ id, (t'.widget id).checkedGroup? = some group ↔ (t.widget id).checkedGroup? = some group) :
    t'.checkedIn group = t.checkedIn group := by
  simp only [checkedIn, hs, h]

/-! ## Trees that grow -/

theorem checkedIn_add (t : Tree) (w : Widget) (m : Meta) (group : String) :
    (t.add w m).checkedIn group = t.checkedIn group ++ if w.checkedGroup? = some group then [t.size] else [] := by
  have hold : ∀ id ∈ List.range t.size, ((t.add w m).widget id).checkedGroup? = (t.widget id).checkedGroup? :=
    fun id hid => by rw [widget, node_add_of_ne (Nat.ne_of_lt (List.mem_range.1 hid)), widget]
  rw [checkedIn, size_add, List.range_succ, List.filter_append]
  congr 1
  · exact List.filter_congr fun id hid => by rw [hold id hid]
  · rw [List.filter_singleton, widget, node_add_self]
    by_cases h : w.checkedGroup? = some group <;> simp [h]

theorem checkedIn_add_of_none {w : Widget} (h : w.checkedGroup? = none) (m : Meta) (group : String) :
    (t.add w m).checkedIn group = t.checkedIn group := by
  rw [checkedIn_add, h, if_neg (by nofun), List.append_nil]

theorem Wrapped.checkedIn {outer : Nat} (h : t.Wrapped id t' outer) (group : String) :
    t'.checkedIn group = t.checkedIn group := by
  cases h with
  | bare => rfl
  | styled wrapping => exact checkedIn_add_of_none rfl _ _

theorem checkedGroup?_clearGroup (t : Tree) (keep : Nat) (group : String) (i : Nat) :
    ((t.clearGroup keep group).widget i).checkedGroup? =
      if i ≠ keep ∧ (t.widget i).group? = some group then none else (t.widget i).checkedGroup? := by
  rw [widget, node_clearGroup_eq]
  split
  · exact Widget.checkedGroup?_uncheck _
  · rfl

theorem about_clearGroup (t : Tree) (keep : Nat) (group : String) (i : Nat) :
    (t.clearGroup keep group).about i = t.about i := by
  rw [about, node_clearGroup_eq]
  split <;> rfl

/-- Of the group that is cleared the button that is kept stays checked if it was. -/
theorem checkedIn_clearGroup (t : Tree) (keep : Nat) (group : String) :
    (t.clearGroup keep group).checkedIn group = (t.checkedIn group).filter (· = keep) := by
  rw [checkedIn, checkedIn, List.filter_filter, size_clearGroup]
  refine List.filter_congr fun i _ => ?_
  rw [checkedGroup?_clearGroup]
  by_cases hi : i = keep
  · simp [hi]
  · by_cases hg : (t.widget i).group? = some group
    · simp [hi, hg]
    · have hnone : (t.widget i).checkedGroup? ≠ some group := fun h => hg (Widget.group?_of_checkedGroup? h)
      simp [hi, hnone]

theorem checkedIn_clearGroup_of_ne {other : String} (h : other ≠ group) (t : Tree) (keep : Nat) :
    (t.clearGroup keep group).checkedIn other = t.checkedIn other := by
  refine checkedIn_congr (size_clearGroup ..) fun i => ?_
  rw [checkedGroup?_clearGroup]
  split
  · next hi =>
    refine ⟨nofun, fun hother => absurd ?_ h⟩
    exact Option.some.inj ((Widget.group?_of_checkedGroup? hother).symm.trans hi.2)
  · rfl

/-! ## Presses -/

/-- Of the same widgets, the radio button `id` is the only checked one of its group, and what is not of its group
is as it was. -/
structure Chosen (t t' : Tree) (id : Nat) (group : String) : Prop where
  agrees : t.Agrees t'
  only : t'.checkedIn group = [id]
  rest : ∀ i, (t.widget i).group? ≠ some group → t'.node i = t.node i

theorem Chosen.checkedIn_of_ne {other : String} (h : t.Chosen t' id group) (hne : other ≠ group) :
    t'.checkedIn other = t.checkedIn other := by
  refine checkedIn_congr (size_eq_of_fixed h.agrees.fixed) fun i => ?_
  by_cases hi : (t.widget i).group? = some group
  · -- A button of the group is in no other one, before and after.
    have hi' : (t'.widget i).group? = some group := by
      have hnode := congrArg (fun t => (node t i).widget) h.agrees.fixed
      simp only [node_fixed, Node.fixed] at hnode
      exact (Widget.group?_congr hnode).trans hi
    constructor
    · intro hother
      exact absurd (Option.some.inj ((Widget.group?_of_checkedGroup? hother).symm.trans hi')) hne
    · intro hother
      exact absurd (Option.some.inj ((Widget.group?_of_checkedGroup? hother).symm.trans hi)) hne
  · rw [widget, h.rest i hi, widget]

/-- A press on a radio button of a group. -/
theorem activate?_radioButton (h : (t.widget id).group? = some group) :
    ∃ t', t.activate? id = some t' ∧ t.Chosen t' id group := by
  obtain ⟨label, checked, hw⟩ : ∃ label checked, t.widget id = .radioButton label checked (some group) := by
    cases hw : t.widget id with
    | radioButton label checked group' =>
      rw [hw] at h
      exact ⟨label, checked, congrArg _ h⟩
    | _ =>
      rw [hw] at h
      cases h
  have hlt : id < t.size := lt_size_of_isFocusable (by rw [hw]; rfl)
  have hact : t.activate? id =
      some ((t.modify id fun _ => .radioButton label true (some group)).clearGroup id group) := by
    rw [activate?, hw]
  refine ⟨_, hact, agrees_activate? hact, ?_, fun i hi => ?_⟩
  · have hmem : id ∈ (t.modify id fun _ => .radioButton label true (some group)).checkedIn group := by
      rw [mem_checkedIn, widget_modify_self hlt]
      rfl
    rw [checkedIn_clearGroup, List.filter_eq, List.count_eq_one_of_mem (nodup_checkedIn ..) hmem]
    rfl
  · have hne : i ≠ id := by
      rintro rfl
      exact hi h
    have hnode : (t.modify id fun _ => .radioButton label true (some group)).node i = t.node i := by
      rw [node_modify, if_neg (fun h => hne h.1)]
    rw [node_clearGroup_eq, widget, hnode, if_neg (fun h => hi h.2)]

/-! ## Use -/

/-- The checked buttons of each group are those that were, or there is one. -/
def Settles (t t' : Tree) : Prop :=
  ∀ group, t'.checkedIn group = t.checkedIn group ∨ ∃ id, t'.checkedIn group = [id]

theorem Settles.refl (t : Tree) : t.Settles t := fun _ => .inl rfl

theorem Settles.trans (h : t.Settles t') (h' : t'.Settles t'') : t.Settles t'' := by
  intro group
  rcases h' group with heq | hone
  · rw [heq]
    exact h group
  · exact .inr hone

/-- A group with a checked button does not become empty. -/
theorem Settles.ne_nil (h : t.Settles t') (hne : t.checkedIn group ≠ []) : t'.checkedIn group ≠ [] := by
  rcases h group with heq | ⟨id, hone⟩
  · rw [heq]
    exact hne
  · rw [hone]
    exact List.cons_ne_nil _ _

/-- At most one radio button of each group is checked. -/
def Sole (t : Tree) : Prop := ∀ group, (t.checkedIn group).length ≤ 1

theorem Sole.settles (h : t.Sole) (hs : t.Settles t') : t'.Sole := by
  intro group
  rcases hs group with heq | ⟨id, hone⟩
  · rw [heq]
    exact h group
  · rw [hone]
    exact Nat.le_refl _

theorem Chosen.settles (h : t.Chosen t' id group) : t.Settles t' := by
  intro other
  by_cases ho : other = group
  · exact .inr ⟨id, ho ▸ h.only⟩
  · exact .inl (h.checkedIn_of_ne ho)

theorem settles_modify {f : Widget → Widget} (h : (f (t.widget id)).checkedGroup? = (t.widget id).checkedGroup?) :
    t.Settles (t.modify id f) := by
  refine fun group => .inl (checkedIn_congr (size_modify ..) fun i => ?_)
  rw [widget, node_modify]
  split
  · next hi => rw [hi.1, h]
  · rfl

theorem settles_setFocus (t : Tree) (id index : Nat) : t.Settles (t.setFocus id index) :=
  settles_modify (Widget.checkedGroup?_setFocusIndex ..)

theorem settles_activate? (h : t.activate? id = some t') : t.Settles t' := by
  cases hg : (t.widget id).group? with
  | some group =>
    obtain ⟨t₁, ht₁, hchosen⟩ := activate?_radioButton hg
    obtain rfl : t₁ = t' := Option.some.inj (ht₁.symm.trans h)
    exact hchosen.settles
  | none =>
    -- A check box, a button, or a radio button of no group.
    unfold activate? at h
    split at h
    · cases h
      exact .refl t
    · next hw =>
      cases h
      exact settles_modify (by rw [hw]; rfl)
    · next label checked group hw =>
      rw [hw] at hg
      obtain rfl : group = none := hg
      cases h
      exact settles_modify (by rw [hw]; cases checked <;> rfl)
    · cases h

theorem turns_settles : Turns Settles where
  refl := .refl
  trans _ _ _ := .trans
  focus := settles_setFocus
  press _ _ _ := settles_activate?
  key _ _ _ _ hw _ := settles_modify (by rw [hw]; rfl)
  text _ _ _ _ hw := settles_modify (Widget.checkedGroup?_of_setText? hw)

/-- A key that presses buttons presses the focused one. -/
theorem keypress_focused {root : Nat} {key : Key} (hlt : t.Ordered) (hroot : root < t.size)
    (hf : t.focused? root = some id) (hkey : key.code = .enter ∨ key.code = .char ' ') (hact : t.activate? id = some t') :
    t.keypress root key = (t', .pressed id) := by
  induction root using Nat.strongRecOn with
  | ind root ih =>
    cases hc : t.focusedChild? root with
    | none =>
      obtain ⟨hleaf, hfoc⟩ := focused?_eq_some.1 hf
      rw [focusedLeaf_self hc] at hleaf
      subst hleaf
      have hclick := isClickable_of_activate? hact
      have hedit : (t.widget root).isEditable = false := by
        cases hw : t.widget root <;> simp_all [Widget.isClickable, Widget.isEditable]
      have hcon : (t.widget root).isContainer = false := by
        cases hw : t.widget root <;> simp_all [Widget.isClickable, Widget.isContainer]
      rw [keypress_self hc hroot, hcon, if_neg Bool.false_ne_true, pressLeaf_of_not_editable hedit,
        if_pos (by simpa using hkey), hact]
    | some c =>
      have hmem := mem_of_focusedChild? hc
      have hcr := hlt root c hmem
      have hchild := ih c hcr (Nat.lt_trans hcr hroot) (focused?_child hlt hc ▸ hf)
      rw [keypress_child hlt hc, hchild, if_neg (by simp)]

end Tree

end ScreenForm
