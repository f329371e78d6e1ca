import ScreenForm.Proofs.Form.Answer
import ScreenForm.Proofs.Widget.Step
/-!
# Steps through the body

The body of a form is a list, inside the wrapper of its style if it has one, and steps go through its seats
(`Form.InUse.steps`). An arrow key that none of the widgets inside uses does what a step does.
-/

namespace ScreenForm

/-! ## The body -/

theorem Panel.closed_extends : Closed Tree.Extends where
  refl := .refl
  trans _ _ _ := .trans
  add t w _ := Tree.extends_add t w {}

namespace Form

/-- The body is a list without a height of its own. -/
def ListBody (f : Form) : Prop :=
  ∃ children, (f.tree.widget f.body).fixed = .container (.list none false) children 0

theorem parse_listBody {description : String} {palette : Palette} {strings : StringTable} {f : Form}
    (h : parse description palette strings = .ok f) : f.ListBody := by
  obtain ⟨text, a, -, -, hf⟩ := parse_ok h
  have hfinished := Assembly.finish_finished hf
  have hlt : f.body < (a.tree.add a.list {}).size := by simp [hfinished.body]
  refine ⟨a.content.toList, ?_⟩
  rw [hfinished.tree.grows.widget_fixed hlt, hfinished.body, Tree.widget_add_self]
  rfl

theorem ListBody.grows {f f' : Form} (h : f.ListBody) (hlt : f.body < f.tree.size) (hb : f'.body = f.body)
    (ht : f.tree.Extends f'.tree) : f'.ListBody := by
  obtain ⟨children, hw⟩ := h
  exact ⟨children, by rw [hb, ht.widget_fixed hlt, hw]⟩

theorem InUse.listBody {f : Form} (h : f.InUse) : f.ListBody := by
  induction h with
  | parsed h => exact parse_listBody h
  | built h =>
    obtain ⟨palette, -, h⟩ := Except.bind_eq_ok.1 h
    obtain ⟨form, hform, h⟩ := Except.bind_eq_ok.1 h
    cases h
    exact (parse_listBody hform).grows (parse_attentive hform).body_lt rfl
      (Panel.relates_dress Panel.closed_extends form _ form.tree)
  | @used f hf u ih =>
    have hcareful := hf.attentive.use u
    exact ih.grows hf.attentive.body_lt hcareful.body (Tree.extends_of_fixed hcareful.tree.fixed)

variable {f : Form} {d : Direction} {t : Tree}

theorem ListBody.widget (h : f.ListBody) :
    ∃ children focus, f.tree.widget f.body = .container (.list none false) children focus := by
  obtain ⟨children, hw⟩ := h
  cases hb : f.tree.widget f.body with
  | container a children' focus =>
    rw [hb] at hw
    cases hw
    exact ⟨_, focus, rfl⟩
  | _ =>
    rw [hb] at hw
    cases hw

theorem InUse.isContainer_body (h : f.InUse) : (f.tree.widget f.body).isContainer := by
  obtain ⟨children, focus, hw⟩ := h.listBody.widget
  rw [hw, Widget.isContainer]

theorem InUse.unwrap_root (h : f.InUse) : f.tree.unwrap f.root = f.body := by
  rw [h.attentive.dressed.unwrap_eq h.attentive.tree.ordered, Tree.unwrap_container h.isContainer_body]

/-- A step moves the focus of the body. -/
theorem InUse.stepFocus?_eq (h : f.InUse) (d : Direction) :
    f.tree.stepFocus? f.root d = f.tree.moveFocus? f.body d := by
  rw [Tree.stepFocus?_eq h.attentive.tree (by rw [h.unwrap_root]; exact h.isContainer_body), h.unwrap_root]

/-! ## Repeated steps -/

/-- The form after as many steps in a direction. -/
def steps (f : Form) (d : Direction) (count : Nat) : Form := (List.replicate count (.step d)).foldl use f

theorem steps_succ (f : Form) (d : Direction) (count : Nat) :
    f.steps d (count + 1) = (f.use (.step d)).steps d count :=
  rfl

theorem steps_add (f : Form) (d : Direction) (m k : Nat) : f.steps d (m + k) = (f.steps d m).steps d k := by
  rw [steps, ← List.replicate_append_replicate, List.foldl_append]
  rfl

theorem InUse.steps (h : f.InUse) (d : Direction) (count : Nat) : (f.steps d count).InUse := by
  induction count generalizing f with
  | zero => exact h
  | succ count ih => exact ih (.used h _)

/-- A step from a seat leads to the next one. -/
theorem InUse.step_seat (h : f.InUse) {k j : Nat}
    (hfocus : (f.tree.seats f.body d)[k]? = some (f.tree.widget f.body).focusIndex)
    (hj : (f.tree.seats f.body d)[k + 1]? = some j) :
    f.use (.step d) = { f with tree := f.tree.setFocus f.body j } := by
  have hstep := Tree.moveFocus?_eq_some.2 ⟨j, Tree.next_seat hfocus hj, rfl⟩
  rw [use, h.stepFocus?_eq, hstep, Option.getD_some]

theorem InUse.step_last_seat (h : f.InUse) {k : Nat}
    (hfocus : (f.tree.seats f.body d)[k]? = some (f.tree.widget f.body).focusIndex)
    (hlast : (f.tree.seats f.body d)[k + 1]? = none) : f.use (.step d) = f := by
  have hstep := Tree.moveFocus?_eq_none.2 fun j => Tree.not_next_of_last_seat (j := j) hfocus hlast
  rw [use, h.stepFocus?_eq, hstep, Option.getD_none]

/-- Steps come to one seat after the other. -/
theorem InUse.steps_seat (h : f.InUse) {k j : Nat} (count : Nat)
    (hfocus : (f.tree.seats f.body d)[k]? = some (f.tree.widget f.body).focusIndex)
    (hj : (f.tree.seats f.body d)[k + count]? = some j) :
    f.steps d count = { f with tree := f.tree.setFocus f.body j } := by
  induction count generalizing f k with
  | zero =>
    obtain rfl := Option.some.inj (hfocus.symm.trans hj)
    rw [Tree.setFocus_focusIndex]
    rfl
  | succ count ih =>
    rw [← Nat.add_assoc, Nat.add_right_comm] at hj
    have hlt : k + 1 < (f.tree.seats f.body d).length := by
      have := (List.getElem?_eq_some_iff.1 hj).1
      omega
    have hseat := List.getElem?_eq_getElem hlt
    have hstep := h.step_seat hfocus hseat
    have hused : (f.use (.step d)).InUse := .used h _
    have hseats := Tree.seats_of_fixed (n := f.body) (d := d)
      (Tree.fixed_setFocus f.tree f.body (f.tree.seats f.body d)[k + 1])
    rw [hstep] at hused
    have hnext := ih hused (k := k + 1) (by rw [hseats, Tree.focusIndex_setFocus h.isContainer_body, hseat])
      (by rw [hseats, hj])
    rw [steps_succ, hstep, hnext]
    simp only [Tree.setFocus_setFocus]

/-- On the last seat they stay. -/
theorem InUse.steps_last_seat (h : f.InUse) {k : Nat}
    (hfocus : (f.tree.seats f.body d)[k]? = some (f.tree.widget f.body).focusIndex)
    (hlast : (f.tree.seats f.body d)[k + 1]? = none) (count : Nat) : f.steps d count = f := by
  induction count with
  | zero => rfl
  | succ count ih => rw [steps_succ, h.step_last_seat hfocus hlast, ih]

/-! ## Arrow keys -/

/-- A key that the widgets in the body leave to it. -/
def Bubbles (f : Form) (key : Key) : Prop :=
  ∀ c, f.tree.focusedChild? f.body = some c → (f.tree.keypress c key).2 = .unhandled

theorem InUse.keypress_body (h : f.InUse) {key : Key} (hbubbles : f.Bubbles key) :
    f.tree.keypress f.body key = f.tree.navigate f.body key := by
  have hlt := h.attentive.tree.ordered
  cases hc : f.tree.focusedChild? f.body with
  | none => rw [Tree.keypress_self hc h.attentive.body_lt, if_pos h.isContainer_body]
  | some c =>
    have hcs := Nat.lt_trans (hlt _ c (Tree.mem_of_focusedChild? hc)) h.attentive.body_lt
    rw [Tree.keypress_child hlt hc, Tree.keypress_of_unhandled hlt h.sized hcs (hbubbles c hc), if_pos rfl]

/-- The wrapper around the body makes nothing of a key. -/
theorem InUse.keypress_root (h : f.InUse) (key : Key) : f.tree.keypress f.root key = f.tree.keypress f.body key := by
  have hdressed := h.attentive.dressed
  generalize f.root = root at hdressed ⊢
  cases hdressed with
  | bare => rfl
  | styled hw _ =>
    have hlt := h.attentive.tree.ordered
    rw [Tree.keypress_child hlt (Tree.focusedChild?_wrapper hw)]
    split
    · next hun =>
      rw [Tree.keypress_of_unhandled hlt h.sized h.attentive.body_lt hun]
      exact Tree.navigate_of_not_container (by rw [hw]; rfl) key
    · rfl

/-- An up or down key that comes to the body does what a step does. -/
theorem InUse.keypress_arrow (h : f.InUse) {key : Key} (harrow : key.code.arrow? = some (.vertical, d))
    (hbubbles : f.Bubbles key) : f.tree.keypress f.root key = ((f.tree.stepFocus? f.root d).getD f.tree,
      if (f.tree.stepFocus? f.root d).isSome then .consumed else .unhandled) := by
  obtain ⟨children, focus, hw⟩ := h.listBody.widget
  have hd : (Arrangement.list none false).direction? key.code = some d := Arrangement.direction?_eq_some.2 harrow
  rw [h.keypress_root, h.keypress_body hbubbles, Tree.navigate_container hw, hd, Option.bind_some, h.stepFocus?_eq]
  cases f.tree.moveFocus? f.body d <;> rfl

/-! ## Steps -/

/-- What steps in a direction do to a form. -/
structure Steps (f : Form) (d : Direction) : Prop where
  /-- A step that looks for the next child on the tree itself leaves no trace of what it has tried. -/
  inPlace : f.tree.stepInPlace f.root d = ((f.tree.stepFocus? f.root d).getD f.tree, (f.tree.stepFocus? f.root d).isSome)
  list : ∃ children focus, f.tree.widget f.body = .container (.list none false) children focus
  moves_iff : (f.tree.stepFocus? f.root d).isSome ↔
    ∃ j, f.tree.Takes f.body j ∧ d.Beyond (f.tree.widget f.body).focusIndex j
  /-- Only the focus of the body moves, to the next child that can take it, and a step back undoes this. -/
  moves : ∀ t, f.tree.stepFocus? f.root d = some t → f.tree.SameBut f.body t ∧
    (∃ j, f.tree.Next d f.body j ∧ t.widget f.body = (f.tree.widget f.body).setFocusIndex j) ∧
    t.stepFocus? f.root d.back = some f.tree
  seats : (∀ j, j ∈ f.tree.seats f.body d ↔ f.tree.Takes f.body j) ∧ (f.tree.seats f.body d).Pairwise d.Beyond
  /-- From the first seat steps come to each seat once, in their order, and stay on the last one. -/
  visits : (f.tree.seats f.body d).head? = some (f.tree.widget f.body).focusIndex →
    (∀ k j, (f.tree.seats f.body d)[k]? = some j →
      f.steps d k = { f with tree := f.tree.setFocus f.body j }) ∧
    ∀ k, (f.tree.seats f.body d).length ≤ k → f.steps d k = f.steps d ((f.tree.seats f.body d).length - 1)
  arrow : ∀ key : Key, key.code.arrow? = some (.vertical, d) → f.Bubbles key → f.tree.keypress f.root key =
    ((f.tree.stepFocus? f.root d).getD f.tree, if (f.tree.stepFocus? f.root d).isSome then .consumed else .unhandled)

theorem InUse.visits (h : f.InUse)
    (hfirst : (f.tree.seats f.body d).head? = some (f.tree.widget f.body).focusIndex) :
    (∀ k j, (f.tree.seats f.body d)[k]? = some j → f.steps d k = { f with tree := f.tree.setFocus f.body j }) ∧
    ∀ k, (f.tree.seats f.body d).length ≤ k → f.steps d k = f.steps d ((f.tree.seats f.body d).length - 1) := by
  rw [List.head?_eq_getElem?] at hfirst
  have hvisit : ∀ k j, (f.tree.seats f.body d)[k]? = some j →
      f.steps d k = { f with tree := f.tree.setFocus f.body j } :=
    fun k j hj => h.steps_seat k hfirst (by rwa [Nat.zero_add])
  refine ⟨hvisit, fun k hk => ?_⟩
  obtain ⟨hpos, -⟩ := List.getElem?_eq_some_iff.1 hfirst
  obtain ⟨last, hlength⟩ : ∃ last, (f.tree.seats f.body d).length = last + 1 := ⟨_, (Nat.sub_add_cancel hpos).symm⟩
  obtain ⟨rest, rfl⟩ : ∃ rest, k = last + rest := ⟨k - last, by omega⟩
  have hseat := List.getElem?_eq_getElem (l := f.tree.seats f.body d) (i := last) (by omega)
  have hlast := h.steps d last
  rw [hlength, Nat.add_sub_cancel, steps_add]
  rw [hvisit last _ hseat] at hlast ⊢
  have hseats := Tree.seats_of_fixed (n := f.body) (d := d)
    (Tree.fixed_setFocus f.tree f.body (f.tree.seats f.body d)[last])
  refine hlast.steps_last_seat (k := last) ?_ ?_ rest
  · rw [hseats, Tree.focusIndex_setFocus h.isContainer_body, hseat]
  · rw [hseats, List.getElem?_eq_none_iff, hlength]

/-- A step back leads to where the step came from. -/
theorem InUse.step_back (h : f.InUse) (hstep : f.tree.stepFocus? f.root d = some t) :
    t.stepFocus? f.root d.back = some f.tree := by
  have hused : (f.use (.step d)).InUse := .used h _
  rw [use, hstep, Option.getD_some] at hused
  rw [h.stepFocus?_eq] at hstep
  rw [hused.stepFocus?_eq]
  exact Tree.moveFocus?_back h.isContainer_body (h.attentive.tree.attends f.body) hstep

/-- A step moves the focus of the body to the next child in its direction that can take it, and changes nothing
else; without such a child it changes nothing. A step back undoes it, repeated steps come to all these children in
their order, and an up or down key that comes to the body does the same. -/
theorem InUse.steps_through (h : f.InUse) (d : Direction) : f.Steps d where
  inPlace := Tree.stepInPlace_eq ..
  list := h.listBody.widget
  moves_iff := by
    rw [← Tree.exists_next_iff, h.stepFocus?_eq, Option.isSome_iff_exists]
    simp only [Tree.moveFocus?_eq_some]
    exact ⟨fun ⟨_, j, hj, _⟩ => ⟨j, hj⟩, fun ⟨j, hj⟩ => ⟨_, j, hj, rfl⟩⟩
  moves t hstep := by
    have hback := h.step_back hstep
    rw [h.stepFocus?_eq] at hstep
    obtain ⟨j, hj, rfl⟩ := Tree.moveFocus?_eq_some.1 hstep
    exact ⟨Tree.sameBut_modify .., ⟨j, hj, Tree.widget_modify_self h.attentive.body_lt _⟩, hback⟩
  seats := ⟨fun _ => Tree.mem_seats, Tree.pairwise_seats ..⟩
  visits := h.visits
  arrow _ := h.keypress_arrow

theorem InUse.steps_through_texts : ∃ f : Form, f.InUse ∧ f.tree.seats f.body .forward = [1, 3, 5] ∧
    (∀ k j, [1, 3, 5][k]? = some j → f.steps .forward k = { f with tree := f.tree.setFocus f.body j }) ∧
    f.steps .forward 7 = f.steps .forward 2 ∧ (f.tree.stepFocus? f.root .forward).isSome ∧
    ∀ t, f.tree.stepFocus? f.root .forward = some t → t.stepFocus? f.root .backward = some f.tree := by
  let description := "Txt Name\nEdt A [xy]\nDvd\nCol\nTxt or\nBtn [One]\nEnd\nTxt last\nBtn [Two]"
  let f := ((parse description {} {}).toOption).getD default
  have hparse : parse description {} {} = .ok f := by decide +kernel
  have h : f.InUse := .parsed hparse
  obtain ⟨hseats, hfirst, hmoves⟩ : f.tree.seats f.body .forward = [1, 3, 5] ∧
      (f.tree.widget f.body).focusIndex = 1 ∧ (f.tree.stepFocus? f.root .forward).isSome := by decide +kernel
  have hsteps := h.steps_through .forward
  have hvisits := hsteps.visits (by rw [hseats, hfirst]; rfl)
  rw [hseats] at hvisits
  exact ⟨f, h, hseats, hvisits.1, hvisits.2 7 (by decide), hmoves, fun t ht => (hsteps.moves t ht).2.2⟩

end Form

end ScreenForm
