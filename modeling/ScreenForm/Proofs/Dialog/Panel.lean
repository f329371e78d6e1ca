import ScreenForm.Proofs.Form.Focus
/-!
# The focus in a panel

Dressing up a form adds containers around it. Their focus is on the form, so a
dialog has its focus where its form has it (`build_attentive`).
-/

namespace ScreenForm

namespace Panel

/-! ## Trees in the making -/

/-- What a step makes of the tree `t` satisfies `Q`. -/
def Makes {α : Type} (t : Tree) (x : Build α) (Q : α → Tree → Prop) : Prop :=
  Q (x.run t).1 (x.run t).2

variable {t t' : Tree}

theorem Makes.pure {α : Type} {a : α} {Q : α → Tree → Prop} (h : Q a t) : Makes t (Pure.pure a) Q := h

theorem Makes.bind {α β : Type} {x : Build α} {f : α → Build β} {P : α → Tree → Prop} {Q : β → Tree → Prop}
    (hx : Makes t x P) (hf : ∀ a t', P a t' → Makes t' (f a) Q) : Makes t (x >>= f) Q :=
  hf _ _ hx

theorem Makes.imp {α : Type} {x : Build α} {P Q : α → Tree → Prop} (hx : Makes t x P) (h : ∀ a t', P a t' → Q a t') :
    Makes t x Q :=
  h _ _ hx

/-- The tree has grown, and attends as before. -/
structure Grown (t t' : Tree) : Prop where
  grows : t.Extends t'
  attentive : t'.Attentive

theorem Grown.refl (h : t.Attentive) : Grown t t := ⟨.refl t, h⟩

theorem Grown.trans {t'' : Tree} (h : Grown t t') (h' : Grown t' t'') : Grown t t'' :=
  ⟨h.grows.trans h'.grows, h'.attentive⟩

theorem Grown.lt {id : Nat} (h : Grown t t') (hid : id < t.size) : id < t'.size :=
  Nat.lt_of_lt_of_le hid h.grows.1

theorem Grown.quiet {id : Nat} (h : Grown t t') (ht : t.Attentive) (hid : t.Quiet id) : t'.Quiet id :=
  hid.grows h.grows ht.ordered h.attentive.ordered

theorem makes_add (h : t.Attentive) {w : Widget} (hw : ∀ c ∈ w.children, c < t.size)
    (ha : (∃ c ∈ w.children, t.isSelectable c) → ∃ c, w.children[w.focusIndex]? = some c ∧ t.isSelectable c) :
    Makes t (add w) fun id t' => Grown t t' ∧ id < t'.size := by
  refine ⟨⟨Tree.extends_add t w {}, h.add hw ha {}⟩, ?_⟩
  show t.size < (t.add w {}).size
  simp

/-- A widget around quiet ones is quiet if it takes no focus itself. -/
theorem makes_quiet (h : t.Attentive) {w : Widget} (hf : w.isFocusable = false) (hw : ∀ c ∈ w.children, t.Quiet c) :
    Makes t (add w) fun id t' => Grown t t' ∧ t'.Quiet id := by
  have hlt := h.ordered.add (fun c hc => (hw c hc).lt) {}
  obtain ⟨hg, hid⟩ := makes_add h (fun c hc => (hw c hc).lt) fun ⟨c, hc, hs⟩ => by simp [(hw c hc).isSelectable] at hs
  refine ⟨hg, hid, ?_⟩
  show (t.add w {}).isSelectable t.size = false
  rw [← Bool.not_eq_true, Tree.isSelectable_iff hlt (by simp)]
  rintro ⟨n, hn, hnf⟩
  rcases Tree.reaches_iff.1 hn with rfl | ⟨c, hc, hcn⟩
  · simp [Tree.widget, hf] at hnf
  · rw [Tree.children, Tree.widget_add_self] at hc
    have hq := (hw c hc).grows (Tree.extends_add t w {}) h.ordered hlt
    have hs := hq.isSelectable
    rw [← Bool.not_eq_true, Tree.isSelectable_iff hlt hq.lt] at hs
    exact hs ⟨n, hcn, hnf⟩

theorem makes_wrap (h : t.Attentive) (palette : Palette) (name : String) {id : Nat} (hid : id < t.size) :
    Makes t (wrap palette name id) fun id t' => Grown t t' ∧ id < t'.size := by
  show (fun id t' => Grown t t' ∧ id < t'.size) (t.wrapStyle id palette [name]).2 (t.wrapStyle id palette [name]).1
  unfold Tree.wrapStyle
  split
  · exact ⟨.refl h, hid⟩
  · exact makes_add h (by simpa [Widget.children] using hid) (by simp [Widget.children, Widget.focusIndex])

theorem makes_wrap_quiet (h : t.Attentive) (palette : Palette) (name : String) {id : Nat} (hid : t.Quiet id) :
    Makes t (wrap palette name id) fun id t' => Grown t t' ∧ t'.Quiet id := by
  show (fun id t' => Grown t t' ∧ t'.Quiet id) (t.wrapStyle id palette [name]).2 (t.wrapStyle id palette [name]).1
  unfold Tree.wrapStyle
  split
  · exact ⟨.refl h, hid⟩
  · exact makes_quiet h rfl (by simpa [Widget.children] using hid)

theorem makes_spacer (h : t.Attentive) : Makes t spacer fun id t' => Grown t t' ∧ t'.Quiet id :=
  makes_quiet h rfl (by simp [Widget.children])

theorem makes_text (h : t.Attentive) (palette : Palette) (name text : String) :
    Makes t (do wrap palette name (← add (.text text .left))) fun id t' => Grown t t' ∧ t'.Quiet id := by
  refine (makes_quiet h rfl (by simp [Widget.children])).bind fun id t' ⟨hg, hq⟩ => ?_
  exact (makes_wrap_quiet hg.attentive palette name hq).imp fun id t'' ⟨hg', hq'⟩ => ⟨hg.trans hg', hq'⟩

/-! ## The form in its panel -/

variable {f : Form}

theorem makes_above (h : f.Attentive) (hstill : f.Still) (header : Option String) :
    Makes f.tree (above f header) fun ids t' => Grown f.tree t' ∧ ∀ id ∈ ids, t'.Quiet id := by
  have hheader : Makes f.tree (headerOf f header) fun id? t' => Grown f.tree t' ∧ ∀ id, id? = some id → t'.Quiet id := by
    cases header with
    | some text =>
      refine (makes_text h.tree f.palette "header" text).bind fun id t' ⟨hg, hq⟩ => .pure ⟨hg, ?_⟩
      rintro _ ⟨⟩
      exact hq
    | none => exact ⟨.refl h.tree, fun id hid => hstill id (.inl hid)⟩
  refine hheader.bind fun id? t' ⟨hg, hq⟩ => ?_
  cases id? with
  | none => exact ⟨hg, by rintro id ⟨⟩⟩
  | some id =>
    refine (makes_spacer hg.attentive).bind fun space t'' ⟨hg', hq'⟩ => ⟨hg.trans hg', ?_⟩
    intro i hi
    rcases List.mem_pair.1 hi with rfl | rfl
    · exact hg'.quiet hg.attentive (hq _ rfl)
    · exact hq'

theorem makes_below (ht : t.Attentive) (hfooter : ∀ id, f.footer = some id → t.Quiet id) :
    Makes t (below f) fun ids t' => Grown t t' ∧ ∀ id ∈ ids, t'.Quiet id := by
  unfold below
  cases hf : f.footer with
  | none => exact ⟨.refl ht, by rintro id ⟨⟩⟩
  | some id =>
    refine (makes_spacer ht).bind fun space t' ⟨hg, hq⟩ => ⟨hg, ?_⟩
    intro i hi
    rcases List.mem_pair.1 hi with rfl | rfl
    · exact hq
    · exact hg.quiet ht (hfooter _ hf)

theorem makes_content (h : f.Attentive) (hstill : f.Still) (header : Option String) :
    Makes f.tree (content f header) fun id t' => Grown f.tree t' ∧ id < t'.size := by
  refine (makes_above h hstill header).bind fun above t ⟨hg, ha⟩ => ?_
  refine (makes_below hg.attentive fun id hid => hg.quiet h.tree (hstill id (.inr hid))).bind fun below t' ⟨hg', hb⟩ => ?_
  have hroot := (hg.trans hg').lt (h.dressed.lt h.body_lt)
  have hquiet : ∀ id ∈ above ++ f.root :: below, id = f.root ∨ t'.Quiet id := by
    intro id hid
    rcases List.mem_append.1 hid with hid | hid
    · exact .inr (hg'.quiet hg.attentive (ha id hid))
    · exact (List.mem_cons.1 hid).imp_right (hb id)
  split
  · exact ⟨hg.trans hg', hroot⟩
  · refine (makes_add hg'.attentive (fun id hid => ?_) ?_).imp fun id t'' ⟨hg'', hid⟩ => ⟨(hg.trans hg').trans hg'', hid⟩
    · rcases hquiet id hid with rfl | hq
      · exact hroot
      · exact hq.lt
    · -- Only the form in the middle can take the focus, and it has it.
      rintro ⟨id, hid, hs⟩
      rcases hquiet id hid with rfl | hq
      · exact ⟨f.root, by simp [Widget.children, Widget.focusIndex], hs⟩
      · simp [hq.isSelectable] at hs

theorem makes_withShadow (ht : t.Attentive) (palette : Palette) {framed : Nat} (hlt : framed < t.size) :
    Makes t (withShadow palette framed) fun id t' => Grown t t' ∧ id < t'.size := by
  refine (makes_text ht palette "shadow" "").bind fun side t₁ ⟨hg₁, hside⟩ => ?_
  refine (makes_text hg₁.attentive palette "shadow.border" "").bind fun corner t₂ ⟨hg₂, hcorner⟩ => ?_
  refine (makes_text hg₂.attentive palette "shadow" "").bind fun bottom t₃ ⟨hg₃, hbottom⟩ => ?_
  have hside := hg₃.quiet hg₂.attentive (hg₂.quiet hg₁.attentive hside)
  have hcorner := hg₃.quiet hg₂.attentive hcorner
  have hg := hg₁.trans (hg₂.trans hg₃)
  refine (makes_add hg.attentive (w := .container _ [framed, side] 0) ?_ ?_).bind fun upper t₄ ⟨hg₄, hupper⟩ => ?_
  · simpa [Widget.children] using ⟨hg.lt hlt, hside.lt⟩
  · rintro ⟨id, hid, hs⟩
    rcases List.mem_pair.1 hid with rfl | rfl
    · exact ⟨_, rfl, hs⟩
    · simp [hside.isSelectable] at hs
  refine (makes_quiet hg₄.attentive (w := .container _ [corner, bottom] 0) rfl ?_).bind fun lower t₅ ⟨hg₅, hlower⟩ => ?_
  · simpa [Widget.children] using ⟨hg₄.quiet hg.attentive hcorner, hg₄.quiet hg.attentive hbottom⟩
  refine (makes_add hg₅.attentive (w := .container _ [upper, lower] 0) ?_ ?_).imp fun id t₆ ⟨hg₆, hid⟩ =>
    ⟨hg.trans (hg₄.trans (hg₅.trans hg₆)), hid⟩
  · simpa [Widget.children] using ⟨hg₅.lt hupper, hlower.lt⟩
  · rintro ⟨id, hid, hs⟩
    rcases List.mem_pair.1 hid with rfl | rfl
    · exact ⟨_, rfl, hs⟩
    · simp [hlower.isSelectable] at hs

theorem makes_dress (h : f.Attentive) (hstill : f.Still) (header : Option String) :
    Makes f.tree (dress f header) fun id t' => Grown f.tree t' ∧ id < t'.size := by
  refine (makes_content h hstill header).bind fun inner t₁ ⟨hg₁, hinner⟩ => ?_
  refine (makes_add hg₁.attentive (w := .wrapper (.padding 1 1) inner) ?_ ?_).bind fun padded t₂ ⟨hg₂, hpadded⟩ => ?_
  · simpa [Widget.children] using hinner
  · simp [Widget.children, Widget.focusIndex]
  refine (makes_wrap hg₂.attentive f.palette "dialog" hpadded).bind fun framed t₃ ⟨hg₃, hframed⟩ => ?_
  have hg := hg₁.trans (hg₂.trans hg₃)
  split
  · exact (makes_withShadow hg₃.attentive f.palette hframed).imp fun id t₄ ⟨hg₄, hid⟩ => ⟨hg.trans hg₄, hid⟩
  · exact ⟨hg, hframed⟩

theorem attentive_ofForm (h : f.Attentive) (hstill : f.Still) (header : Option String) (width : Nat)
    (height : Option Nat) : (ofForm f header width height).form.Attentive := by
  obtain ⟨hg, -⟩ := makes_dress h hstill header
  exact ⟨hg.attentive, hg.lt h.body_lt, h.dressed.mono hg.grows⟩

end Panel

/-- The form of a dialog has its focus on a widget, if it has one for it. -/
theorem DialogPlan.build_attentive {H E : Type} {plan : DialogPlan H E} {base : Palette} {d : Dialog H E}
    (h : plan.build base = .ok d) : d.form.Attentive := by
  obtain ⟨palette, -, h⟩ := Except.bind_eq_ok.1 h
  obtain ⟨form, hform, h⟩ := Except.bind_eq_ok.1 h
  cases h
  obtain ⟨_, -, -, hstill⟩ := Form.parse_poised hform
  exact Panel.attentive_ofForm (Form.parse_attentive hform) hstill ..

/-! ## Forms in use -/

/-- A form that is made of a description, or that a dialog has dressed up, after any use of it. -/
inductive Form.InUse : Form → Prop
  | parsed {description : String} {palette : Palette} {strings : StringTable} {f : Form}
      (parsed : Form.parse description palette strings = .ok f) : InUse f
  | built {H E : Type} {plan : DialogPlan H E} {base : Palette} {d : Dialog H E} (built : plan.build base = .ok d) :
      InUse d.form
  | used {f : Form} (inUse : InUse f) (u : FormUse) : InUse (f.use u)

theorem Form.InUse.attentive {f : Form} (h : f.InUse) : f.Attentive := by
  induction h with
  | parsed h => exact Form.parse_attentive h
  | built h => exact DialogPlan.build_attentive h
  | used _ u ih => exact ih.careful (ih.use u)

end ScreenForm
