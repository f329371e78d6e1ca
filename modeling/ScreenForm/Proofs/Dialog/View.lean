import ScreenForm.Proofs.Form.Step
import ScreenForm.Proofs.Layout.Focus
/-!
# The view of a dialog

A dialog is painted from its view down, and its keys go to the form inside. The focus of the view leads to the form,
and no use of the form changes this (`Form.InUse.onPath_uses`), so the keys come to what is painted as focused. The
view holds the form, its footer and one header, each in one place (`Panel.Dressing`).
-/

namespace ScreenForm

namespace Tree

variable {t t' t'' : Tree} {tops : List Nat} {id n r : Nat}

/-! ## Widgets after others -/

/-- The tree is the same up to the size of `t`. -/
structure Keeps (t t' : Tree) : Prop where
  size_le : t.size ≤ t'.size
  node : ∀ i < t.size, t'.node i = t.node i

theorem Keeps.refl (t : Tree) : t.Keeps t := ⟨Nat.le_refl _, fun _ _ => rfl⟩

theorem Keeps.trans (h : t.Keeps t') (h' : t'.Keeps t'') : t.Keeps t'' :=
  ⟨Nat.le_trans h.size_le h'.size_le, fun i hi => (h'.node i (Nat.lt_of_lt_of_le hi h.size_le)).trans (h.node i hi)⟩

theorem keeps_add (t : Tree) (w : Widget) (m : Meta) : t.Keeps (t.add w m) :=
  ⟨by simp, fun _ hi => node_add_of_ne (Nat.ne_of_lt hi)⟩

theorem Keeps.extends (h : t.Keeps t') : t.Extends t' :=
  ⟨h.size_le, fun i hi => congrArg Node.fixed (h.node i hi)⟩

theorem Keeps.widget (h : t.Keeps t') (hn : n < t.size) : t'.widget n = t.widget n :=
  congrArg Node.widget (h.node n hn)

theorem focusedChild?_congr (hw : t'.widget n = t.widget n) : t'.focusedChild? n = t.focusedChild? n := by
  rw [focusedChild?, focusedChild?, children, children, hw]

theorem focusedChild?_container {a : Arrangement} {children : List Nat} {focus : Nat}
    (hw : t.widget id = .container a children focus) : t.focusedChild? id = children[focus]? := by
  rw [focusedChild?, Tree.children, hw]
  rfl

theorem Keeps.onPath (h : t.Keeps t') (hpath : t.OnPath id n) : t'.OnPath id n := by
  induction hpath with
  | refl => exact .refl t' id
  | tail _ hc ih =>
    have hn := lt_size_of_mem_children (mem_of_focusedChild? hc)
    exact ih.tail ((focusedChild?_congr (h.widget hn)).trans hc)

/-! ## Tops -/

theorem Forest.not_reaches_top (h : t.Forest tops) (hn : n ∈ tops) (hne : r ≠ n) : ¬ t.Reaches r n := by
  rintro ⟨p, hp⟩
  cases hp with
  | here => exact hne rfl
  | down _ hc => exact h.not_mem_tops hc hn

/-- What is below none of the other tops is below the first one, in one place. -/
theorem Forest.existsUnique_way_first (h : t.Forest (r :: tops)) (hn : n < t.size)
    (hother : ∀ r' ∈ tops, ¬ t.Reaches r' n) : ∃! p, t.Way r p n := by
  obtain ⟨r', hr', p, hp⟩ := h.exists_way hn
  rcases List.mem_cons.1 hr' with rfl | hr'
  · exact ⟨p, hp, fun p' hp' => (h.way_unique List.mem_cons_self List.mem_cons_self hp' hp).2⟩
  · exact absurd ⟨p, hp⟩ (hother r' hr')

end Tree

namespace Panel

variable {f : Form} {header : Option String} {t t' : Tree} {tops tops' : List Nat} {id : Nat}

/-! ## Steps of the making -/

/-- With more widgets after those of `t`, the tree has these tops. -/
structure Lays (t t' : Tree) (tops : List Nat) : Prop where
  keeps : t.Keeps t'
  forest : t'.Forest tops

theorem Lays.trans {t'' : Tree} (h : Lays t t' tops) (h' : Lays t' t'' tops') : Lays t t'' tops' :=
  ⟨h.keeps.trans h'.keeps, h'.forest⟩

theorem lays_add {w : Widget} (h : t.Forest (w.children ++ tops)) :
    Makes t (add w) fun id t' => Lays t t' (id :: tops) ∧ id = t.size ∧ t'.widget id = w :=
  ⟨⟨Tree.keeps_add t w {}, h.add {}⟩, rfl, Tree.widget_add_self t w {}⟩

theorem lays_wrap (h : t.Forest (id :: tops)) (palette : Palette) (name : String) :
    Makes t (wrap palette name id) fun outer t' => Lays t t' (outer :: tops) ∧ t'.OnPath outer id := by
  show (fun outer t' => Lays t t' (outer :: tops) ∧ t'.OnPath outer id) (t.wrapStyle id palette [name]).2
    (t.wrapStyle id palette [name]).1
  unfold Tree.wrapStyle
  split
  · exact ⟨⟨.refl t, h⟩, .refl t id⟩
  · next resolved _ =>
    obtain ⟨hl, -, hw⟩ := lays_add (w := .wrapper (.styled (palette.style resolved.normal)
      (palette.style resolved.focus) resolved) id) h
    exact ⟨hl, .head (Tree.focusedChild?_wrapper hw) (.refl _ id)⟩

theorem lays_text (h : t.Forest tops) (palette : Palette) (name text : String) :
    Makes t (do wrap palette name (← add (.text text .left))) fun id t' =>
      Lays t t' (id :: tops) ∧ t.size < t'.size ∧ t'.widget t.size = .text text .left := by
  refine (lays_add (w := .text text .left) h).bind fun id t₁ ⟨hl, hid, hw⟩ => ?_
  subst hid
  have hlt : t.size < t₁.size := hl.forest.mem_iff.1 (.inr List.mem_cons_self)
  refine (lays_wrap hl.forest palette name).imp fun outer t₂ ⟨hl', _⟩ => ⟨hl.trans hl', ?_, ?_⟩
  · exact Nat.lt_of_lt_of_le hlt hl'.keeps.size_le
  · rw [hl'.keeps.widget hlt, hw]

theorem lays_spacer (h : t.Forest tops) : Makes t spacer fun id t' => Lays t t' (id :: tops) :=
  (lays_add (w := .divider ' ' "" 0 0) h).imp fun _ _ ⟨hl, _⟩ => hl

/-! ## The form in its panel -/

/-- The header of the form, if another one is shown in its place. -/
def replaced (f : Form) : Option String → List Nat
  | some _ => f.header.toList
  | none => []

/-- What becomes of the tree of a form when it is dressed up: its widgets stay, new ones take them in from the tops
on, and a given header is a new one. -/
structure Dressing (f : Form) (header : Option String) (t : Tree) (tops : List Nat) : Prop where
  keeps : f.tree.Keeps t
  forest : t.Forest (tops ++ replaced f header)
  given : ∀ text, header = some text → ∃ n, f.tree.size ≤ n ∧ n < t.size ∧ t.widget n = .text text .left

theorem Dressing.lays {tops'' : List Nat} (h : Dressing f header t tops) (hl : Lays t t' tops'')
    (hp : tops''.Perm (tops' ++ replaced f header)) : Dressing f header t' tops' where
  keeps := h.keeps.trans hl.keeps
  forest := hl.forest.congr hp
  given text htext := by
    obtain ⟨n, hn, hlt, hw⟩ := h.given text htext
    exact ⟨n, hn, Nat.lt_of_lt_of_le hlt hl.keeps.size_le, by rw [hl.keeps.widget hlt, hw]⟩

theorem dressing_headerOf (hf : f.tree.Forest f.tops) (header : Option String) :
    Makes f.tree (headerOf f header) fun id? t => Dressing f header t (id?.toList ++ f.root :: f.footer.toList) := by
  cases header with
  | some text =>
    refine (lays_text hf f.palette "header" text).bind fun id t ⟨hl, hlt, hw⟩ => .pure ⟨hl.keeps, ?_, ?_⟩
    · exact hl.forest.congr ((List.perm_append_comm.cons _).cons _)
    · rintro _ ⟨⟩
      exact ⟨_, Nat.le_refl _, hlt, hw⟩
  | none =>
    refine .pure ⟨.refl f.tree, hf.congr ?_, by rintro _ ⟨⟩⟩
    simpa [replaced, Form.tops] using List.perm_middle.symm

theorem dressing_above (hf : f.tree.Forest f.tops) (header : Option String) :
    Makes f.tree (above f header) fun ids t => Dressing f header t (ids ++ f.root :: f.footer.toList) := by
  refine (dressing_headerOf hf header).bind fun id? t hd => ?_
  cases id? with
  | none => exact hd
  | some id =>
    exact (lays_spacer hd.forest).bind fun space t' hl => .pure (hd.lays hl (List.Perm.swap ..))

theorem dressing_below {ids : List Nat} (hd : Dressing f header t (ids ++ f.root :: f.footer.toList)) :
    Makes t (below f) fun ids' t' => Dressing f header t' (ids ++ f.root :: ids') := by
  unfold below
  cases hfooter : f.footer with
  | none =>
    rw [hfooter] at hd
    exact hd
  | some footer =>
    refine (lays_spacer hd.forest).bind fun space t' hl => .pure (hd.lays hl ?_)
    rw [hfooter]
    simpa using (@List.perm_middle _ _ (ids ++ [f.root]) _).symm

theorem dressing_content (hf : f.tree.Forest f.tops) (header : Option String) :
    Makes f.tree (content f header) fun id t => Dressing f header t [id] ∧ t.OnPath id f.root := by
  refine (dressing_above hf header).bind fun above t₁ hd₁ => ?_
  refine (dressing_below hd₁).bind fun below t₂ hd₂ => ?_
  split
  · next hempty =>
    simp only [Bool.and_eq_true, List.isEmpty_iff] at hempty
    obtain ⟨rfl, rfl⟩ := hempty
    exact ⟨hd₂, .refl t₂ f.root⟩
  · refine (lays_add (w := .container .pile (above ++ f.root :: below) above.length) hd₂.forest).imp
      fun id t₃ ⟨hl, _, hw⟩ => ⟨hd₂.lays hl (.refl _), .head ?_ (.refl t₃ f.root)⟩
    rw [Tree.focusedChild?_container hw, List.getElem?_append_right (Nat.le_refl _), Nat.sub_self, List.getElem?_cons_zero]

theorem lays_withShadow {framed : Nat} (h : t.Forest (framed :: tops)) (palette : Palette) :
    Makes t (withShadow palette framed) fun id t' => Lays t t' (id :: tops) ∧ t'.OnPath id framed := by
  refine (lays_text h palette "shadow" "").bind fun side t₁ ⟨hl₁, _⟩ => ?_
  refine (lays_text hl₁.forest palette "shadow.border" "").bind fun corner t₂ ⟨hl₂, _⟩ => ?_
  refine (lays_text hl₂.forest palette "shadow" "").bind fun bottom t₃ ⟨hl₃, _⟩ => ?_
  have hupper : t₃.Forest ([framed, side] ++ corner :: bottom :: tops) := hl₃.forest.congr
    ((List.reverse_perm [framed, side, corner, bottom]).append_right tops)
  refine (lays_add (w := .container _ [framed, side] 0) hupper).bind fun upper t₄ ⟨hl₄, _, hw₄⟩ => ?_
  have hlower : t₄.Forest ([corner, bottom] ++ upper :: tops) := hl₄.forest.congr
    (@List.perm_middle _ upper [corner, bottom] tops).symm
  refine (lays_add (w := .container _ [corner, bottom] 0) hlower).bind fun lower t₅ ⟨hl₅, _⟩ => ?_
  have hboth : t₅.Forest ([upper, lower] ++ tops) := hl₅.forest.congr (.swap ..)
  refine (lays_add (w := .container .pile [upper, lower] 0) hboth).imp fun id t₆ ⟨hl₆, _, hw₆⟩ => ?_
  refine ⟨hl₁.trans (hl₂.trans (hl₃.trans (hl₄.trans (hl₅.trans hl₆)))), ?_⟩
  have hpath : t₄.OnPath upper framed := .head (Tree.focusedChild?_container hw₄) (.refl t₄ framed)
  exact .head (Tree.focusedChild?_container hw₆) (hl₆.keeps.onPath (hl₅.keeps.onPath hpath))

theorem dressing_dress (hf : f.tree.Forest f.tops) (header : Option String) :
    Makes f.tree (dress f header) fun id t => Dressing f header t [id] ∧ t.OnPath id f.root := by
  refine (dressing_content hf header).bind fun inner t₁ ⟨hd₁, hpath₁⟩ => ?_
  refine (lays_add (w := .wrapper (.padding 1 1) inner) hd₁.forest).bind fun padded t₂ ⟨hl₂, _, hw₂⟩ => ?_
  have hpath₂ : t₂.OnPath padded f.root := .head (Tree.focusedChild?_wrapper hw₂) (hl₂.keeps.onPath hpath₁)
  refine (lays_wrap hl₂.forest f.palette "dialog").bind fun framed t₃ ⟨hl₃, hpath₃⟩ => ?_
  have hd₃ : Dressing f header t₃ [framed] := hd₁.lays (hl₂.trans hl₃) (.refl _)
  have hpath : t₃.OnPath framed f.root := hpath₃.trans (hl₃.keeps.onPath hpath₂)
  split
  · exact (lays_withShadow hd₃.forest f.palette).imp fun id t₄ ⟨hl₄, hpath₄⟩ =>
      ⟨hd₃.lays hl₄ (.refl _), hpath₄.trans (hl₄.keeps.onPath hpath)⟩
  · exact ⟨hd₃, hpath⟩

/-! ## What a view holds -/

theorem mem_tops_of_mem_replaced {r : Nat} (hr : r ∈ replaced f header) : r ∈ f.tops := by
  cases header with
  | some => exact List.mem_cons_of_mem _ (List.mem_append_left _ hr)
  | none => exact (List.not_mem_nil hr).elim

/-- A header that is replaced is another widget than the root and the footer of the form. -/
theorem not_mem_replaced (hforest : f.tree.Forest f.tops) (header : Option String) :
    f.root ∉ replaced f header ∧ ∀ n, f.footer = some n → n ∉ replaced f header := by
  cases header with
  | none => exact ⟨List.not_mem_nil, fun _ _ => List.not_mem_nil⟩
  | some text =>
    obtain ⟨hroot, hrest⟩ := List.nodup_cons.1 (List.nodup_append'.1 hforest.nodup).2.1
    refine ⟨fun hr => hroot (List.mem_append_left _ hr), fun n hn hr => ?_⟩
    exact (List.nodup_append'.1 hrest).2.2 hr (Option.mem_toList.2 hn)

section

variable {view n top : Nat} (hview : t.Forest (view :: replaced f header))
include hview

theorem not_reaches_replaced (hn : n ∈ replaced f header) : ¬ t.Reaches view n := by
  refine hview.not_reaches_top (List.mem_cons_of_mem _ hn) ?_
  rintro rfl
  exact (List.nodup_cons.1 (List.nodup_append'.1 hview.nodup).2.1).1 hn

variable (hforest : f.tree.Forest f.tops)
include hforest

/-- The tops of the form hang from the view, but for a header that is replaced. -/
theorem existsUnique_way_top (hgrows : f.tree.Extends t) (htop : n ∈ f.tops) (hn : n ∉ replaced f header) :
    ∃! p, t.Way view p n := by
  have hlt {m : Nat} (hm : m ∈ f.tops) : m < f.tree.size := hforest.mem_iff.1 (.inr hm)
  refine hview.existsUnique_way_first (Nat.lt_of_lt_of_le (hlt htop) hgrows.1) fun r hr hreaches => ?_
  rw [hgrows.reaches_iff hforest.ordered (hlt (mem_tops_of_mem_replaced hr))] at hreaches
  refine hforest.not_reaches_top htop ?_ hreaches
  rintro rfl
  exact hn hr

theorem not_reaches_added (htop : top ∈ f.tops) (hn : f.tree.size ≤ n) : ¬ t.Reaches top n := fun hreaches =>
  Nat.not_lt.2 (hreaches.le hview.ordered) (Nat.lt_of_lt_of_le (hforest.mem_iff.1 (.inr htop)) hn)

/-- What was added to the form is below none of its tops, so it hangs from the view. -/
theorem existsUnique_way_added (hn : f.tree.size ≤ n) (hlt : n < t.size) : ∃! p, t.Way view p n :=
  hview.existsUnique_way_first hlt fun _ hr => not_reaches_added hview hforest (mem_tops_of_mem_replaced hr) hn

end

end Panel

/-- A dialog is a form that is dressed up. -/
theorem DialogPlan.build_dressing {H E : Type} {plan : DialogPlan H E} {base : Palette} {d : Dialog H E}
    (h : plan.build base = .ok d) : ∃ f : Form, f.tree.Forest f.tops ∧ d.form = { f with tree := d.form.tree } ∧
      Panel.Dressing f plan.header d.form.tree [d.view] ∧ d.form.tree.OnPath d.view d.form.root := by
  obtain ⟨palette, -, h⟩ := Except.bind_eq_ok.1 h
  obtain ⟨form, hform, h⟩ := Except.bind_eq_ok.1 h
  cases h
  obtain ⟨_, hb, -, -⟩ := Form.parse_poised hform
  obtain ⟨hd, hpath⟩ := Panel.dressing_dress hb.forest plan.header
  exact ⟨form, hb.forest, rfl, hd, hpath⟩

namespace Form

variable {f : Form} {id m : Nat}

theorem InUse.forest (h : f.InUse) : ∃ tops, f.tree.Forest tops := by
  induction h with
  | @parsed _ _ _ f h =>
    obtain ⟨_, hb, -, -⟩ := parse_poised h
    exact ⟨f.tops, hb.forest⟩
  | built h =>
    obtain ⟨f, -, -, hd, -⟩ := DialogPlan.build_dressing h
    exact ⟨_, hd.forest⟩
  | @used f _ u ih =>
    obtain ⟨tops, hforest⟩ := ih
    exact ⟨tops, hforest.of_fixed (f.fixed_use u)⟩

/-! ## The focus around a form in use -/

/-- A use of a form moves the focus of one of its containers, or none. -/
theorem InUse.use_cases (h : f.InUse) (u : FormUse) : f.tree.Agrees (f.use u).tree ∨
    ∃ n j, f.tree.Reaches f.root n ∧ (f.use u).tree = f.tree.setFocus n j := by
  cases u with
  | key key =>
    have hanswer := h.answer_root key
    show f.tree.Agrees (f.tree.keypress f.root key).1 ∨
      ∃ n j, f.tree.Reaches f.root n ∧ (f.tree.keypress f.root key).1 = f.tree.setFocus n j
    generalize f.tree.keypress f.root key = below at hanswer ⊢
    obtain ⟨t, outcome⟩ := below
    cases hanswer with
    | @typed e e' leaf press =>
      have hfixed := Tree.Edit.fixed_press? press
      exact .inl (Tree.agrees_modify (f := fun _ => .edit e') (by rw [leaf, hfixed]) (by rw [leaf]; rfl))
    | pressed activate => exact .inl (Tree.agrees_activate? activate)
    | moved _ path => exact .inr ⟨_, _, path.reaches, rfl⟩
    | unused => exact .inl (.refl f.tree)
  | step d =>
    rw [use, h.stepFocus?_eq]
    cases hmove : f.tree.moveFocus? f.body d with
    | none => exact .inl (.refl f.tree)
    | some t =>
      obtain ⟨j, -, rfl⟩ := Tree.moveFocus?_eq_some.1 hmove
      exact .inr ⟨_, j, h.attentive.dressed.reaches, rfl⟩
  | activate w =>
    rw [use]
    cases hact : f.tree.activate? w with
    | none => exact .inl (.refl f.tree)
    | some t => exact .inl (Tree.agrees_activate? hact)
  | setText name text => exact .inl (agrees_change fun _ _ => Widget.fixed_of_setText?)
  | setEditText name text => exact .inl (agrees_change fun _ _ => Widget.fixed_of_setEditText?)

/-- No use of a form moves the focus of a container around it. -/
theorem InUse.focusedChild?_use (h : f.InUse) (u : FormUse) (hm : f.root < m) :
    (f.use u).tree.focusedChild? m = f.tree.focusedChild? m := by
  obtain hagrees | ⟨n, j, hn, heq⟩ := h.use_cases u
  · exact Tree.focusedChild?_of_agrees hagrees m
  · have hne : m ≠ n := Nat.ne_of_gt (Nat.lt_of_le_of_lt (hn.le h.attentive.tree.ordered) hm)
    rw [heq]
    exact Tree.focusedChild?_congr (Tree.widget_modify_of_ne hne _)

theorem InUse.onPath_use (h : f.InUse) (u : FormUse) (hpath : f.tree.OnPath id f.root) :
    (f.use u).tree.OnPath id f.root := by
  have hlt := h.attentive.tree.ordered
  induction hpath using Relation.ReflTransGen.head_induction_on with
  | refl => exact .refl ..
  | @head m c hc hpath ih =>
    have hroot : f.root ≤ c := (Tree.OnPath.reaches hpath).le hlt
    have hm : f.root < m := Nat.lt_of_le_of_lt hroot (hlt m c (Tree.mem_of_focusedChild? hc))
    exact .head ((h.focusedChild?_use u hm).trans hc) ih

theorem fixed_foldl_use (f : Form) (uses : List FormUse) : (uses.foldl use f).tree.fixed = f.tree.fixed := by
  induction uses generalizing f with
  | nil => rfl
  | cons u uses ih => exact (ih (f.use u)).trans (f.fixed_use u)

theorem InUse.onPath_uses (h : f.InUse) (uses : List FormUse) (hpath : f.tree.OnPath id f.root) :
    (uses.foldl use f).tree.OnPath id f.root := by
  induction uses generalizing f with
  | nil => exact hpath
  | cons u uses ih =>
    have hroot : (f.use u).root = f.root := (h.attentive.use u).root
    have hnext := ih (.used h u) (by rw [hroot]; exact h.onPath_use u hpath)
    rwa [hroot] at hnext

end Form

/-! ## Dialogs in use -/

namespace Dialog

variable {H E : Type}

/-- How a dialog that was given this header, or none, shows its form while the tree is `t`. -/
structure Shows (d : Dialog H E) (header : Option String) (t : Tree) : Prop where
  focusedLeaf : t.focusedLeaf d.view = t.focusedLeaf d.form.root
  body : ∃! p, t.Way d.view p d.form.root
  footer : ∀ n, d.form.footer = some n → ∃! p, t.Way d.view p n
  described : header = none → ∀ n, d.form.header = some n → ∃! p, t.Way d.view p n
  /-- A given header is a text that is nothing of the form. -/
  given : ∀ text, header = some text → ∃ n, d.form.tree.widget n = .text text .left ∧
    (∀ top ∈ d.form.tops, ¬ t.Reaches top n) ∧ ∃! p, t.Way d.view p n
  replaced : header.isSome → ∀ n, d.form.header = some n → ¬ t.Reaches d.view n

theorem shows_of_dressing {d : Dialog H E} {f : Form} {header : Option String} {t : Tree}
    (hforest : f.tree.Forest f.tops) (hd : d.form = { f with tree := d.form.tree })
    (hdressing : Panel.Dressing f header d.form.tree [d.view]) (hfixed : t.fixed = d.form.tree.fixed)
    (hpath : t.OnPath d.view d.form.root) : d.Shows header t := by
  have hview : t.Forest (d.view :: Panel.replaced f header) := hdressing.forest.of_fixed hfixed
  have hgrows : f.tree.Extends t := hdressing.keeps.extends.trans (Tree.extends_of_fixed hfixed)
  have hroot : d.form.root = f.root := by rw [hd]
  have hheader : d.form.header = f.header := by rw [hd]
  have hfooter : d.form.footer = f.footer := by rw [hd]
  have htops : d.form.tops = f.tops := by rw [Form.tops, hroot, hheader, hfooter, Form.tops]
  obtain ⟨hnotRoot, hnotFooter⟩ := Panel.not_mem_replaced hforest header
  refine ⟨hpath.focusedLeaf_eq hview.ordered, ?_, fun n hn => ?_, fun hnone n hn => ?_, fun text htext => ?_,
    fun hsome n hn => ?_⟩
  · rw [hroot]
    exact Panel.existsUnique_way_top hview hforest hgrows List.mem_cons_self hnotRoot
  · rw [hfooter] at hn
    refine Panel.existsUnique_way_top hview hforest hgrows ?_ (hnotFooter n hn)
    exact List.mem_cons_of_mem _ (List.mem_append_right _ (Option.mem_toList.2 hn))
  · rw [hheader] at hn
    subst hnone
    refine Panel.existsUnique_way_top hview hforest hgrows ?_ List.not_mem_nil
    exact List.mem_cons_of_mem _ (List.mem_append_left _ (Option.mem_toList.2 hn))
  · obtain ⟨n, hge, hn, hw⟩ := hdressing.given text htext
    rw [← Tree.size_eq_of_fixed hfixed] at hn
    refine ⟨n, hw, fun top htop => ?_, Panel.existsUnique_way_added hview hforest hge hn⟩
    exact Panel.not_reaches_added hview hforest (htops ▸ htop) hge
  · obtain ⟨text, rfl⟩ := Option.isSome_iff_exists.1 hsome
    rw [hheader] at hn
    exact Panel.not_reaches_replaced hview (Option.mem_toList.2 hn)

end Dialog

/-- What is painted as focused is what the keys come to. In every form in use, the focus is painted along its way.
And whatever is done with the form of a dialog, the focus of the view that is painted leads to the same widget as the
one of the form, and the view holds the form, its footer and one header, each in one place. -/
theorem painted_focus_takes_keys {H E : Type} :
    (∀ f : Form, f.InUse → ∀ id area, f.tree.DrawsFocus id area) ∧
    ∀ (plan : DialogPlan H E) (base : Palette) (d : Dialog H E), plan.build base = .ok d →
      ∀ uses : List FormUse, d.Shows plan.header (uses.foldl Form.use d.form).tree := by
  refine ⟨fun f h id area => ?_, fun plan base d h uses => ?_⟩
  · obtain ⟨tops, hforest⟩ := h.forest
    exact hforest.drawsFocus h.sized.narrow id area
  · obtain ⟨f, hforest, hd, hdressing, hpath⟩ := DialogPlan.build_dressing h
    exact Dialog.shows_of_dressing hforest hd hdressing (Form.fixed_foldl_use d.form uses)
      ((Form.InUse.built h).onPath_uses uses hpath)

theorem painted_focus_takes_keys_shadowed : ∃ (d : Dialog Unit Unit) (t : Tree),
    d.form.header = some 0 ∧ d.form.footer = some 3 ∧ d.form.root = 4 ∧ d.view = 17 ∧
    t = (d.form.use (.key { code := .down })).tree ∧ t.focusedLeaf 17 = 2 ∧ t.focusedLeaf 4 = 2 ∧
    t.DrawsFocus 17 ⟨0, 0, 40, 9⟩ ∧ (∃! p, t.Way 17 p 4) ∧ (∃! p, t.Way 17 p 3) ∧ ¬ t.Reaches 17 0 ∧
    ∃ n, d.form.tree.widget n = .text "New" .left ∧ ∃! p, t.Way 17 p n := by
  -- A dialog with a shadow, where a header is given in place of the one described, and the arrow goes to the button.
  let plan : DialogPlan Unit Unit :=
    { description := "Hdr Old\nEdt Name [xy]\nBtn [OK]\nFtr Press", header := some "New"
      palette := some "shadow : _, _, _" }
  have hfacts : (plan.build {}).toOption.map (fun d => (d.form.header, d.form.footer, d.form.root, d.view,
      (d.form.use (.key { code := .down })).tree.focusedLeaf d.form.root)) = some (some 0, some 3, 4, 17, 2) := by
    decide +kernel
  obtain ⟨d, hd, hfacts⟩ := Option.map_eq_some_iff.1 hfacts
  have hbuild : plan.build {} = .ok d := by
    cases h : plan.build {} with
    | error e =>
      rw [h] at hd
      cases hd
    | ok d' =>
      rw [h] at hd
      cases hd
      rfl
  simp only [Prod.mk.injEq] at hfacts
  obtain ⟨hheader, hfooter, hroot, hview, hleaf⟩ := hfacts
  have hshows := (painted_focus_takes_keys (H := Unit) (E := Unit)).2 plan {} d hbuild [.key { code := .down }]
  have hdraws := (painted_focus_takes_keys (H := Unit) (E := Unit)).1 _ (.used (.built hbuild) (.key { code := .down }))
    d.view ⟨0, 0, 40, 9⟩
  have hfocus := hshows.focusedLeaf
  have hbody := hshows.body
  have hfoot := hshows.footer 3 hfooter
  have hold := hshows.replaced rfl 0 hheader
  obtain ⟨n, hn, -, hway⟩ := hshows.given "New" rfl
  rw [hview] at hfocus hbody hfoot hold hway hdraws
  rw [hroot] at hfocus hbody hleaf
  exact ⟨d, _, hheader, hfooter, hroot, hview, rfl, hfocus.trans hleaf, hleaf, hdraws, hbody, hfoot, hold, n, hn, hway⟩

end ScreenForm
