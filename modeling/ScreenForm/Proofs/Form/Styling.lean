import ScreenForm.Proofs.Form.Unstyled
/-!
# Styles change no behaviour

Two palettes make two forms of a description that are the same apart from wrappers.
Their other widgets correspond, one to one and in order (`Form.Matches`), and
keep corresponding whatever is done to both (`Form.parse_styling`): each use of a form
is a use of the form without styles.
-/

namespace ScreenForm

/-! ## What comes of a use -/

/-- What is told of a use: what came of a key, whether there was something to do, or what went wrong. -/
inductive UseOutcome where
  | key (outcome : KeyOutcome)
  | done (changed : Bool)
  | wrote (error : Option RuntimeError)

namespace UseOutcome

def renumber (number : Nat → Nat) : UseOutcome → UseOutcome
  | key outcome => key (outcome.renumber number)
  | outcome => outcome

/-- What is told of writing to a form. -/
def ofWriting {α : Type} : Except RuntimeError α → UseOutcome
  | .ok _ => wrote none
  | .error e => wrote (some e)

@[simp] theorem renumber_ofWriting {α : Type} (number : Nat → Nat) (x : Except RuntimeError α) :
    (ofWriting x).renumber number = ofWriting x := by
  cases x <;> rfl

end UseOutcome

def FormUse.renumber (number : Nat → Nat) : FormUse → FormUse
  | activate widget => activate (number widget)
  | u => u

namespace Form

variable {f g : Form}

def outcome (f : Form) : FormUse → UseOutcome
  | .key key => .key (f.tree.keypress f.root key).2
  | .step d => .done (f.tree.stepFocus? f.root d).isSome
  | .activate widget => .done (f.tree.activate? widget).isSome
  | .setText name text => .ofWriting (f.setText name text)
  | .setEditText name text => .ofWriting (f.setEditText name text)

/-! ## Uses without styles -/

theorem unstyled_of_fixed {t : Tree} (h : t.fixed = f.tree.fixed) :
    unstyled { f with tree := t } = { f.unstyled with tree := t.unstyled } := by
  simp only [unstyled, Tree.core_of_fixed h]

theorem Neat.use (h : f.Neat) (u : FormUse) : (f.use u).Neat := by
  have hfixed := f.fixed_use u
  have hsize := Tree.size_eq_of_fixed hfixed
  rw [use_eq]
  exact ⟨h.ordered.of_fixed hfixed, h.styled.of_fixed hfixed,
    fun e he => ⟨hsize ▸ (h.names e he).1, (Tree.plain_iff_of_fixed hfixed _).2 (h.names e he).2⟩,
    fun id hid => hsize ▸ h.header id hid, fun id hid => hsize ▸ h.footer id hid,
    ⟨hsize ▸ h.body.1, (Tree.plain_iff_of_fixed hfixed _).2 h.body.2⟩, hsize ▸ h.root⟩

theorem mem_entries_of_get {names : NameTable} {name : String} {id : Nat} (h : names.get name = .ok id) :
    (name, id) ∈ names.entries := by
  rw [NameTable.get] at h
  split at h
  · next hlookup =>
    cases h
    obtain ⟨before, after, heq, -⟩ := List.lookup_eq_some_iff.1 hlookup
    simp [heq]
  · cases h

/-- Writing to a widget that is no container does not meet the wrappers either. -/
theorem change_unstyled (h : f.Neat) {write : Widget → Option Widget} (name : String) (missing : String → RuntimeError)
    (hwrite : ∀ number w, write (w.renumber number) = write w)
    (hfixed : ∀ w w', write w = some w' → w'.fixed = w.fixed ∧ w'.children = []) :
    f.unstyled.change name write missing = (f.change name write missing).map unstyled := by
  have hget : f.unstyled.widget name = (f.widget name).map f.tree.core := f.names.get_renumber _ name
  cases hid : f.widget name with
  | error e => rw [change, change, hget, hid]; rfl
  | ok id =>
    have hp := (h.names _ (mem_entries_of_get hid)).2
    have hwritten : write (f.unstyled.tree.widget (f.tree.core id)) = write (f.tree.widget id) := by
      rw [unstyled, hp.core, Tree.widget_unstyled hp, hwrite]
    rw [change_of_widget hid, change_of_widget (hget.trans (congrArg _ hid)), hwritten, hp.core]
    cases hw : write (f.tree.widget id) with
    | none => rfl
    | some w =>
      obtain ⟨hsame, hchildren⟩ := hfixed _ _ hw
      have hmodify : (f.tree.modify id fun _ => w).unstyled = f.tree.unstyled.modify (f.tree.rank id) fun _ => w :=
        Tree.unstyled_modify hp hsame (Widget.renumber_of_children_eq_nil _ hchildren).symm
      show Except.ok _ = Except.ok _
      rw [unstyled_of_fixed (Tree.fixed_modify hsame), hmodify]
      rfl

theorem setText_unstyled (h : f.Neat) (name text : String) :
    f.unstyled.setText name text = (f.setText name text).map unstyled :=
  change_unstyled h name _ (fun number w => w.setText?_renumber number text) fun w w' hw => by
    refine ⟨(Widget.fixed_of_setText? hw).1, ?_⟩
    cases w <;> cases hw <;> rfl

theorem setEditText_unstyled (h : f.Neat) (name text : String) :
    f.unstyled.setEditText name text = (f.setEditText name text).map unstyled :=
  change_unstyled h name _ (fun number w => w.setEditText?_renumber number text) fun w w' hw => by
    refine ⟨(Widget.fixed_of_setEditText? hw).1, ?_⟩
    cases w with
    | edit =>
      cases hw
      rfl
    | _ => cases hw

theorem written_unstyled (f : Form) (x : Except RuntimeError Form) :
    (x.map unstyled).toOption.getD f.unstyled = (x.toOption.getD f).unstyled ∧
      UseOutcome.ofWriting (x.map unstyled) = (UseOutcome.ofWriting x).renumber f.tree.core := by
  cases x with
  | ok => exact ⟨rfl, rfl⟩
  | error => exact ⟨rfl, rfl⟩

theorem done_unstyled {x : Option Tree} (hx : ∀ t, x = some t → t.fixed = f.tree.fixed) :
    { f.unstyled with tree := (x.map Tree.unstyled).getD f.unstyled.tree } =
      unstyled { f with tree := x.getD f.tree } ∧
    UseOutcome.done (x.map Tree.unstyled).isSome = (UseOutcome.done x.isSome).renumber f.tree.core := by
  cases x with
  | none => exact ⟨rfl, rfl⟩
  | some t => exact ⟨(unstyled_of_fixed (hx t rfl)).symm, rfl⟩

/-- A wrapper cannot be activated, so it should not be tried. -/
theorem use_unstyled (h : f.Neat) {u : FormUse} (hu : ∀ id, u = .activate id → f.tree.Plain id) :
    f.unstyled.use (u.renumber f.tree.core) = (f.use u).unstyled ∧
      f.unstyled.outcome (u.renumber f.tree.core) = (f.outcome u).renumber f.tree.core := by
  cases u with
  | key key =>
    have hkey := Tree.keypress_unstyled h.ordered h.root key
    constructor
    · rw [use, unstyled_of_fixed (Tree.careful_keypress f.tree f.root key).fixed]
      exact congrArg (fun r : Tree × KeyOutcome => { f.unstyled with tree := r.1 }) hkey
    · exact congrArg (fun r : Tree × KeyOutcome => UseOutcome.key r.2) hkey
  | step d =>
    have hs := done_unstyled (x := f.tree.stepFocus? f.root d) fun t ht => Tree.fixed_stepFocus? ht
    rw [← Tree.stepFocus?_unstyled h.ordered] at hs
    exact hs
  | activate id =>
    have hp := hu id rfl
    have ha := done_unstyled (x := f.tree.activate? id) fun t ht => (Tree.agrees_activate? ht).fixed
    rw [← Tree.unstyled_activate? hp, ← hp.core] at ha
    exact ha
  | setText name text =>
    have hw := written_unstyled f (f.setText name text)
    rw [← setText_unstyled h] at hw
    exact hw
  | setEditText name text =>
    have hw := written_unstyled f (f.setEditText name text)
    rw [← setEditText_unstyled h] at hw
    exact hw

end Form

/-! ## The correspondence -/

/-- The same came of a key in two trees whose widgets correspond. -/
inductive KeyOutcome.Matches (pairs : List (Nat × Nat)) : KeyOutcome → KeyOutcome → Prop
  | consumed : Matches pairs .consumed .consumed
  | pressed {i j : Nat} (h : (i, j) ∈ pairs) : Matches pairs (.pressed i) (.pressed j)
  | unhandled : Matches pairs .unhandled .unhandled

inductive UseOutcome.Matches (pairs : List (Nat × Nat)) : UseOutcome → UseOutcome → Prop
  | key {o o' : KeyOutcome} (h : o.Matches pairs o') : Matches pairs (.key o) (.key o')
  | done (changed : Bool) : Matches pairs (.done changed) (.done changed)
  | wrote (error : Option RuntimeError) : Matches pairs (.wrote error) (.wrote error)

theorem UseOutcome.matches_ofWriting {α β : Type} {pairs : List (Nat × Nat)} {x : Except RuntimeError α}
    {y : Except RuntimeError β} (h : ofWriting x = ofWriting y) : (ofWriting x).Matches pairs (ofWriting y) := by
  rw [h]
  cases y with
  | ok => exact .wrote none
  | error e => exact .wrote (some e)

/-- The same use of two forms whose widgets correspond. -/
inductive FormUse.Matches (pairs : List (Nat × Nat)) : FormUse → FormUse → Prop
  | activate {i j : Nat} (h : (i, j) ∈ pairs) : Matches pairs (.activate i) (.activate j)
  | same {u : FormUse} (h : ∀ id, u ≠ .activate id) : Matches pairs u u

/-- The widgets of two forms that are no wrappers correspond in their order, and are the same as far as one sees
through wrappers. -/
structure Form.Matches (f g : Form) (pairs : List (Nat × Nat)) : Prop where
  left : pairs.map Prod.fst = f.tree.cores
  right : pairs.map Prod.snd = g.tree.cores
  /-- They are the same, with all that is said of them, but for the numbers of their children. -/
  node : ∀ i j, (i, j) ∈ pairs → (f.tree.node i).renumber (fun _ => 0) = (g.tree.node j).renumber fun _ => 0
  children : ∀ i j, (i, j) ∈ pairs →
    List.Forall₂ (fun c d => (f.tree.unwrap c, g.tree.unwrap d) ∈ pairs) (f.tree.children i) (g.tree.children j)
  rows : ∀ i j, (i, j) ∈ pairs → ∀ width, f.tree.rows i width = g.tree.rows j width
  names : List.Forall₂ (fun d e => d.1 = e.1 ∧ (d.2, e.2) ∈ pairs) f.names.entries g.names.entries
  strings : f.strings = g.strings
  header : Option.Rel (fun i j => (f.tree.unwrap i, g.tree.unwrap j) ∈ pairs) f.header g.header
  footer : Option.Rel (fun i j => (f.tree.unwrap i, g.tree.unwrap j) ∈ pairs) f.footer g.footer
  body : (f.body, g.body) ∈ pairs
  root : (f.tree.unwrap f.root, g.tree.unwrap g.root) ∈ pairs

theorem forall₂_of_map_eq {α β γ : Type} {l : List α} {l' : List β} {f : α → γ} {g : β → γ} {R : α → β → Prop}
    (h : l.map f = l'.map g) (hR : ∀ a ∈ l, ∀ b ∈ l', f a = g b → R a b) : List.Forall₂ R l l' := by
  induction l generalizing l' with
  | nil =>
    cases l' with
    | nil => exact .nil
    | cons => cases h
  | cons a l ih =>
    cases l' with
    | nil => cases h
    | cons b l' =>
      rw [List.map_cons, List.map_cons, List.cons.injEq] at h
      refine .cons (hR a List.mem_cons_self b List.mem_cons_self h.1) (ih h.2 fun a ha b hb => ?_)
      exact hR a (List.mem_cons_of_mem _ ha) b (List.mem_cons_of_mem _ hb)

namespace Tree

variable {t u : Tree} {i j : Nat}

theorem mem_cores : i ∈ t.cores ↔ i < t.size ∧ t.Plain i := by
  simp [cores, Plain]

theorem nodup_cores (t : Tree) : t.cores.Nodup := List.nodup_range.filter _

theorem mem_zip_cores : (i, j) ∈ t.cores.zip u.cores ↔
    (i < t.size ∧ t.Plain i) ∧ (j < u.size ∧ u.Plain j) ∧ t.rank i = u.rank j := by
  constructor
  · intro hmem
    obtain ⟨k, hk⟩ := List.mem_iff_getElem?.1 hmem
    obtain ⟨hi, hj⟩ := List.getElem?_zip_eq_some.1 hk
    have hit := mem_cores.1 (List.mem_of_getElem? hi)
    have hju := mem_cores.1 (List.mem_of_getElem? hj)
    have hrank {t : Tree} {i : Nat} (hi : t.cores[k]? = some i) (hit : i < t.size ∧ t.Plain i) : t.rank i = k := by
      have hlt := (List.getElem?_eq_some_iff.1 hi).1
      exact ((List.getElem?_inj hlt t.nodup_cores).1 (hi.trans (getElem?_cores hit.2 hit.1).symm)).symm
    exact ⟨hit, hju, (hrank hi hit).trans (hrank hj hju).symm⟩
  · rintro ⟨⟨hi, hip⟩, ⟨hj, hjp⟩, hrank⟩
    refine List.mem_iff_getElem?.2 ⟨t.rank i, List.getElem?_zip_eq_some.2 ⟨getElem?_cores hip hi, ?_⟩⟩
    rw [hrank]
    exact getElem?_cores hjp hj

end Tree

namespace Form

variable {f g : Form}

/-- Two forms that are the same without styles. -/
structure Alike (f g : Form) : Prop where
  left : f.Neat
  right : g.Neat
  unstyled : f.unstyled = g.unstyled

/-- The widgets of two forms that are no wrappers, in their order. -/
def pairs (f g : Form) : List (Nat × Nat) := f.tree.cores.zip g.tree.cores

theorem mem_pairs {i j : Nat} : (i, j) ∈ pairs f g ↔
    (i < f.tree.size ∧ f.tree.Plain i) ∧ (j < g.tree.size ∧ g.tree.Plain j) ∧ f.tree.rank i = g.tree.rank j :=
  Tree.mem_zip_cores

theorem mem_pairs_of_core {i j : Nat} (hi : i < f.tree.size ∧ f.tree.Plain i) (hj : j < g.tree.size ∧ g.tree.Plain j)
    (hcore : f.tree.core i = g.tree.core j) : (i, j) ∈ pairs f g := by
  rw [hi.2.core, hj.2.core] at hcore
  exact mem_pairs.2 ⟨hi, hj, hcore⟩

namespace Alike

variable (h : f.Alike g)
include h

theorem tree : f.tree.unstyled = g.tree.unstyled := congrArg Form.tree h.unstyled

theorem length_cores : f.tree.cores.length = g.tree.cores.length := by
  have hsize := congrArg Tree.size h.tree
  rwa [Tree.size_unstyled, Tree.size_unstyled, ← Tree.length_cores, ← Tree.length_cores] at hsize

/-- Widgets of one number are the same, seen through the wrappers around them. -/
theorem mem_of_core {i j : Nat} (hi : i < f.tree.size) (hj : j < g.tree.size) (hcore : f.tree.core i = g.tree.core j) :
    (f.tree.unwrap i, g.tree.unwrap j) ∈ pairs f g :=
  mem_pairs.2 ⟨⟨Nat.lt_of_le_of_lt (Tree.unwrap_le h.left.ordered i) hi, Tree.plain_unwrap h.left.ordered i⟩,
    ⟨Nat.lt_of_le_of_lt (Tree.unwrap_le h.right.ordered j) hj, Tree.plain_unwrap h.right.ordered j⟩, hcore⟩

theorem node {i j : Nat} (hij : (i, j) ∈ pairs f g) :
    (f.tree.node i).renumber f.tree.core = (g.tree.node j).renumber g.tree.core := by
  obtain ⟨⟨-, hi⟩, ⟨-, hj⟩, hrank⟩ := mem_pairs.1 hij
  rw [← Tree.node_unstyled hi, ← Tree.node_unstyled hj, h.tree, hrank]

theorem option {o o' : Option Nat} (ho : ∀ id, o = some id → id < f.tree.size)
    (ho' : ∀ id, o' = some id → id < g.tree.size)
    (hmap : o.map f.tree.core = o'.map g.tree.core) :
    Option.Rel (fun i j => (f.tree.unwrap i, g.tree.unwrap j) ∈ pairs f g) o o' := by
  cases o with
  | none =>
    cases o' with
    | none => exact .none
    | some j => cases hmap
  | some i =>
    cases o' with
    | none => cases hmap
    | some j => exact .some (h.mem_of_core (ho i rfl) (ho' j rfl) (Option.some.inj hmap))

end Alike

theorem renumber_zero (number : Nat → Nat) (n : Node) :
    (n.renumber number).renumber (fun _ => 0) = n.renumber fun _ => 0 := by
  obtain ⟨w, m⟩ := n
  cases w <;> simp [Node.renumber, Widget.renumber, Function.comp_def]

theorem Alike.matches (h : f.Alike g) : f.Matches g (pairs f g) where
  left := List.map_fst_zip (Nat.le_of_eq h.length_cores)
  right := List.map_snd_zip (Nat.le_of_eq h.length_cores.symm)
  node i j hij := by
    rw [← renumber_zero f.tree.core, h.node hij, renumber_zero]
  children i j hij := by
    have hchildren := congrArg (fun n : Node => n.widget.children) (h.node hij)
    simp only [Node.renumber, Widget.children_renumber] at hchildren
    obtain ⟨⟨hi, -⟩, ⟨hj, -⟩, -⟩ := mem_pairs.1 hij
    exact forall₂_of_map_eq hchildren fun c hc d hd => h.mem_of_core (Nat.lt_trans (h.left.ordered i c hc) hi)
      (Nat.lt_trans (h.right.ordered j d hd) hj)
  rows i j hij width := by
    obtain ⟨⟨hi, hip⟩, ⟨hj, hjp⟩, hrank⟩ := mem_pairs.1 hij
    rw [← Tree.rows_unstyled h.left.ordered h.left.styled hi, ← Tree.rows_unstyled h.right.ordered h.right.styled hj,
      hip.core, hjp.core, h.tree, hrank]
  names := by
    refine forall₂_of_map_eq (congrArg (fun f : Form => f.names.entries) h.unstyled) fun d hd e he hde => ?_
    rw [Prod.mk.injEq] at hde
    exact ⟨hde.1, mem_pairs_of_core (h.left.names d hd) (h.right.names e he) hde.2⟩
  strings := show f.unstyled.strings = g.unstyled.strings from congrArg Form.strings h.unstyled
  header := h.option h.left.header h.right.header (congrArg Form.header h.unstyled)
  footer := h.option h.left.footer h.right.footer (congrArg Form.footer h.unstyled)
  body := mem_pairs_of_core h.left.body h.right.body (congrArg Form.body h.unstyled)
  root := h.mem_of_core h.left.root h.right.root (congrArg Form.root h.unstyled)

theorem renumber_eq_of_matches {u v : FormUse} (huv : u.Matches (pairs f g) v) :
    u.renumber f.tree.core = v.renumber g.tree.core := by
  cases huv with
  | activate hij =>
    obtain ⟨⟨-, hi⟩, ⟨-, hj⟩, hrank⟩ := mem_pairs.1 hij
    exact congrArg FormUse.activate (hi.core.trans (hrank.trans hj.core.symm))
  | same hu =>
    cases u with
    | activate id => exact absurd rfl (hu id)
    | _ => rfl

theorem plain_of_matches {u v : FormUse} (huv : u.Matches (pairs f g) v) :
    (∀ id, u = .activate id → f.tree.Plain id) ∧ ∀ id, v = .activate id → g.tree.Plain id := by
  cases huv with
  | activate hij =>
    obtain ⟨⟨-, hi⟩, ⟨-, hj⟩, -⟩ := mem_pairs.1 hij
    exact ⟨fun id hid => by cases hid; exact hi, fun id hid => by cases hid; exact hj⟩
  | same hu => exact ⟨fun id hid => absurd hid (hu id), fun id hid => absurd hid (hu id)⟩

/-- Only widgets that are no wrappers are pressed. -/
theorem matches_of_pressed {o o' : KeyOutcome} (ho : ∀ n, o = .pressed n → (f.tree.widget n).isClickable)
    (ho' : ∀ n, o' = .pressed n → (g.tree.widget n).isClickable)
    (heq : o.renumber f.tree.core = o'.renumber g.tree.core) : o.Matches (pairs f g) o' := by
  have hthere {f : Form} {n : Nat} (hn : (f.tree.widget n).isClickable) : n < f.tree.size ∧ f.tree.Plain n := by
    have hf : (f.tree.widget n).isFocusable := by rw [Widget.isFocusable, hn, Bool.true_or]
    exact ⟨Tree.lt_size_of_isFocusable hf, Tree.plain_of_isFocusable hf⟩
  cases o with
  | consumed =>
    cases o' with
    | consumed => exact .consumed
    | _ => cases heq
  | pressed n =>
    cases o' with
    | pressed n' =>
        exact .pressed (mem_pairs_of_core (hthere (ho n rfl)) (hthere (ho' n' rfl)) (KeyOutcome.pressed.inj heq))
    | _ => cases heq
  | unhandled =>
    cases o' with
    | unhandled => exact .unhandled
    | _ => cases heq

namespace Alike

variable (h : f.Alike g)
include h

theorem use {u v : FormUse} (huv : u.Matches (pairs f g) v) :
    (f.use u).Alike (g.use v) ∧ pairs (f.use u) (g.use v) = pairs f g := by
  obtain ⟨hu, hv⟩ := plain_of_matches huv
  refine ⟨⟨h.left.use u, h.right.use v, ?_⟩, ?_⟩
  · rw [← (use_unstyled h.left hu).1, ← (use_unstyled h.right hv).1, h.unstyled, renumber_eq_of_matches huv]
  · rw [pairs, Tree.cores_of_fixed (f.fixed_use u), Tree.cores_of_fixed (g.fixed_use v)]
    rfl

theorem outcome {u v : FormUse} (huv : u.Matches (pairs f g) v) : (f.outcome u).Matches (pairs f g) (g.outcome v) := by
  obtain ⟨hu, hv⟩ := plain_of_matches huv
  have heq : (f.outcome u).renumber f.tree.core = (g.outcome v).renumber g.tree.core := by
    rw [← (use_unstyled h.left hu).2, ← (use_unstyled h.right hv).2, h.unstyled, renumber_eq_of_matches huv]
  cases huv with
  | activate hij =>
    simp only [Form.outcome, UseOutcome.renumber, UseOutcome.done.injEq] at heq ⊢
    rw [heq]
    exact .done _
  | same hu =>
    cases u with
    | activate id => exact absurd rfl (hu id)
    | key key =>
      have hkey : KeyOutcome.renumber _ _ = KeyOutcome.renumber _ _ := UseOutcome.key.inj heq
      exact .key
        (matches_of_pressed (fun n hn => Tree.isClickable_of_keypress hn) (fun n hn => Tree.isClickable_of_keypress hn) hkey)
    | step d =>
      rw [show f.outcome (.step d) = g.outcome (.step d) from heq]
      exact .done _
    | setText name text =>
      rw [Form.outcome, Form.outcome, UseOutcome.renumber_ofWriting, UseOutcome.renumber_ofWriting] at heq
      exact UseOutcome.matches_ofWriting heq
    | setEditText name text =>
      rw [Form.outcome, Form.outcome, UseOutcome.renumber_ofWriting, UseOutcome.renumber_ofWriting] at heq
      exact UseOutcome.matches_ofWriting heq

theorem uses {us vs : List FormUse} (huvs : List.Forall₂ (FormUse.Matches (pairs f g)) us vs) :
    (us.foldl Form.use f).Alike (vs.foldl Form.use g) ∧
      pairs (us.foldl Form.use f) (vs.foldl Form.use g) = pairs f g := by
  induction us generalizing f g vs with
  | nil =>
    cases huvs
    exact ⟨h, rfl⟩
  | cons u us ih =>
    obtain _ | ⟨huv, huvs⟩ := huvs
    obtain ⟨hnext, hpairs⟩ := h.use huv
    obtain ⟨hend, heq⟩ := ih hnext (hpairs ▸ huvs)
    exact ⟨hend, heq.trans hpairs⟩

end Alike

/-- Under any two palettes a description fails with the same error, or makes two forms that are the same as far as one
sees through wrappers. They stay so and tell the same, whatever is done to both. -/
theorem parse_styling (description : String) (P Q : Palette) (strings : StringTable) :
    Alongside (fun f g => ∃ pairs, ∀ us vs, List.Forall₂ (FormUse.Matches pairs) us vs →
        (us.foldl use f).Matches (vs.foldl use g) pairs ∧ ∀ u v, u.Matches pairs v →
          ((us.foldl use f).outcome u).Matches pairs ((vs.foldl use g).outcome v))
      (parse description P strings) (parse description Q strings) := by
  refine (parse_unstyled description P strings).common (parse_unstyled description Q strings) fun f g bare hf hg => ?_
  have h : f.Alike g := ⟨hf.neat, hg.neat, hf.eq.symm.trans hg.eq⟩
  refine ⟨pairs f g, fun us vs huvs => ?_⟩
  obtain ⟨hend, hpairs⟩ := h.uses huvs
  rw [← hpairs]
  exact ⟨hend.matches, fun u v => hend.outcome⟩

end Form

end ScreenForm
