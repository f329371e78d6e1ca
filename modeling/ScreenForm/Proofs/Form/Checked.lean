import ScreenForm.Proofs.Form.Made
import ScreenForm.Proofs.Form.Marked
import ScreenForm.Proofs.Widget.Unstyled
/-!
# What is checked of a form

All forms are `Checked`, and stay so in use: names belong to widgets one to one,
bindings fit their widgets, and the keys of the footer are defined. A
description with markers that cannot all be met is no form (`Form.parse_unfit`).
-/

namespace ScreenForm

open Description

/-! ## Names -/

namespace NameTable

theorem get_eq_ok {names : NameTable} {name : String} {id : Nat} :
    names.get name = .ok id ↔ names.entries.lookup name = some id := by
  rw [get]
  cases names.entries.lookup name <;> simp

/-- A name is registered once. -/
theorem get_register {names names' : NameTable} {name : String} {widget : Nat}
    (h : names.register name widget = .ok names') (n : String) (id : Nat) :
    names'.get n = .ok id ↔ names.get n = .ok id ∨ n = name ∧ id = widget := by
  unfold register at h
  split at h
  · cases h
  · next hfree =>
    cases h
    have hnone : names.entries.lookup name = none := by rwa [contains, Bool.not_eq_true, Option.isSome_eq_false_iff,
      Option.isNone_iff_eq_none] at hfree
    rw [get_eq_ok, get_eq_ok, List.lookup_append]
    by_cases hn : n = name
    · subst hn
      simp [hnone, eq_comm]
    · have hne : (n == name) = false := by simpa using hn
      simp [List.lookup_cons, hne, hn]

theorem get_registerName {names names' : NameTable} {name : Option String} {widget : Nat}
    (h : Assembly.registerName names name widget = .ok names') (n : String) (id : Nat) :
    names'.get n = .ok id ↔ names.get n = .ok id ∨ name = some n ∧ id = widget := by
  cases name with
  | none =>
    cases h
    simp
  | some name =>
    rw [get_register h, Option.some_inj, eq_comm (a := n)]

end NameTable

/-! ## Forms -/

theorem Widget.kindName_congr {w w' : Widget} (h : w'.fixed = w.fixed) : w'.kindName = w.kindName := by
  have hfixed (w : Widget) : w.fixed.kindName = w.kindName := by cases w <;> rfl
  rw [← hfixed, h, hfixed]

/-- The names, the bindings and the keys of a tree are in order. -/
structure Tree.Checked (t : Tree) (names : NameTable) (strings : StringTable) : Prop where
  named : ∀ name id, names.get name = .ok id ↔ (t.about id).id = some name
  plain : ∀ name id, names.get name = .ok id → (t.widget id).isWrapper = false
  accepts : ∀ id kind responder, (t.about id).events.get? kind = some responder → kind.accepts (t.widget id)
  defined : ∀ id key, (t.about id).info = some key ∨ (t.about id).tooltip = some key →
    ∃ text, strings.get key = .ok text

def Form.Checked (f : Form) : Prop := f.tree.Checked f.names f.strings

namespace Tree.Checked

variable {t t' : Tree} {names : NameTable} {strings : StringTable}

theorem empty (strings : StringTable) : Tree.Checked {} {} strings where
  named _ _ := ⟨nofun, nofun⟩
  plain _ _ h := nomatch h
  accepts _ kind _ h := by cases kind <;> cases h
  defined _ _ h := by rcases h with h | h <;> cases h

/-- Two widgets have no name in common. -/
theorem eq_of_id (h : t.Checked names strings) {i j : Nat} {name : String} (hi : (t.about i).id = some name)
    (hj : (t.about j).id = some name) : i = j :=
  Except.ok.inj (((h.named name i).2 hi).symm.trans ((h.named name j).2 hj))

theorem of_fixed (h : t.Checked names strings) (hf : t'.fixed = t.fixed) : t'.Checked names strings where
  named name id := by rw [about_of_fixed hf, h.named]
  plain name id hid := (isWrapper_of_fixed hf id).trans (h.plain name id hid)
  accepts id kind responder hr := by
    rw [about_of_fixed hf] at hr
    rw [Widget.accepts_congr (widget_fixed_of_fixed hf id)]
    exact h.accepts id kind responder hr
  defined id key hkey := by
    rw [about_of_fixed hf] at hkey
    exact h.defined id key hkey

/-- The number of the next widget is nobody's yet. -/
theorem get_ne_size (h : t.Checked names strings) (name : String) : names.get name ≠ .ok t.size := by
  rw [ne_eq, h.named, about, node_of_size_le (Nat.le_refl _)]
  exact Option.some_ne_none name ∘ Eq.symm

/-- One widget more, with its name. -/
theorem add (h : t.Checked names strings) {w : Widget} {m : Meta} {names' : NameTable}
    (get : ∀ name id, names'.get name = .ok id ↔ names.get name = .ok id ∨ m.id = some name ∧ id = t.size)
    (plain : ∀ name, m.id = some name → w.isWrapper = false)
    (accepts : ∀ kind responder, m.events.get? kind = some responder → kind.accepts w)
    (defined : ∀ key, m.info = some key ∨ m.tooltip = some key → ∃ text, strings.get key = .ok text) :
    (t.add w m).Checked names' strings where
  named name id := by
    rw [get, about, node_add]
    split
    · next hid => simp [hid, h.get_ne_size name]
    · next hid => simp [hid, h.named, about]
  plain name id hid := by
    rw [widget, node_add]
    split
    · next hsize =>
      subst hsize
      exact plain name (((get name _).1 hid).resolve_left (h.get_ne_size name)).1
    · next hsize => exact h.plain name id (((get name id).1 hid).resolve_right fun hnew => hsize hnew.2)
  accepts id kind responder := by
    rw [about, widget, node_add]
    split
    · exact accepts kind responder
    · exact h.accepts id kind responder
  defined id key := by
    rw [about, node_add]
    split
    · exact defined key
    · exact h.defined id key

end Tree.Checked

/-- What is added is checked. -/
theorem Adds.checked {strings : StringTable} {x y : Tree × NameTable} (hadds : Adds strings x y)
    (h : x.1.Checked x.2 strings) : y.1.Checked y.2 strings := by
  cases hadds with
  | widget fits sized registered =>
    exact h.add (NameTable.get_registerName registered) (fun _ _ => fits.plain) fits.accepts fits.defined
  | wrapper =>
    refine h.add (by simp) nofun (fun kind responder hr => ?_) fun key hkey => ?_
    · cases kind <;> cases hr
    · rcases hkey with hkey | hkey <;> cases hkey
  | cleared keep group => exact h.of_fixed (Tree.fixed_clearGroup ..)

theorem Made.checked {strings : StringTable} {x : Tree × NameTable} (h : Made strings ({}, {}) x) :
    x.1.Checked x.2 strings := by
  induction h with
  | refl => exact .empty strings
  | tail _ hadds ih => exact hadds.checked ih

theorem DialogPlan.build_checked {H E : Type} {plan : DialogPlan H E} {base : Palette} {d : Dialog H E}
    (h : plan.build base = .ok d) : d.form.Checked := by
  obtain ⟨hstrings, hmade⟩ := build_made h
  rw [Form.Checked, hstrings]
  exact hmade.checked

namespace Form

variable {f : Form} {description : String} {palette : Palette} {strings : StringTable}

theorem parse_checked (h : parse description palette strings = .ok f) : f.Checked := by
  obtain ⟨hstrings, hmade⟩ := parse_made h
  rw [Checked, hstrings]
  exact hmade.checked

theorem Checked.use (h : f.Checked) (u : FormUse) : (f.use u).Checked := by
  have hkept : (f.use u).tree.Checked f.names f.strings := h.of_fixed (f.fixed_use u)
  rw [f.use_eq u]
  exact hkept

/-- The form `g` has the widgets of `f` in the same places, with the same names, keys and bindings. -/
structure Keeps (f g : Form) : Prop where
  names : g.names = f.names
  strings : g.strings = f.strings
  size : g.tree.size = f.tree.size
  kindName : ∀ id, (g.tree.widget id).kindName = (f.tree.widget id).kindName
  about : ∀ id, g.tree.about id = f.tree.about id
  children : ∀ id, g.tree.children id = f.tree.children id

theorem Keeps.refl (f : Form) : f.Keeps f := ⟨rfl, rfl, rfl, fun _ => rfl, fun _ => rfl, fun _ => rfl⟩

theorem Keeps.trans {f g k : Form} (h : f.Keeps g) (h' : g.Keeps k) : f.Keeps k :=
  ⟨h'.names.trans h.names, h'.strings.trans h.strings, h'.size.trans h.size,
    fun id => (h'.kindName id).trans (h.kindName id), fun id => (h'.about id).trans (h.about id),
    fun id => (h'.children id).trans (h.children id)⟩

theorem keeps_use (f : Form) (u : FormUse) : f.Keeps (f.use u) := by
  have hf := f.fixed_use u
  rw [f.use_eq u]
  exact ⟨rfl, rfl, Tree.size_eq_of_fixed hf, fun id => Widget.kindName_congr (Tree.widget_fixed_of_fixed hf id),
    Tree.about_of_fixed hf, Tree.children_eq_of_fixed hf⟩

end Form

/-! ## Descriptions that are refused -/

namespace Description

/-- The markers of a text cannot all be met. -/
inductive Unfit (strings : StringTable) (text : List Char) : Prop
  /-- Two of them give the same name. -/
  | named (twice : ¬ (((Form.numberedLines text).flatMap markersOf).filterMap Marker.id?).Nodup)
  /-- The widget of a line cannot produce an event that is bound on it. -/
  | bound {l : List Char × Nat} (mem : l ∈ Form.numberedLines text) {line : Line} (read : Line.parse l.2 l.1 = .ok line)
      {kind : EventKind} {responder : String} (marker : .event kind responder ∈ line.markers l.2)
      (unfit : line.produces kind = false)
  /-- The last key with its sign on a line is not defined. -/
  | missing {l : List Char × Nat} (mem : l ∈ Form.numberedLines text) {key : String}
      (last : ((markersOf l).filterMap Marker.info?).getLast? = some key ∨
        ((markersOf l).filterMap Marker.tooltip?).getLast? = some key)
      (undefined : strings.contains key = false)

theorem pairwise_numberedLines (text : List Char) : (Form.numberedLines text).Pairwise (·.2 < ·.2) := by
  have h := pairwise_rows text
  rw [rows, List.pairwise_map] at h
  exact h

end Description

namespace Form

variable {f : Form} {description : String} {palette : Palette} {strings : StringTable} {text : List Char}

/-- No two markers of a form give the same name. -/
theorem Checked.nodup_ids (h : f.Checked)
    (hbears : ∀ l ∈ numberedLines text, markersOf l = [] ∨
      ∃ line id, markersOf l = line.markers l.2 ∧ f.tree.Bears l.2 line id) :
    (((numberedLines text).flatMap markersOf).filterMap Marker.id?).Nodup := by
  rw [List.filterMap_flatMap, List.nodup_flatMap]
  constructor
  · intro l hl
    rcases hbears l hl with hnone | ⟨line, id, heq, hb⟩
    · simp [hnone]
    · rw [heq]
      exact hb.nodup_ids
  · -- The widgets of two lines are not the same one, so they have no name in common.
    refine (pairwise_numberedLines text).imp_of_mem fun {l l'} hl hl' hlt =>
      List.disjoint_left.2 fun name hname hname' => ?_
    dsimp only at hname hname'
    rcases hbears l hl with hnone | ⟨line, id, heq, hb⟩
    · simp [hnone] at hname
    rcases hbears l' hl' with hnone | ⟨line', id', heq', hb'⟩
    · simp [hnone] at hname'
    rw [heq, hb.mem_ids] at hname
    rw [heq', hb'.mem_ids] at hname'
    obtain rfl : id = id' := Tree.Checked.eq_of_id h hname hname'
    exact Nat.ne_of_lt hlt (hb.number.symm.trans hb'.number)

/-- A description is refused if its markers cannot all be met. -/
theorem parse_unfit (palette : Palette) (ht : strings.substituteChars description.toList = .ok text)
    (hunfit : Unfit strings text) : ∃ e, parse description palette strings = .error e := by
  cases hf : parse description palette strings with
  | error e => exact ⟨e, rfl⟩
  | ok f =>
    exfalso
    have hchecked := parse_checked hf
    obtain ⟨text', ht', hlines⟩ := parse_bears hf
    obtain rfl : text = text' := Except.ok.inj (ht.symm.trans ht')
    cases hunfit with
    | named twice =>
      refine twice (hchecked.nodup_ids fun l hl => ?_)
      obtain ⟨line, hline, hnone | ⟨id, hb⟩⟩ := hlines l hl
      · exact .inl ((markersOf_eq hline).trans (Line.markers_of_describes_eq_false hnone _))
      · exact .inr ⟨line, id, markersOf_eq hline, hb⟩
    | @bound l mem line read kind responder marker unfit =>
      obtain ⟨line', hline, hnone | ⟨id, hb⟩⟩ := hlines l mem <;> obtain rfl := Except.ok.inj (read.symm.trans hline)
      · rw [Line.markers_of_describes_eq_false hnone] at marker
        cases marker
      · have haccepts := hchecked.accepts id kind responder (hb.mem_events marker)
        rw [hb.accepts, unfit] at haccepts
        cases haccepts
    | @missing l mem key last undefined =>
      obtain ⟨line, hline, hnone | ⟨id, hb⟩⟩ := hlines l mem <;> rw [markersOf_eq hline] at last
      · simp [Line.markers_of_describes_eq_false hnone] at last
      · rw [← hb.info_eq, ← hb.tooltip_eq] at last
        obtain ⟨text, hget⟩ := hchecked.defined id key last
        rw [(parse_made hf).1, StringTable.get] at hget
        rw [StringTable.contains] at undefined
        cases hlookup : strings.entries.lookup key <;> simp_all

/-- Of two keys with the same sign on a line the first one is never looked up, so it need not be defined. -/
theorem parse_overwrites_key :
    (∃ f, parse "Txt Hi args:?nope ?yes" {} ⟨[("yes", "Y")]⟩ = .ok f) ∧
      numberedLines "Txt Hi args:?nope ?yes".toList = [("Txt Hi args:?nope ?yes".toList, 1)] ∧
      markersOf ("Txt Hi args:?nope ?yes".toList, 1) = [.info "nope", .info "yes"] ∧
      StringTable.contains ⟨[("yes", "Y")]⟩ "nope" = false := by
  have hok : (parse "Txt Hi args:?nope ?yes" {} ⟨[("yes", "Y")]⟩).isOk := by decide +kernel
  refine ⟨?_, by decide +kernel, by decide +kernel, by decide⟩
  cases hf : parse "Txt Hi args:?nope ?yes" {} ⟨[("yes", "Y")]⟩ with
  | ok f => exact ⟨f, rfl⟩
  | error e =>
    rw [hf] at hok
    cases hok

end Form

end ScreenForm
