import Mathlib.Data.List.Induction
import Mathlib.Data.List.Perm.Basic
import ScreenForm.Proofs.Description.Rule
/-!
# Markers that come twice

A second name, and a second binding of one kind of event, are refused: of the markers at the front of a text the
first one that clashes with an earlier one is the error (`Attributes.addAll_of_clash`). All other markers become
entries of the attributes, one each, but of several keys with the same sign only the last one does. The ones before it
are lost without an error (`Attributes.scan_keeps_markers`, `Attributes.scan_overwrites_key`).
-/

namespace ScreenForm.Description

namespace Marker

/-- Both markers give a name, or bind the same kind of event. -/
def Clash : Marker → Marker → Prop
  | id _, id _ => True
  | event kind _, event kind' _ => kind = kind'
  | _, _ => False

/-- No marker clashes with an earlier one. -/
def Clear (ms : List Marker) : Prop := ms.Pairwise fun m m' => ¬ Clash m m'

/-- The keys that a later one with the same sign takes the place of. -/
def overwritten (ms : List Marker) : List Marker :=
  (ms.filterMap info?).dropLast.map info ++ (ms.filterMap tooltip?).dropLast.map tooltip

/-- The markers by their signs, and bindings by their kinds. -/
def sorted (ms : List Marker) : List Marker :=
  (ms.filterMap id?).map id ++ (ms.filterMap style?).map style ++ (ms.filterMap info?).map info ++
    (ms.filterMap tooltip?).map tooltip ++
    EventKind.all.flatMap fun kind => (ms.filterMap (responder? kind)).map (event kind)

variable {ms : List Marker}

theorem perm_sorted_cons (m : Marker) (ms : List Marker) : (sorted (m :: ms)).Perm (m :: sorted ms) := by
  rw [List.perm_iff_count]
  intro x
  cases m with
  | event kind responder =>
    cases kind <;> simp [sorted, List.filterMap_cons, EventKind.all, List.count_cons] <;> omega
  | _ => simp [sorted, List.filterMap_cons, EventKind.all, List.count_cons] <;> omega

/-- No marker is lost when they are sorted. -/
theorem perm_sorted (ms : List Marker) : (sorted ms).Perm ms := by
  induction ms with
  | nil => rfl
  | cons m ms ih => exact (perm_sorted_cons m ms).trans (ih.cons m)

/-- Where markers clash there is a first one that does. -/
theorem exists_first_clash (h : ¬ Clear ms) :
    ∃ before m after, ms = before ++ m :: after ∧ Clear before ∧ ∃ m' ∈ before, Clash m' m := by
  induction ms using List.reverseRecOn with
  | nil => exact absurd List.Pairwise.nil h
  | append_singleton ms m ih =>
    by_cases hms : Clear ms
    · -- The markers before the last one are clear, so it is the last one that clashes.
      refine ⟨ms, m, [], rfl, hms, ?_⟩
      by_contra hnone
      refine h (List.pairwise_append.2 ⟨hms, List.pairwise_singleton _ _, ?_⟩)
      intro m' hm' x hx
      rw [List.mem_singleton.1 hx]
      exact fun hclash => hnone ⟨m', hm', hclash⟩
    · obtain ⟨before, x, after, rfl, hclear, hclash⟩ := ih hms
      exact ⟨before, x, after ++ [m], by rw [List.append_assoc, List.cons_append], hclear, hclash⟩

end Marker

/-! ## Adding markers -/

namespace Attributes

open Marker (Fronts Begins Clash Clear overwritten)

variable {a : Attributes} {before after done ms : List Marker} {m m' : Marker} {n : Nat} {cs rest : List Char}

theorem isSome_of_mem {said : Option String} {l : List String} {x : String} (h : said.toList = l) (hx : x ∈ l) :
    said.isSome = true := by
  rw [← h, Option.mem_toList] at hx
  exact Option.isSome_iff_exists.2 ⟨x, hx⟩

theorem Gathers.add_of_clash (h : a.Gathers done) (hm : m' ∈ done) (hclash : Clash m' m) :
    a.add n m = .error (.malformedAttribute m.written n) := by
  cases m with
  | id name =>
    cases m' with
    | id first =>
      have hsome := isSome_of_mem h.id (List.mem_filterMap.2 ⟨_, hm, rfl⟩)
      rw [Attributes.add, if_pos hsome]
    | _ => exact hclash.elim
  | event kind responder =>
    cases m' with
    | event kind' first =>
      obtain rfl : kind' = kind := hclash
      have hsome := isSome_of_mem (h.events kind') (List.mem_filterMap.2 ⟨_, hm, if_pos rfl⟩)
      rw [Attributes.add, if_pos hsome]
    | _ => exact hclash.elim
  | _ => cases m' <;> exact hclash.elim

theorem Gathers.add_of_not_clash (h : a.Gathers done) (hclear : ∀ m' ∈ done, ¬ Clash m' m) :
    ∃ a', a.add n m = .ok a' := by
  cases m with
  | id name =>
    have hnone : a.id = none := by
      rw [← Option.toList_eq_nil_iff, h.id, List.filterMap_eq_nil_iff]
      intro m' hm'
      cases m' with
      | id first => exact absurd trivial (hclear _ hm')
      | _ => rfl
    exact ⟨_, by rw [Attributes.add, hnone]; rfl⟩
  | event kind responder =>
    have hnone : a.events.get? kind = none := by
      rw [← Option.toList_eq_nil_iff, h.events, List.filterMap_eq_nil_iff]
      intro m' hm'
      cases m' with
      | event kind' first => exact if_neg (hclear _ hm')
      | _ => rfl
    exact ⟨_, by rw [Attributes.add, hnone]; rfl⟩
  | style name => exact ⟨_, rfl⟩
  | info key => exact ⟨_, rfl⟩
  | tooltip key => exact ⟨_, rfl⟩

theorem addAll_append_cons (h : addAll n before = .ok a) (m : Marker) (after : List Marker) :
    addAll n (before ++ m :: after) = (a.add n m).bind fun b => after.foldlM (fun a m => a.add n m) b := by
  rw [addAll, List.foldlM_append, ← addAll, h]
  rfl

/-- Markers that do not clash can all be added. -/
theorem addAll_of_clear (n : Nat) (h : Clear ms) : ∃ a, addAll n ms = .ok a := by
  induction ms using List.reverseRecOn with
  | nil => exact ⟨_, rfl⟩
  | append_singleton ms m ih =>
    obtain ⟨hms, -, hlast⟩ := List.pairwise_append.1 h
    obtain ⟨a, ha⟩ := ih hms
    obtain ⟨a', ha'⟩ := (gathers_addAll ha).add_of_not_clash (n := n) fun m' hm' => hlast m' hm' m List.mem_cons_self
    refine ⟨a', ?_⟩
    rw [addAll_append_cons ha, ha']
    rfl

/-- The first marker that clashes with an earlier one is refused, whatever comes after it. -/
theorem addAll_of_clash (n : Nat) (h : Clear before) (hm : m' ∈ before) (hclash : Clash m' m) (after : List Marker) :
    addAll n (before ++ m :: after) = .error (.malformedAttribute m.written n) := by
  obtain ⟨a, ha⟩ := addAll_of_clear n h
  rw [addAll_append_cons ha, (gathers_addAll ha).add_of_clash hm hclash]
  rfl

theorem clear_of_addAll (h : addAll n ms = .ok a) : Clear ms := by
  by_contra hclear
  obtain ⟨before, m, after, rfl, hbefore, m', hm', hclash⟩ := Marker.exists_first_clash hclear
  rw [addAll_of_clash n hbefore hm' hclash] at h
  cases h

/-! ## Entries -/

/-- The markers that say what the attributes do, one for each entry. -/
def entries (a : Attributes) : List Marker :=
  a.id.toList.map .id ++ a.styles.map .style ++ a.info.toList.map .info ++ a.tooltip.toList.map .tooltip ++
    a.events.toList.map fun e => .event e.1 e.2

theorem map_toList_events (b : Bindings) :
    (b.toList.map fun e => Marker.event e.1 e.2) =
      EventKind.all.flatMap fun kind => (b.get? kind).toList.map (Marker.event kind) := by
  obtain ⟨press, edit, focus, key⟩ := b
  cases press <;> cases edit <;> cases focus <;> cases key <;> rfl

theorem perm_last (f : String → Marker) (l : List String) :
    (l.getLast?.toList.map f ++ l.dropLast.map f).Perm (l.map f) := by
  obtain rfl | ⟨init, last, rfl⟩ := List.eq_nil_or_concat l
  · rfl
  · simpa using (List.perm_append_singleton (f last) (init.map f)).symm

/-- The entries are the markers but for the keys that were overwritten. -/
theorem Gathers.perm_entries (h : a.Gathers ms) : (a.entries ++ overwritten ms).Perm ms := by
  refine .trans ?_ (Marker.perm_sorted ms)
  rw [entries, map_toList_events, h.id, h.styles, h.info, h.tooltip]
  simp only [h.events]
  rw [Marker.sorted, overwritten]
  refine .trans ?_ (((perm_last .info _).append_left _ |>.append (perm_last .tooltip _)).append_right _)
  -- What is left is the order of the parts.
  rw [List.perm_iff_count]
  intro x
  simp only [List.count_append]
  omega

/-! ## The markers of a text -/

theorem scan_fronts (h : Fronts rest cs ms) (hrest : ms ≠ [] → Text.StartsOutside isNameChar rest) :
    scan cs n = (addAll n ms).bind (·.addMarkers n rest) :=
  addMarkers_fronts_append h {} hrest

/-- If a text begins with markers that clash, the first one that does is the error. If they do not clash and what
follows is no marker, they are all read. What is read of a text is all its markers, which do not clash: they are the
entries of the attributes, and the keys before the last one with their sign, which are overwritten. -/
theorem scan_keeps_markers (text : List Char) (line : Nat) :
    (∀ ms rest, Fronts rest text ms → (ms ≠ [] → Text.StartsOutside isNameChar rest) →
      (¬ Clear ms → ∃ m ∈ ms, scan text line = .error (.malformedAttribute m.written line)) ∧
      (∀ before m after, ms = before ++ m :: after → Clear before → (∃ m' ∈ before, Clash m' m) →
        scan text line = .error (.malformedAttribute m.written line)) ∧
      (Clear ms → ¬ Begins (Text.trimStart rest) → ∃ a, scan text line = .ok (a, Text.trimStart rest))) ∧
    ∀ a rest, scan text line = .ok (a, rest) → ∃ ms gap, Blanks gap ∧ Fronts (gap ++ rest) text ms ∧
      (ms ≠ [] → Text.StartsOutside isNameChar (gap ++ rest)) ∧ Text.StartsOutside Text.isBlank rest ∧ ¬ Begins rest ∧
      Clear ms ∧ a.Gathers ms ∧ (a.entries ++ overwritten ms).Perm ms := by
  refine ⟨fun ms rest hfronts hrest => ?_, fun a rest h => ?_⟩
  · have herror : ∀ before m after, ms = before ++ m :: after → Clear before → (∃ m' ∈ before, Clash m' m) →
        scan text line = .error (.malformedAttribute m.written line) := by
      rintro before m after rfl hbefore ⟨m', hm', hm⟩
      rw [scan_fronts hfronts hrest, addAll_of_clash line hbefore hm' hm]
      rfl
    refine ⟨fun hclash => ?_, herror, fun hclear hbegins => ?_⟩
    · obtain ⟨before, m, after, hms, hbefore, hm⟩ := Marker.exists_first_clash hclash
      exact ⟨m, by simp [hms], herror before m after hms hbefore hm⟩
    · obtain ⟨a, ha⟩ := addAll_of_clear line hclear
      refine ⟨a, ?_⟩
      rw [scan_fronts hfronts hrest, ha]
      exact addMarkers_of_none (Marker.next?_eq_none_iff.2 hbegins)
  · obtain ⟨gap, hgap, hfronts, hrest, hblank, hbegins⟩ := fronts_of_addMarkers h
    have hgathers := gathers_addMarkers _ _ [] gathers_nil _ h
    rw [List.nil_append] at hgathers
    have hclear : Clear (Marker.leading line text) := by
      rw [scan_fronts hfronts hrest] at h
      obtain ⟨b, hb, -⟩ := Except.bind_eq_ok.1 h
      exact clear_of_addAll hb
    exact ⟨_, gap, hgap, hfronts, hrest, hblank, hbegins, hclear, hgathers, hgathers.perm_entries⟩

/-- A second name after other markers, a key and another key with its sign among them. -/
theorem scan_keeps_markers_renamed :
    Fronts " x".toList "#a ?k !t ?l &press=go #b x".toList
        [.id "a", .info "k", .tooltip "t", .info "l", .event .press "go", .id "b"] ∧
      Clear [.id "a", .info "k", .tooltip "t", .info "l", .event .press "go"] ∧
      (∃ m ∈ [.id "a", .info "k", .tooltip "t", .info "l", .event .press "go"], Clash m (.id "b")) ∧
      scan "#a ?k !t ?l &press=go #b x".toList 4 = .error (.malformedAttribute "#b" 4) := by
  have hproper : ∀ m ∈ [.id "a", .info "k", .tooltip "t", .info "l", .event .press "go", .id "b"], Marker.Proper m := by
    have hname : ∀ name ∈ ["a", "k", "t", "l", "go", "b"], name.toList ≠ [] ∧ name.toList.all isNameChar = true := by
      decide
    intro m hm
    simp only [List.mem_cons, List.not_mem_nil, or_false] at hm
    rcases hm with rfl | rfl | rfl | rfl | rfl | rfl <;>
      exact ⟨(hname _ (by decide)).1, List.all_eq_true.1 (hname _ (by decide)).2⟩
  have hfronts : Fronts " x".toList "#a ?k !t ?l &press=go #b x".toList
      [.id "a", .info "k", .tooltip "t", .info "l", .event .press "go", .id "b"] := by
    have hnone : Blanks [] := nofun
    have hblank : Blanks [' '] := List.all_eq_true.1 (by decide)
    have htext : "#a ?k !t ?l &press=go #b x".toList = [] ++ ((Marker.id "a").written.toList ++
        ([' '] ++ ((Marker.info "k").written.toList ++ ([' '] ++ ((Marker.tooltip "t").written.toList ++
        ([' '] ++ ((Marker.info "l").written.toList ++ ([' '] ++ ((Marker.event .press "go").written.toList ++
        ([' '] ++ ((Marker.id "b").written.toList ++ " x".toList))))))))))) := by decide
    rw [htext]
    exact .cons hnone (hproper _ (by decide)) (.cons hblank (hproper _ (by decide))
      (.cons hblank (hproper _ (by decide)) (.cons hblank (hproper _ (by decide))
        (.cons hblank (hproper _ (by decide)) (.cons hblank (hproper _ (by decide)) .nil)))))
  have hclear : Clear [.id "a", .info "k", .tooltip "t", .info "l", .event .press "go"] := by
    simp [Clear, Marker.Clash]
  have hclash : ∃ m ∈ [.id "a", .info "k", .tooltip "t", .info "l", .event .press "go"], Clash m (.id "b") :=
    ⟨.id "a", by decide, trivial⟩
  refine ⟨hfronts, hclear, hclash, ?_⟩
  have hrest : Text.StartsOutside isNameChar " x".toList := by
    rintro _ ⟨⟩
    decide
  exact ((scan_keeps_markers _ 4).1 _ _ hfronts fun _ => hrest).2.1 _ _ _ rfl hclear hclash

/-- The first of two keys with the same sign is read as a marker, and then nothing is left of it. -/
theorem scan_overwrites_key :
    Fronts [] "?a ?b".toList [.info "a", .info "b"] ∧
      scan "?a ?b".toList 1 = .ok (⟨none, [], some "b", none, {}⟩, []) ∧
      entries ⟨none, [], some "b", none, {}⟩ = [.info "b"] := by
  refine ⟨?_, by decide +kernel, rfl⟩
  have hname : Marker.IsName "a" ∧ Marker.IsName "b" :=
    ⟨⟨by decide, List.all_eq_true.1 (by decide)⟩, ⟨by decide, List.all_eq_true.1 (by decide)⟩⟩
  have hblank : Blanks [' '] := List.all_eq_true.1 (by decide)
  have hlast : Fronts [] [' ', '?', 'b'] [.info "b"] := .cons hblank (m := .info "b") hname.2 .nil
  have hnone : Blanks [] := nofun
  exact .cons hnone (m := .info "a") hname.1 hlast

end Attributes

end ScreenForm.Description
