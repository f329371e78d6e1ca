import ScreenForm.Proofs.Description.Lexeme
import ScreenForm.Proofs.Description.Marker
/-!
# The text of markers

`Marker.Fronts` says that a text begins with the written forms of markers. Scanning a text gives what they say, and
the text after them, which begins with no marker (`Marker.Begins`).
-/

namespace ScreenForm.Description

namespace Marker

/-! ## The written form -/

/-- A name, as it stands in a marker. -/
def IsName (name : String) : Prop := name.toList ≠ [] ∧ ∀ c ∈ name.toList, isNameChar c = true

/-- The names of a marker can be written. -/
def Proper : Marker → Prop
  | id name | style name | info name | tooltip name | event _ name => IsName name

/-- A text begins with the written forms of these markers, with any white space before each, and goes on with `rest`. -/
inductive Fronts (rest : List Char) : List Char → List Marker → Prop
  | nil : Fronts rest rest []
  | cons {gap : List Char} (hgap : Blanks gap) {m : Marker} (proper : m.Proper) {cs : List Char} {ms : List Marker}
      (tail : Fronts rest cs ms) : Fronts rest (gap ++ (m.written.toList ++ cs)) (m :: ms)

/-- A text that begins with `&`, or with another sign of markers and a character of a name. -/
def Begins : List Char → Prop
  | [] => False
  | '&' :: _ => True
  | sign :: cs => sign ∈ ['#', '@', '?', '!'] ∧ ∃ c, cs.head? = some c ∧ isNameChar c = true

/-- No two markers say the same of a widget, apart from styles. -/
structure Once (ms : List Marker) : Prop where
  id : (ms.filterMap id?).length ≤ 1
  info : (ms.filterMap info?).length ≤ 1
  tooltip : (ms.filterMap tooltip?).length ≤ 1
  events : ∀ kind, (ms.filterMap (responder? kind)).length ≤ 1

end Marker

/-- What markers say that do not say the same twice. -/
def Attributes.ofMarkers (ms : List Marker) : Attributes where
  id := (ms.filterMap Marker.id?).head?
  styles := ms.filterMap Marker.style?
  info := (ms.filterMap Marker.info?).head?
  tooltip := (ms.filterMap Marker.tooltip?).head?
  events := {
    press := (ms.filterMap (Marker.responder? .press)).head?
    edit := (ms.filterMap (Marker.responder? .edit)).head?
    focus := (ms.filterMap (Marker.responder? .focus)).head?
    key := (ms.filterMap (Marker.responder? .key)).head? }

/-! ## One marker -/

namespace Marker

variable {n : Nat} {cs rest : List Char} {m : Marker} {ms : List Marker}

theorem ofSign?_eq_none_iff {sign : Char} {name : String} :
    ofSign? sign name = none ↔ sign ∉ ['#', '@', '?', '!'] := by
  unfold ofSign?
  split <;> simp_all

theorem mem_of_ofSign? {sign : Char} {name : String} (h : ofSign? sign name = some m) : sign ∈ ['#', '@', '?', '!'] := by
  by_contra hsign
  rw [ofSign?_eq_none_iff.2 hsign] at h
  cases h

/-- All markers but events are a sign and a name. -/
theorem ofSign?_or_event (m : Marker) :
    (∃ sign name, ofSign? sign name = some m) ∨ ∃ kind responder, m = event kind responder := by
  cases m with
  | id name => exact .inl ⟨'#', name, rfl⟩
  | style name => exact .inl ⟨'@', name, rfl⟩
  | info key => exact .inl ⟨'?', key, rfl⟩
  | tooltip key => exact .inl ⟨'!', key, rfl⟩
  | event kind responder => exact .inr ⟨kind, responder, rfl⟩

theorem isNameChar_of_kind (kind : EventKind) : ∀ c ∈ kind.name.toList, isNameChar c = true := by
  cases kind <;> exact List.all_eq_true.1 (by decide)

theorem exists_cons_of_kind (kind : EventKind) : ∃ c cs, kind.name.toList = c :: cs := by
  cases kind <;> exact ⟨_, _, rfl⟩

theorem nextEvent_of_written {kind : EventKind} {responder : String} (hname : IsName responder)
    (hrest : Text.StartsOutside isNameChar rest) :
    nextEvent n (kind.name.toList ++ '=' :: (responder.toList ++ rest)) = .ok (event kind responder, rest) := by
  have hequals : Text.StartsOutside isNameChar ('=' :: (responder.toList ++ rest)) := by rintro _ ⟨⟩; decide
  have hkind := String.ofList_toList (s := kind.name)
  obtain ⟨c, run, hrun⟩ := exists_cons_of_kind kind
  have hchars := isNameChar_of_kind kind
  rw [hrun] at hchars hkind
  rw [hrun, nextEvent, Text.takeWhile_run hchars hequals, Text.dropWhile_run hchars hequals]
  simp only [Text.takeWhile_run hname.2 hrest, Text.dropWhile_run hname.2 hrest]
  rw [if_neg (by simpa using hname.1), hkind, EventKind.ofName?_name, String.ofList_toList]

/-- The written form of a marker with a sign and a name. -/
theorem written_of_sign {sign : Char} {name : String} (h : ofSign? sign name = some m) :
    m.written.toList = sign :: name.toList ∧ (m.Proper ↔ IsName name) := by
  unfold ofSign? at h
  split at h <;> cases h <;> exact ⟨by simp [written], .rfl⟩

theorem written_event (kind : EventKind) (responder : String) :
    (event kind responder).written.toList = '&' :: (kind.name.toList ++ '=' :: responder.toList) := by
  simp [written]

theorem next?_of_sign {sign : Char} {name : String} (hsign : ofSign? sign name = some m) (proper : m.Proper)
    (hrest : Text.StartsOutside isNameChar rest) : next? n (m.written.toList ++ rest) = .ok (some (m, rest)) := by
  obtain ⟨hwritten, hproper⟩ := written_of_sign hsign
  have hname := hproper.1 proper
  have hne : sign ≠ '&' := by rintro rfl; cases hsign
  rw [hwritten, List.cons_append, next?.eq_3 _ _ _ hne]
  rw [Text.takeWhile_run hname.2 hrest, Text.dropWhile_run hname.2 hrest, if_neg (by simpa using hname.1),
    String.ofList_toList, hsign]
  rfl

/-- The marker at the front of a text is read, when its name does not go on. -/
theorem next?_of_written (proper : m.Proper) (hrest : Text.StartsOutside isNameChar rest) :
    next? n (m.written.toList ++ rest) = .ok (some (m, rest)) := by
  obtain ⟨sign, name, hsign⟩ | ⟨kind, responder, rfl⟩ := m.ofSign?_or_event
  · exact next?_of_sign hsign proper hrest
  · rw [written_event, List.cons_append, List.append_assoc, List.cons_append, next?,
      nextEvent_of_written proper hrest]
    rfl

theorem isEmpty_takeWhile_iff (p : Char → Bool) (cs : List Char) :
    (cs.takeWhile p).isEmpty = true ↔ ¬ ∃ c, cs.head? = some c ∧ p c = true := by
  cases cs with
  | nil => simp
  | cons c cs => by_cases hc : p c = true <;> simp [hc]

/-- Nothing is read exactly from a text that begins with no marker. -/
theorem next?_eq_none_iff : next? n cs = .ok none ↔ ¬ Begins cs := by
  unfold next?
  split
  · exact ⟨fun _ h => h, fun _ => rfl⟩
  · refine ⟨fun h => ?_, fun h => absurd trivial h⟩
    obtain ⟨_, _, h⟩ := Except.map_eq_ok.1 h
    cases h
  · next sign cs hne =>
    have hbegins : Begins (sign :: cs) ↔ sign ∈ ['#', '@', '?', '!'] ∧ ∃ c, cs.head? = some c ∧ isNameChar c = true := by
      rw [Begins.eq_3 _ _ hne]
    rw [hbegins]
    dsimp only
    split
    · next hname =>
      rw [isEmpty_takeWhile_iff] at hname
      exact ⟨fun _ h => hname h.2, fun _ => rfl⟩
    · next hname =>
      rw [isEmpty_takeWhile_iff, not_not] at hname
      rw [Except.ok.injEq, Option.map_eq_none_iff, ofSign?_eq_none_iff]
      exact ⟨fun h h' => h h'.1, fun h h' => h ⟨h', hname⟩⟩

theorem isName_takeWhile (h : ¬ (cs.takeWhile isNameChar).isEmpty = true) :
    IsName (String.ofList (cs.takeWhile isNameChar)) := by
  unfold IsName
  rw [String.toList_ofList]
  exact ⟨by simpa using h, fun c hc => List.mem_takeWhile_imp hc⟩

theorem written_of_nextEvent (h : nextEvent n cs = .ok (m, rest)) :
    m.Proper ∧ '&' :: cs = m.written.toList ++ rest ∧ Text.StartsOutside isNameChar rest := by
  unfold nextEvent at h
  dsimp only at h
  split at h
  · next c run tail hevent htail =>
    split at h
    · cases h
    next hname =>
    split at h
    · next kind hkind =>
      cases h
      have hevent : kind.name = String.ofList (cs.takeWhile isNameChar) := by
        simpa using List.find?_some hkind
      refine ⟨isName_takeWhile hname, ?_, Text.startsOutside_dropWhile _ _⟩
      rw [written_event, hevent, String.toList_ofList, String.toList_ofList, List.cons_append, List.append_assoc,
        List.cons_append, List.takeWhile_append_dropWhile, ← htail, List.takeWhile_append_dropWhile]
    · cases h
  · cases h

theorem written_of_next? (h : next? n cs = .ok (some (m, rest))) :
    m.Proper ∧ cs = m.written.toList ++ rest ∧ Text.StartsOutside isNameChar rest := by
  unfold next? at h
  split at h
  · cases h
  · obtain ⟨_, hevent, h⟩ := Except.map_eq_ok.1 h
    cases h
    exact written_of_nextEvent hevent
  · next sign cs hne =>
    dsimp only at h
    split at h
    · cases h
    · next hname =>
      rw [Except.ok.injEq, Option.map_eq_some_iff] at h
      obtain ⟨_, hsign, h⟩ := h
      cases h
      obtain ⟨hwritten, hproper⟩ := written_of_sign hsign
      refine ⟨hproper.2 (isName_takeWhile hname), ?_, Text.startsOutside_dropWhile _ _⟩
      rw [hwritten, String.toList_ofList, List.cons_append, List.takeWhile_append_dropWhile]

/-- No marker begins with white space or with a character of a name. -/
theorem startsOutside_written {p : Char → Bool} (hp : ['#', '@', '?', '!', '&'].any p = false) (m : Marker)
    (cs : List Char) : Text.StartsOutside p (m.written.toList ++ cs) := by
  obtain ⟨sign, name, hwritten, hsign⟩ : ∃ sign name, m.written.toList = sign :: name ∧
      sign ∈ ['#', '@', '?', '!', '&'] := by
    obtain ⟨sign, name, hsign⟩ | ⟨kind, responder, rfl⟩ := m.ofSign?_or_event
    · exact ⟨_, _, (written_of_sign hsign).1, List.mem_append_left ['&'] (mem_of_ofSign? hsign)⟩
    · exact ⟨_, _, written_event kind responder, by decide⟩
  rw [hwritten]
  rintro _ ⟨⟩
  exact Bool.eq_false_iff.2 (List.any_eq_false.1 hp sign hsign)

theorem trimStart_written {gap : List Char} (hgap : Blanks gap) (m : Marker) (cs : List Char) :
    Text.trimStart (gap ++ (m.written.toList ++ cs)) = m.written.toList ++ cs :=
  Text.dropWhile_run hgap (startsOutside_written (by decide) m cs)

/-- After a marker the next one begins, with or without white space before it, or the rest of the text. -/
theorem Fronts.startsOutside (h : Fronts rest cs ms) (hrest : Text.StartsOutside isNameChar rest) :
    Text.StartsOutside isNameChar cs := by
  cases h with
  | nil => exact hrest
  | cons hgap proper tail => exact startsOutside_blanks hgap (startsOutside_written (by decide) _ _)

theorem Once.of_append {ms' : List Marker} (h : Once (ms ++ ms')) : Once ms := by
  have hshort : ∀ {f : Marker → Option String}, ((ms ++ ms').filterMap f).length ≤ 1 → (ms.filterMap f).length ≤ 1 := by
    intro f hf
    rw [List.filterMap_append, List.length_append] at hf
    omega
  exact ⟨hshort h.id, hshort h.info, hshort h.tooltip, fun kind => hshort (h.events kind)⟩

end Marker

/-! ## All markers -/

namespace Attributes

open Marker (Fronts Once Begins)

variable {a a' : Attributes} {ms done : List Marker} {m : Marker} {n : Nat} {cs rest : List Char}

/-- What no marker has said yet can be added. -/
theorem Gathers.exists_add (h : a.Gathers done) (honce : Once (done ++ [m])) : ∃ a', a.add n m = .ok a' := by
  have hfirst : ∀ {f : Marker → Option String} {x : String} {said : Option String}, f m = some x →
      ((done ++ [m]).filterMap f).length ≤ 1 → said.toList = done.filterMap f → said = none := by
    intro f x said hf hlength hsaid
    rw [List.filterMap_append, List.length_append, List.filterMap_cons_some hf, List.filterMap_nil] at hlength
    rw [← Option.toList_eq_nil_iff, hsaid, ← List.length_eq_zero_iff]
    simp only [List.length_singleton] at hlength
    omega
  cases m with
  | id name =>
    have hid := hfirst rfl honce.id h.id
    exact ⟨_, by rw [Attributes.add, hid]; rfl⟩
  | style name => exact ⟨_, rfl⟩
  | info key => exact ⟨_, rfl⟩
  | tooltip key => exact ⟨_, rfl⟩
  | event kind responder =>
    have hkind := hfirst (if_pos rfl) (honce.events kind) (h.events kind)
    exact ⟨_, by rw [Attributes.add, hkind]; rfl⟩

theorem Gathers.eq_ofMarkers (h : a.Gathers ms) (honce : Once ms) : a = ofMarkers ms := by
  have hhead : ∀ {said : Option String} {l : List String}, said.toList = l → said = l.head? := by
    rintro said l rfl
    cases said <;> rfl
  have hlast : ∀ {l : List String}, l.length ≤ 1 → l.getLast? = l.head? := by
    intro l hl
    match l with
    | [] => rfl
    | [_] => rfl
    | _ :: _ :: _ => simp at hl
  obtain ⟨id, styles, info, tooltip, ⟨press, edit, focus, key⟩⟩ := a
  have hpress := hhead (h.events .press)
  have hedit := hhead (h.events .edit)
  have hfocus := hhead (h.events .focus)
  have hkey := hhead (h.events .key)
  have hid := hhead h.id
  have hstyles := h.styles
  have hinfo := h.info
  have htooltip := h.tooltip
  rw [hlast honce.info] at hinfo
  rw [hlast honce.tooltip] at htooltip
  dsimp only [Bindings.get?] at *
  rw [ofMarkers, ← hpress, ← hedit, ← hfocus, ← hkey, ← hid, ← hstyles, ← hinfo, ← htooltip]

/-- The markers at the front of a text are added one by one. -/
theorem addMarkers_of_fronts (h : Fronts rest cs ms) (ha : a.Gathers done) (honce : Once (done ++ ms))
    (hrest : ms ≠ [] → Text.StartsOutside isNameChar rest) (hbegins : ¬ Begins (Text.trimStart rest)) :
    ∃ a', a.addMarkers n cs = .ok (a', Text.trimStart rest) ∧ a'.Gathers (done ++ ms) := by
  induction h generalizing a done with
  | nil => exact ⟨a, addMarkers_of_none (Marker.next?_eq_none_iff.2 hbegins), by rwa [List.append_nil]⟩
  | @cons gap hgap m proper cs ms tail ih =>
    have hrest := hrest (List.cons_ne_nil m ms)
    have hnext : Marker.next? n (Text.trimStart (gap ++ (m.written.toList ++ cs))) = .ok (some (m, cs)) := by
      rw [Marker.trimStart_written hgap]
      exact Marker.next?_of_written proper (tail.startsOutside hrest)
    rw [← List.singleton_append, ← List.append_assoc] at honce
    obtain ⟨b, hb⟩ := ha.exists_add (n := n) honce.of_append
    obtain ⟨a', hadded, ha'⟩ := ih (ha.add hb) honce fun _ => hrest
    rw [List.append_assoc, List.singleton_append] at ha'
    refine ⟨a', ?_, ha'⟩
    rw [addMarkers_of_some hnext, hb]
    exact hadded

/-- What is added stands at the front of the text, and no marker stands at the front of the rest. -/
theorem fronts_of_addMarkers (h : a.addMarkers n cs = .ok (a', rest)) :
    ∃ gap, Blanks gap ∧ Fronts (gap ++ rest) cs (Marker.leading n cs) ∧
      (Marker.leading n cs ≠ [] → Text.StartsOutside isNameChar (gap ++ rest)) ∧
      Text.StartsOutside Text.isBlank rest ∧ ¬ Begins rest := by
  fun_induction Attributes.addMarkers a n cs with
  | case1 => cases h
  | case2 a cs trimmed hnext =>
    have hrest : trimmed = rest := by
      simp only [Except.ok.injEq, Prod.mk.injEq] at h
      exact h.2
    rw [Marker.leading_of_none hnext, ← hrest]
    refine ⟨cs.takeWhile Text.isBlank, fun c hc => List.mem_takeWhile_imp hc, ?_, fun h => absurd rfl h,
      Text.startsOutside_dropWhile _ _, Marker.next?_eq_none_iff.1 hnext⟩
    have : cs.takeWhile Text.isBlank ++ trimmed = cs := List.takeWhile_append_dropWhile
    rw [this]
    exact .nil
  | case3 a cs trimmed m tail hnext _ ih =>
    obtain ⟨b, -, h⟩ := Except.bind_eq_ok.1 h
    obtain ⟨gap, hgap, hfronts, hnames, hblank, hbegins⟩ := ih b h
    obtain ⟨proper, heq, htail⟩ := Marker.written_of_next? hnext
    rw [Marker.leading_of_some hnext]
    refine ⟨gap, hgap, ?_, fun _ => ?_, hblank, hbegins⟩
    · have hcs : cs = cs.takeWhile Text.isBlank ++ (m.written.toList ++ tail) := by
        rw [← heq]
        exact List.takeWhile_append_dropWhile.symm
      rw [hcs]
      exact .cons (fun c hc => List.mem_takeWhile_imp hc) proper hfronts
    · by_cases hlast : Marker.leading n tail = []
      · rw [hlast] at hfronts
        cases hfronts
        exact htail
      · exact hnames hlast

/-- Markers are read back from any text that begins with them, whatever white space is before each, if no name goes on
after the last of them and no marker is next. What is read from a text stands at its front, and what is left of the
text begins with no marker. -/
theorem scan_reads_fronts (text : List Char) (line : Nat) :
    (∀ ms rest, Fronts rest text ms → Once ms → (ms ≠ [] → Text.StartsOutside isNameChar rest) →
      ¬ Begins (Text.trimStart rest) → scan text line = .ok (ofMarkers ms, Text.trimStart rest)) ∧
    ∀ a rest, scan text line = .ok (a, rest) → ∃ ms gap, Blanks gap ∧ Fronts (gap ++ rest) text ms ∧ a.Gathers ms ∧
      (ms ≠ [] → Text.StartsOutside isNameChar (gap ++ rest)) ∧ Text.StartsOutside Text.isBlank rest ∧
      ¬ Begins rest := by
  refine ⟨fun ms rest hfronts honce hrest hbegins => ?_, fun a rest h => ?_⟩
  · obtain ⟨a, hscan, ha⟩ := addMarkers_of_fronts (n := line) hfronts gathers_nil honce hrest hbegins
    rw [List.nil_append] at ha
    rw [scan, hscan, ha.eq_ofMarkers honce]
  · obtain ⟨gap, hgap, hfronts, hrest, hblank, hbegins⟩ := fronts_of_addMarkers h
    exact ⟨_, gap, hgap, hfronts, gathers_addMarkers _ _ [] gathers_nil _ h, hrest, hblank, hbegins⟩

theorem scan_reads_fronts_joined :
    Fronts "  # x".toList "#a@b.c \t&press=go@d  # x".toList
        [.id "a", .style "b.c", .event .press "go", .style "d"] ∧
      Once [.id "a", .style "b.c", .event .press "go", .style "d"] ∧ ¬ Begins "# x".toList ∧
      scan "#a@b.c \t&press=go@d  # x".toList 3 =
        .ok (⟨some "a", ["b.c", "d"], none, none, ⟨some "go", none, none, none⟩⟩, "# x".toList) := by
  have hproper : ∀ m ∈ [.id "a", .style "b.c", .event .press "go", .style "d"], Marker.Proper m := by
    have hname : ∀ name ∈ ["a", "b.c", "go", "d"], Marker.IsName name := by
      have hall : ∀ name ∈ ["a", "b.c", "go", "d"], name.toList ≠ [] ∧ name.toList.all isNameChar = true := by decide
      exact fun name h => ⟨(hall name h).1, List.all_eq_true.1 (hall name h).2⟩
    intro m hm
    simp only [List.mem_cons, List.not_mem_nil, or_false] at hm
    rcases hm with rfl | rfl | rfl | rfl <;> exact hname _ (by decide)
  have htext : "#a@b.c \t&press=go@d  # x".toList =
      [] ++ ((Marker.id "a").written.toList ++ ([] ++ ((Marker.style "b.c").written.toList ++ ([' ', '\t'] ++
        ((Marker.event .press "go").written.toList ++ ([] ++ ((Marker.style "d").written.toList ++ "  # x".toList))))))) := by
    decide
  have hfronts : Fronts "  # x".toList "#a@b.c \t&press=go@d  # x".toList
      [.id "a", .style "b.c", .event .press "go", .style "d"] := by
    have hnone : Blanks [] := nofun
    have hblanks : Blanks [' ', '\t'] := List.all_eq_true.1 (by decide)
    rw [htext]
    exact .cons hnone (hproper _ (by decide)) (.cons hnone (hproper _ (by decide))
      (.cons hblanks (hproper _ (by decide)) (.cons hnone (hproper _ (by decide)) .nil)))
  have honce : Once [.id "a", .style "b.c", .event .press "go", .style "d"] :=
    ⟨by decide, by decide, by decide, fun kind => by cases kind <;> decide⟩
  have hbegins : ¬ Begins "# x".toList := by
    rintro ⟨-, c, ⟨⟩, hc⟩
    revert hc
    decide
  refine ⟨hfronts, honce, hbegins, ?_⟩
  exact (scan_reads_fronts _ 3).1 _ _ hfronts honce (fun _ => by rintro _ ⟨⟩; decide) hbegins

end Attributes

end ScreenForm.Description
