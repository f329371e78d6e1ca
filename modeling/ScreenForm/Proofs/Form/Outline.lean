import ScreenForm.Proofs.Form.Focus
import ScreenForm.Proofs.Form.Legible
import ScreenForm.Proofs.Widget.Outline
/-!
# Outlines

An outline of a form that was described has one line for each widget, whatever its texts and labels are, in the order
of a walk through the tree and indented by the depth of the widget. Read back from the end of each line, the bindings
in it are the bindings of the form (`Form.outlines_widgets`).
-/

namespace ScreenForm

open Description Description.Marker

/-! ## Bindings on a line -/

namespace Outline

/-- The binding that a word is as a marker. -/
def binding? (word : List Char) : Option (EventKind × String) :=
  match Marker.next? 0 word with
  | .ok (some (.event kind responder, [])) => some (kind, responder)
  | _ => none

/-- The bindings before the first word that is none, the last one first. -/
def readBack : List (List Char) → List (EventKind × String)
  | [] => []
  | word :: words =>
    match binding? word with
    | some b => readBack words ++ [b]
    | none => []

/-- The bindings at the end of a line. -/
def bindings (line : List Char) : List (EventKind × String) :=
  readBack (Text.splitOn (· = ' ') line).reverse

/-- The word of a binding. -/
def word (b : EventKind × String) : List Char :=
  (Marker.event b.1 b.2).written.toList

/-- No binding is the last word of the text. -/
def Sealed (cs : List Char) : Prop :=
  ∃ words last, Text.splitOn (· = ' ') cs = words ++ [last] ∧ binding? last = none

variable {cs front : List Char} {b : EventKind × String}

theorem binding?_word (h : IsName b.2) : binding? (word b) = some b := by
  have hend : Text.StartsOutside isNameChar [] := nofun
  have hnext := Marker.next?_of_written (n := 0) (m := .event b.1 b.2) h hend
  rw [List.append_nil] at hnext
  rw [binding?, word, hnext]

theorem eq_word_of_binding? (h : binding? cs = some b) : IsName b.2 ∧ cs = word b := by
  unfold binding? at h
  split at h
  · next kind responder hnext =>
    cases h
    obtain ⟨proper, heq, -⟩ := Marker.written_of_next? hnext
    rw [List.append_nil] at heq
    exact ⟨proper, heq⟩
  · cases h

theorem binding?_of_head (h : cs.head? ≠ some '&') : binding? cs = none := by
  refine Option.eq_none_iff_forall_ne_some.2 fun b hb => h ?_
  rw [(eq_word_of_binding? hb).2, word, Marker.written_event]
  rfl

theorem binding?_of_end {c : Char} (hc : isNameChar c = false) : binding? (front ++ [c]) = none := by
  refine Option.eq_none_iff_forall_ne_some.2 fun b hb => ?_
  obtain ⟨⟨hne, hname⟩, heq⟩ := eq_word_of_binding? hb
  have hsplit : word b = ('&' :: b.1.name.toList ++ ['=']) ++ b.2.toList := by simp [word, Marker.written_event]
  have hlast : b.2.toList.getLast? = some c := by
    rw [← List.getLast?_append_of_ne_nil _ hne, ← hsplit, ← heq, List.getLast?_concat]
  rw [hname c (List.mem_of_getLast? hlast)] at hc
  cases hc

theorem not_mem_word {c : Char} (hc : isNameChar c = false) (hsign : c ≠ '&') (hequals : c ≠ '=') (h : IsName b.2) :
    c ∉ word b := by
  have hnot {name : String} (hname : ∀ d ∈ name.toList, isNameChar d = true) : c ∉ name.toList := fun hmem => by
    rw [hname c hmem] at hc
    cases hc
  rw [word, Marker.written_event, List.mem_cons, List.mem_append, List.mem_cons, not_or, not_or, not_or]
  exact ⟨hsign, hnot (Marker.isNameChar_of_kind b.1), hequals, hnot h.2⟩

theorem sealed_of_word (front last : List Char) (hfront : front = [] ∨ front.getLast? = some ' ') (hspace : ' ' ∉ last)
    (hlast : last.head? ≠ some '&') : Sealed (front ++ last) := by
  have hone := Text.splitOn_of_not_mem hspace
  obtain rfl | hfront := hfront
  · exact ⟨[], last, hone, binding?_of_head hlast⟩
  · obtain ⟨front, rfl⟩ := List.getLast?_eq_some_iff.1 hfront
    refine ⟨Text.splitOn (· = ' ') front, last, ?_, binding?_of_head hlast⟩
    rw [List.append_assoc, List.singleton_append, Text.splitOn_append (by decide), hone]

theorem sealed_of_end (front : List Char) {c : Char} (hspace : c ≠ ' ') (hname : isNameChar c = false) :
    Sealed (front ++ [c]) := by
  have hsplit : ∃ words last, Text.splitOn (· = ' ') (front ++ [c]) = words ++ [last ++ [c]] := by
    induction front with
    | nil => exact ⟨[], [], by simp [Text.splitOn, hspace]⟩
    | cons d front ih =>
      obtain ⟨words, last, ih⟩ := ih
      rw [List.cons_append, Text.splitOn, ih]
      split
      · exact ⟨[] :: words, last, rfl⟩
      · cases words with
        | nil => exact ⟨[], d :: last, rfl⟩
        | cons first words => exact ⟨(d :: first) :: words, last, rfl⟩
  obtain ⟨words, last, hsplit⟩ := hsplit
  exact ⟨words, last ++ [c], hsplit, binding?_of_end hname⟩

theorem splitOn_words (cs : List Char) {words : List (List Char)} (h : ∀ word ∈ words, ' ' ∉ word) :
    Text.splitOn (· = ' ') (cs ++ words.flatMap (' ' :: ·)) = Text.splitOn (· = ' ') cs ++ words := by
  induction words generalizing cs with
  | nil => simp
  | cons word words ih =>
    rw [List.forall_mem_cons] at h
    have hnext : cs ++ (word :: words).flatMap (' ' :: ·) = (cs ++ ' ' :: word) ++ words.flatMap (' ' :: ·) := by
      simp
    rw [hnext, ih _ h.2, Text.splitOn_append (by decide), Text.splitOn_of_not_mem h.1, List.append_assoc,
      List.singleton_append]

/-- What is read back from a line are the bindings behind the rest of it. -/
theorem bindings_line (h : Sealed cs) {bs : List (EventKind × String)} (hbs : ∀ b ∈ bs, IsName b.2) :
    bindings (cs ++ (bs.map word).flatMap (' ' :: ·)) = bs := by
  have hwords : ∀ w ∈ bs.map word, ' ' ∉ w := by
    intro w hw
    obtain ⟨b, hb, rfl⟩ := List.mem_map.1 hw
    exact not_mem_word (by decide) (by decide) (by decide) (hbs b hb)
  obtain ⟨words, last, hsplit, hlast⟩ := h
  rw [bindings, splitOn_words cs hwords, hsplit, List.reverse_append, List.reverse_append, List.reverse_singleton]
  clear hwords
  -- From the last word on: each binding is read, and the word before them ends it.
  induction bs using List.reverseRecOn with
  | nil => simp [readBack, hlast]
  | append_singleton bs b ih =>
    rw [List.forall_mem_append, List.forall_mem_singleton] at hbs
    rw [List.map_append, List.map_singleton, List.reverse_append, List.reverse_singleton, List.append_assoc,
      List.singleton_append, readBack, binding?_word hbs.2]
    exact congrArg (· ++ [b]) (ih hbs.1)

end Outline

/-! ## The line of a widget -/

namespace Text

theorem not_mem_toDigits (n : Nat) : '\n' ∉ Nat.toDigits 16 n := by
  have hdigit (d : Nat) : '\n' ≠ d.digitChar := (Nat.digitChar_ne '\n' (by decide)).symm
  induction n using Nat.strongRecOn with
  | _ n ih =>
    rw [Nat.toDigits_eq_if (by decide)]
    split
    · rw [List.mem_singleton]
      exact hdigit n
    · rw [List.mem_append, List.mem_singleton]
      rintro (h | h)
      · exact ih (n / 16) (by omega) h
      · exact hdigit _ h

theorem not_mem_quoteChar (c : Char) : '\n' ∉ quoteChar c := by
  unfold quoteChar
  split
  · decide
  · decide
  · decide
  · decide
  · decide
  · decide
  · next hfeed _ _ _ =>
    split
    · rw [List.mem_singleton]
      exact fun h => hfeed h.symm
    · simp [not_mem_toDigits]

/-- A quoted text is written on one line. -/
theorem not_mem_quote (cs : List Char) : '\n' ∉ quote cs := by
  rw [quote, List.mem_append, List.mem_cons, List.mem_flatMap]
  rintro ((h | ⟨c, -, h⟩) | h)
  · cases h
  · exact not_mem_quoteChar c h
  · simp at h

theorem splitOn_lines {lines : List (List Char)} (h : ∀ line ∈ lines, '\n' ∉ line) :
    splitOn (· = '\n') (lines.flatMap (· ++ ['\n'])) = lines ++ [[]] := by
  induction lines with
  | nil => rfl
  | cons line lines ih =>
    rw [List.forall_mem_cons] at h
    rw [List.flatMap_cons, List.append_assoc, List.singleton_append, splitOn_append (by decide),
      splitOn_of_not_mem h.1, ih h.2]
    rfl

end Text

/-- What an outline says of the widget itself: a label, a text in quotes, the name of a style, or nothing. -/
inductive Widget.Says : Widget → String → Prop
  | nothing {w : Widget} : Says w ""
  | label {w : Widget} {s : String} : w.label? = some s → Says w (" [" ++ s ++ "]")
  | text {w : Widget} (s : String) : Says w (" " ++ Text.quoted s)
  | style {normal : Style} {focus : Style} {names : StyleNames} {child : Nat} {name : String} :
    names.normal = some name → Says (.wrapper (.styled normal focus names) child) (" @" ++ name)

theorem Widget.says_summary (w : Widget) : w.Says w.summary := by
  have htext (s : String) : w.Says (if s.isEmpty then "" else " " ++ Text.quoted s) := by
    split
    · exact .nothing
    · exact .text s
  cases w with
  | text s _ => exact htext s
  | edit e => exact htext _
  | divider _ s _ _ => exact htext s
  | button _ => exact .label rfl
  | checkBox _ _ => exact .label rfl
  | radioButton _ _ _ => exact .label rfl
  | container _ _ _ => exact .nothing
  | wrapper wrapping child =>
    cases wrapping with
    | padding _ => exact .nothing
    | styled normal focus names =>
      have hsummary : (wrapper (.styled normal focus names) child).summary =
        (names.normal.map (" @" ++ ·)).getD "" := rfl
      rw [hsummary]
      cases hname : names.normal with
      | none => exact .nothing
      | some name => exact .style hname

/-- The kind of a widget and its name, indented. -/
def Node.title (n : Node) (depth : Nat) : List Char :=
  List.replicate (2 * depth) ' ' ++ n.widget.kindName.toList ++ ((n.about.id.map (" #" ++ ·)).getD "").toList

/-- The line of a widget in an outline. -/
def Node.line (n : Node) (depth : Nat) : List Char :=
  n.title depth ++ n.widget.summary.toList ++ (n.about.events.toList.map Outline.word).flatMap (' ' :: ·)

namespace Node

open Outline

variable {n : Node}

theorem toList_outline (n : Node) (depth : Nat) : (n.outline depth).toList = n.line depth ++ ['\n'] := by
  have hwords : (String.join (n.about.events.toList.map fun e => " &" ++ e.1.name ++ "=" ++ e.2)).toList =
      (n.about.events.toList.map word).flatMap (' ' :: ·) := by
    rw [String.toList_join, List.flatMap_map, List.flatMap_map]
    refine List.flatMap_congr fun b _ => ?_
    simp [word, Marker.written_event]
  simp only [outline, line, title, String.toList_append, String.toList_ofList, hwords]
  rfl

theorem Legible.isName_of_mem (h : n.Legible) : ∀ b ∈ n.about.events.toList, IsName b.2 := by
  intro b hb
  exact h.responder b.1 b.2 (Bindings.mem_toList.1 hb)

theorem Legible.sealed_title (h : n.Legible) (depth : Nat) : Sealed (n.title depth) := by
  have hkind := Marker.isName_kindName n.widget
  unfold title
  cases hid : n.about.id with
  | none =>
    rw [Option.map_none, Option.getD_none, String.toList_empty, List.append_nil]
    refine sealed_of_word _ _ ?_ hkind.oneWord.1 fun hhead => ?_
    · cases depth with
      | zero => exact .inl rfl
      | succ depth => exact .inr (by simp [List.getLast?_replicate])
    · cases hkind.2 '&' (List.mem_of_head? hhead)
  | some name =>
    have hname := (h.id name hid).oneWord.1
    have hsealed := sealed_of_word (List.replicate (2 * depth) ' ' ++ n.widget.kindName.toList ++ [' '])
      ('#' :: name.toList) (.inr List.getLast?_concat) (by simp [hname]) (by simp)
    simpa using hsealed

/-- Whatever the widget says, it cannot be taken for a binding. -/
theorem Legible.sealed_summary (h : n.Legible) (depth : Nat) : Sealed (n.title depth ++ n.widget.summary.toList) := by
  obtain ⟨w, about⟩ := n
  have hsays := w.says_summary
  dsimp only
  generalize w.summary = summary at hsays ⊢
  cases hsays with
  | nothing =>
    rw [String.toList_empty, List.append_nil]
    exact h.sealed_title depth
  | @label _ s _ =>
    have hsealed := sealed_of_end (title ⟨w, about⟩ depth ++ ' ' :: '[' :: s.toList) (c := ']') (by decide) (by decide)
    simpa using hsealed
  | text s =>
    have hsealed := sealed_of_end (title ⟨w, about⟩ depth ++ ' ' :: '"' :: s.toList.flatMap Text.quoteChar) (c := '"')
      (by decide) (by decide)
    simpa [Text.quoted, Text.quote] using hsealed
  | @style normal focus names child name hname =>
    have hspace := (h.style normal focus names child rfl name hname).1
    have hsealed := sealed_of_word (title ⟨.wrapper (.styled normal focus names) child, about⟩ depth ++ [' '])
      ('@' :: name.toList) (.inr List.getLast?_concat) (by simp [hspace]) (by simp)
    simpa using hsealed

/-- What stands at the end of a line are the bindings of its widget. -/
theorem Legible.bindings_line (h : n.Legible) (depth : Nat) : bindings (n.line depth) = n.about.events.toList :=
  Outline.bindings_line (h.sealed_summary depth) h.isName_of_mem

theorem Legible.not_mem_summary (h : n.Legible) : '\n' ∉ n.widget.summary.toList := by
  obtain ⟨w, about⟩ := n
  have hsays := w.says_summary
  dsimp only
  generalize w.summary = summary at hsays ⊢
  cases hsays with
  | nothing => exact List.not_mem_nil
  | label hlabel => simpa using h.label _ hlabel
  | text s => simpa [Text.quoted] using Text.not_mem_quote s.toList
  | style hname => simpa using (h.style _ _ _ _ rfl _ hname).2

/-- Nothing that a widget is, says or is called breaks its line. -/
theorem Legible.not_mem_line (h : n.Legible) (depth : Nat) : '\n' ∉ n.line depth := by
  have hid : '\n' ∉ ((n.about.id.map (" #" ++ ·)).getD "").toList := by
    cases hid : n.about.id with
    | none => exact List.not_mem_nil
    | some name => simpa using (h.id name hid).oneWord.2
  have hwords : '\n' ∉ (n.about.events.toList.map word).flatMap (' ' :: ·) := by
    rw [List.flatMap_map, List.mem_flatMap]
    rintro ⟨b, hb, hfeed⟩
    have hword : '\n' ∉ word b := not_mem_word (by decide) (by decide) (by decide) (h.isName_of_mem b hb)
    exact hword (List.mem_of_ne_of_mem (by decide) hfeed)
  have hindent : '\n' ∉ List.replicate (2 * depth) ' ' := fun hfeed => by cases List.eq_of_mem_replicate hfeed
  have hkind := (Marker.isName_kindName n.widget).oneWord.2
  simp only [line, title, List.mem_append, not_or]
  exact ⟨⟨⟨⟨hindent, hkind⟩, hid⟩, h.not_mem_summary⟩, hwords⟩

/-- The line is indented by twice the depth. -/
theorem takeWhile_line (n : Node) (depth : Nat) :
    (n.line depth).takeWhile (· = ' ') = List.replicate (2 * depth) ' ' := by
  obtain ⟨hne, hkind⟩ := Marker.isName_kindName n.widget
  obtain ⟨c, cs, hcs⟩ := List.exists_cons_of_ne_nil hne
  have hc : c ≠ ' ' := by
    rintro rfl
    cases hkind ' ' (hcs ▸ List.mem_cons_self)
  simp only [line, title, hcs, List.append_assoc, List.cons_append]
  rw [List.takeWhile_append_of_pos fun a ha => decide_eq_true (List.eq_of_mem_replicate ha),
    List.takeWhile_cons_of_neg (by simpa using hc), List.append_nil]

end Node

/-! ## The outline of a form -/

namespace Form

variable {description : String} {palette : Palette} {strings : StringTable} {f : Form}

/-- The widgets in the order of the outline, each with its depth. -/
def outlineRows (f : Form) : List (Nat × Nat) :=
  (f.header.toList ++ f.root :: f.footer.toList).flatMap f.tree.outlineRows

/-- The outline of the form has these rows, each with its depth and its widget. -/
structure Outlined (f : Form) (rows : List (Nat × Nat)) : Prop where
  lines : Text.splitOn (· = '\n') f.outline.toList = rows.map (fun r => (f.tree.node r.2).line r.1) ++ [[]]
  once : (rows.map Prod.snd).Perm (List.range f.tree.size)
  indented : ∀ r ∈ rows, ((f.tree.node r.2).line r.1).takeWhile (· = ' ') = List.replicate (2 * r.1) ' '
  depth : ∀ r ∈ rows, ∃ top ∈ f.tops, ∃ way, f.tree.Way top way r.2 ∧ way.length = r.1
  nests : f.tree.Nests rows
  bindings : ((Text.splitOn (· = '\n') f.outline.toList).flatMap Outline.bindings).Perm f.bindings

theorem toList_outline (f : Form) :
    f.outline.toList = (f.outlineRows.map fun r => (f.tree.node r.2).line r.1).flatMap (· ++ ['\n']) := by
  have hlines : f.outlineLines = f.outlineRows.map fun r => (f.tree.node r.2).outline r.1 := by
    have htop (top : Option Nat) : (top.map f.tree.outline).getD [] = top.toList.flatMap f.tree.outline := by
      cases top <;> simp
    have htree : f.tree.outline = fun top => (f.tree.outlineRows top).map fun r => (f.tree.node r.2).outline r.1 :=
      funext f.tree.outline_eq
    rw [outlineLines, htop, htop, htree, outlineRows, List.map_flatMap, List.flatMap_append, List.flatMap_cons,
      List.append_assoc]
  rw [outline, hlines, String.toList_join, List.flatMap_map, List.flatMap_map]
  exact List.flatMap_congr fun r _ => Node.toList_outline _ _

theorem bindings_eq (f : Form) :
    f.bindings = (List.range f.tree.size).flatMap fun id => (f.tree.about id).events.toList := by
  have hnodes : f.tree.nodes.toList = (List.range f.tree.size).map f.tree.node := by
    refine List.ext_getElem (by simp [Tree.size]) fun id hid _ => ?_
    rw [Array.length_toList] at hid
    simp [Tree.node, hid]
  rw [bindings, hnodes, List.flatMap_map]
  rfl

theorem outlined (hforest : f.tree.Forest f.tops) (hlegible : f.tree.Legible) : f.Outlined f.outlineRows := by
  have htops : (f.header.toList ++ f.root :: f.footer.toList).Perm f.tops := List.perm_middle
  have honce : (f.outlineRows.map Prod.snd).Perm (List.range f.tree.size) := by
    rw [outlineRows, List.map_flatMap]
    simp only [Tree.map_snd_outlineRows]
    exact (htops.flatMap_right _).trans hforest.perm_flatMap_walk
  have hlines : Text.splitOn (· = '\n') f.outline.toList =
      f.outlineRows.map (fun r => (f.tree.node r.2).line r.1) ++ [[]] := by
    rw [toList_outline]
    exact Text.splitOn_lines (List.forall_mem_map.2 fun r _ => (hlegible r.2).not_mem_line r.1)
  refine ⟨hlines, honce, fun r _ => Node.takeWhile_line _ _, ?depth, ?nests, ?bindings⟩
  case depth =>
    intro r hr
    obtain ⟨top, htop, hr⟩ := List.mem_flatMap.1 hr
    obtain ⟨way, hway, hdepth⟩ := Tree.way_of_mem_outlineRowsWithin hr
    exact ⟨top, htops.mem_iff.1 htop, way, hway, by omega⟩
  case nests =>
    refine Tree.Nests.flatMap fun top htop => ?_
    have hlt : top < f.tree.size := hforest.mem_iff.1 (.inr (htops.mem_iff.1 htop))
    exact Tree.nests_outlineRowsWithin hforest.ordered hlt
  case bindings =>
    have hread : (f.outlineRows.map fun r => (f.tree.node r.2).line r.1).flatMap Outline.bindings =
        (f.outlineRows.map Prod.snd).flatMap fun id => (f.tree.about id).events.toList := by
      rw [List.flatMap_map, List.flatMap_map]
      exact List.flatMap_congr fun r _ => (hlegible r.2).bindings_line r.1
    have hlast : [[]].flatMap Outline.bindings = [] := rfl
    rw [hlines, List.flatMap_append, hread, hlast, List.append_nil, bindings_eq]
    exact honce.flatMap_right _

/-- Whatever the form is used for, its widgets stay in their places. -/
theorem outlineRows_use (f : Form) (u : FormUse) : (f.use u).outlineRows = f.outlineRows := by
  rw [outlineRows, use_eq, outlineRows]
  exact List.flatMap_congr fun top _ => Tree.outlineRows_of_fixed (f.fixed_use u) top

theorem forest_use (h : f.tree.Forest f.tops) (u : FormUse) : (f.use u).tree.Forest (f.use u).tops := by
  have htops : (f.use u).tops = f.tops := by
    rw [use_eq]
    rfl
  rw [htops]
  exact h.of_fixed (f.fixed_use u)

/-- An outline has one line for each widget, whatever the form was used for, and its lines stay in their order. -/
theorem outlines_widgets (h : parse description palette strings = .ok f) :
    ∃ rows, ∀ uses : List FormUse, (uses.foldl use f).Outlined rows := by
  refine ⟨f.outlineRows, fun uses => ?_⟩
  have hlegible := parse_legible h
  obtain ⟨_, hspans, -⟩ := parse_poised h
  have hforest := hspans.forest
  clear hspans h
  -- Each use keeps the forest and what can be written on a line, and it keeps the rows.
  induction uses generalizing f with
  | nil => exact outlined hforest hlegible
  | cons u uses ih =>
    rw [← outlineRows_use f u]
    exact ih (hlegible.of_fixed (f.fixed_use u)) (forest_use hforest u)

/-- A text that looks like a line with a binding adds neither. -/
theorem outlines_widgets_quoted : ∃ f g : Form, ∃ rows,
    parse "Hdr Title\nPle #p\nTxt Hi args:#hi\nBtn [Go] #go &press=run\nEnd"
      (.ofLayer ⟨[⟨"Button", .color .white, .color .black, .terminal⟩]⟩) {} = .ok f ∧
    f.use (.setText "hi" "a\nButton &press=x") = g ∧ f.Outlined rows ∧ g.Outlined rows ∧
    g.outline = "Text \"Title\"\nListBox\n  Pile #p\n    Text #hi \"a\\nButton &press=x\"\n" ++
      "    AttrMap @Button\n      Button #go [Go] &press=run\n" ∧ g.bindings = [(.press, "run")] := by
  let description := "Hdr Title\nPle #p\nTxt Hi args:#hi\nBtn [Go] #go &press=run\nEnd"
  let palette := Palette.ofLayer ⟨[⟨"Button", .color .white, .color .black, .terminal⟩]⟩
  let f := ((parse description palette {}).toOption).getD default
  have hf : parse description palette {} = .ok f := by decide +kernel
  obtain ⟨rows, h⟩ := outlines_widgets hf
  exact ⟨f, f.use (.setText "hi" "a\nButton &press=x"), rows, hf, rfl, h [],
    h [.setText "hi" "a\nButton &press=x"], by decide +kernel, by decide +kernel⟩

end Form

end ScreenForm
