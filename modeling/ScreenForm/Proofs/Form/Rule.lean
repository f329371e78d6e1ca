import ScreenForm.Proofs.Description.Rule
import ScreenForm.Proofs.Description.Template
import ScreenForm.Proofs.Form.Structure
/-!
# Dividers in short and in full, in a description

Two lines that add the same wherever they stand make the same form of any
description (`Form.parse_line_congr`). A divider in short and the same divider in
full are such lines, unless the run is three characters long and the data begin
with a fourth one (`Form.parse_short_iff_full`).
-/

namespace ScreenForm

open Description Template

variable {c : Char} {ms : List Marker} {k d line line' : List Char} {n : Nat} {a a' : Assembly} {i : Nat}

/-! ## One line -/

namespace Assembly

theorem addLine_rule {raw data : List Char} (h : Line.parse i raw = .ok (.rule c data)) (a : Assembly) :
    a.addLine (raw, i) = a.addRead (Leaf.rule i c data) i := by
  rw [addLine, h]
  rfl

theorem addLine_divider {raw data : List Char} (h : Line.parse i raw = .ok (.command .divider data)) (a : Assembly) :
    a.addLine (raw, i) = a.addRead (Leaf.divider i data) i := by
  rw [addLine, h]
  rfl

theorem addRead_eq_ok_iff {read : Except SyntaxError Leaf} :
    a.addRead read i = .ok a' ↔ ∃ leaf, read = .ok leaf ∧ a.addLeaf leaf i = .ok a' := by
  rw [addRead, Except.bind_eq_ok]
  simp only [liftError_eq_ok]

end Assembly

/-! ## One line of a description -/

namespace Form

/-- Between these texts there is room for a line. -/
def Surrounds (before after : List Char) : Prop :=
  (before = [] ∨ before.getLast? = some '\n') ∧ (after = [] ∨ after.head? = some '\n')

variable {before after : List Char} {palette : Palette} {strings : StringTable} {f : Form}

/-- The other lines are the same, whichever line stands between them. -/
theorem Surrounds.splitOn (h : Surrounds before after) :
    ∃ above below, Text.splitOn (· = '\n') before = above ++ [[]] ∧ ∀ line, '\n' ∉ line →
      Text.splitOn (· = '\n') (before ++ (line ++ after)) = above ++ line :: below := by
  obtain ⟨hbefore, hafter⟩ := h
  have hbelow : ∃ below, ∀ line, '\n' ∉ line → Text.splitOn (· = '\n') (line ++ after) = line :: below := by
    obtain rfl | hafter := hafter
    · exact ⟨[], fun line h => by rw [List.append_nil, Text.splitOn_of_not_mem h]⟩
    · obtain ⟨rest, rfl⟩ : ∃ rest, after = '\n' :: rest := ⟨after.tail, List.eq_cons_of_mem_head? hafter⟩
      refine ⟨Text.splitOn (· = '\n') rest, fun line h => ?_⟩
      rw [Text.splitOn_append (by decide), Text.splitOn_of_not_mem h, List.singleton_append]
  obtain ⟨below, hbelow⟩ := hbelow
  obtain rfl | hbefore := hbefore
  · exact ⟨[], below, rfl, hbelow⟩
  · obtain ⟨rest, rfl⟩ : ∃ rest, before = rest ++ ['\n'] := List.getLast?_eq_some_iff.1 hbefore
    refine ⟨Text.splitOn (· = '\n') rest, below, Text.splitOn_append (by decide) rest [], fun line h => ?_⟩
    rw [List.append_assoc, List.singleton_append, Text.splitOn_append (by decide), hbelow line h]

/-- Lines that add the same at every place make the same form. -/
theorem parse_line_congr (h : Surrounds before after) (hline : '\n' ∉ line) (hline' : '\n' ∉ line')
    (hadd : ∀ a i a', Assembly.addLine a (line, i) = .ok a' ↔ Assembly.addLine a (line', i) = .ok a')
    {description description' : String} (htext : strings.substituteChars description.toList = .ok (before ++ (line ++ after)))
    (htext' : strings.substituteChars description'.toList = .ok (before ++ (line' ++ after))) :
    parse description palette strings = .ok f ↔ parse description' palette strings = .ok f := by
  obtain ⟨above, below, -, hsplit⟩ := h.splitOn
  have hfold : ∀ a a' : Assembly, (numberedLines (before ++ (line ++ after))).foldlM Assembly.addLine a = .ok a' ↔
      (numberedLines (before ++ (line' ++ after))).foldlM Assembly.addLine a = .ok a' := by
    intro a a'
    simp only [numberedLines, hsplit _ hline, hsplit _ hline', List.zipIdx_append, List.zipIdx_cons, List.foldlM_append,
      List.foldlM_cons, Except.bind_eq_ok, hadd]
  have hparse : ∀ {description : String} {text : List Char}, strings.substituteChars description.toList = .ok text →
      (parse description palette strings = .ok f ↔
        ∃ a, (numberedLines text).foldlM Assembly.addLine { palette, strings } = .ok a ∧ a.finish = .ok f) := by
    intro description text htext
    rw [parse, Except.bind_eq_ok]
    simp only [liftError_eq_ok, htext, Except.ok.injEq, exists_eq_left', Except.bind_eq_ok]
  rw [hparse htext, hparse htext']
  simp only [hfold]

/-! ## Before the strings are written -/

/-- A text without dollar signs stays as it is, between what the other texts become. -/
theorem substituteChars_between {ps : List Piece} (h : Reads before ps) (hps : Complete ps) (hdollar : '$' ∉ line)
    (strings : StringTable) (after : List Char) :
    strings.substituteChars (before ++ (line ++ after)) = do
      return (← strings.substituteChars before) ++ (line ++ (← strings.substituteChars after)) := by
  rw [StringTable.substituteChars_append h hps, StringTable.substituteChars_append (reads_plain hdollar) (complete_plain _),
    StringTable.substituteChars_of_reads (reads_plain hdollar), StringTable.values_plain]
  cases strings.substituteChars before <;> cases strings.substituteChars after <;>
    simp [bind, Except.bind, pure, Except.pure]

theorem Surrounds.substituteChars (h : Surrounds before after) {ps : List Piece} (hreads : Reads before ps)
    (hps : Complete ps) {before' after' : List Char} (hbefore : strings.substituteChars before = .ok before')
    (hafter : strings.substituteChars after = .ok after') : Surrounds before' after' := by
  obtain ⟨hroom, hroom'⟩ := h
  constructor
  · obtain rfl | hlast := hroom
    · rw [StringTable.substituteChars] at hbefore
      cases hbefore
      exact .inl rfl
    · obtain ⟨qs, rfl⟩ := List.getLast?_eq_some_iff.1 (hreads.getLast?_lineFeed hps hlast)
      rw [StringTable.substituteChars_of_reads hreads, StringTable.values_append] at hbefore
      obtain ⟨first, -, hbefore⟩ := Except.bind_eq_ok.1 hbefore
      cases hbefore
      exact .inr (List.getLast?_concat ..)
  · obtain rfl | hfirst := hroom'
    · rw [StringTable.substituteChars] at hafter
      cases hafter
      exact .inl rfl
    · obtain ⟨rest, rfl⟩ : ∃ rest, after = '\n' :: rest := ⟨after.tail, List.eq_cons_of_mem_head? hfirst⟩
      obtain ⟨qs, hqs⟩ := exists_reads rest
      rw [StringTable.substituteChars_of_reads (.plain (by decide) hqs), StringTable.values] at hafter
      obtain ⟨last, hvalue, hafter⟩ := Except.bind_eq_ok.1 hafter
      cases hvalue
      obtain ⟨last, -, hafter⟩ := Except.bind_eq_ok.1 hafter
      cases hafter
      exact .inr rfl

/-! ## Dividers -/

/-- A divider in short makes the same form as the one in full, where the run cannot take a part of the data. -/
theorem parse_short_iff_full (h : InFull c ms k d line) (hc : Text.isBlank c = false) (hsharp : c ≠ '#')
    (hn : 3 ≤ n) (hd : ∀ b, d.head? = some b → Text.isBlank b = true)
    (hthree : n = 3 → (Text.trimStart d).head? ≠ some c) :
    (∀ a i a', Assembly.addLine a (List.replicate n c ++ d, i) = .ok a' ↔ a.addLine (line, i) = .ok a') ∧
      (∀ a i a', Assembly.addLine a (List.replicate n c ++ d, i) = .ok a' → ∃ attributes args,
        attributes.Gathers ms ∧ Arguments.read k = .ok args ∧
        a.addLeaf ⟨.divider c "" ((args.nat? "top").getD 0) ((args.nat? "bottom").getD 0), attributes⟩ i = .ok a') ∧
      ∀ before after, Surrounds before after → '\n' ∉ d → '\n' ∉ line → ∀ palette strings f,
        (∀ description description',
          strings.substituteChars description.toList = .ok (before ++ (List.replicate n c ++ d ++ after)) →
          strings.substituteChars description'.toList = .ok (before ++ (line ++ after)) →
          (parse description palette strings = .ok f ↔ parse description' palette strings = .ok f)) ∧
        ∀ ps, Reads before ps → Complete ps → c ≠ '$' → '$' ∉ d → '$' ∉ line →
          (parse (String.ofList (before ++ (List.replicate n c ++ d ++ after))) palette strings = .ok f ↔
            parse (String.ofList (before ++ (line ++ after))) palette strings = .ok f) := by
  have hadd : ∀ a i a', Assembly.addLine a (List.replicate n c ++ d, i) = .ok a' ↔ a.addLine (line, i) = .ok a' := by
    intro a i a'
    obtain ⟨data, full, hdata, hfull, hleaf⟩ := h.reads hc hsharp hn hd hthree i
    rw [Assembly.addLine_rule hdata, Assembly.addLine_divider hfull, Assembly.addRead_eq_ok_iff,
      Assembly.addRead_eq_ok_iff]
    exact exists_congr fun leaf => and_congr_left' (hleaf leaf).1
  refine ⟨hadd, fun a i a' hshort => ?_, fun before after hroom hd hline palette strings f => ?_⟩
  · obtain ⟨data, full, hdata, -, hleaf⟩ := h.reads hc hsharp hn hd hthree i
    rw [Assembly.addLine_rule hdata, Assembly.addRead_eq_ok_iff] at hshort
    obtain ⟨leaf, hread, hadded⟩ := hshort
    obtain ⟨attributes, args, hattributes, hargs, rfl⟩ := (hleaf leaf).2 hread
    exact ⟨attributes, args, Attributes.gathers_addAll hattributes, hargs, hadded⟩
  have hshort : '\n' ∉ List.replicate n c ++ d := by
    rw [List.mem_append, List.mem_replicate]
    rintro (⟨-, rfl⟩ | h)
    · exact absurd hc (by decide)
    · exact hd h
  refine ⟨fun description description' htext htext' => parse_line_congr hroom hshort hline hadd htext htext', ?_⟩
  intro ps hps hcomplete hc' hd' hline'
  have hshort' : '$' ∉ List.replicate n c ++ d := by
    rw [List.mem_append, List.mem_replicate]
    rintro (⟨-, rfl⟩ | h)
    · exact hc' rfl
    · exact hd' h
  have htext := substituteChars_between hps hcomplete hshort' strings after
  have htext' := substituteChars_between hps hcomplete hline' strings after
  -- Where the texts around the line do not read, neither description makes a form.
  have hnone : ∀ {description : String} {e : RuntimeError}, strings.substituteChars description.toList = .error e →
      parse description palette strings ≠ .ok f := by
    intro description e herror hparse
    obtain ⟨text, _, htext, -⟩ := parse_ok hparse
    rw [herror] at htext
    cases htext
  cases hbefore : strings.substituteChars before with
  | error e =>
    rw [hbefore] at htext htext'
    exact iff_of_false (hnone (by rw [String.toList_ofList]; exact htext))
      (hnone (by rw [String.toList_ofList]; exact htext'))
  | ok before' =>
    cases hafter : strings.substituteChars after with
    | error e =>
      rw [hbefore, hafter] at htext htext'
      exact iff_of_false (hnone (by rw [String.toList_ofList]; exact htext))
        (hnone (by rw [String.toList_ofList]; exact htext'))
    | ok after' =>
      rw [hbefore, hafter] at htext htext'
      exact parse_line_congr (hroom.substituteChars hps hcomplete hbefore hafter) hshort hline hadd
        (by rw [String.toList_ofList]; exact htext) (by rw [String.toList_ofList]; exact htext')

theorem blanks_space : Blanks [' '] := List.all_eq_true.1 (by decide)

theorem fronts_shade : Marker.Fronts [] " @shade".toList [.style "shade"] := by
  have hname : (Marker.style "shade").Proper := ⟨by decide, List.all_eq_true.1 (by decide)⟩
  exact .cons blanks_space hname .nil

/-- A run of three after which the data begin with something else. -/
theorem parse_short_iff_full_shade :
    InFull '=' [.style "shade"] " top=1".toList " @shade top=1".toList "Dvd @shade '=' top=1".toList ∧
      ∃ f, parse "Txt Hi\n=== @shade top=1" {} {} = .ok f ∧ parse "Txt Hi\nDvd @shade '=' top=1" {} {} = .ok f := by
  have hfull : InFull '=' [.style "shade"] " top=1".toList " @shade top=1".toList "Dvd @shade '=' top=1".toList :=
    .intro fronts_shade (fun _ => by rintro _ ⟨⟩; decide) (by rintro _ ⟨⟩; exact ⟨.inl (by decide), rfl⟩) blanks_space
      (.inl rfl) (.plain (by decide) (by decide) .nil) (nofun : Blanks [])
  have hroom : Surrounds "Txt Hi\n".toList [] := ⟨.inr rfl, .inl rfl⟩
  have hshort : (parse "Txt Hi\n=== @shade top=1" {} {}).toOption.isSome = true := by decide +kernel
  obtain ⟨f, hf⟩ := Option.isSome_iff_exists.1 hshort
  rw [Except.toOption_eq_some] at hf
  refine ⟨hfull, f, hf, ?_⟩
  have hboth := (parse_short_iff_full (n := 3) hfull (by decide) (by decide) (by decide) (by rintro _ ⟨⟩; decide)
    (fun _ => by decide)).2.2 _ _ hroom (by decide) (by decide) {} {} f
  exact (hboth.1 "Txt Hi\n=== @shade top=1" "Txt Hi\nDvd @shade '=' top=1" (by decide +kernel) (by decide +kernel)).1 hf

/-- A marker whose sign is also the fill, after a run of three: the sign is left out, and its name is an argument that
no divider takes. -/
theorem parse_short_of_sign :
    let palette := Palette.ofLayer ((Layer.parse "shade : DC, Lg, BO").toOption.getD default)
    InFull '@' [.style "shade"] [] " @shade".toList "Dvd @shade '@'".toList ∧
      parse "@@@ @shade" palette {} = .error (.syntaxError (.unsupportedArgument "shade" "Divider" 1)) ∧
      ∃ f, parse "Dvd @shade '@'" palette {} = .ok f := by
  intro palette
  refine ⟨?_, by decide +kernel, ?_⟩
  · exact .intro fronts_shade (fun _ => by rintro _ ⟨⟩) (by rintro _ ⟨⟩) blanks_space (.inl rfl)
      (.plain (by decide) (by decide) .nil) (nofun : Blanks [])
  · have hfull : (parse "Dvd @shade '@'" palette {}).toOption.isSome = true := by decide +kernel
    obtain ⟨f, hf⟩ := Option.isSome_iff_exists.1 hfull
    exact ⟨f, Except.toOption_eq_some.1 hf⟩

end Form

end ScreenForm
