import ScreenForm.Proofs.Description.Fault
import ScreenForm.Style.Palette

/-!
# Layers of palette text

Layers that are read from texts, one above the other, answer like the one layer that is read from the lines
of all of them, those of the bottom text first. Two facts carry this: a layer gives the last rule of a name
in its text, and a palette the one of the topmost layer that has one.
-/

namespace ScreenForm

open Text

/-! ## Lines of palette text -/

namespace Text

variable {c : Char}

theorem trim_append_blank (hc : isBlank c = true) (cs : List Char) : trim (cs ++ [c]) = trim cs := by
  have hstart : trimStart (cs ++ [c]) = if (trimStart cs).isEmpty then [] else trimStart cs ++ [c] := by
    simp [trimStart, List.dropWhile_append, hc]
  rw [trim, trim, hstart]
  split
  · next h => rw [List.isEmpty_iff.1 h]
  · simp [trimEnd, hc]

end Text

namespace Layer

/-- A carriage return at the end of a line is a part of its margin. -/
theorem normalized_dropReturn (raw : List Char) : normalized (dropReturn raw) = normalized raw := by
  unfold dropReturn
  split
  · next h =>
    obtain ⟨init, rfl⟩ := List.getLast?_eq_some_iff.1 h
    simp [normalized, trim_append_blank (show isBlank '\r' = true from rfl)]
  · rfl

/-- The lines of a palette text that are not blank, without tabs and margins. -/
def written (text : String) : List (List Char) :=
  ((splitOn (· = '\n') text.toList).map normalized).filter (!·.isEmpty)

theorem written_lines (text : String) :
    ((lines text.toList).map normalized).filter (!·.isEmpty) = written text := by
  obtain ⟨init, last, hpieces⟩ :=
    (splitOn (· = '\n') text.toList).eq_nil_or_concat.resolve_left (splitOn_ne_nil _ _)
  have hinit : (init.map dropReturn).map normalized = init.map normalized := by
    simp only [List.map_map, Function.comp_def, normalized_dropReturn]
  -- An empty line at the end is left out, and it would be a blank one.
  have hlast : (([last].filter (!·.isEmpty)).map normalized).filter (!·.isEmpty) =
      [normalized last].filter (!·.isEmpty) := by
    cases last <;> rfl
  rw [written, lines, hpieces, List.concat_eq_append, List.dropLast_concat, List.getLastD_concat,
    List.map_append, List.filter_append, hinit, hlast, List.map_append, List.filter_append, List.map_singleton]

/-- The lines of texts that are joined are the lines of the first text, then those of the second, and so on. -/
theorem written_joined (texts : List String) : written ("\n".intercalate texts) = texts.flatMap written := by
  cases texts with
  | nil => rfl
  | cons text rest =>
    induction rest generalizing text with
    | nil => simp [written]
    | cons next rest ih =>
      have hcut : splitOn (· = '\n') ("\n".intercalate (text :: next :: rest)).toList =
          splitOn (· = '\n') text.toList ++ splitOn (· = '\n') ("\n".intercalate (next :: rest)).toList := by
        simp only [String.toList_intercalate, List.map_cons, List.intercalate_cons_cons]
        rw [List.append_assoc]
        exact splitOn_append (by decide) ..
      rw [List.flatMap_cons, ← ih, written, hcut, List.map_append, List.filter_append]
      rfl

/-! ## Rules of a text -/

/-- The rules of a palette text in their order, when all of its lines can be read. -/
def rules? (text : String) : Option (List Rule) :=
  (written text).mapM fun cs => (ruleOf 0 cs).toOption

/-- The last of the rules with a name. -/
def lastNamed? (rules : List Rule) (name : String) : Option Rule :=
  rules.reverse.find? (·.name = name)

theorem lastNamed?_append (low high : List Rule) (name : String) :
    lastNamed? (low ++ high) name = (lastNamed? high name).or (lastNamed? low name) := by
  rw [lastNamed?, List.reverse_append, List.find?_append]
  rfl

theorem find?_foldl_insert (rules : List Rule) (l : Layer) (name : String) :
    (rules.foldl insert l).find? name = (lastNamed? rules name).or (l.find? name) := by
  induction rules generalizing l with
  | nil => rfl
  | cons r rules ih =>
    rw [List.foldl_cons, ih, find?_insert, ← List.singleton_append, lastNamed?_append, Option.or_assoc]
    by_cases hr : r.name = name <;> simp [lastNamed?, hr]

theorem codes_line {n : Nat} {fields : List Char} {found : List Code} (h : codes n fields = .ok found) (m : Nat) :
    codes m fields = .ok found := by
  unfold codes at h ⊢
  generalize wordsBy (fun c => c = ',' || isBlank c) fields = words at h ⊢
  induction words generalizing found with
  | nil => exact h
  | cons word words ih =>
    rw [List.mapM_cons] at h ⊢
    obtain ⟨code, hcode, h⟩ := Except.bind_eq_ok.1 h
    obtain ⟨rest, hrest, h⟩ := Except.bind_eq_ok.1 h
    refine Except.bind_eq_ok.2 ⟨code, ?_, Except.bind_eq_ok.2 ⟨rest, ih hrest, h⟩⟩
    cases hname : Code.ofName? (String.ofList word) with
    | none => simp [hname] at hcode
    | some _ => simpa [hname] using hcode

/-- Whether a rule can be read does not depend on the number of its line, which is for errors. -/
theorem ruleOf_line {n : Nat} {cs : List Char} {r : Rule} (h : ruleOf n cs = .ok r) (m : Nat) :
    ruleOf m cs = .ok r := by
  unfold ruleOf at h ⊢
  cases hcut : splitOnce ':' cs with
  | none => simp [hcut] at h
  | some cut =>
    rw [hcut] at h
    dsimp only at h ⊢
    split at h
    · cases h
    · next hname =>
      rw [if_neg hname]
      obtain ⟨found, hfound, h⟩ := Except.bind_eq_ok.1 h
      refine Except.bind_eq_ok.2 ⟨found, codes_line hfound m, ?_⟩
      split at h
      · exact h
      · cases h

theorem toOption_ruleOf {n : Nat} {cs : List Char} {r : Rule} :
    (ruleOf 0 cs).toOption = some r ↔ ruleOf n cs = .ok r := by
  constructor
  · intro h
    cases hr : ruleOf 0 cs with
    | error e => simp [hr, Except.toOption] at h
    | ok r' =>
      obtain rfl : r' = r := by simpa [hr, Except.toOption] using h
      exact ruleOf_line hr n
  · intro h
    rw [ruleOf_line h 0]
    rfl

theorem foldlM_addLine {numbered : List (List Char × Nat)} {l l' : Layer} :
    numbered.foldlM addLine l = .ok l' ↔
      ∃ rules, (((numbered.map Prod.fst).map normalized).filter (!·.isEmpty)).mapM
        (fun cs => (ruleOf 0 cs).toOption) = some rules ∧ rules.foldl insert l = l' := by
  induction numbered generalizing l with
  | nil => simp [pure, Except.pure]
  | cons first numbered ih =>
    obtain ⟨raw, n⟩ := first
    rw [List.foldlM_cons, List.map_cons, List.map_cons, addLine]
    by_cases hblank : (normalized raw).isEmpty = true
    · rw [List.filter_cons_of_neg (by simpa using hblank)]
      dsimp only
      rw [if_pos hblank]
      exact ih
    · rw [List.filter_cons_of_pos (by simpa using hblank), List.mapM_cons]
      dsimp only
      rw [if_neg hblank]
      constructor
      · intro h
        obtain ⟨b, hb, h⟩ := Except.bind_eq_ok.1 h
        obtain ⟨r, hr, rfl⟩ := Except.map_eq_ok.1 hb
        obtain ⟨rules, hrules, hfold⟩ := ih.1 h
        exact ⟨r :: rules, by rw [toOption_ruleOf.2 hr, hrules]; rfl, hfold⟩
      · rintro ⟨all, hall, hfold⟩
        obtain ⟨r, hr, hall⟩ := Option.bind_eq_some_iff.1 hall
        obtain ⟨rules, hrules, hall⟩ := Option.bind_eq_some_iff.1 hall
        cases hall
        refine Except.bind_eq_ok.2 ⟨l.insert r, ?_, ih.2 ⟨rules, hrules, hfold⟩⟩
        rw [toOption_ruleOf.1 hr]
        rfl

/-- A palette text can be read when all of its rules can be, and gives them in their order. -/
theorem parse_eq_ok {text : String} {l : Layer} :
    parse text = .ok l ↔ ∃ rules, rules? text = some rules ∧ rules.foldl insert {} = l := by
  rw [parse, foldlM_addLine, List.zipIdx_map_fst, written_lines]
  rfl

/-- The last rule of a name wins. -/
theorem find?_of_parse {text : String} {l : Layer} {rules : List Rule} (h : parse text = .ok l)
    (hrules : rules? text = some rules) (name : String) : l.find? name = lastNamed? rules name := by
  obtain ⟨rules', hrules', rfl⟩ := parse_eq_ok.1 h
  obtain rfl : rules' = rules := Option.some.inj (hrules'.symm.trans hrules)
  rw [find?_foldl_insert]
  exact Option.or_none

theorem rules?_joined {texts : List String} {rules : List (List Rule)} (h : texts.mapM rules? = some rules) :
    rules? ("\n".intercalate texts) = some rules.flatten := by
  rw [rules?, written_joined]
  induction texts generalizing rules with
  | nil =>
    cases h
    rfl
  | cons text texts ih =>
    rw [List.mapM_cons] at h
    obtain ⟨first, hfirst, h⟩ := Option.bind_eq_some_iff.1 h
    obtain ⟨rest, hrest, h⟩ := Option.bind_eq_some_iff.1 h
    cases h
    rw [List.flatMap_cons, List.mapM_append, ih hrest, List.flatten_cons]
    exact Option.bind_eq_some_iff.2 ⟨first, hfirst, rfl⟩

end Layer

/-! ## Layers -/

namespace Palette

/-- The two palettes give the same answers. -/
structure Alike (p q : Palette) : Prop where
  find? : ∀ name, p.find? name = q.find? name
  contains : ∀ name, p.contains name = q.contains name
  firstKnown? : ∀ names, p.firstKnown? names = q.firstKnown? names
  resolve : ∀ names, p.resolve names = q.resolve names
  style : ∀ name, p.style name = q.style name

/-- All that a palette answers comes from the rules that it finds. -/
theorem Alike.of_find? {p q : Palette} (h : ∀ name, p.find? name = q.find? name) : p.Alike q := by
  have hcontains (name : String) : p.contains name = q.contains name := congrArg Option.isSome (h name)
  have hknown (names : List String) : p.firstKnown? names = q.firstKnown? names :=
    congrArg (names.find? ·) (funext hcontains)
  refine ⟨h, hcontains, hknown, fun names => ?_, fun name => ?_⟩
  · simp only [Palette.resolve, hknown]
  · simp only [Palette.style, funext h]

theorem find?_foldl_addLayer (p : Palette) (above : List Layer) (name : String) :
    (above.foldl addLayer p).find? name = (above.reverse.findSome? (·.find? name)).or (p.find? name) := by
  induction above generalizing p with
  | nil => rfl
  | cons l above ih =>
    rw [List.foldl_cons, ih, find?_addLayer, List.reverse_cons, List.findSome?_append, Option.or_assoc]
    simp

/-- The topmost layer that has a rule of a name is the last text that has one. -/
theorem findSome?_of_parse {texts : List String} {layers : List Layer}
    (h : List.Forall₂ (fun text l => Layer.parse text = .ok l) texts layers) :
    ∃ rules, texts.mapM Layer.rules? = some rules ∧
      ∀ name, layers.reverse.findSome? (·.find? name) = Layer.lastNamed? rules.flatten name := by
  induction h with
  | nil => exact ⟨[], rfl, fun _ => rfl⟩
  | @cons text l texts layers hparse _ ih =>
    obtain ⟨first, hfirst, -⟩ := Layer.parse_eq_ok.1 hparse
    obtain ⟨rest, hrest, hfind⟩ := ih
    refine ⟨first :: rest, ?_, fun name => ?_⟩
    · rw [List.mapM_cons, hfirst, hrest]
      rfl
    · rw [List.reverse_cons, List.findSome?_append, hfind, List.flatten_cons, Layer.lastNamed?_append,
        ← Layer.find?_of_parse hparse hfirst]
      simp

/-- Layers answer like the one layer of their texts joined, the bottom one first: a rule goes before the
earlier ones of its name in its own text and before all of that name in the layers below. -/
theorem alike_joined {bottom : String} {above : List String} {low : Layer} {high : List Layer}
    (hlow : Layer.parse bottom = .ok low)
    (hhigh : List.Forall₂ (fun text l => Layer.parse text = .ok l) above high) :
    ∃ joined, Layer.parse ("\n".intercalate (bottom :: above)) = .ok joined ∧
      (high.foldl addLayer (ofLayer low)).Alike (ofLayer joined) ∧
      ∃ rules, (bottom :: above).mapM Layer.rules? = some rules ∧
        ∀ name, (high.foldl addLayer (ofLayer low)).find? name = Layer.lastNamed? rules.flatten name := by
  obtain ⟨rules, hrules, hfind⟩ := findSome?_of_parse (.cons hlow hhigh)
  have hjoined := Layer.rules?_joined hrules
  have hparse := Layer.parse_eq_ok.2 ⟨rules.flatten, hjoined, rfl⟩
  have hchain (name : String) :
      (high.foldl addLayer (ofLayer low)).find? name = Layer.lastNamed? rules.flatten name := by
    rw [← hfind, find?_foldl_addLayer, List.reverse_cons, List.findSome?_append]
    rfl
  refine ⟨_, hparse, .of_find? fun name => ?_, rules, hrules, hchain⟩
  rw [hchain, ← Layer.find?_of_parse hparse hjoined, Palette.find?]
  simp [ofLayer]

/-- The upper text gives the focused button twice and leaves the other rules to the lower one. -/
theorem alike_joined_focused :
    ∃ low high joined, Layer.parse "Button : WH, DB, _\nButton* : BL, WH, BO" = .ok low ∧
      Layer.parse "Button* : DR, _, _\n\nButton*: YL, _, UL\r\n" = .ok high ∧
      Layer.parse ("\n".intercalate ["Button : WH, DB, _\nButton* : BL, WH, BO",
        "Button* : DR, _, _\n\nButton*: YL, _, UL\r\n"]) = .ok joined ∧
      ([high].foldl addLayer (ofLayer low)).Alike (ofLayer joined) ∧
      ([high].foldl addLayer (ofLayer low)).find? "Button*" =
        some ⟨"Button*", .color .lightYellow, .terminal, .font { underlined := true }⟩ ∧
      ([high].foldl addLayer (ofLayer low)).resolve ["Button"] = some ⟨some "Button", some "Button*"⟩ := by
  have hlow : Layer.parse "Button : WH, DB, _\nButton* : BL, WH, BO" = .ok
      ⟨[⟨"Button", .color .white, .color .blue, .terminal⟩,
        ⟨"Button*", .color .black, .color .white, .font { bold := true }⟩]⟩ := by decide +kernel
  have hhigh : Layer.parse "Button* : DR, _, _\n\nButton*: YL, _, UL\r\n" = .ok
      ⟨[⟨"Button*", .color .lightYellow, .terminal, .font { underlined := true }⟩]⟩ := by decide +kernel
  obtain ⟨joined, hjoined, halike, -⟩ := alike_joined hlow (.cons hhigh .nil)
  exact ⟨_, _, joined, hlow, hhigh, hjoined, halike, by decide +kernel, by decide +kernel⟩

end Palette

end ScreenForm
