import Mathlib.Data.List.Forall2
import Mathlib.Data.List.Nodup
import Mathlib.Data.List.ReduceOption
import ScreenForm.Proofs.Style.Layering
import ScreenForm.Proofs.Text.Words
/-!
# The format of palette text

`Layer.Writes` says what a line of palette text can be, and `Layer.Faults` what is
wrong with any other one: each line is one or the other, and in one way only
(`Layer.read_eq_ok_iff`, `Layer.read_eq_error_iff`). A text is accepted when all of
its lines are, and refused for the first one that is not (`Layer.parse_accepts_format`).
-/

namespace ScreenForm

open Description (Blanks)

theorem Except.map_eq_error {ε α β : Type} {x : Except ε α} {f : α → β} {e : ε} :
    x.map f = .error e ↔ x = .error e := by
  cases x with
  | ok a => simp [Except.map]
  | error e' => simp [Except.map]

/-- If each of some things has a counterpart, there is a list of counterparts. -/
theorem forall_exists_iff_forall₂ {α β : Type} {R : α → β → Prop} {as : List α} :
    (∀ a ∈ as, ∃ b, R a b) ↔ ∃ bs, List.Forall₂ R as bs := by
  induction as with
  | nil => simp
  | cons a as ih =>
    rw [List.forall_mem_cons, ih]
    constructor
    · rintro ⟨⟨b, hb⟩, bs, hbs⟩
      exact ⟨b :: bs, .cons hb hbs⟩
    · rintro ⟨_, h⟩
      obtain ⟨b, bs, hb, hbs, -⟩ := List.forall₂_cons_left_iff.1 h
      exact ⟨⟨b, hb⟩, bs, hbs⟩

/-- The line of a palette text that the error is about. -/
def StyleError.line : StyleError → Nat
  | unknownCode _ line | fieldCount _ line | malformedRule _ line => line

/-! ## Codes -/

namespace Code

/-- The word is the code in the table. -/
def Spells (word : List Char) (code : Code) : Prop := (String.ofList word, code) ∈ table

/-- The word is in the table. -/
def Known (word : List Char) : Prop := ∃ code, Spells word code

variable {word : List Char} {words : List (List Char)} {code : Code} {codes : List Code} {n : Nat}

/-- No word is in the table twice. -/
theorem spells_iff : Spells word code ↔ ofName? (String.ofList word) = some code := by
  have htable : ∀ entry ∈ table, ofName? entry.1 = some entry.2 := by decide
  constructor
  · intro h
    exact htable _ h
  · intro h
    obtain ⟨before, after, heq, -⟩ := List.lookup_eq_some_iff.1 h
    rw [Spells, heq]
    simp

theorem not_known_iff : ¬ Known word ↔ ofName? (String.ofList word) = none := by
  simp only [Known, spells_iff, not_exists, Option.eq_none_iff_forall_ne_some, ne_eq]

end Code

namespace Layer

open Text

variable {raw fields name : List Char} {words : List (List Char)} {n : Nat} {r : Rule} {e : StyleError}

/-- The codes of the words, or the first word that is none. -/
def readCodes (n : Nat) (words : List (List Char)) : Except StyleError (List Code) :=
  words.mapM fun word =>
    match Code.ofName? (String.ofList word) with
    | some code => .ok code
    | none => .error (.unknownCode (String.ofList word) n)

theorem readCodes_of_spells {word : List Char} {code : Code} (h : Code.Spells word code) :
    readCodes n (word :: words) = (readCodes n words).map (code :: ·) := by
  rw [readCodes, List.mapM_cons, Code.spells_iff.1 h, ← readCodes]
  cases readCodes n words <;> rfl

theorem readCodes_of_not_known {word : List Char} (h : ¬ Code.Known word) :
    readCodes n (word :: words) = .error (.unknownCode (String.ofList word) n) := by
  rw [readCodes, List.mapM_cons, Code.not_known_iff.1 h]
  rfl

theorem readCodes_eq_ok_iff {codes : List Code} :
    readCodes n words = .ok codes ↔ List.Forall₂ Code.Spells words codes := by
  induction words generalizing codes with
  | nil =>
    rw [List.forall₂_nil_left_iff]
    exact ⟨fun h => by cases h; rfl, fun h => by rw [h]; rfl⟩
  | cons word words ih =>
    rw [List.forall₂_cons_left_iff]
    constructor
    · intro h
      by_cases hknown : Code.Known word
      · obtain ⟨code, hcode⟩ := hknown
        rw [readCodes_of_spells hcode] at h
        obtain ⟨rest, hrest, rfl⟩ := Except.map_eq_ok.1 h
        exact ⟨code, rest, hcode, ih.1 hrest, rfl⟩
      · rw [readCodes_of_not_known hknown] at h
        cases h
    · rintro ⟨code, rest, hcode, hrest, rfl⟩
      rw [readCodes_of_spells hcode, ih.2 hrest]
      rfl

/-- The first word that is no code is the error. -/
theorem readCodes_eq_error_iff : readCodes n words = .error e ↔ ∃ known word rest,
    words = known ++ word :: rest ∧ (∀ w ∈ known, Code.Known w) ∧ ¬ Code.Known word ∧
      e = .unknownCode (String.ofList word) n := by
  induction words with
  | nil => simp [readCodes, pure, Except.pure]
  | cons first words ih =>
    by_cases hfirst : Code.Known first
    · obtain ⟨code, hcode⟩ := hfirst
      rw [readCodes_of_spells hcode, Except.map_eq_error, ih]
      constructor
      · rintro ⟨known, word, rest, rfl, hknown, h⟩
        exact ⟨first :: known, word, rest, rfl, List.forall_mem_cons.2 ⟨⟨code, hcode⟩, hknown⟩, h⟩
      · rintro ⟨known, word, rest, heq, hknown, hword, rfl⟩
        rcases List.append_eq_cons_iff.1 heq.symm with ⟨rfl, heq⟩ | ⟨known, rfl, rfl⟩
        · cases heq
          exact absurd ⟨code, hcode⟩ hword
        · exact ⟨known, word, rest, rfl, (List.forall_mem_cons.1 hknown).2, hword, rfl⟩
    · rw [readCodes_of_not_known hfirst]
      constructor
      · rintro ⟨⟩
        exact ⟨[], first, words, rfl, List.forall_mem_nil _, hfirst, rfl⟩
      · rintro ⟨known, word, rest, heq, hknown, -, rfl⟩
        rcases List.append_eq_cons_iff.1 heq.symm with ⟨-, heq⟩ | ⟨known, rfl, -⟩
        · cases heq
          rfl
        · exact absurd (hknown first List.mem_cons_self) hfirst

/-! ## Lines -/

/-- What stands between the codes of a rule. -/
def isSeparator (c : Char) : Bool := c = ',' || isBlank c

/-- A line with its tabs turned into spaces. -/
def untabbed (raw : List Char) : List Char :=
  raw.map fun c => if c = '\t' then ' ' else c

/-- The line has this name before its first colon and these words after it. -/
inductive Divides (raw name : List Char) (words : List (List Char)) : Prop
  | intro {before after : List Char} (line : untabbed raw = before ++ ':' :: after) (first : ':' ∉ before)
      (name : Margins before name) (words : Words isSeparator words after)

/-- The line of palette text is blank, or it is this rule. -/
inductive Writes (raw : List Char) : Option Rule → Prop
  | blank (blank : Blanks raw) : Writes raw none
  | rule {name : List Char} {words : List (List Char)} {foreground background font : Code}
      (divides : Divides raw name words) (named : name ≠ [])
      (codes : List.Forall₂ Code.Spells words [foreground, background, font]) :
      Writes raw (some ⟨String.ofList name, foreground, background, font⟩)

/-- What is wrong with line `n` of a palette text: it has no colon or no name, or else one of its words is no
code, or else there are too few or too many of them. -/
inductive Faults (n : Nat) (raw : List Char) : StyleError → Prop
  | noColon {text : List Char} (written : ¬ Blanks raw) (margins : Margins (untabbed raw) text) (colon : ':' ∉ raw) :
      Faults n raw (.malformedRule (String.ofList text) n)
  | noName {text : List Char} {words : List (List Char)} (margins : Margins (untabbed raw) text)
      (divides : Divides raw [] words) : Faults n raw (.malformedRule (String.ofList text) n)
  | unknown {name word : List Char} {known rest : List (List Char)}
      (divides : Divides raw name (known ++ word :: rest)) (named : name ≠ []) (known : ∀ w ∈ known, Code.Known w)
      (unknown : ¬ Code.Known word) : Faults n raw (.unknownCode (String.ofList word) n)
  | count {name : List Char} {words : List (List Char)} (divides : Divides raw name words) (named : name ≠ [])
      (known : ∀ w ∈ words, Code.Known w) (count : words.length ≠ 3) : Faults n raw (.fieldCount words.length n)

/-- Reads line `n` of a palette text. -/
def read (n : Nat) (raw : List Char) : Except StyleError (Option Rule) :=
  if (normalized raw).isEmpty then .ok none else (ruleOf n (normalized raw)).map some

/-- The rule of this name with these codes, if there are three of them. -/
def ruleWith (n : Nat) (name : List Char) : List Code → Except StyleError Rule
  | [foreground, background, font] => .ok ⟨String.ofList name, foreground, background, font⟩
  | found => .error (.fieldCount found.length n)

theorem addLine_eq (l : Layer) (raw : List Char) (n : Nat) :
    l.addLine (raw, n) = (read n raw).map fun r => r.elim l l.insert := by
  unfold addLine read
  dsimp only
  split
  · rfl
  · cases ruleOf n (normalized raw) <;> rfl

theorem isEmpty_normalized : (normalized raw).isEmpty = true ↔ Blanks raw := by
  have huntabbed : Blanks (untabbed raw) ↔ Blanks raw := by
    simp only [Blanks, untabbed, List.forall_mem_map]
    refine forall₂_congr fun c _ => ?_
    split
    · next htab => rw [htab]; decide
    · rfl
  rw [List.isEmpty_iff, ← huntabbed, blanks_iff_trim_eq_nil]
  rfl

theorem colon_mem_untabbed : ':' ∈ untabbed raw ↔ ':' ∈ raw := by
  rw [untabbed, List.mem_map]
  constructor
  · rintro ⟨c, hc, heq⟩
    split at heq
    · cases heq
    · exact heq ▸ hc
  · intro h
    exact ⟨':', h, by decide⟩

/-- The margins of a line do not matter for where it is cut. -/
theorem splitOnce_normalized (raw : List Char) : splitOnce ':' (normalized raw) =
    (splitOnce ':' (untabbed raw)).map fun r => (trimStart r.1, trimEnd r.2) := by
  cases hcut : splitOnce ':' (untabbed raw) with
  | none =>
    rw [splitOnce_eq_none_iff] at hcut
    rw [Option.map_none, splitOnce_eq_none_iff]
    intro hmem
    obtain ⟨left, right, -, -, heq, -⟩ := margins_trim (untabbed raw)
    apply hcut
    rw [heq]
    exact List.mem_append_left _ (List.mem_append_right _ hmem)
  | some cut =>
    obtain ⟨before, after⟩ := cut
    obtain ⟨hbefore, heq⟩ := splitOnce_eq_some_iff.1 hcut
    rw [normalized, ← untabbed, heq, trim_around (by decide)]
    refine splitOnce_append ?_ _
    intro hmem
    exact hbefore ((List.dropWhile_suffix _).subset hmem)

theorem wordsBy_trimEnd (cs : List Char) : wordsBy isSeparator (trimEnd cs) = wordsBy isSeparator cs := by
  obtain ⟨gap, hgap, heq⟩ := Description.exists_blanks cs
  have hwords := wordsBy_eq_iff.1 (rfl : wordsBy isSeparator (trimEnd cs) = _)
  have hapart : ∀ c ∈ gap, isSeparator c = true := fun c hc => by simp [isSeparator, hgap c hc]
  have happended := hwords.append_gap hapart
  rw [← heq] at happended
  exact (wordsBy_eq_iff.2 happended).symm

theorem ruleWith_eq_error (name : List Char) {codes : List Code} (h : codes.length ≠ 3) :
    ruleWith n name codes = .error (.fieldCount codes.length n) := by
  unfold ruleWith
  split
  · exact absurd rfl h
  · rfl

theorem ruleOf_eq (n : Nat) (cs : List Char) : ruleOf n cs = match splitOnce ':' cs with
    | none => .error (.malformedRule (String.ofList cs) n)
    | some (before, after) =>
      if trim before = [] then .error (.malformedRule (String.ofList cs) n)
      else readCodes n (wordsBy isSeparator after) >>= ruleWith n (trim before) := by
  rw [ruleOf]
  cases splitOnce ':' cs with
  | none => rfl
  | some cut =>
    simp only [List.isEmpty_iff]
    rfl

/-- A line that is not blank is cut at its first colon. -/
theorem read_of_written (h : ¬ Blanks raw) (n : Nat) : read n raw = match splitOnce ':' (untabbed raw) with
    | none => .error (.malformedRule (String.ofList (normalized raw)) n)
    | some (before, after) =>
      if trim before = [] then .error (.malformedRule (String.ofList (normalized raw)) n)
      else (readCodes n (wordsBy isSeparator after) >>= ruleWith n (trim before)).map some := by
  rw [read, if_neg (by rwa [isEmpty_normalized]), ruleOf_eq, splitOnce_normalized]
  cases splitOnce ':' (untabbed raw) with
  | none => rfl
  | some cut =>
    obtain ⟨before, after⟩ := cut
    have hname : trim (trimStart before) = trim before := by rw [trim, trimStart_trimStart, ← trim]
    simp only [Option.map_some, hname, wordsBy_trimEnd]
    split <;> rfl

theorem divides_of_splitOnce {before after : List Char} (h : splitOnce ':' (untabbed raw) = some (before, after)) :
    Divides raw (trim before) (wordsBy isSeparator after) := by
  obtain ⟨hfirst, hline⟩ := splitOnce_eq_some_iff.1 h
  exact .intro hline hfirst (margins_trim before) (wordsBy_eq_iff.1 rfl)

/-- A line that is cut is read from its parts. -/
theorem Divides.read_eq (h : Divides raw name words) (n : Nat) : read n raw =
    if name = [] then .error (.malformedRule (String.ofList (normalized raw)) n)
    else (readCodes n words >>= ruleWith n name).map some := by
  obtain ⟨hline, hfirst, hname, hwords⟩ := h
  have hwritten : ¬ Blanks raw := by
    intro hblanks
    have hcolon : ':' ∈ raw := by
      rw [← colon_mem_untabbed, hline]
      simp
    exact absurd (hblanks _ hcolon) (by decide)
  rw [read_of_written hwritten, splitOnce_eq_some_iff.2 ⟨hfirst, hline⟩]
  dsimp only
  rw [hname.trim_eq, hwords.wordsBy_eq]

theorem Writes.read_eq {o : Option Rule} (h : Writes raw o) (n : Nat) : read n raw = .ok o := by
  cases h with
  | blank hblank => rw [read, if_pos (isEmpty_normalized.2 hblank)]
  | rule hdivides hnamed hcodes =>
    rw [hdivides.read_eq, if_neg hnamed, readCodes_eq_ok_iff.2 hcodes]
    rfl

theorem Faults.read_eq (h : Faults n raw e) : read n raw = .error e := by
  cases h with
  | noColon hwritten hmargins hcolon =>
    rw [read_of_written hwritten, splitOnce_eq_none_iff.2 (by rwa [colon_mem_untabbed]), ← hmargins.trim_eq]
    rfl
  | noName hmargins hdivides =>
    rw [hdivides.read_eq, if_pos rfl, ← hmargins.trim_eq]
    rfl
  | unknown hdivides hnamed hknown hunknown =>
    rw [hdivides.read_eq, if_neg hnamed, readCodes_eq_error_iff.2 ⟨_, _, _, rfl, hknown, hunknown, rfl⟩]
    rfl
  | count hdivides hnamed hknown hcount =>
    obtain ⟨codes, hcodes⟩ := forall_exists_iff_forall₂.1 hknown
    rw [hdivides.read_eq, if_neg hnamed, readCodes_eq_ok_iff.2 hcodes, hcodes.length_eq]
    rw [hcodes.length_eq] at hcount
    show Except.map some (ruleWith n _ codes) = _
    rw [ruleWith_eq_error _ hcount]
    rfl

theorem writes_or_faults (n : Nat) (raw : List Char) : (∃ o, Writes raw o) ∨ ∃ e, Faults n raw e := by
  by_cases hblank : Blanks raw
  · exact .inl ⟨none, .blank hblank⟩
  cases hcut : splitOnce ':' (untabbed raw) with
  | none =>
    rw [splitOnce_eq_none_iff, colon_mem_untabbed] at hcut
    exact .inr ⟨_, .noColon hblank (margins_trim _) hcut⟩
  | some cut =>
    have hdivides := divides_of_splitOnce hcut
    by_cases hname : trim cut.1 = []
    · rw [hname] at hdivides
      exact .inr ⟨_, .noName (margins_trim _) hdivides⟩
    generalize wordsBy isSeparator cut.2 = words at hdivides
    cases hcodes : readCodes n words with
    | error e =>
      obtain ⟨known, word, rest, rfl, hknown, hunknown, -⟩ := readCodes_eq_error_iff.1 hcodes
      exact .inr ⟨_, .unknown hdivides hname hknown hunknown⟩
    | ok codes =>
      have hspells := readCodes_eq_ok_iff.1 hcodes
      by_cases hcount : codes.length = 3
      · obtain ⟨foreground, background, font, rfl⟩ := List.length_eq_three.1 hcount
        exact .inl ⟨_, .rule hdivides hname hspells⟩
      · rw [← hspells.length_eq] at hcount
        exact .inr ⟨_, .count hdivides hname (forall_exists_iff_forall₂.2 ⟨codes, hspells⟩) hcount⟩

theorem read_eq_ok_iff {o : Option Rule} : read n raw = .ok o ↔ Writes raw o := by
  constructor
  · intro h
    rcases writes_or_faults n raw with ⟨o', ho'⟩ | ⟨e, he⟩
    · rw [ho'.read_eq n] at h
      cases h
      exact ho'
    · rw [he.read_eq] at h
      cases h
  · intro h
    exact h.read_eq n

theorem read_eq_error_iff : read n raw = .error e ↔ Faults n raw e := by
  constructor
  · intro h
    rcases writes_or_faults n raw with ⟨o, ho⟩ | ⟨e', he'⟩
    · rw [ho.read_eq n] at h
      cases h
    · rw [he'.read_eq] at h
      cases h
      exact he'
  · exact Faults.read_eq

theorem Writes.unique {o o' : Option Rule} (h : Writes raw o) (h' : Writes raw o') : o = o' := by
  have heq := h.read_eq 0
  rw [h'.read_eq 0] at heq
  cases heq
  rfl

/-! ## Texts -/

variable {line : List Char} {lines : List (List Char)} {rules : List (Option Rule)} {l l' : Layer}

theorem Faults.line_eq (h : Faults n raw e) : e.line = n := by
  cases h <;> rfl

/-- The lines of a palette text. A carriage return at the end of one is white space. -/
def lined (text : String) : List (List Char) :=
  splitOn (· = '\n') text.toList

/-- The last of the rules of this name in these lines. -/
def LastRule (lines : List (List Char)) (name : String) (r : Rule) : Prop :=
  ∃ before line after, lines = before ++ line :: after ∧ Writes line (some r) ∧ r.name = name ∧
    ∀ later ∈ after, ∀ r', Writes later (some r') → r'.name ≠ name

theorem lastRule_cons {name : String} : LastRule (line :: lines) name r ↔ LastRule lines name r ∨
    Writes line (some r) ∧ r.name = name ∧ ∀ later ∈ lines, ∀ r', Writes later (some r') → r'.name ≠ name := by
  constructor
  · rintro ⟨before, last, after, heq, h⟩
    rcases List.append_eq_cons_iff.1 heq.symm with ⟨-, heq⟩ | ⟨before, -, rfl⟩
    · cases heq
      exact .inr h
    · exact .inl ⟨before, last, after, rfl, h⟩
  · rintro (⟨before, last, after, rfl, h⟩ | h)
    · exact ⟨line :: before, last, after, rfl, h⟩
    · exact ⟨[], line, lines, rfl, h⟩

theorem addLine_dropReturn (l : Layer) (raw : List Char) (n : Nat) : l.addLine (dropReturn raw, n) = l.addLine (raw, n) := by
  unfold addLine
  dsimp only
  rw [normalized_dropReturn]

/-- No line is lost or counted twice for a carriage return or for the lack of a line feed at the end. -/
theorem parse_eq_lined (text : String) : parse text = ((lined text).zipIdx 1).foldlM addLine {} := by
  obtain ⟨init, last, hpieces⟩ := (lined text).eq_nil_or_concat.resolve_left (splitOn_ne_nil _ _)
  have hdrop (l : Layer) (numbered : List Char × Nat) : l.addLine (Prod.map dropReturn id numbered) = l.addLine numbered :=
    addLine_dropReturn ..
  have hlast (l : Layer) (k : Nat) :
      (([last].filter (!·.isEmpty)).zipIdx k).foldlM addLine l = ([last].zipIdx k).foldlM addLine l := by
    cases last <;> rfl
  rw [parse, lines, ← lined, hpieces, List.concat_eq_append, List.dropLast_concat, List.getLastD_concat,
    List.zipIdx_append, List.zipIdx_append, List.foldlM_append, List.foldlM_append, List.zipIdx_map, List.foldlM_map]
  simp only [hdrop, hlast, List.length_map]

theorem addLine_eq_ok {k : Nat} : l.addLine (line, k) = .ok l' ↔ ∃ o, Writes line o ∧ o.elim l l.insert = l' := by
  rw [addLine_eq, Except.map_eq_ok]
  simp only [read_eq_ok_iff]

theorem addLine_eq_error {k : Nat} : l.addLine (line, k) = .error e ↔ Faults k line e := by
  rw [addLine_eq, Except.map_eq_error, read_eq_error_iff]

/-- The lines are read one after the other. -/
theorem foldlM_eq_ok_iff {k : Nat} : (lines.zipIdx k).foldlM addLine l = .ok l' ↔
    ∃ rules, List.Forall₂ Writes lines rules ∧ rules.reduceOption.foldl insert l = l' := by
  induction lines generalizing l k with
  | nil =>
    simp only [List.forall₂_nil_left_iff]
    constructor
    · rintro ⟨⟩
      exact ⟨[], rfl, rfl⟩
    · rintro ⟨_, rfl, rfl⟩
      rfl
  | cons line lines ih =>
    rw [List.zipIdx_cons, List.foldlM_cons, Except.bind_eq_ok]
    simp only [ih, addLine_eq_ok, List.forall₂_cons_left_iff]
    constructor
    · rintro ⟨_, ⟨o, ho, rfl⟩, rules, hrules, rfl⟩
      refine ⟨o :: rules, ⟨o, rules, ho, hrules, rfl⟩, ?_⟩
      cases o <;> rfl
    · rintro ⟨_, ⟨o, rules, ho, hrules, rfl⟩, rfl⟩
      refine ⟨_, ⟨o, ho, rfl⟩, rules, hrules, ?_⟩
      cases o <;> rfl

/-- The first line that cannot be read is the error. -/
theorem foldlM_eq_error_iff {k : Nat} : (lines.zipIdx k).foldlM addLine l = .error e ↔
    ∃ before line after, lines = before ++ line :: after ∧ (∀ x ∈ before, ∃ o, Writes x o) ∧
      Faults (before.length + k) line e := by
  induction lines generalizing l k with
  | nil => simp [pure, Except.pure]
  | cons line lines ih =>
    rw [List.zipIdx_cons, List.foldlM_cons]
    rcases writes_or_faults k line with ⟨o, ho⟩ | ⟨e', he'⟩
    · rw [addLine_eq_ok.2 ⟨o, ho, rfl⟩]
      refine (ih (l := o.elim l l.insert)).trans ?_
      constructor
      · rintro ⟨before, bad, after, rfl, hbefore, hbad⟩
        refine ⟨line :: before, bad, after, rfl, List.forall_mem_cons.2 ⟨⟨o, ho⟩, hbefore⟩, ?_⟩
        rwa [List.length_cons, Nat.add_assoc, Nat.add_comm 1]
      · rintro ⟨before, bad, after, heq, hbefore, hbad⟩
        rcases List.append_eq_cons_iff.1 heq.symm with ⟨rfl, heq⟩ | ⟨before, rfl, rfl⟩
        · cases heq
          have hread := ho.read_eq k
          rw [List.length_nil, Nat.zero_add] at hbad
          rw [hbad.read_eq] at hread
          cases hread
        · refine ⟨before, bad, after, rfl, (List.forall_mem_cons.1 hbefore).2, ?_⟩
          rwa [List.length_cons, Nat.add_assoc, Nat.add_comm 1] at hbad
    · rw [addLine_eq_error.2 he']
      constructor
      · rintro ⟨⟩
        exact ⟨[], line, lines, rfl, List.forall_mem_nil _, by rwa [List.length_nil, Nat.zero_add]⟩
      · rintro ⟨before, bad, after, heq, hbefore, hbad⟩
        have hread := he'.read_eq
        rcases List.append_eq_cons_iff.1 heq.symm with ⟨rfl, heq⟩ | ⟨before, rfl, rfl⟩
        · cases heq
          rw [List.length_nil, Nat.zero_add] at hbad
          rw [hbad.read_eq] at hread
          cases hread
          rfl
        · obtain ⟨o, ho⟩ := hbefore line List.mem_cons_self
          rw [ho.read_eq] at hread
          cases hread

theorem mem_rules_iff (h : List.Forall₂ Writes lines rules) :
    r ∈ rules.reduceOption ↔ ∃ line ∈ lines, Writes line (some r) := by
  rw [List.reduceOption_mem_iff]
  induction h with
  | nil => simp
  | @cons line o lines rules ho _ ih =>
    rw [List.mem_cons, ih, List.exists_mem_cons_iff]
    refine or_congr_left ?_
    constructor
    · rintro rfl
      exact ho
    · intro hr
      exact hr.unique ho

theorem lastNamed?_eq_none_iff {name : String} (h : List.Forall₂ Writes lines rules) :
    lastNamed? rules.reduceOption name = none ↔ ∀ line ∈ lines, ∀ r, Writes line (some r) → r.name ≠ name := by
  simp only [lastNamed?, List.find?_eq_none, List.mem_reverse, mem_rules_iff h, decide_eq_true_eq]
  constructor
  · intro hnone line hline r hr
    exact hnone r ⟨line, hline, hr⟩
  · rintro hnone r ⟨line, hline, hr⟩
    exact hnone line hline r hr

theorem lastNamed?_singleton {first : Rule} {name : String} :
    lastNamed? [first] name = some r ↔ first = r ∧ r.name = name := by
  rw [lastNamed?, List.reverse_singleton, List.find?_singleton]
  by_cases hname : first.name = name
  · rw [if_pos (by simpa using hname), Option.some.injEq]
    exact ⟨fun h => ⟨h, h ▸ hname⟩, And.left⟩
  · rw [if_neg (by simpa using hname)]
    constructor
    · intro h
      cases h
    · rintro ⟨rfl, h⟩
      exact absurd h hname

theorem lastNamed?_eq_some_iff {name : String} (h : List.Forall₂ Writes lines rules) :
    lastNamed? rules.reduceOption name = some r ↔ LastRule lines name r := by
  induction h with
  | nil => simp [lastNamed?, LastRule]
  | @cons line o lines rules ho hrules ih =>
    rw [lastRule_cons, ← ih, ← lastNamed?_eq_none_iff hrules]
    cases o with
    | none =>
      have hblank : ¬ Writes line (some r) := fun hr => Option.some_ne_none _ (hr.unique ho)
      simp [hblank, List.reduceOption_cons_of_none]
    | some first =>
      have hfirst : Writes line (some r) ↔ first = r := by
        constructor
        · intro hr
          exact Option.some.inj (ho.unique hr)
        · rintro rfl
          exact ho
      rw [hfirst, List.reduceOption_cons_of_some, ← List.singleton_append, lastNamed?_append]
      cases lastNamed? rules.reduceOption name with
      | some last => simp
      | none => simp [lastNamed?_singleton]

theorem nodup_insert (h : (l.rules.map Rule.name).Nodup) (r : Rule) : ((l.insert r).rules.map Rule.name).Nodup := by
  rw [insert, List.map_append, List.nodup_append]
  refine ⟨h.sublist (List.filter_sublist.map _), List.nodup_singleton _, ?_⟩
  intro name hname _ hr heq
  subst heq
  obtain ⟨r', hr', rfl⟩ := List.mem_map.1 hname
  rw [List.mem_filter] at hr'
  simp_all

theorem nodup_foldl_insert (rules : List Rule) (h : (l.rules.map Rule.name).Nodup) :
    ((rules.foldl insert l).rules.map Rule.name).Nodup := by
  induction rules generalizing l with
  | nil => exact h
  | cons r rules ih => exact ih (nodup_insert h r)

/-- A palette text is accepted when each of its lines is blank or a rule: a name, a colon, and three codes of the
table with commas and white space around them. Then the layer has the names that are written, each once and with
the codes of its last rule. Otherwise the first line that is neither is the error, whatever follows it: that it has
no colon or no name, or else its first word that is no code, or else how many codes it has. -/
theorem parse_accepts_format (text : String) :
    ((∃ l, parse text = .ok l) ↔ ∀ line ∈ lined text, ∃ o, Writes line o) ∧
    (∀ l, parse text = .ok l →
      (∀ name, (∃ r, l.find? name = some r) ↔ ∃ line ∈ lined text, ∃ r, Writes line (some r) ∧ r.name = name) ∧
      (∀ name r, l.find? name = some r ↔ LastRule (lined text) name r) ∧ (l.rules.map Rule.name).Nodup) ∧
    (∀ e, parse text = .error e ↔ ∃ before line after, lined text = before ++ line :: after ∧
      (∀ earlier ∈ before, ∃ o, Writes earlier o) ∧ Faults (before.length + 1) line e) ∧
    ∀ e text', parse text = .error e → (lined text').take e.line = (lined text).take e.line →
      parse text' = .error e := by
  have herror (text : String) (e : StyleError) : parse text = .error e ↔ ∃ before line after,
      lined text = before ++ line :: after ∧ (∀ earlier ∈ before, ∃ o, Writes earlier o) ∧
        Faults (before.length + 1) line e := by
    rw [parse_eq_lined, foldlM_eq_error_iff]
  refine ⟨?_, ?_, herror text, ?_⟩
  · rw [parse_eq_lined, forall_exists_iff_forall₂]
    simp only [foldlM_eq_ok_iff]
    constructor
    · rintro ⟨l, rules, hrules, -⟩
      exact ⟨rules, hrules⟩
    · rintro ⟨rules, hrules⟩
      exact ⟨_, rules, hrules, rfl⟩
  · intro l hl
    rw [parse_eq_lined, foldlM_eq_ok_iff] at hl
    obtain ⟨rules, hrules, rfl⟩ := hl
    have hfind (name : String) : (rules.reduceOption.foldl insert {}).find? name = lastNamed? rules.reduceOption name := by
      rw [find?_foldl_insert]
      exact Option.or_none
    simp only [hfind]
    refine ⟨?_, fun _ _ => lastNamed?_eq_some_iff hrules, nodup_foldl_insert _ List.nodup_nil⟩
    intro name
    have hnone : ¬ lastNamed? rules.reduceOption name = none ↔ _ := not_congr (lastNamed?_eq_none_iff hrules)
    rw [← ne_eq, Option.ne_none_iff_exists'] at hnone
    simpa using hnone
  · intro e text' he hsame
    obtain ⟨before, line, after, hlines, hbefore, hbad⟩ := (herror text e).1 he
    refine (herror text' e).2 ⟨before, line, (lined text').drop e.line, ?_, hbefore, hbad⟩
    have htake : (lined text).take e.line = before ++ [line] := by
      rw [hlines, hbad.line_eq, ← List.singleton_append, ← List.append_assoc]
      exact List.take_left' (by simp)
    rw [← List.singleton_append, ← List.append_assoc, ← htake, ← hsame, List.take_append_drop]

/-- In the last line a word that is no code goes before the number of codes. -/
example : Layer.parse "a\tb : WH,, DB\t_ ,\r\n\na b: _ _ BO\r\nc : x : DB" = .error (.unknownCode "x" 4) := by decide +kernel

end Layer

end ScreenForm
