import ScreenForm.Proofs.Description.Lexeme
/-!
# The grammar of argument lists

`Argument.Lists` is the grammar of an argument list over tokens, and `Argument.Listed` over texts. A text is
parsed if it is in the grammar, and as the arguments that it lists.
-/

namespace ScreenForm.Description

/-! ## The grammar -/

/-- An argument of a list. -/
inductive Argument where
  | positional (value : Literal)
  | keyword (name : String) (value : Literal)

/-- The value that a token stands for. -/
inductive Token.Denotes : Token → Literal → Prop
  | literal (value : Literal) : Denotes (literal value) value
  | true {w : String} (h : w ∈ ["True", "true"]) : Denotes (word w) (.bool Bool.true)
  | false {w : String} (h : w ∈ ["False", "false"]) : Denotes (word w) (.bool Bool.false)
  | word {w : String} (h : w ∉ ["True", "true", "False", "false"]) : Denotes (word w) (.word w)

namespace Argument

/-- The tokens of an argument. -/
inductive Spells : List Token → Argument → Prop
  | positional {t : Token} {value : Literal} (denotes : t.Denotes value) : Spells [t] (positional value)
  | keyword (name : String) {t : Token} {value : Literal} (denotes : t.Denotes value) :
      Spells [.word name, .equals, t] (keyword name value)

/-- The tokens of a list of arguments. After each of them there is at most one comma. -/
inductive Lists : List Token → List Argument → Prop
  | nil : Lists [] []
  | cons {piece comma ts : List Token} {a : Argument} {as : List Argument} (spells : Spells piece a)
      (hcomma : comma = [] ∨ comma = [.comma]) (tail : Lists ts as) : Lists (piece ++ (comma ++ ts)) (a :: as)

def positional? : Argument → Option Literal
  | positional value => some value
  | keyword _ _ => none

def keyword? : Argument → Option (String × Literal)
  | positional _ => none
  | keyword name value => some (name, value)

/-- The name of a keyword argument. -/
def name? : Argument → Option String
  | positional _ => none
  | keyword name _ => some name

/-- No positional argument follows a keyword argument, and no name repeats. -/
structure Proper (as : List Argument) : Prop where
  order : as.Pairwise fun a b => a.name?.isSome → b.name?.isSome
  names : (as.filterMap name?).Nodup

/-- A text is a proper list of these arguments. -/
def Listed (text : List Char) (as : List Argument) : Prop :=
  ∃ ts, Token.Lexes [] text ts ∧ Lists ts as ∧ Proper as

end Argument

/-- The arguments, positional ones first. -/
def Arguments.toList (args : Arguments) : List Argument :=
  args.positional.map .positional ++ args.keyword.map fun k => .keyword k.1 k.2

/-- The arguments of a list. -/
def Arguments.ofList (as : List Argument) : Arguments where
  positional := as.filterMap Argument.positional?
  keyword := as.filterMap Argument.keyword?

/-! ## Values -/

theorem Token.value_eq_ok_iff {t : Token} {value : Literal} : t.value = .ok value ↔ t.Denotes value := by
  constructor
  · intro h
    cases t with
    | literal value =>
      cases h
      exact .literal _
    | word w =>
      simp only [Token.value, Literal.ofWord, Except.ok.injEq] at h
      split at h
      · next hw =>
        cases h
        exact .true (by simpa using hw)
      · next htrue =>
        split at h
        · next hw =>
          cases h
          exact .false (by simpa using hw)
        · next hfalse =>
          cases h
          exact .word (by simp_all)
    | equals => cases h
    | comma => cases h
  · intro h
    cases h with
    | literal => rfl
    | true h => simp_all [Token.value, Literal.ofWord]
    | @false w h =>
      obtain rfl | rfl : w = "False" ∨ w = "false" := by simpa using h
      · rfl
      · rfl
    | word h => simp_all [Token.value, Literal.ofWord]

/-- No value is written with `=` or with a comma. -/
theorem Token.Denotes.ne {t : Token} {value : Literal} (h : t.Denotes value) : t ≠ .equals ∧ t ≠ .comma := by
  cases h <;> exact ⟨nofun, nofun⟩

/-! ## Lists -/

namespace Argument

variable {a : Argument} {as : List Argument} {piece ts : List Token}

theorem Proper.of_append {bs : List Argument} (h : Proper (as ++ bs)) : Proper as where
  order := (List.pairwise_append.1 h.order).1
  names := (h.names.sublist ((List.sublist_append_left as bs).filterMap name?))

theorem Spells.exists_cons (h : Spells piece a) : ∃ t ts, piece = t :: ts ∧ t ≠ .equals ∧ t ≠ .comma := by
  cases h with
  | positional denotes => exact ⟨_, _, rfl, denotes.ne⟩
  | keyword name denotes => exact ⟨_, _, rfl, nofun, nofun⟩

/-- No list of arguments begins with `=` or with a comma. -/
theorem Lists.head?_ne (h : Lists ts as) : ts.head? ≠ some .equals ∧ ts.head? ≠ some .comma := by
  cases h with
  | nil => exact ⟨nofun, nofun⟩
  | cons spells hcomma tail =>
    obtain ⟨t, ts, rfl, hequals, hcomma⟩ := spells.exists_cons
    simp [hequals, hcomma]

theorem dropComma_append {comma : List Token} (hcomma : comma = [] ∨ comma = [.comma]) (h : Lists ts as) :
    Arguments.dropComma (comma ++ ts) = ts := by
  obtain rfl | rfl := hcomma
  · rw [List.nil_append]
    unfold Arguments.dropComma
    split
    · exact absurd rfl h.head?_ne.2
    · rfl
  · rfl

theorem exists_comma (ts : List Token) :
    ∃ comma, (comma = [] ∨ comma = [.comma]) ∧ ts = comma ++ Arguments.dropComma ts := by
  unfold Arguments.dropComma
  split
  · exact ⟨[.comma], .inr rfl, rfl⟩
  · exact ⟨[], .inl rfl, rfl⟩

end Argument

/-! ## Reading lists -/

namespace Arguments

open Argument (Lists Proper Listed)

variable {args args' : Arguments} {as : List Argument} {ts : List Token} {t : Token} {value : Literal} {name : String}

theorem ofList_toList (args : Arguments) : ofList args.toList = args := by
  have hpositional : args.toList.filterMap Argument.positional? = args.positional := by
    simp [toList, List.filterMap_append, List.filterMap_map, Function.comp_def, Argument.positional?]
  have hkeyword : args.toList.filterMap Argument.keyword? = args.keyword := by
    simp [toList, List.filterMap_append, List.filterMap_map, Function.comp_def, Argument.keyword?]
  rw [ofList, hpositional, hkeyword]

theorem filterMap_name?_toList (args : Arguments) : args.toList.filterMap Argument.name? = args.keyword.map (·.1) := by
  simp [toList, List.filterMap_append, List.filterMap_map, Function.comp_def, Argument.name?]

theorem toList_positional (h : args.keyword = []) (value : Literal) :
    toList { args with positional := args.positional ++ [value] } = args.toList ++ [.positional value] := by
  simp [toList, h]

theorem toList_keyword (args : Arguments) (name : String) (value : Literal) :
    toList { args with keyword := args.keyword ++ [(name, value)] } = args.toList ++ [.keyword name value] := by
  simp [toList]

/-- Positional arguments come first as it is, so only names can make a list improper. -/
theorem proper_toList_iff : Proper args.toList ↔ (args.keyword.map (·.1)).Nodup := by
  rw [← filterMap_name?_toList]
  refine ⟨fun h => h.names, fun h => ⟨?_, h⟩⟩
  have hkeyword : ∀ k ∈ args.keyword.map fun k => Argument.keyword k.1 k.2, k.name?.isSome = true := by
    intro k hk
    obtain ⟨_, -, rfl⟩ := List.mem_map.1 hk
    rfl
  have hpositional : ∀ a ∈ args.positional.map Argument.positional, a.name? = none := by
    intro a ha
    obtain ⟨_, -, rfl⟩ := List.mem_map.1 ha
    rfl
  refine List.pairwise_append.2 ⟨List.pairwise_of_forall_mem_list ?_, List.pairwise_of_forall_mem_list ?_, ?_⟩
  · intro a ha b _ hname
    rw [hpositional a ha] at hname
    cases hname
  · intro a _ b hb _
    exact hkeyword b hb
  · intro a _ b hb _
    exact hkeyword b hb

theorem proper_positional_iff :
    Proper (args.toList ++ [.positional value]) ↔ Proper args.toList ∧ args.keyword = [] := by
  constructor
  · intro h
    refine ⟨h.of_append, List.eq_nil_iff_forall_not_mem.2 fun k hk => ?_⟩
    have hmem : Argument.keyword k.1 k.2 ∈ args.toList :=
      List.mem_append_right _ (List.mem_map_of_mem (f := fun k : String × Literal => Argument.keyword k.1 k.2) hk)
    exact absurd ((List.pairwise_append.1 h.order).2.2 _ hmem _ (List.mem_singleton_self _) rfl) nofun
  · rintro ⟨h, hkeyword⟩
    rw [← toList_positional hkeyword]
    rw [proper_toList_iff] at h ⊢
    exact h

theorem proper_keyword_iff :
    Proper (args.toList ++ [.keyword name value]) ↔ Proper args.toList ∧ args.keyword.lookup name = none := by
  have hlookup : args.keyword.lookup name = none ↔ name ∉ args.keyword.map (·.1) := by
    rw [List.lookup_eq_none_iff, List.mem_map, not_exists]
    refine forall_congr' fun k => ?_
    rw [not_and, bne_iff_ne, ne_comm]
  rw [← toList_keyword, proper_toList_iff, proper_toList_iff, hlookup, List.map_append, List.map_singleton,
    (List.perm_append_singleton _ _).nodup_iff, List.nodup_cons, and_comm]

theorem addTokens_positional (hkeyword : args.keyword = []) (denotes : t.Denotes value) (h : ts.head? ≠ some .equals) :
    args.addTokens (t :: ts) = addTokens { args with positional := args.positional ++ [value] } (dropComma ts) := by
  rw [addTokens.eq_4]
  · simp [hkeyword, Token.value_eq_ok_iff.2 denotes, bind, Except.bind]
  · rintro w - rfl
    exact h rfl
  · rintro w t ts - rfl
    exact h rfl

theorem addTokens_keyword (hname : args.keyword.lookup name = none) (denotes : t.Denotes value) :
    args.addTokens (.word name :: .equals :: t :: ts) =
      addTokens { args with keyword := args.keyword ++ [(name, value)] } (dropComma ts) := by
  rw [addTokens, Token.value_eq_ok_iff.2 denotes]
  simp [hname, bind, Except.bind]

/-- The tokens that are added are those of a proper list. -/
theorem lists_of_addTokens (hargs : Proper args.toList) (h : args.addTokens ts = .ok args') :
    ∃ as, Lists ts as ∧ Proper (args.toList ++ as) ∧ args'.toList = args.toList ++ as := by
  -- Induction on the calls: one more argument has been added to `args`, and the rest is a list again.
  fun_induction addTokens args ts with
  | case1 args =>
    cases h
    exact ⟨[], .nil, by rwa [List.append_nil], by rw [List.append_nil]⟩
  | case2 => cases h
  | case3 args name t ts ih =>
    obtain ⟨value, hvalue, h⟩ := Except.bind_eq_ok.1 h
    split at h
    · cases h
    next hname =>
    have hadded : Proper (args.toList ++ [.keyword name value]) :=
      proper_keyword_iff.2 ⟨hargs, Option.not_isSome_iff_eq_none.1 hname⟩
    rw [← toList_keyword] at hadded
    obtain ⟨as, hlists, hproper, heq⟩ := ih value hadded h
    rw [toList_keyword, List.append_assoc] at hproper heq
    obtain ⟨comma, hcomma, hts⟩ := Argument.exists_comma ts
    rw [hts]
    exact ⟨_, .cons (.keyword name (Token.value_eq_ok_iff.1 hvalue)) hcomma hlists, hproper, heq⟩
  | case4 => cases h
  | case5 args t ts _ _ hkeyword ih =>
    obtain ⟨value, hvalue, h⟩ := Except.bind_eq_ok.1 h
    have hkeyword : args.keyword = [] := by simpa using hkeyword
    have hadded : Proper (args.toList ++ [.positional value]) := proper_positional_iff.2 ⟨hargs, hkeyword⟩
    rw [← toList_positional hkeyword] at hadded
    obtain ⟨as, hlists, hproper, heq⟩ := ih value hadded h
    rw [toList_positional hkeyword, List.append_assoc] at hproper heq
    obtain ⟨comma, hcomma, hts⟩ := Argument.exists_comma ts
    rw [hts]
    exact ⟨_, .cons (.positional (Token.value_eq_ok_iff.1 hvalue)) hcomma hlists, hproper, heq⟩

/-- The tokens of a proper list are added. -/
theorem addTokens_of_lists (h : Lists ts as) (hproper : Proper (args.toList ++ as)) :
    ∃ args', args.addTokens ts = .ok args' ∧ args'.toList = args.toList ++ as := by
  induction h generalizing args with
  | nil => exact ⟨args, by rw [addTokens], by rw [List.append_nil]⟩
  | @cons piece comma ts a as spells hcomma tail ih =>
    rw [← List.singleton_append, ← List.append_assoc] at hproper
    rw [← List.singleton_append (l := as), ← List.append_assoc args.toList]
    cases spells with
    | @positional t value denotes =>
      obtain ⟨-, hkeyword⟩ := proper_positional_iff.1 hproper.of_append
      rw [← toList_positional hkeyword] at hproper ⊢
      obtain ⟨args', hadded, heq⟩ := ih hproper
      refine ⟨args', ?_, heq⟩
      have hequals : (comma ++ ts).head? ≠ some .equals := by
        obtain rfl | rfl := hcomma
        · exact tail.head?_ne.1
        · simp
      rw [List.singleton_append, addTokens_positional hkeyword denotes hequals, Argument.dropComma_append hcomma tail]
      exact hadded
    | @keyword name t value denotes =>
      obtain ⟨-, hname⟩ := proper_keyword_iff.1 hproper.of_append
      rw [← toList_keyword] at hproper ⊢
      obtain ⟨args', hadded, heq⟩ := ih hproper
      refine ⟨args', ?_, heq⟩
      rw [List.cons_append, List.cons_append, List.singleton_append, addTokens_keyword hname denotes,
        Argument.dropComma_append hcomma tail]
      exact hadded

variable {text : List Char}

theorem proper_empty : Proper (toList {}) := ⟨.nil, List.nodup_nil⟩

theorem listed_of_read (h : read text = .ok args) : Listed text args.toList := by
  obtain ⟨ts, hscan, hadded⟩ := Except.bind_eq_ok.1 h
  obtain ⟨as, hlists, hproper, heq⟩ := lists_of_addTokens proper_empty hadded
  rw [heq]
  exact ⟨ts, Token.scan_eq_ok_iff.1 hscan, hlists, hproper⟩

theorem read_of_listed (h : Listed text as) : ∃ args, read text = .ok args ∧ args.toList = as := by
  obtain ⟨ts, hlexes, hlists, hproper⟩ := h
  obtain ⟨args, hadded, heq⟩ := addTokens_of_lists hlists (show Proper (toList {} ++ as) from hproper)
  exact ⟨args, Except.bind_eq_ok.2 ⟨ts, Token.scan_eq_ok_iff.2 hlexes, hadded⟩, heq⟩

theorem parse_eq_ok_iff {line : Nat} : parse text line = .ok args ↔ read text = .ok args := by
  unfold parse
  cases read text <;> simp [Except.mapError]

/-- Parsing gives the arguments of a text that lists arguments, in their order, and an error with the whole text
and its line for any other text. An integer that is too large for a word is such an error. -/
theorem parse_accepts (text : List Char) (line : Nat) :
    (∀ as, Listed text as ↔ ∃ args, parse text line = .ok args ∧ args.toList = as) ∧
      ((¬ ∃ as, Listed text as) →
        ∃ reason, parse text line = .error (.malformedArguments (String.ofList text) reason line)) ∧
      ∀ before numeral rest n, Token.Lexes (numeral ++ rest) text before → WritesInt numeral n →
        ¬ (Number.minWord ≤ n ∧ n ≤ Number.maxWord) → Text.StartsOutside Token.isNumberChar rest →
        parse text line =
          .error (.malformedArguments (String.ofList text) (.invalidNumber (String.ofList numeral)) line) := by
  refine ⟨fun as => ⟨fun h => ?_, ?_⟩, fun h => ?_, fun before numeral rest n hlexes hn hrange hrest => ?_⟩
  · obtain ⟨args, hread, heq⟩ := read_of_listed h
    exact ⟨args, parse_eq_ok_iff.2 hread, heq⟩
  · rintro ⟨args, hparse, rfl⟩
    exact listed_of_read (parse_eq_ok_iff.1 hparse)
  · cases hread : read text with
    | ok args => exact absurd ⟨_, listed_of_read hread⟩ h
    | error reason => exact ⟨reason, by rw [parse, hread]; rfl⟩
  · have hfits : Number.fitsWord n = false := by
      rw [← Bool.not_eq_true]
      simpa [Number.fitsWord] using hrange
    have hscan : Token.scan text = .error (.invalidNumber (String.ofList numeral)) := by
      rw [Token.scan_of_lexes hlexes, Token.scan_of_writesInt hn hfits hrest]
      rfl
    rw [parse, read, hscan]
    rfl

theorem parse_accepts_overflow :
    (¬ ∃ as, Listed "=".toList as) ∧
      (∃ reason, parse "=".toList 4 = .error (.malformedArguments "=" reason 4)) ∧
      Token.Lexes "9223372036854775808,".toList "x= 9223372036854775808,".toList [.word "x", .equals] ∧
      WritesInt "9223372036854775808".toList 9223372036854775808 ∧
      parse "x= 9223372036854775808,".toList 4 =
        .error (.malformedArguments "x= 9223372036854775808," (.invalidNumber "9223372036854775808") 4) := by
  have hunlisted : ¬ ∃ as, Listed "=".toList as := by
    rintro ⟨as, ts, hlexes, hlists, -⟩
    have hscan := Token.scan_eq_ok_iff.2 hlexes
    have hequals : Token.scan ['='] = .ok [.equals] := by
      rw [Token.scan_of_next rfl rfl, Token.scan]
      rfl
    rw [show "=".toList = ['='] from rfl, hequals] at hscan
    cases hscan
    exact hlists.head?_ne.1 rfl
  have hword : Token.Spells ['x'] (.word "x") := .word ⟨⟨.inl (by decide), rfl⟩, List.forall_mem_nil _⟩
  have hlexes : Token.Lexes "9223372036854775808,".toList "x= 9223372036854775808,".toList [.word "x", .equals] :=
    .token hword (by rintro _ ⟨⟩; decide) (.token .equals (fun _ _ => rfl) (.blank rfl .done))
  have hdigits : Digits "223372036854775808".toList := fun c hc =>
    .inl (List.all_eq_true.1 (by decide : "223372036854775808".toList.all Char.isDigit = true) c hc)
  have hn : WritesInt "9223372036854775808".toList 9223372036854775808 := .intro .none rfl hdigits
  refine ⟨hunlisted, (parse_accepts "=".toList 4).2.1 hunlisted, hlexes, hn, ?_⟩
  exact (parse_accepts "x= 9223372036854775808,".toList 4).2.2 _ _ [','] _ hlexes hn (by decide) (by rintro _ ⟨⟩; rfl)

end Arguments

end ScreenForm.Description
