import ScreenForm.Proofs.Description.Grammar
/-!
# Writing arguments

`Arguments.Writes` relates arguments to the texts that write them, with either kind of quotes, any
separators and any white space. Each of these texts is parsed as the arguments that it writes.
-/

namespace ScreenForm.Description

/-- The written form of a value. A string stands in either kind of quotes, and a truth value has two spellings. -/
inductive Literal.Writes : List Char → Literal → Prop
  | text {quote : Char} (hquote : quote = '\'' ∨ quote = '"') {body value : List Char} (quotes : Quotes quote body value) :
      Writes (quote :: body ++ [quote]) (text (String.ofList value))
  | int (n : Int) : Writes (toString n).toList (int n)
  | true {w : String} (h : w ∈ ["True", "true"]) : Writes w.toList (bool Bool.true)
  | false {w : String} (h : w ∈ ["False", "false"]) : Writes w.toList (bool Bool.false)
  | word (w : String) : Writes w.toList (word w)

/-- A value that can be written so that it is read again: no number with a point, no integer too large for a word and
no word that is a truth value. -/
def Literal.Writable : Literal → Prop
  | text _ | bool _ => True
  | int n => Number.minWord ≤ n ∧ n ≤ Number.maxWord
  | word w => IsWord w.toList ∧ w ∉ ["True", "true", "False", "false"]
  | real _ => False

namespace Argument

/-- The written form of an argument. -/
inductive Writes : List Char → Argument → Prop
  | positional {cs : List Char} {value : Literal} (writes : value.Writes cs) : Writes cs (positional value)
  | keyword (name : String) {before after cs : List Char} {value : Literal} (hbefore : Blanks before)
      (hafter : Blanks after) (writes : value.Writes cs) :
      Writes (name.toList ++ (before ++ '=' :: (after ++ cs))) (keyword name value)

def Writable : Argument → Prop
  | positional value => value.Writable
  | keyword name value => IsWord name.toList ∧ value.Writable

/-- What can stand between two arguments: white space, or one comma with any white space around it. -/
inductive Separates : List Char → Prop
  | blanks {cs : List Char} (hne : cs ≠ []) (hblanks : Blanks cs) : Separates cs
  | comma {before after : List Char} (hbefore : Blanks before) (hafter : Blanks after) :
      Separates (before ++ ',' :: after)

/-- The written form of a list of arguments that is not empty. The last of them may have a comma after it, too. -/
inductive Joins : List Char → List Argument → Prop
  | last {cs after : List Char} {a : Argument} (writes : Writes cs a) (hafter : Blanks after ∨ Separates after) :
      Joins (cs ++ after) [a]
  | cons {cs gap ds : List Char} {a : Argument} {as : List Argument} (writes : Writes cs a) (separates : Separates gap)
      (tail : Joins ds as) : Joins (cs ++ (gap ++ ds)) (a :: as)

end Argument

namespace Arguments

/-- A text that writes these arguments in their order. -/
inductive Writes : List Char → Arguments → Prop
  | empty {cs : List Char} (hblanks : Blanks cs) : Writes cs {}
  | list {before cs : List Char} {args : Arguments} (hbefore : Blanks before) (joins : Argument.Joins cs args.toList) :
      Writes (before ++ cs) args

/-- The names are different words, and the values can be written. -/
structure Writable (args : Arguments) : Prop where
  arguments : ∀ a ∈ args.toList, a.Writable
  names : (args.keyword.map (·.1)).Nodup

end Arguments

/-! ## Neighbours -/

section Neighbours

variable {c : Char} {cs gap rest : List Char} {ts : List Token} {t : Token}

theorem isAlphanumeric_of_isDigit (h : c.isDigit = true) : Text.isAlphanumeric c = true := by
  have hascii : c.toNat < 0x80 := by
    simp only [Char.isDigit, Bool.and_eq_true, decide_eq_true_eq, UInt32.le_iff_toNat_le] at h
    exact Nat.lt_of_le_of_lt h.2 (by decide)
  rw [Text.isAlphanumeric, if_pos hascii, Char.isAlphanum, h, Bool.or_true]

/-- Whatever a token goes on with can belong to a name. -/
theorem Token.isNameChar_of_goesOn (h : t.goesOn c = true) : isNameChar c = true := by
  have hnumber : isNumberChar c = true → isNameChar c = true := by
    intro h
    simp only [isNumberChar, Bool.or_eq_true, decide_eq_true_eq] at h
    obtain (hdigit | rfl) | rfl := h
    · simp [isNameChar, isAlphanumeric_of_isDigit hdigit]
    · rfl
    · rfl
  cases t with
  | word w => exact h
  | equals => cases h
  | comma => cases h
  | literal value => cases value <;> first | cases h | exact hnumber h

theorem Token.startsOutside_goesOn (t : Token) (h : Text.StartsOutside isNameChar rest) :
    Text.StartsOutside t.goesOn rest := by
  intro c hc
  rw [← Bool.not_eq_true]
  intro hgoes
  have := h c hc
  rw [Token.isNameChar_of_goesOn hgoes] at this
  cases this

theorem Token.Lexes.blanks (hblanks : Blanks gap) (h : Token.Lexes rest cs ts) : Token.Lexes rest (gap ++ cs) ts := by
  induction gap with
  | nil => exact h
  | cons c gap ih =>
    obtain ⟨hc, hgap⟩ := List.forall_mem_cons.1 hblanks
    exact .blank hc (ih hgap)

theorem Token.lexes_blanks (hblanks : Blanks cs) : Token.Lexes [] cs [] := by
  have := Token.Lexes.blanks hblanks (.done : Token.Lexes [] [] [])
  rwa [List.append_nil] at this

end Neighbours

/-! ## Numerals -/

theorem digits_toDigits (n : Nat) : ∃ d ds, Nat.toDigits 10 n = d :: ds ∧ d.isDigit = true ∧ Digits ds ∧
    digitsNumber (d :: ds) = n := by
  have hdigit : ∀ c ∈ Nat.toDigits 10 n, c.isDigit = true :=
    fun c hc => Nat.isDigit_of_mem_toDigits (by decide) (by decide) hc
  have hvalue : digitsNumber (Nat.toDigits 10 n) = n := by
    rw [digitsNumber, List.filter_eq_self.2 hdigit, Nat.ofDigitChars_ten_toDigits]
  obtain ⟨d, ds, heq⟩ := List.exists_cons_of_ne_nil (Nat.toDigits_ne_nil (b := 10) (n := n))
  rw [heq] at hdigit hvalue
  obtain ⟨hd, hds⟩ := List.forall_mem_cons.1 hdigit
  exact ⟨d, ds, heq, hd, fun c hc => .inl (hds c hc), hvalue⟩

/-- An integer is written by its decimal digits. -/
theorem writesInt_toString (n : Int) : WritesInt (toString n).toList n := by
  rw [Int.toString_eq_repr, Int.repr_eq_if]
  split
  · next hn =>
    obtain ⟨d, ds, heq, hd, hds, hvalue⟩ := digits_toDigits n.toNat
    rw [Nat.toList_repr, heq]
    have := WritesInt.intro .none hd hds
    rw [hvalue, if_neg (by decide), Int.toNat_of_nonneg hn] at this
    exact this
  · next hn =>
    obtain ⟨d, ds, heq, hd, hds, hvalue⟩ := digits_toDigits (-n).toNat
    rw [String.toList_append, Nat.toList_repr, heq]
    have := WritesInt.intro .minus hd hds
    rw [hvalue, if_pos rfl, Int.toNat_of_nonneg (by omega), Int.neg_neg] at this
    exact this

/-! ## What is written is listed -/

section Reading

variable {cs gap rest : List Char} {ts : List Token} {a : Argument} {as : List Argument} {value : Literal}

theorem isWord_of_mem {w : String} (h : w ∈ ["True", "true", "False", "false"]) : IsWord w.toList := by
  simp only [List.mem_cons, List.not_mem_nil, or_false] at h
  rcases h with rfl | rfl | rfl | rfl <;> exact ⟨⟨.inl (by decide), by decide⟩, List.all_eq_true.1 (by decide)⟩

/-- A value is written as a token that stands for it. -/
theorem Literal.Writes.exists_token (h : value.Writes cs) (hvalue : value.Writable) :
    ∃ t, Token.Spells cs t ∧ t.Denotes value := by
  have hword : ∀ {w : String}, IsWord w.toList → Token.Spells w.toList (.word w) := by
    intro w hw
    have := Token.Spells.word hw
    rwa [String.ofList_toList] at this
  cases h with
  | text hquote quotes => exact ⟨_, .text hquote quotes, .literal _⟩
  | int n => exact ⟨_, .int (writesInt_toString n) hvalue.1 hvalue.2, .literal _⟩
  | true h => exact ⟨_, hword (isWord_of_mem (List.mem_append_left ["False", "false"] h)), .true h⟩
  | false h => exact ⟨_, hword (isWord_of_mem (List.mem_append_right ["True", "true"] h)), .false h⟩
  | word w => exact ⟨_, hword hvalue.1, .word hvalue.2⟩

/-- The tokens of an argument are those of its written form, when no name goes on after it. -/
theorem Argument.Writes.exists_tokens (h : a.Writes cs) (ha : a.Writable) (hrest : Text.StartsOutside isNameChar rest)
    (hlexes : Token.Lexes [] rest ts) : ∃ piece, Argument.Spells piece a ∧ Token.Lexes [] (cs ++ rest) (piece ++ ts) := by
  cases h with
  | positional writes =>
    obtain ⟨t, spells, denotes⟩ := writes.exists_token ha
    exact ⟨_, .positional denotes, .token spells (t.startsOutside_goesOn hrest) hlexes⟩
  | @keyword name before after cs value hbefore hafter writes =>
    obtain ⟨t, spells, denotes⟩ := writes.exists_token ha.2
    have hname := Token.Spells.word ha.1
    rw [String.ofList_toList] at hname
    have hequals : Text.StartsOutside isNameChar ('=' :: (after ++ (cs ++ rest))) := by rintro _ ⟨⟩; decide
    refine ⟨_, .keyword name denotes, ?_⟩
    simp only [List.append_assoc, List.cons_append]
    exact .token hname (Token.startsOutside_goesOn _ (startsOutside_blanks hbefore hequals))
      (.blanks hbefore (.token .equals (fun _ _ => rfl)
        (.blanks hafter (.token spells (t.startsOutside_goesOn hrest) hlexes))))

/-- Between two arguments there is at most one comma, and no name goes on. -/
theorem Argument.Separates.exists_comma (h : Separates gap) (hlexes : Token.Lexes [] rest ts) :
    ∃ comma, (comma = [] ∨ comma = [.comma]) ∧ Token.Lexes [] (gap ++ rest) (comma ++ ts) ∧
      Text.StartsOutside isNameChar (gap ++ rest) := by
  cases h with
  | blanks hne hblanks =>
    refine ⟨[], .inl rfl, .blanks hblanks hlexes, ?_⟩
    obtain ⟨c, gap, rfl⟩ := List.exists_cons_of_ne_nil hne
    rintro _ ⟨⟩
    exact isNameChar_of_isBlank (hblanks c List.mem_cons_self)
  | @comma before after hbefore hafter =>
    have hcomma : Text.StartsOutside isNameChar (',' :: (after ++ rest)) := by rintro _ ⟨⟩; decide
    rw [List.append_assoc, List.cons_append]
    exact ⟨[.comma], .inr rfl, .blanks hbefore (.token .comma (fun _ _ => rfl) (.blanks hafter hlexes)),
      startsOutside_blanks hbefore hcomma⟩

/-- After the last argument there is at most one comma, too. -/
theorem Argument.exists_comma_last (h : Blanks gap ∨ Separates gap) :
    ∃ comma, (comma = [] ∨ comma = [.comma]) ∧ Token.Lexes [] gap comma ∧ Text.StartsOutside isNameChar gap := by
  obtain hblanks | hseparates := h
  · refine ⟨[], .inl rfl, Token.lexes_blanks hblanks, fun c hc => ?_⟩
    exact isNameChar_of_isBlank (hblanks c (List.mem_of_mem_head? hc))
  · obtain ⟨comma, hcomma, hlexes, hstarts⟩ := hseparates.exists_comma .done
    rw [List.append_nil, List.append_nil] at hlexes
    rw [List.append_nil] at hstarts
    exact ⟨comma, hcomma, hlexes, hstarts⟩

theorem Argument.Joins.exists_tokens (h : Joins cs as) (has : ∀ a ∈ as, a.Writable) :
    ∃ ts, Token.Lexes [] cs ts ∧ Lists ts as := by
  induction h with
  | @last cs after a writes hafter =>
    obtain ⟨comma, hcomma, hlexes, hstarts⟩ := Argument.exists_comma_last hafter
    obtain ⟨piece, spells, hlexes⟩ := writes.exists_tokens (has a (List.mem_singleton_self a)) hstarts hlexes
    have hlists := Lists.cons spells hcomma .nil
    rw [List.append_nil] at hlists
    exact ⟨_, hlexes, hlists⟩
  | @cons cs gap ds a as writes separates _ ih =>
    obtain ⟨ha, has⟩ := List.forall_mem_cons.1 has
    obtain ⟨ts, hlexes, hlists⟩ := ih has
    obtain ⟨comma, hcomma, hlexes, hstarts⟩ := separates.exists_comma hlexes
    obtain ⟨piece, spells, hlexes⟩ := writes.exists_tokens ha hstarts hlexes
    exact ⟨_, hlexes, .cons spells hcomma hlists⟩

theorem Arguments.Writes.listed {args : Arguments} (h : args.Writes cs) (hargs : args.Writable) :
    Argument.Listed cs args.toList := by
  have hproper := Arguments.proper_toList_iff.2 hargs.names
  cases h with
  | empty hblanks => exact ⟨[], Token.lexes_blanks hblanks, .nil, hproper⟩
  | list hbefore joins =>
    obtain ⟨ts, hlexes, hlists⟩ := joins.exists_tokens hargs.arguments
    exact ⟨ts, .blanks hbefore hlexes, hlists, hproper⟩

end Reading

/-! ## Everything can be written -/

theorem exists_quotes (value : List Char) : ∃ body, Quotes '"' body value := by
  induction value with
  | nil => exact ⟨[], .nil⟩
  | cons c value ih =>
    obtain ⟨body, quotes⟩ := ih
    by_cases hquote : c = '"'
    · subst hquote
      exact ⟨_, .escaped .doubleQuote quotes⟩
    by_cases hbackslash : c = '\\'
    · subst hbackslash
      exact ⟨_, .escaped .backslash quotes⟩
    exact ⟨_, .plain hquote hbackslash quotes⟩

theorem Literal.Writable.exists_writes {value : Literal} (h : value.Writable) : ∃ cs, value.Writes cs := by
  cases value with
  | text s =>
    obtain ⟨body, quotes⟩ := exists_quotes s.toList
    have := Literal.Writes.text (.inr rfl) quotes
    rw [String.ofList_toList] at this
    exact ⟨_, this⟩
  | int n => exact ⟨_, .int n⟩
  | real x => exact h.elim
  | bool b =>
    cases b with
    | true => exact ⟨_, .true List.mem_cons_self⟩
    | false => exact ⟨_, .false List.mem_cons_self⟩
  | word w => exact ⟨_, .word w⟩

theorem Argument.Writable.exists_writes {a : Argument} (h : a.Writable) : ∃ cs, a.Writes cs := by
  cases a with
  | positional value =>
    obtain ⟨cs, writes⟩ := Literal.Writable.exists_writes h
    exact ⟨cs, .positional writes⟩
  | keyword name value =>
    obtain ⟨cs, writes⟩ := h.2.exists_writes
    have hnil : Blanks [] := nofun
    exact ⟨_, .keyword name hnil hnil writes⟩

theorem Argument.exists_joins (a : Argument) (as : List Argument) (has : ∀ b ∈ a :: as, b.Writable) :
    ∃ cs, Joins cs (a :: as) := by
  induction as generalizing a with
  | nil =>
    obtain ⟨cs, writes⟩ := (has a List.mem_cons_self).exists_writes
    exact ⟨_, .last writes (.inl (nofun : Blanks []))⟩
  | cons b as ih =>
    obtain ⟨ha, has⟩ := List.forall_mem_cons.1 has
    obtain ⟨cs, writes⟩ := ha.exists_writes
    obtain ⟨ds, joins⟩ := ih b has
    have hblanks : Blanks [' '] := List.all_eq_true.1 (by decide)
    exact ⟨_, .cons writes (.blanks (by decide) hblanks) joins⟩

namespace Arguments

variable {args : Arguments}

theorem Writable.exists_writes (h : args.Writable) : ∃ text, args.Writes text := by
  cases hargs : args.toList with
  | nil =>
    have hempty : args = {} := by
      rw [← ofList_toList args, hargs]
      rfl
    rw [hempty]
    exact ⟨[], .empty nofun⟩
  | cons a as =>
    obtain ⟨cs, joins⟩ := Argument.exists_joins a as (hargs ▸ h.arguments)
    rw [← hargs] at joins
    exact ⟨_, .list (nofun : Blanks []) joins⟩

/-- Arguments can be written, and from every text that writes them, with whichever quotes, separators and white space,
they are parsed again, on every line. -/
theorem parse_of_writes (h : args.Writable) :
    (∃ text, args.Writes text) ∧ ∀ text, args.Writes text → ∀ line, parse text line = .ok args := by
  refine ⟨h.exists_writes, fun text hwrites line => ?_⟩
  obtain ⟨args', hread, heq⟩ := read_of_listed (hwrites.listed h)
  rw [parse_eq_ok_iff, hread, ← ofList_toList args', heq, ofList_toList]

/-- Arguments of most kinds. -/
def mixed : Arguments where
  positional := [.text "it's\n\\", .int (-9223372036854775808), .word "no-1"]
  keyword := [("top", .bool true)]

theorem parse_of_writes_mixed :
    mixed.Writable ∧ mixed.Writes "'it\\'s\n\\\\' -9223372036854775808,no-1 , top = True ,".toList ∧
      parse "'it\\'s\n\\\\' -9223372036854775808,no-1 , top = True ,".toList 4 = .ok mixed := by
  have hblank : Blanks [' '] := List.all_eq_true.1 (by decide)
  have hnone : Blanks [] := nofun
  have hquotes : Quotes '\'' "it\\'s\n\\\\".toList "it's\n\\".toList :=
    .plain (by decide) (by decide) (.plain (by decide) (by decide) (.escaped .singleQuote
      (.plain (by decide) (by decide) (.plain (by decide) (by decide) (.escaped .backslash .nil)))))
  have hargs : mixed.Writable := by
    refine ⟨?_, by decide⟩
    rintro a ha
    simp only [mixed, toList, List.map_cons, List.map_nil, List.cons_append, List.nil_append, List.mem_cons,
      List.not_mem_nil, or_false] at ha
    rcases ha with rfl | rfl | rfl | rfl
    · trivial
    · exact ⟨by decide, by decide⟩
    · exact ⟨⟨⟨.inl (by decide), by decide⟩, List.all_eq_true.1 (by decide)⟩, by decide⟩
    · exact ⟨⟨⟨.inl (by decide), by decide⟩, List.all_eq_true.1 (by decide)⟩, trivial⟩
  have htext : "'it\\'s\n\\\\' -9223372036854775808,no-1 , top = True ,".toList =
      [] ++ ('\'' :: "it\\'s\n\\\\".toList ++ ['\''] ++ ([' '] ++ ((toString (-9223372036854775808 : Int)).toList ++
        ([] ++ ',' :: [] ++ ("no-1".toList ++ ([' '] ++ ',' :: [' '] ++
          ("top".toList ++ ([' '] ++ '=' :: ([' '] ++ "True".toList)) ++ ([' '] ++ ',' :: [])))))))) := by decide
  have hwrites : mixed.Writes "'it\\'s\n\\\\' -9223372036854775808,no-1 , top = True ,".toList := by
    rw [htext]
    exact .list hnone (.cons (.positional (.text (.inl rfl) hquotes)) (.blanks (by decide) hblank)
      (.cons (.positional (.int _)) (.comma hnone hnone) (.cons (.positional (.word _)) (.comma hblank hblank)
        (.last (.keyword "top" hblank hblank (.true List.mem_cons_self)) (.inr (.comma hblank hnone))))))
  exact ⟨hargs, hwrites, (parse_of_writes hargs).2 _ hwrites 4⟩

end Arguments

end ScreenForm.Description
