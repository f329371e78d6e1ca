import Mathlib.Data.List.TakeWhile
import ScreenForm.Proofs.Description.Fault
/-!
# How tokens are written

`Token.Spells` says how each token of an argument list can be written, and `Token.Lexes`
cuts a text into tokens, each as long as it can be. A text is scanned into the tokens that it
is cut into, and into nothing else (`Token.scan_eq_ok_iff`).
-/

namespace ScreenForm.Description

/-! ## White space -/

/-- White space only. -/
def Blanks (cs : List Char) : Prop := ∀ c ∈ cs, Text.isBlank c = true

theorem isNameChar_of_isBlank {c : Char} (h : Text.isBlank c = true) : isNameChar c = false := by
  have hne : ∀ d, Text.isBlank d = false → c ≠ d := by
    rintro d hd rfl
    rw [hd] at h
    cases h
  simp [isNameChar, Text.isAlphanumeric_of_isBlank h, hne '_' rfl, hne '-' rfl, hne '.' rfl]

theorem startsOutside_blanks {gap rest : List Char} (hblanks : Blanks gap) (hrest : Text.StartsOutside isNameChar rest) :
    Text.StartsOutside isNameChar (gap ++ rest) := by
  cases gap with
  | nil => exact hrest
  | cons c gap =>
    rintro _ ⟨⟩
    exact isNameChar_of_isBlank (hblanks c List.mem_cons_self)

/-! ## Strings -/

/-- What a backslash and a character after it stand for. -/
inductive Escape : Char → Char → Prop
  | lineFeed : Escape 'n' '\n'
  | tab : Escape 't' '\t'
  | backslash : Escape '\\' '\\'
  | singleQuote : Escape '\'' '\''
  | doubleQuote : Escape '"' '"'

/-- What stands between two quotes, and the characters that it stands for. -/
inductive Quotes (quote : Char) : List Char → List Char → Prop
  | nil : Quotes quote [] []
  | plain {c : Char} (hquote : c ≠ quote) (hbackslash : c ≠ '\\') {body value : List Char}
      (rest : Quotes quote body value) : Quotes quote (c :: body) (c :: value)
  | escaped {e d : Char} (escape : Escape e d) {body value : List Char} (rest : Quotes quote body value) :
      Quotes quote ('\\' :: e :: body) (d :: value)

/-! ## Numbers -/

/-- A sign, which may be left out, and whether it is a minus. -/
inductive Sign : List Char → Bool → Prop
  | none : Sign [] false
  | plus : Sign ['+'] false
  | minus : Sign ['-'] true

/-- Digits, with underscores between them. -/
def Digits (cs : List Char) : Prop := ∀ c ∈ cs, c.isDigit = true ∨ c = '_'

/-- The number that digits stand for. Underscores mean nothing. -/
def digitsNumber (cs : List Char) : Nat := Nat.ofDigitChars 10 (cs.filter Char.isDigit) 0

/-- The written form of an integer, which may be too large for a word. -/
inductive WritesInt : List Char → Int → Prop
  | intro {sign : List Char} {negative : Bool} (hsign : Sign sign negative) {d : Char} (hd : d.isDigit = true)
      {ds : List Char} (hds : Digits ds) :
      WritesInt (sign ++ d :: ds) (if negative then -(digitsNumber (d :: ds) : Int) else digitsNumber (d :: ds))

/-- The written form of a number with a point. It is the double that is nearest to it. -/
inductive WritesReal : List Char → Number.Double → Prop
  | intro {sign : List Char} {negative : Bool} (hsign : Sign sign negative) {d : Char} (hd : d.isDigit = true)
      {whole fraction : List Char} (hwhole : Digits whole) (hfraction : Digits fraction) :
      WritesReal (sign ++ d :: whole ++ '.' :: fraction)
        (.ofDecimal negative (digitsNumber (d :: whole ++ fraction)) (fraction.filter Char.isDigit).length)

/-! ## Tokens -/

/-- The first character of a word. Digits of ASCII begin numbers. -/
def startsWord (c : Char) : Prop := (Text.isAlphanumeric c = true ∨ c = '_') ∧ c.isDigit = false

/-- A word, as a bare literal or a name. -/
def IsWord : List Char → Prop
  | [] => False
  | c :: cs => startsWord c ∧ ∀ c ∈ cs, isNameChar c = true

namespace Token

/-- How a token can be written. -/
inductive Spells : List Char → Token → Prop
  | equals : Spells ['='] equals
  | comma : Spells [','] comma
  | text {quote : Char} (hquote : quote = '\'' ∨ quote = '"') {body value : List Char}
      (quotes : Quotes quote body value) : Spells (quote :: body ++ [quote]) (literal (.text (String.ofList value)))
  | int {cs : List Char} {n : Int} (writes : WritesInt cs n) (low : Number.minWord ≤ n) (high : n ≤ Number.maxWord) :
      Spells cs (literal (.int n))
  | real {cs : List Char} {x : Number.Double} (writes : WritesReal cs x) : Spells cs (literal (.real x))
  | word {cs : List Char} (isWord : IsWord cs) : Spells cs (word (String.ofList cs))

/-- Whether a token goes on with a character that follows it. -/
def goesOn : Token → Char → Bool
  | literal (.int _) | literal (.real _) => isNumberChar
  | word _ => isNameChar
  | _ => fun _ => false

/-- A text begins with these tokens, with any white space before each, and goes on with `rest`. Every token is as
long as it can be. -/
inductive Lexes (rest : List Char) : List Char → List Token → Prop
  | done : Lexes rest rest []
  | blank {c : Char} (hblank : Text.isBlank c = true) {cs : List Char} {ts : List Token} (tail : Lexes rest cs ts) :
      Lexes rest (c :: cs) ts
  | token {lexeme cs : List Char} {t : Token} (spells : Spells lexeme t) (ends : Text.StartsOutside t.goesOn cs) {ts : List Token}
      (tail : Lexes rest cs ts) : Lexes rest (lexeme ++ cs) (t :: ts)

/-! ## Reading strings -/

variable {cs rest : List Char}

theorem unescape?_eq_some {e d : Char} : unescape? e = some d ↔ Escape e d := by
  constructor
  · intro h
    unfold unescape? at h
    split at h <;> cases h <;> constructor
  · rintro (_ | _ | _ | _ | _) <;> rfl

theorem scanString_eq_ok_iff {quote : Char} (hquote : quote ≠ '\\') {value : List Char} :
    scanString quote cs = .ok (value, rest) ↔ ∃ body, Quotes quote body value ∧ cs = body ++ quote :: rest := by
  constructor
  · intro h
    fun_induction scanString quote cs generalizing value with
    | case1 => cases h
    | case2 cs =>
      cases h
      exact ⟨[], .nil, rfl⟩
    | case3 => cases h
    | case4 e cs d hd _ ih =>
      obtain ⟨⟨value, rest⟩, hr, h⟩ := Except.map_eq_ok.1 h
      cases h
      obtain ⟨body, hbody, rfl⟩ := ih hr
      exact ⟨_, .escaped (unescape?_eq_some.1 hd) hbody, rfl⟩
    | case5 => cases h
    | case6 c cs hc hb ih =>
      obtain ⟨⟨value, rest⟩, hr, h⟩ := Except.map_eq_ok.1 h
      cases h
      obtain ⟨body, hbody, rfl⟩ := ih hr
      exact ⟨_, .plain hc hb hbody, rfl⟩
  · rintro ⟨body, hbody, rfl⟩
    induction hbody with
    | nil =>
      rw [List.nil_append, scanString.eq_def]
      dsimp only
      rw [if_pos rfl]
    | plain hq hb _ ih =>
      rw [List.cons_append, scanString.eq_def]
      dsimp only
      rw [if_neg hq, if_neg hb, ih]
      rfl
    | escaped escape _ ih =>
      rw [List.cons_append, List.cons_append, scanString.eq_def]
      dsimp only
      rw [if_neg hquote.symm, if_pos rfl, unescape?_eq_some.2 escape]
      dsimp only
      rw [ih]
      rfl

/-! ## Reading numbers -/

/-- Characters of a number are digits, or digits up to a point and more of them after it. -/
theorem digits_or_point (h : ∀ c ∈ cs, isNumberChar c = true) :
    Digits cs ∨ ∃ whole more, Digits whole ∧ (∀ c ∈ more, isNumberChar c = true) ∧ cs = whole ++ '.' :: more := by
  induction cs with
  | nil => exact .inl nofun
  | cons c cs ih =>
    rw [List.forall_mem_cons] at h
    by_cases hpoint : c = '.'
    · exact .inr ⟨[], cs, nofun, h.2, hpoint ▸ rfl⟩
    have hc : c.isDigit = true ∨ c = '_' := by
      have := h.1
      simp only [isNumberChar, Bool.or_eq_true, decide_eq_true_eq] at this
      tauto
    obtain hcs | ⟨whole, more, hwhole, hmore, rfl⟩ := ih h.2
    · exact .inl (List.forall_mem_cons.2 ⟨hc, hcs⟩)
    · exact .inr ⟨c :: whole, more, List.forall_mem_cons.2 ⟨hc, hwhole⟩, hmore, rfl⟩

theorem isNumberChar_of_digits (h : Digits cs) : ∀ c ∈ cs, isNumberChar c = true := by
  intro c hc
  obtain hdigit | rfl := h c hc
  · simp [isNumberChar, hdigit]
  · rfl

theorem isNumberChar_of_fraction {whole fraction : List Char} (hwhole : Digits whole) (hfraction : Digits fraction) :
    ∀ c ∈ whole ++ '.' :: fraction, isNumberChar c = true :=
  List.forall_mem_append.2 ⟨isNumberChar_of_digits hwhole, List.forall_mem_cons.2 ⟨rfl, isNumberChar_of_digits hfraction⟩⟩

theorem ne_of_isDigit {d : Char} (hd : d.isDigit = true) : d ≠ '+' ∧ d ≠ '-' ∧ d ≠ '.' ∧ d ≠ '_' := by
  refine ⟨?_, ?_, ?_, ?_⟩ <;> (rintro rfl; cases hd)

/-- Without its underscores, what digits are written with is digits only. -/
theorem filter_of_digits (h : Digits cs) : cs.filter (· ≠ '_') = cs.filter Char.isDigit := by
  refine List.filter_congr fun c hc => ?_
  obtain hdigit | rfl := h c hc
  · simp [hdigit, (ne_of_isDigit hdigit).2.2.2]
  · rfl

theorem digitsValue_filter (h : Digits cs) : digitsValue (cs.filter (· ≠ '_')) = digitsNumber cs := by
  rw [filter_of_digits h]
  rfl

theorem splitOn_of_digits (h : Digits cs) : Text.splitOn (· = '.') (cs.filter (· ≠ '_')) = [cs.filter (· ≠ '_')] := by
  refine Text.splitOn_of_forall fun c hc => ?_
  rw [filter_of_digits h] at hc
  exact decide_eq_false (ne_of_isDigit (List.mem_filter.1 hc).2).2.2.1

variable {sign : List Char} {negative : Bool} {d : Char} {ds : List Char}

theorem head?_signed (hsign : Sign sign negative) (hd : d.isDigit = true) :
    ((sign ++ d :: ds).filter (· ≠ '_')).head? = some '-' ↔ negative = true := by
  obtain ⟨-, hminus, -, hline⟩ := ne_of_isDigit hd
  cases hsign with
  | none => simp [hline, hminus]
  | plus => simp
  | minus => simp

theorem filter_signed (hsign : Sign sign negative) (hd : d.isDigit = true) (hds : ∀ c ∈ ds, isNumberChar c = true) :
    ((sign ++ d :: ds).filter (· ≠ '_')).filter (fun c => c ≠ '+' && c ≠ '-') = (d :: ds).filter (· ≠ '_') := by
  have hbody : ((d :: ds).filter (· ≠ '_')).filter (fun c => c ≠ '+' && c ≠ '-') = (d :: ds).filter (· ≠ '_') := by
    refine List.filter_eq_self.2 fun c hc => ?_
    have hnumber : isNumberChar c = true := by
      obtain rfl | hc := List.mem_cons.1 (List.mem_filter.1 hc).1
      · simp [isNumberChar, hd]
      · exact hds c hc
    have hplus : c ≠ '+' := by rintro rfl; cases hnumber
    have hminus : c ≠ '-' := by rintro rfl; cases hnumber
    simp [hplus, hminus]
  rw [List.filter_append, List.filter_append, hbody]
  cases hsign <;> rfl

theorem ofNumber_of_writesInt {n : Int} (h : WritesInt cs n) :
    ofNumber cs = if Number.fitsWord n then .ok (literal (.int n)) else .error (.invalidNumber (String.ofList cs)) := by
  obtain @⟨sign, negative, hsign, d, hd, ds, hds⟩ := h
  have hdigits : Digits (d :: ds) := List.forall_mem_cons.2 ⟨.inl hd, hds⟩
  unfold ofNumber numberOf?
  simp only [filter_signed hsign hd (isNumberChar_of_digits hds), head?_signed hsign hd, splitOn_of_digits hdigits,
    digitsValue_filter hdigits]
  by_cases hfits : Number.fitsWord (if negative then -(digitsNumber (d :: ds) : Int) else digitsNumber (d :: ds))
  · simp only [if_pos hfits]
  · simp only [if_neg hfits]

theorem ofNumber_of_writesReal {x : Number.Double} (h : WritesReal cs x) : ofNumber cs = .ok (literal (.real x)) := by
  obtain @⟨sign, negative, hsign, d, hd, whole, fraction, hwhole, hfraction⟩ := h
  have hdigits : Digits (d :: whole) := List.forall_mem_cons.2 ⟨.inl hd, hwhole⟩
  have hds := isNumberChar_of_fraction hwhole hfraction
  have hpieces : Text.splitOn (· = '.') ((d :: (whole ++ '.' :: fraction)).filter (· ≠ '_')) =
      [(d :: whole).filter (· ≠ '_'), fraction.filter (· ≠ '_')] := by
    rw [← List.cons_append, List.filter_append, List.filter_cons_of_pos (a := '.') (by decide),
      Text.splitOn_append (by decide), splitOn_of_digits hdigits, splitOn_of_digits hfraction]
    rfl
  have hvalue := digitsValue_filter (List.forall_mem_append.2 ⟨hdigits, hfraction⟩)
  rw [List.filter_append] at hvalue
  unfold ofNumber numberOf?
  rw [List.append_assoc, List.cons_append]
  simp only [filter_signed hsign hd hds, head?_signed hsign hd, hpieces, hvalue, Bool.decide_eq_true]
  rw [filter_of_digits hfraction]

/-- A number with two points is none. -/
theorem ofNumber_of_points (hsign : Sign sign negative) (hd : d.isDigit = true) {whole fraction more : List Char}
    (hwhole : Digits whole) (hfraction : Digits fraction) (hmore : ∀ c ∈ more, isNumberChar c = true) :
    ofNumber (sign ++ d :: (whole ++ '.' :: (fraction ++ '.' :: more))) =
      .error (.invalidNumber (String.ofList (sign ++ d :: (whole ++ '.' :: (fraction ++ '.' :: more))))) := by
  have hdigits : Digits (d :: whole) := List.forall_mem_cons.2 ⟨.inl hd, hwhole⟩
  have hds : ∀ c ∈ whole ++ '.' :: (fraction ++ '.' :: more), isNumberChar c = true :=
    List.forall_mem_append.2 ⟨isNumberChar_of_digits hwhole, List.forall_mem_cons.2 ⟨rfl,
      List.forall_mem_append.2 ⟨isNumberChar_of_digits hfraction, List.forall_mem_cons.2 ⟨rfl, hmore⟩⟩⟩⟩
  obtain ⟨piece, pieces, hrest⟩ :=
    List.exists_cons_of_ne_nil (Text.splitOn_ne_nil (· = '.') (more.filter (· ≠ '_')))
  have hpieces : Text.splitOn (· = '.') ((d :: (whole ++ '.' :: (fraction ++ '.' :: more))).filter (· ≠ '_')) =
      (d :: whole).filter (· ≠ '_') :: fraction.filter (· ≠ '_') :: piece :: pieces := by
    rw [← List.cons_append, List.filter_append, List.filter_cons_of_pos (a := '.') (by decide),
      Text.splitOn_append (by decide), splitOn_of_digits hdigits, List.filter_append,
      List.filter_cons_of_pos (a := '.') (by decide), Text.splitOn_append (by decide), splitOn_of_digits hfraction, hrest]
    rfl
  unfold ofNumber numberOf?
  simp only [filter_signed hsign hd hds, hpieces]

/-- What is read as a number: an integer, which may be out of range, a number with a point, or one with two of them. -/
theorem number_cases (hsign : Sign sign negative) (hd : d.isDigit = true) (hds : ∀ c ∈ ds, isNumberChar c = true) :
    (∃ n, WritesInt (sign ++ d :: ds) n) ∨ (∃ x, WritesReal (sign ++ d :: ds) x) ∨
      ofNumber (sign ++ d :: ds) = .error (.invalidNumber (String.ofList (sign ++ d :: ds))) := by
  obtain hdigits | ⟨whole, more, hwhole, hmore, rfl⟩ := digits_or_point hds
  · exact .inl ⟨_, .intro hsign hd hdigits⟩
  obtain hfraction | ⟨fraction, last, hfraction, hlast, rfl⟩ := digits_or_point hmore
  · have := WritesReal.intro hsign hd hwhole hfraction
    rw [List.append_assoc, List.cons_append] at this
    exact .inr (.inl ⟨_, this⟩)
  · exact .inr (.inr (ofNumber_of_points hsign hd hwhole hfraction hlast))

theorem ofNumber_eq_ok {t : Token} (hsign : Sign sign negative) (hd : d.isDigit = true)
    (hds : ∀ c ∈ ds, isNumberChar c = true) (h : ofNumber (sign ++ d :: ds) = .ok t) :
    Spells (sign ++ d :: ds) t ∧ t.goesOn = isNumberChar := by
  obtain ⟨n, hn⟩ | ⟨x, hx⟩ | herror := number_cases hsign hd hds
  · rw [ofNumber_of_writesInt hn] at h
    split at h
    · next hfits =>
      cases h
      simp only [Number.fitsWord, Bool.and_eq_true, decide_eq_true_eq] at hfits
      exact ⟨.int hn hfits.1 hfits.2, rfl⟩
    · cases h
  · rw [ofNumber_of_writesReal hx] at h
    cases h
    exact ⟨.real hx, rfl⟩
  · rw [herror] at h
    cases h

/-! ## Reading tokens -/

variable {c : Char} {t : Token}

theorem startsNumber_iff : startsNumber c cs = true ↔
    ∃ sign negative d ds, Sign sign negative ∧ d.isDigit = true ∧ c :: cs = sign ++ d :: ds := by
  constructor
  · intro h
    simp only [startsNumber, Bool.or_eq_true, Bool.and_eq_true, decide_eq_true_eq] at h
    obtain hc | ⟨hsign, hd⟩ := h
    · exact ⟨[], false, c, cs, .none, hc, rfl⟩
    · cases cs with
      | nil => cases hd
      | cons d ds =>
        obtain rfl | rfl := hsign
        · exact ⟨['-'], true, d, ds, .minus, hd, rfl⟩
        · exact ⟨['+'], false, d, ds, .plus, hd, rfl⟩
  · rintro ⟨sign, negative, d, ds, hsign, hd, heq⟩
    cases hsign <;> cases heq <;> simp [startsNumber, hd]

theorem isBlank_of_isDigit (hd : d.isDigit = true) : Text.isBlank d = false := by
  simp only [Char.isDigit, Bool.and_eq_true, decide_eq_true_eq, UInt32.le_iff_toNat_le] at hd
  change 48 ≤ d.toNat ∧ d.toNat ≤ 57 at hd
  simp only [Text.isBlank, Bool.or_eq_false_iff, Bool.and_eq_false_iff, decide_eq_false_iff_not, beq_eq_false_iff_ne]
  omega

/-- A number begins with a sign or a digit, and the rest of it are characters of numbers. -/
theorem exists_run (hsign : Sign sign negative) (hd : d.isDigit = true) (hds : ∀ c ∈ ds, isNumberChar c = true) :
    ∃ c run, sign ++ d :: ds = c :: run ∧ Text.isBlank c = false ∧ ∀ c ∈ run, isNumberChar c = true := by
  have hnumbers : ∀ c ∈ d :: ds, isNumberChar c = true := List.forall_mem_cons.2 ⟨by simp [isNumberChar, hd], hds⟩
  cases hsign with
  | none => exact ⟨d, ds, rfl, isBlank_of_isDigit hd, hds⟩
  | plus => exact ⟨'+', d :: ds, rfl, rfl, hnumbers⟩
  | minus => exact ⟨'-', d :: ds, rfl, rfl, hnumbers⟩

/-- A number is read with all the characters that can belong to it. -/
theorem next_of_number (hsign : Sign sign negative) (hd : d.isDigit = true) (hds : ∀ c ∈ ds, isNumberChar c = true)
    (hrest : Text.StartsOutside isNumberChar rest) (heq : c :: cs = sign ++ d :: ds ++ rest) :
    next c cs = (ofNumber (sign ++ d :: ds)).map (·, rest) := by
  have hstarts : startsNumber c cs = true := startsNumber_iff.2 ⟨sign, negative, d, ds ++ rest, hsign, hd, by simp [heq]⟩
  have hnumber : c.isDigit = true ∨ c = '-' ∨ c = '+' := by
    simp only [startsNumber, Bool.or_eq_true, Bool.and_eq_true, decide_eq_true_eq] at hstarts
    tauto
  have hequals : c ≠ '=' := by rintro rfl; revert hnumber; decide
  have hcomma : c ≠ ',' := by rintro rfl; revert hnumber; decide
  have hquote : ¬ (decide (c = '\'') || decide (c = '"')) = true := by
    rw [Bool.or_eq_true, decide_eq_true_eq, decide_eq_true_eq]
    rintro (rfl | rfl) <;> revert hnumber <;> decide
  obtain ⟨first, run, hlexeme, -, hrun⟩ := exists_run hsign hd hds
  rw [hlexeme, List.cons_append] at heq
  obtain ⟨rfl, rfl⟩ := List.cons.inj heq
  unfold next
  rw [if_neg hequals, if_neg hcomma, if_neg hquote, if_pos hstarts, Text.takeWhile_run hrun hrest,
    Text.dropWhile_run hrun hrest, hlexeme]

theorem next_of_quote (hquote : c = '\'' ∨ c = '"') :
    next c cs = (scanString c cs).map fun r => (literal (.text (String.ofList r.1)), r.2) := by
  obtain rfl | rfl := hquote <;> rfl

/-- What starts a word starts no other token. -/
theorem next_of_startsWord (h : startsWord c) :
    next c cs = .ok (word (String.ofList (c :: cs.takeWhile isNameChar)), cs.dropWhile isNameChar) := by
  obtain ⟨hword, hdigit⟩ := h
  have hne : ∀ d, Text.isAlphanumeric d = false → d ≠ '_' → c ≠ d := by
    rintro d hd hline rfl
    obtain h | h := hword
    · rw [hd] at h
      cases h
    · exact hline h
  have hsigns : startsNumber c cs = false := by
    simp [startsNumber, hdigit, hne '-' (by decide) (by decide), hne '+' (by decide) (by decide)]
  unfold next
  rw [if_neg (hne _ (by decide) (by decide)), if_neg (hne _ (by decide) (by decide)),
    if_neg (by simp [hne '\'' (by decide) (by decide), hne '"' (by decide) (by decide)]), if_neg (by simp [hsigns]),
    if_pos (by simpa using hword)]

theorem next_of_spells {lexeme : List Char} (h : Spells lexeme t) (hrest : Text.StartsOutside t.goesOn rest)
    (heq : c :: cs = lexeme ++ rest) : next c cs = .ok (t, rest) := by
  cases h with
  | equals =>
    cases heq
    rfl
  | comma =>
    cases heq
    rfl
  | @text quote hquote body value quotes =>
    rw [List.cons_append, List.cons_append, List.append_assoc, List.singleton_append] at heq
    obtain ⟨rfl, rfl⟩ := List.cons.inj heq
    have hne : c ≠ '\\' := by obtain rfl | rfl := hquote <;> decide
    rw [next_of_quote hquote, (scanString_eq_ok_iff hne).2 ⟨body, quotes, rfl⟩]
    rfl
  | @int lexeme n writes low high =>
    have hfits : Number.fitsWord n = true := by simp [Number.fitsWord, low, high]
    have hvalue := ofNumber_of_writesInt writes
    obtain @⟨sign, negative, hsign, d, hd, ds, hds⟩ := writes
    rw [next_of_number hsign hd (isNumberChar_of_digits hds) hrest heq, hvalue, if_pos hfits]
    rfl
  | real writes =>
    have hvalue := ofNumber_of_writesReal writes
    obtain @⟨sign, negative, hsign, d, hd, whole, fraction, hwhole, hfraction⟩ := writes
    rw [List.append_assoc sign, List.cons_append] at heq hvalue
    rw [next_of_number hsign hd (isNumberChar_of_fraction hwhole hfraction) hrest heq, hvalue]
    rfl
  | @word lexeme isWord =>
    cases lexeme with
    | nil => exact isWord.elim
    | cons first run =>
      rw [List.cons_append] at heq
      obtain ⟨rfl, rfl⟩ := List.cons.inj heq
      rw [next_of_startsWord isWord.1, Text.takeWhile_run isWord.2 hrest, Text.dropWhile_run isWord.2 hrest]

theorem spells_of_next (h : next c cs = .ok (t, rest)) :
    ∃ lexeme, Spells lexeme t ∧ Text.StartsOutside t.goesOn rest ∧ c :: cs = lexeme ++ rest := by
  have hnext := h
  unfold next at h
  split at h
  · next hc =>
    cases h
    exact ⟨['='], .equals, fun _ _ => rfl, hc ▸ rfl⟩
  split at h
  · next hc =>
    cases h
    exact ⟨[','], .comma, fun _ _ => rfl, hc ▸ rfl⟩
  split at h
  · next hc =>
    have hquote : c = '\'' ∨ c = '"' := by simpa using hc
    have hne : c ≠ '\\' := by obtain rfl | rfl := hquote <;> decide
    obtain ⟨⟨value, rest⟩, hstring, h⟩ := Except.map_eq_ok.1 h
    cases h
    obtain ⟨body, quotes, rfl⟩ := (scanString_eq_ok_iff hne).1 hstring
    exact ⟨c :: body ++ [c], .text hquote quotes, fun _ _ => rfl, by simp⟩
  split at h
  · next hstarts =>
    obtain ⟨sign, negative, d, ds, hsign, hd, heq⟩ := startsNumber_iff.1 hstarts
    have hds : ∀ c ∈ ds.takeWhile isNumberChar, isNumberChar c = true := fun _ hc => List.mem_takeWhile_imp hc
    have hlexeme : c :: cs = sign ++ d :: ds.takeWhile isNumberChar ++ ds.dropWhile isNumberChar := by
      rw [heq, List.append_assoc, List.cons_append, List.takeWhile_append_dropWhile]
    rw [next_of_number hsign hd hds (Text.startsOutside_dropWhile _ _) hlexeme] at hnext
    obtain ⟨t, hnumber, hnext⟩ := Except.map_eq_ok.1 hnext
    cases hnext
    obtain ⟨spells, hgoes⟩ := ofNumber_eq_ok hsign hd hds hnumber
    exact ⟨_, spells, hgoes ▸ Text.startsOutside_dropWhile _ _, hlexeme⟩
  split at h
  · next hdigit hword =>
    cases h
    have hword : Text.isAlphanumeric c = true ∨ c = '_' := by simpa using hword
    have hdigit : c.isDigit = false := by
      simp only [startsNumber, Bool.or_eq_true, not_or, Bool.not_eq_true] at hdigit
      exact hdigit.1
    exact ⟨c :: cs.takeWhile isNameChar, .word ⟨⟨hword, hdigit⟩, fun _ hc => List.mem_takeWhile_imp hc⟩,
      Text.startsOutside_dropWhile _ _, by rw [List.cons_append, List.takeWhile_append_dropWhile]⟩
  · cases h

/-! ## Reading texts -/

theorem isBlank_of_startsWord (h : startsWord c) : Text.isBlank c = false := by
  obtain hword | rfl := h.1
  · rw [← Bool.not_eq_true]
    intro hblank
    rw [Text.isAlphanumeric_of_isBlank hblank] at hword
    cases hword
  · rfl

/-- No token is empty or begins with white space. -/
theorem exists_cons_of_spells {lexeme : List Char} (h : Spells lexeme t) :
    ∃ c run, lexeme = c :: run ∧ Text.isBlank c = false := by
  cases h with
  | equals => exact ⟨'=', [], rfl, rfl⟩
  | comma => exact ⟨',', [], rfl, rfl⟩
  | text hquote quotes => exact ⟨_, _, rfl, by obtain rfl | rfl := hquote <;> rfl⟩
  | int writes =>
    obtain ⟨hsign, hd, hds⟩ := writes
    obtain ⟨c, run, hlexeme, hblank, -⟩ := exists_run hsign hd (isNumberChar_of_digits hds)
    exact ⟨c, run, hlexeme, hblank⟩
  | real writes =>
    obtain ⟨hsign, hd, hwhole, hfraction⟩ := writes
    obtain ⟨c, run, hlexeme, hblank, -⟩ := exists_run hsign hd (isNumberChar_of_fraction hwhole hfraction)
    exact ⟨c, run, by rw [List.append_assoc, List.cons_append, hlexeme], hblank⟩
  | @word lexeme isWord =>
    cases lexeme with
    | nil => exact isWord.elim
    | cons c run => exact ⟨c, run, rfl, isBlank_of_startsWord isWord.1⟩

theorem scan_of_isBlank (h : Text.isBlank c = true) : scan (c :: cs) = scan cs := by
  rw [scan, if_pos h]

theorem scan_of_next (hblank : Text.isBlank c = false) (h : next c cs = .ok (t, rest)) :
    scan (c :: cs) = (scan rest).map (t :: ·) := by
  rw [scan, if_neg (by simp [hblank])]
  split
  · next h' =>
    rw [h] at h'
    cases h'
  · next h' =>
    rw [h] at h'
    cases h'
    rfl

theorem scan_of_next_error {e : ArgumentFault} (hblank : Text.isBlank c = false) (h : next c cs = .error e) :
    scan (c :: cs) = .error e := by
  rw [scan, if_neg (by simp [hblank])]
  split
  · next h' =>
    rw [h] at h'
    cases h'
    rfl
  · next h' =>
    rw [h] at h'
    cases h'

/-- An integer that is too large for a word is an error, whatever comes after it. -/
theorem scan_of_writesInt {numeral : List Char} {n : Int} (h : WritesInt numeral n) (hrange : Number.fitsWord n = false)
    (hrest : Text.StartsOutside isNumberChar rest) :
    scan (numeral ++ rest) = .error (.invalidNumber (String.ofList numeral)) := by
  have hvalue := ofNumber_of_writesInt h
  rw [hrange, if_neg (by decide)] at hvalue
  obtain @⟨sign, negative, hsign, d, hd, ds, hds⟩ := h
  obtain ⟨c, run, hlexeme, hblank, -⟩ := exists_run hsign hd (isNumberChar_of_digits hds)
  have heq : c :: (run ++ rest) = sign ++ d :: ds ++ rest := by rw [hlexeme, List.cons_append]
  have hnext := next_of_number hsign hd (isNumberChar_of_digits hds) hrest heq
  rw [hvalue] at hnext
  rw [hlexeme, List.cons_append, scan_of_next_error hblank hnext, hlexeme]

variable {ts : List Token}

/-- The tokens at the front of a text are read first. -/
theorem scan_of_lexes (h : Lexes rest cs ts) : scan cs = (scan rest).map (ts ++ ·) := by
  induction h with
  | done => cases scan rest <;> rfl
  | blank hblank _ ih => rw [scan_of_isBlank hblank, ih]
  | token spells ends _ ih =>
    obtain ⟨c, run, rfl, hblank⟩ := exists_cons_of_spells spells
    rw [List.cons_append, scan_of_next hblank (next_of_spells spells ends List.cons_append.symm), ih]
    cases scan rest <;> rfl

/-- A text is scanned into the tokens that it is cut into. -/
theorem scan_eq_ok_iff : scan cs = .ok ts ↔ Lexes [] cs ts := by
  constructor
  · intro h
    fun_induction scan cs generalizing ts with
    | case1 =>
      cases h
      exact .done
    | case2 c cs hblank ih => exact .blank hblank (ih h)
    | case3 => cases h
    | case4 c cs hblank t rest hnext _ ih =>
      obtain ⟨ts, hts, h⟩ := Except.map_eq_ok.1 h
      cases h
      obtain ⟨lexeme, spells, ends, heq⟩ := spells_of_next hnext
      exact heq ▸ .token spells ends (ih hts)
  · intro h
    rw [scan_of_lexes h, scan]
    simp [Except.map]

end Token

end ScreenForm.Description
