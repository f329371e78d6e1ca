import ScreenForm.Proofs.Description.MarkerText
import ScreenForm.Proofs.Description.Writing
/-!
# Dividers in short and in full

A run of a character with data is a divider, and so is the line of a divider
that has the same markers, the character between quotes and the same keyword
arguments (`InFull`). Both read alike (`InFull.reads`).
-/

namespace ScreenForm

/-! ## Margins -/

namespace Text

variable {c : Char} {cs ds : List Char}

theorem trimEnd_append (cs ds : List Char) :
    trimEnd (cs ++ ds) = if trimEnd ds = [] then trimEnd cs else cs ++ trimEnd ds := by
  have hnil : trimEnd ds = [] ↔ (ds.reverse.dropWhile isBlank).isEmpty = true := by
    rw [trimEnd, List.reverse_eq_nil_iff, List.isEmpty_iff]
  unfold trimEnd at *
  rw [List.reverse_append, List.dropWhile_append]
  simp only [hnil]
  split <;> simp

theorem trimEnd_prefix (cs : List Char) : trimEnd cs <+: cs := by
  have := List.dropWhile_suffix (l := cs.reverse) isBlank
  rwa [← List.reverse_prefix, List.reverse_reverse] at this

theorem trimEnd_eq_self (h : ∀ c, cs.getLast? = some c → isBlank c = false) : trimEnd cs = cs := by
  have hstarts : StartsOutside isBlank cs.reverse := by
    intro c hc
    rw [List.head?_reverse] at hc
    exact h c hc
  rw [trimEnd, dropWhile_eq_self_of_startsOutside hstarts, List.reverse_reverse]

theorem trimEnd_trimEnd (cs : List Char) : trimEnd (trimEnd cs) = trimEnd cs := by
  have := startsOutside_dropWhile isBlank cs.reverse
  rw [trimEnd, trimEnd, List.reverse_reverse, dropWhile_eq_self_of_startsOutside this]

theorem head?_of_trimEnd (h : (trimEnd cs).head? = some c) : cs.head? = some c := by
  obtain ⟨ds, hds⟩ := trimEnd_prefix cs
  rw [← hds, List.head?_append, h]
  rfl

theorem trimStart_trimStart (cs : List Char) : trimStart (trimStart cs) = trimStart cs :=
  dropWhile_eq_self_of_startsOutside (startsOutside_dropWhile isBlank cs)

/-- It does not matter which margin is cut first. -/
theorem trimStart_trimEnd (cs : List Char) : trimStart (trimEnd cs) = trimEnd (trimStart cs) := by
  induction cs with
  | nil => rfl
  | cons c cs ih =>
    have hcons := trimEnd_append [c] cs
    rw [List.singleton_append] at hcons
    by_cases hc : isBlank c = true
    · have hstart : ∀ cs, trimStart (c :: cs) = trimStart cs := fun cs => List.dropWhile_cons_of_pos hc
      rw [hstart, ← ih, hcons]
      split
      next hnil =>
        have hc : trimEnd [c] = [] := by simp [trimEnd, hc]
        rw [hc, hnil]
      next => exact hstart _
    · have hstart : ∀ cs, trimStart (c :: cs) = c :: cs := fun cs => List.dropWhile_cons_of_neg hc
      have hlast : trimEnd [c] = [c] := trimEnd_eq_self (by simpa using hc)
      rw [hstart, hcons, hlast]
      split <;> exact hstart _

theorem trim_eq (cs : List Char) : trim cs = trimStart (trimEnd cs) := (trimStart_trimEnd cs).symm

/-- Only the text after one without a margin at its end loses white space there. -/
theorem trimEnd_append_of_eq (h : trimEnd cs = cs) (ds : List Char) : trimEnd (cs ++ ds) = cs ++ trimEnd ds := by
  rw [trimEnd_append, h]
  split
  next hnil => rw [hnil, List.append_nil]
  next => rfl

theorem trim_append (hstart : trimStart cs = cs) (hend : trimEnd cs = cs) (hne : cs ≠ []) (ds : List Char) :
    trim (cs ++ ds) = cs ++ trimEnd ds := by
  have hfirst : StartsOutside isBlank cs := by
    rw [← hstart]
    exact startsOutside_dropWhile isBlank cs
  rw [trim_eq, trimEnd_append_of_eq hend]
  obtain ⟨b, bs, rfl⟩ := List.exists_cons_of_ne_nil hne
  exact dropWhile_eq_self_of_startsOutside fun c hc => hfirst c hc

end Text

namespace Description

open Marker (Fronts Begins)

variable {c : Char} {cs gap rest k m : List Char} {ms : List Marker} {n : Nat}

theorem exists_blanks (cs : List Char) : ∃ gap, Blanks gap ∧ cs = Text.trimEnd cs ++ gap := by
  refine ⟨(cs.reverse.takeWhile Text.isBlank).reverse, fun c hc => ?_, ?_⟩
  · exact List.mem_takeWhile_imp (List.mem_reverse.1 hc)
  · rw [Text.trimEnd, ← List.reverse_append, List.takeWhile_append_dropWhile, List.reverse_reverse]

theorem trimEnd_blanks (h : Blanks gap) (cs : List Char) :
    ∃ gap', Blanks gap' ∧ Text.trimEnd (gap ++ cs) = gap' ++ Text.trimEnd cs := by
  rw [Text.trimEnd_append]
  split
  next hnil =>
    rw [hnil]
    exact ⟨_, fun c hc => h c ((Text.trimEnd_prefix gap).subset hc), (List.append_nil _).symm⟩
  next => exact ⟨gap, h, rfl⟩

/-! ## Markers before other data -/

/-- Markers are read one by one, whether or not they can stand together, and then what follows them. -/
theorem Attributes.addMarkers_fronts_append (h : Fronts rest cs ms) (a : Attributes)
    (hrest : ms ≠ [] → Text.StartsOutside isNameChar rest) :
    a.addMarkers n cs = (ms.foldlM (fun a m => Attributes.add a n m) a).bind (·.addMarkers n rest) := by
  induction h generalizing a with
  | nil => rfl
  | @cons gap hgap m proper cs ms tail ih =>
    have hrest := hrest (List.cons_ne_nil m ms)
    have hnext : Marker.next? n (Text.trimStart (gap ++ (m.written.toList ++ cs))) = .ok (some (m, cs)) := by
      rw [Marker.trimStart_written hgap]
      exact Marker.next?_of_written proper (tail.startsOutside hrest)
    rw [addMarkers_of_some hnext, List.foldlM_cons]
    cases a.add n m with
    | error e => rfl
    | ok b => exact ih b fun _ => hrest

theorem Attributes.addMarkers_fronts (h : Fronts rest cs ms) (a : Attributes)
    (hrest : ms ≠ [] → Text.StartsOutside isNameChar rest) (hbegins : ¬ Begins (Text.trimStart rest)) :
    a.addMarkers n cs = (ms.foldlM (fun a m => Attributes.add a n m) a).map (·, Text.trimStart rest) := by
  rw [addMarkers_fronts_append h a hrest]
  cases ms.foldlM (fun a m => Attributes.add a n m) a with
  | error e => rfl
  | ok b => exact addMarkers_of_none (Marker.next?_eq_none_iff.2 hbegins)

/-- What markers say one after the other. -/
def Attributes.addAll (n : Nat) (ms : List Marker) : Except SyntaxError Attributes :=
  ms.foldlM (fun a m => a.add n m) {}

theorem Attributes.gathers_addAll {a : Attributes} (h : addAll n ms = .ok a) : a.Gathers ms := by
  have hall : ∀ {ms done : List Marker} {a b : Attributes}, a.Gathers done →
      ms.foldlM (fun a m => a.add n m) a = .ok b → b.Gathers (done ++ ms) := by
    intro ms
    induction ms with
    | nil =>
      intro done a b ha h
      cases h
      rwa [List.append_nil]
    | cons m ms ih =>
      intro done a b ha h
      rw [List.foldlM_cons] at h
      obtain ⟨mid, hmid, h⟩ := Except.bind_eq_ok.1 h
      rw [List.append_cons]
      exact ih (ha.add hmid) h
  exact hall gathers_nil h

/-- What stands before the arguments are markers, and what follows them begins with none. -/
theorem Attributes.parse_eq_ok_iff (h : Fronts rest cs ms) (hrest : ms ≠ [] → Text.StartsOutside isNameChar rest)
    (hbegins : ¬ Begins (Text.trimStart rest)) {a : Attributes} {args : Arguments} :
    Attributes.parse cs n = .ok (a, args) ↔
      addAll n ms = .ok a ∧ Arguments.parse (Text.trimStart rest) n = .ok args := by
  rw [parse, scan, addMarkers_fronts h _ hrest hbegins, addAll]
  cases ms.foldlM (fun a m => a.add n m) ({} : Attributes) <;>
    cases hargs : Arguments.parse (Text.trimStart rest) n <;>
    simp [hargs, Except.map, bind, Except.bind, pure, Except.pure]

/-- A margin before markers or arguments does not matter. -/
theorem Attributes.parse_trimStart (cs : List Char) : Attributes.parse (Text.trimStart cs) n = Attributes.parse cs n := by
  have hadd : ∀ a : Attributes, a.addMarkers n (Text.trimStart cs) = a.addMarkers n cs := by
    intro a
    have htrim : Marker.next? n (Text.trimStart (Text.trimStart cs)) = Marker.next? n (Text.trimStart cs) := by
      rw [Text.trimStart_trimStart]
    cases hnext : Marker.next? n (Text.trimStart cs) with
    | error e => rw [addMarkers_of_error hnext, addMarkers_of_error (htrim.trans hnext)]
    | ok r =>
      cases r with
      | none => rw [addMarkers_of_none hnext, addMarkers_of_none (htrim.trans hnext), Text.trimStart_trimStart]
      | some r => rw [addMarkers_of_some hnext, addMarkers_of_some (htrim.trans hnext)]
  rw [parse, parse, scan, scan, hadd]

theorem Marker.Fronts.append (h : Fronts [] cs ms) (rest : List Char) : Fronts rest (cs ++ rest) ms := by
  induction h with
  | nil => exact .nil
  | cons hgap proper tail ih =>
    rw [List.append_assoc, List.append_assoc]
    exact .cons hgap proper ih

theorem Marker.exists_last (m : Marker) (h : m.Proper) :
    ∃ cs c, m.written.toList = cs ++ [c] ∧ isNameChar c = true := by
  have hname : ∀ (before : List Char) {name : String}, IsName name →
      ∃ cs c, before ++ name.toList = cs ++ [c] ∧ isNameChar c = true := by
    rintro before name ⟨hne, hall⟩
    refine ⟨before ++ name.toList.dropLast, name.toList.getLast hne, ?_, hall _ (List.getLast_mem hne)⟩
    rw [List.append_assoc, List.dropLast_concat_getLast]
  obtain ⟨sign, name, hsign⟩ | ⟨kind, responder, rfl⟩ := m.ofSign?_or_event
  · obtain ⟨hwritten, hproper⟩ := written_of_sign hsign
    rw [hwritten]
    exact hname [sign] (hproper.1 h)
  · rw [written_event, List.append_cons, ← List.cons_append]
    exact hname _ h

/-- Markers do not end with white space. -/
theorem Marker.Fronts.trimEnd_eq (h : Fronts [] cs ms) : Text.trimEnd cs = cs := by
  induction h with
  | nil => rfl
  | @cons gap hgap m proper cs ms tail ih =>
    obtain ⟨before, c, hlast, hc⟩ := m.exists_last proper
    rw [← List.append_assoc, Text.trimEnd_append, ih]
    split
    next hnil =>
      rw [hnil, List.append_nil, hlast]
      refine Text.trimEnd_eq_self fun d hd => ?_
      rw [← List.append_assoc, List.getLast?_concat, Option.some.injEq] at hd
      subst hd
      rw [← Bool.not_eq_true]
      intro hblank
      rw [isNameChar_of_isBlank hblank] at hc
      cases hc
    next => rfl

/-! ## A positional argument before others -/

theorem Token.scan_trimStart (cs : List Char) : Token.scan (Text.trimStart cs) = Token.scan cs := by
  have hblanks : Blanks (cs.takeWhile Text.isBlank) := fun c hc => List.mem_takeWhile_imp hc
  have hlexes := Token.Lexes.blanks hblanks (.done : Token.Lexes (Text.trimStart cs) _ _)
  have hcs : cs.takeWhile Text.isBlank ++ Text.trimStart cs = cs := List.takeWhile_append_dropWhile
  rw [hcs] at hlexes
  rw [Token.scan_of_lexes hlexes]
  cases Token.scan (Text.trimStart cs) <;> rfl

theorem Token.Lexes.append_blanks {ts : List Token} (h : Token.Lexes [] cs ts) (hgap : Blanks gap) :
    Token.Lexes [] (cs ++ gap) ts := by
  induction h with
  | done => exact Token.lexes_blanks hgap
  | blank hblank _ ih => exact .blank hblank ih
  | @token lexeme cs t spells ends ts _ ih =>
    rw [List.append_assoc]
    refine .token spells (fun c hc => ?_) ih
    cases cs with
    | nil =>
      have houtside : Text.StartsOutside isNameChar gap := fun d hd => isNameChar_of_isBlank (hgap d (List.mem_of_head? hd))
      exact t.startsOutside_goesOn houtside c hc
    | cons d cs => exact ends c hc

/-- A text that is blank, or whose first token is a word. -/
def StartsWord (cs : List Char) : Prop := ∀ c, (Text.trimStart cs).head? = some c → startsWord c

theorem StartsWord.tokens (h : StartsWord cs) {ts : List Token} (hts : Token.scan cs = .ok ts) :
    ts = [] ∨ ∃ w rest, ts = .word w :: rest := by
  rw [← Token.scan_trimStart] at hts
  cases htrim : Text.trimStart cs with
  | nil =>
    rw [htrim, Token.scan] at hts
    cases hts
    exact .inl rfl
  | cons c cs =>
    have hword := h c (by rw [htrim]; rfl)
    rw [htrim, Token.scan_of_next (Token.isBlank_of_startsWord hword) (Token.next_of_startsWord hword)] at hts
    obtain ⟨_, -, rfl⟩ := Except.map_eq_ok.1 hts
    exact .inr ⟨_, _, rfl⟩

theorem not_mem_of_startsWord {d : Char} (h : startsWord d) : d ∉ ['&', '#', '@', '?', '!'] := by
  intro hd
  have hsigns : ['&', '#', '@', '?', '!'].all (fun s => !Text.isAlphanumeric s && s != '_') = true := by decide
  obtain ⟨halpha, hline⟩ : Text.isAlphanumeric d = false ∧ d ≠ '_' := by simpa using List.all_eq_true.1 hsigns d hd
  obtain h | h := h.1
  · rw [halpha] at h
    cases h
  · exact hline h

/-- No word is a marker. -/
theorem StartsWord.not_begins (h : StartsWord cs) : ¬ Begins (Text.trimStart cs) := by
  cases htrim : Text.trimStart cs with
  | nil => exact id
  | cons c cs =>
    have hword := not_mem_of_startsWord (h c (by rw [htrim]; rfl))
    rw [List.mem_cons, not_or] at hword
    unfold Begins
    split
    · exact id
    · next heq => exact absurd (List.cons.inj heq).1 hword.1
    · next heq =>
      obtain ⟨rfl, rfl⟩ := List.cons.inj heq
      exact fun hbegins => hword.2 hbegins.1

theorem StartsWord.trimEnd (h : StartsWord cs) : StartsWord (Text.trimEnd cs) := by
  intro c hc
  rw [Text.trimStart_trimEnd] at hc
  exact h c (Text.head?_of_trimEnd hc)

namespace Arguments

variable {args : Arguments} {ts : List Token} {l : Literal}

/-- A positional argument more at the front makes no difference to the tokens after it. -/
theorem addTokens_positional_cons (l : Literal) (args : Arguments) (ts : List Token) :
    addTokens { args with positional := l :: args.positional } ts =
      (args.addTokens ts).map fun r => { r with positional := l :: r.positional } := by
  fun_induction addTokens args ts with
  | case1 args => rw [addTokens]; rfl
  | case2 args w => rw [addTokens]; rfl
  | case3 args name t ts ih =>
    rw [addTokens]
    cases t.value with
    | error e => rfl
    | ok value =>
      simp only [bind, Except.bind]
      split
      next => rfl
      next => exact ih value
  | case4 args t ts hshort hlong hkeyword =>
    rw [addTokens.eq_4 _ _ _ hshort hlong, if_pos hkeyword]
    rfl
  | case5 args t ts hshort hlong hkeyword ih =>
    rw [addTokens.eq_4 _ _ _ hshort hlong, if_neg hkeyword]
    cases t.value with
    | error e => rfl
    | ok value => exact ih value

theorem parse_trimStart_eq_ok_iff :
    parse (Text.trimStart cs) n = .ok args ↔ read cs = .ok args := by
  rw [parse_eq_ok_iff, read, read, Token.scan_trimStart]

/-- Arguments are the same with white space after them. -/
theorem read_of_trimEnd (h : read (Text.trimEnd cs) = .ok args) : read cs = .ok args := by
  obtain ⟨ts, hts, hadd⟩ := Except.bind_eq_ok.1 h
  obtain ⟨gap, hgap, hcs⟩ := exists_blanks cs
  refine Except.bind_eq_ok.2 ⟨ts, ?_, hadd⟩
  rw [hcs]
  exact Token.scan_eq_ok_iff.2 ((Token.scan_eq_ok_iff.1 hts).append_blanks hgap)

/-- A string before a list of arguments is a positional argument before theirs. -/
theorem read_quoted {quote : Char} (hquote : quote = '\'' ∨ quote = '"') {body value : List Char}
    (hbody : Quotes quote body value) (hgap : Blanks gap) (hword : StartsWord cs) :
    read (quote :: body ++ [quote] ++ (gap ++ cs)) =
      (read cs).map fun args => { args with positional := .text (String.ofList value) :: args.positional } := by
  have hlexes : Token.Lexes cs (quote :: body ++ [quote] ++ (gap ++ cs)) [.literal (.text (String.ofList value))] :=
    .token (.text hquote hbody) (fun _ _ => rfl) (Token.Lexes.blanks hgap .done)
  rw [read, Token.scan_of_lexes hlexes, read]
  cases hts : Token.scan cs with
  | error e => rfl
  | ok ts =>
    have hfirst : ts.head? ≠ some .equals ∧ dropComma ts = ts := by
      obtain rfl | ⟨w, rest, rfl⟩ := hword.tokens hts
      · exact ⟨by simp, rfl⟩
      · exact ⟨by simp, rfl⟩
    have hadd := addTokens_positional (show ({} : Arguments).keyword = [] from rfl)
      (Token.Denotes.literal (.text (String.ofList value))) hfirst.1
    rw [hfirst.2] at hadd
    exact hadd.trans (addTokens_positional_cons _ {} ts)

end Arguments

/-! ## Dividers -/

/-- What a reader gives and leaves, when it does not fail. -/
theorem ArgumentReader.run_bind {α β : Type} {r : ArgumentReader α} {f : α → ArgumentReader β}
    {args rest : Arguments} {b : β} (h : (r >>= f).run.run args = (.ok b, rest)) :
    ∃ a left, r.run.run args = (.ok a, left) ∧ (f a).run.run left = (.ok b, rest) := by
  rw [ExceptT.run_bind, StateT.run_bind] at h
  rcases hx : r.run.run args with ⟨_ | a, left⟩
  · rw [hx] at h
    cases h
  · rw [hx] at h
    exact ⟨a, left, rfl, h⟩

/-- The number that a keyword argument has, if it has one. -/
def Arguments.nat? (args : Arguments) (name : String) : Option Nat :=
  (args.find? name).bind Literal.asNat?

theorem Arguments.find?_erase {name other : String} (hne : name ≠ other) (args : Arguments) :
    (args.erase other).find? name = args.find? name := by
  unfold find? erase
  dsimp only
  induction args.keyword with
  | nil => rfl
  | cons p ps ih =>
    obtain ⟨key, value⟩ := p
    by_cases hkey : key = other
    · rw [List.eraseP_cons_of_pos (by simpa using hkey), List.lookup_cons, hkey, beq_false_of_ne hne]
    · rw [List.eraseP_cons_of_neg (by simpa using hkey), List.lookup_cons, List.lookup_cons, ih]

theorem ArgumentReader.run_takeNat? {name widget : String} {args rest : Arguments} {v : Option Nat}
    (h : (takeNat? name widget n).run.run args = (.ok v, rest)) : v = args.nat? name ∧ rest = args.erase name := by
  unfold takeNat? takeAs? at h
  obtain ⟨literal, left, htake, h⟩ := run_bind h
  have hrun : (take? name).run.run args = (.ok (args.find? name), args.erase name) := rfl
  rw [hrun] at htake
  cases htake
  unfold Arguments.nat?
  cases hfind : args.find? name with
  | none =>
    rw [hfind] at h
    cases h
    exact ⟨rfl, rfl⟩
  | some literal =>
    rw [hfind] at h
    dsimp only at h
    cases hvalue : literal.asNat? with
    | none =>
      rw [hvalue] at h
      cases h
    | some value =>
      rw [hvalue] at h
      cases h
      exact ⟨hvalue.symm, rfl⟩

theorem ArgumentReader.run_finish {widget : String} {args rest : Arguments} {u : Unit}
    (h : (finish widget n).run.run args = (.ok u, rest)) : args.positional = [] := by
  unfold finish at h
  obtain ⟨left, _, hget, h⟩ := run_bind h
  have hrun : (get : ArgumentReader Arguments).run.run args = (.ok args, args) := rfl
  rw [hrun] at hget
  cases hget
  split at h
  next => cases h
  next => cases h
  next hpositional => exact hpositional

/-- What is read of all arguments is what the reader gives, and no positional one is left. -/
theorem Arguments.run_of_readAll {α : Type} {args : Arguments} {widget : String} {reader : ArgumentReader α} {a : α}
    (h : args.readAll widget n reader = .ok a) : ∃ left, reader.run.run args = (.ok a, left) ∧ left.positional = [] := by
  have hrun : ∃ rest, (do
      let a ← reader
      ArgumentReader.finish widget n
      return a : ArgumentReader α).run.run args = (.ok a, rest) := ⟨_, Prod.ext h rfl⟩
  obtain ⟨_, hrun⟩ := hrun
  obtain ⟨a', left, hread, hrun⟩ := ArgumentReader.run_bind hrun
  obtain ⟨_, _, hfinish, hrun⟩ := ArgumentReader.run_bind hrun
  cases hrun
  exact ⟨left, hread, ArgumentReader.run_finish hfinish⟩

namespace Leaf

variable {args : Arguments} {leaf : Leaf}

/-- A divider takes two numbers, and nothing else may be among its arguments. -/
theorem readAll_dividerOf {w : Widget} (h : args.readAll "Divider" n (dividerOf n c) = .ok w) :
    args.positional = [] ∧ w = .divider c "" ((args.nat? "top").getD 0) ((args.nat? "bottom").getD 0) := by
  obtain ⟨left, hread, hpositional⟩ := Arguments.run_of_readAll h
  unfold dividerOf at hread
  obtain ⟨top, _, htop, hread⟩ := ArgumentReader.run_bind hread
  obtain ⟨bottom, _, hbottom, hread⟩ := ArgumentReader.run_bind hread
  cases hread
  obtain ⟨rfl, rfl⟩ := ArgumentReader.run_takeNat? htop
  obtain ⟨rfl, rfl⟩ := ArgumentReader.run_takeNat? hbottom
  refine ⟨hpositional, ?_⟩
  rw [Arguments.nat?, Arguments.nat?, Arguments.nat?, Arguments.find?_erase (by decide)]

theorem run_takeFill (args : Arguments) (c : Char) :
    (takeFill n).run.run { args with positional := .text (String.ofList [c]) :: args.positional } = (.ok c, args) := by
  have hfill : (Literal.text (String.ofList [c])).asText?.bind (·.toList.head?) = some c := by
    simp [Literal.asText?]
  have htaken : (ArgumentReader.takePositional?).run.run { args with positional := .text (String.ofList [c]) :: args.positional } =
      (.ok (some (.text (String.ofList [c]))), args) := rfl
  rw [takeFill, ExceptT.run_bind, StateT.run_bind, htaken]
  change (_ : ArgumentReader Char).run.run args = _
  simp only [hfill]
  rfl

/-- The fill is taken off the front of the arguments. -/
theorem readAll_takeFill (args : Arguments) (c : Char) :
    Arguments.readAll { args with positional := .text (String.ofList [c]) :: args.positional } "Divider" n
        (do dividerOf n (← takeFill n)) = args.readAll "Divider" n (dividerOf n c) := by
  unfold Arguments.readAll
  dsimp only
  rw [bind_assoc, ExceptT.run_bind, StateT.run_bind, run_takeFill]
  rfl

variable {markers after body value : List Char} {quote : Char}

theorem rule_eq_ok_iff (hmarkers : Fronts [] markers ms) (hnames : ms ≠ [] → Text.StartsOutside isNameChar k)
    (hword : StartsWord k) :
    rule n c (markers ++ k) = .ok leaf ↔ ∃ a args w, Attributes.addAll n ms = .ok a ∧ Arguments.read k = .ok args ∧
      args.readAll "Divider" n (dividerOf n c) = .ok w ∧ leaf = ⟨w, a⟩ := by
  have hparse : ∀ {a args}, Attributes.parse (markers ++ k) n = .ok (a, args) ↔
      Attributes.addAll n ms = .ok a ∧ Arguments.parse (Text.trimStart k) n = .ok args :=
    Attributes.parse_eq_ok_iff (hmarkers.append k) hnames hword.not_begins
  unfold rule
  constructor
  · intro h
    obtain ⟨⟨a, args⟩, hdata, h⟩ := Except.bind_eq_ok.1 h
    obtain ⟨ha, hargs⟩ := hparse.1 hdata
    dsimp only at h
    split at h
    next => cases h
    next =>
      obtain ⟨w, hw, h⟩ := Except.bind_eq_ok.1 h
      cases h
      exact ⟨a, args, w, ha, Arguments.parse_trimStart_eq_ok_iff.1 hargs, hw, rfl⟩
  · rintro ⟨a, args, w, ha, hargs, hw, rfl⟩
    refine Except.bind_eq_ok.2 ⟨(a, args), hparse.2 ⟨ha, Arguments.parse_trimStart_eq_ok_iff.2 hargs⟩, ?_⟩
    dsimp only
    rw [(readAll_dividerOf hw).1]
    exact Except.bind_eq_ok.2 ⟨w, hw, rfl⟩

theorem divider_eq_ok_iff (hmarkers : Fronts [] markers ms) (hword : StartsWord k)
    (hquote : quote = '\'' ∨ quote = '"') (hbody : Quotes quote body [c]) (hgap : Blanks gap) (hafter : Blanks after) :
    divider n (markers ++ (gap ++ (quote :: body ++ [quote] ++ (after ++ k)))) = .ok leaf ↔
      ∃ a args w, Attributes.addAll n ms = .ok a ∧ Arguments.read k = .ok args ∧
        args.readAll "Divider" n (dividerOf n c) = .ok w ∧ leaf = ⟨w, a⟩ := by
  generalize hrest : quote :: body ++ [quote] ++ (after ++ k) = rest
  have hfirst : rest.head? = some quote := by rw [← hrest]; rfl
  have hstarts : Text.StartsOutside Text.isBlank rest ∧ Text.StartsOutside isNameChar rest ∧ ¬ Begins rest := by
    obtain ⟨rest, rfl⟩ : ∃ tail, rest = quote :: tail := ⟨_, hrest.symm⟩
    obtain rfl | rfl := hquote
    all_goals
      refine ⟨by rintro _ ⟨⟩; decide, by rintro _ ⟨⟩; decide, fun h => ?_⟩
      exact absurd h.1 (by decide)
  have htrim : Text.trimStart (gap ++ rest) = rest := Text.dropWhile_run hgap hstarts.1
  have hread : Arguments.read rest = _ := hrest ▸ Arguments.read_quoted hquote hbody hafter hword
  have hparse : ∀ {a args}, Attributes.parse (markers ++ (gap ++ rest)) n = .ok (a, args) ↔
      Attributes.addAll n ms = .ok a ∧ Arguments.parse (Text.trimStart (gap ++ rest)) n = .ok args :=
    Attributes.parse_eq_ok_iff (hmarkers.append (gap ++ rest)) (fun _ => startsOutside_blanks hgap hstarts.2.1)
      (by rw [htrim]; exact hstarts.2.2)
  simp only [htrim, Arguments.parse_eq_ok_iff, hread, Except.map_eq_ok] at hparse
  unfold divider
  constructor
  · intro h
    obtain ⟨⟨a, _⟩, hdata, h⟩ := Except.bind_eq_ok.1 h
    obtain ⟨ha, args, hargs, rfl⟩ := hparse.1 hdata
    dsimp only at h
    rw [readAll_takeFill] at h
    obtain ⟨w, hw, h⟩ := Except.bind_eq_ok.1 h
    cases h
    exact ⟨a, args, w, ha, hargs, hw, rfl⟩
  · rintro ⟨a, args, w, ha, hargs, hw, rfl⟩
    refine Except.bind_eq_ok.2 ⟨_, hparse.2 ⟨ha, args, hargs, rfl⟩, ?_⟩
    dsimp only
    rw [readAll_takeFill]
    exact Except.bind_eq_ok.2 ⟨w, hw, rfl⟩

end Leaf

/-! ## Lines -/

/-- The data of a short divider are these markers and `k`, which lists keyword arguments, and the
line of a divider in full has the same markers, the fill in quotes, and `k` again. -/
inductive InFull (fill : Char) (ms : List Marker) (k : List Char) : (data line : List Char) → Prop
  | intro {markers gap body after : List Char} {quote : Char} (hmarkers : Fronts [] markers ms)
    (hnames : ms ≠ [] → Text.StartsOutside isNameChar k) (hword : StartsWord k) (hgap : Blanks gap)
    (hquote : quote = '\'' ∨ quote = '"') (hbody : Quotes quote body [fill]) (hafter : Blanks after) :
    InFull fill ms k (markers ++ k) ("Dvd".toList ++ (markers ++ (gap ++ (quote :: body ++ [quote] ++ (after ++ k)))))

namespace Line

variable {d : List Char}

/-- No opcode is the same character three times. -/
theorem ofName?_run (c : Char) : Opcode.ofName? [c, c, c] = none := by
  have htable : ∀ p ∈ Opcode.table, p.1.toList[0]? ≠ p.1.toList[1]? ∨ p.1.toList[1]? ≠ p.1.toList[2]? := by decide
  refine List.lookup_eq_none_iff.2 fun p hp => ?_
  rw [bne_iff_ne]
  intro heq
  have := htable p hp
  rw [← heq, String.toList_ofList] at this
  simp at this

theorem trim_run (hc : Text.isBlank c = false) (hn : n ≠ 0) (d : List Char) :
    Text.trim (List.replicate n c ++ d) = List.replicate n c ++ Text.trimEnd d := by
  have hmem : ∀ b ∈ List.replicate n c, Text.isBlank b = false := fun b hb => (List.eq_of_mem_replicate hb) ▸ hc
  refine Text.trim_append ?_ (Text.trimEnd_eq_self fun b hb => hmem b (List.mem_of_getLast? hb)) (by simpa using hn) d
  exact Text.dropWhile_eq_self_of_startsOutside fun b hb => hmem b (List.mem_of_head? hb)

/-- What a run of three or more characters is read as: the characters that go on with it are left out of the data,
also after white space. -/
theorem parse_run (hc : Text.isBlank c = false) (hsharp : c ≠ '#') (n i : Nat) (d : List Char) :
    Line.parse i (List.replicate (n + 3) c ++ d) =
      .ok (.rule c ((Text.trim (List.replicate n c ++ Text.trimEnd d)).dropWhile (· = c))) := by
  rw [Line.parse, trim_run hc (by omega), List.replicate_succ, List.replicate_succ, List.replicate_succ]
  simp only [List.cons_append]
  rw [ofTrimmed, ofName?_run]
  · simp
  · exact hsharp

/-- A run is taken apart from data that it does not touch, if it is long enough or the data begin with something
else. -/
theorem parse_run_apart (hc : Text.isBlank c = false) (hsharp : c ≠ '#') (hn : 3 ≤ n)
    (hd : ∀ b, d.head? = some b → Text.isBlank b = true) (hthree : n = 3 → (Text.trimStart d).head? ≠ some c) (i : Nat) :
    ∃ data, Line.parse i (List.replicate n c ++ d) = .ok (.rule c data) ∧
      ∀ j, Attributes.parse data j = Attributes.parse (Text.trimEnd d) j := by
  obtain ⟨n, rfl⟩ := Nat.exists_eq_add_of_le' hn
  refine ⟨_, parse_run hc hsharp n i d, fun j => ?_⟩
  by_cases hzero : n = 0
  · subst hzero
    have hstarts : Text.StartsOutside (fun b => decide (b = c)) (Text.trimStart (Text.trimEnd d)) := by
      intro b hb
      rw [Text.trimStart_trimEnd] at hb
      have := Text.head?_of_trimEnd hb
      exact decide_eq_false fun h => hthree rfl (h ▸ this)
    rw [List.replicate_zero, List.nil_append, Text.trim_eq, Text.trimEnd_trimEnd,
      Text.dropWhile_eq_self_of_startsOutside hstarts, Attributes.parse_trimStart]
  · have hstarts : Text.StartsOutside (fun b => decide (b = c)) (Text.trimEnd d) := by
      intro b hb
      have := hd b (Text.head?_of_trimEnd hb)
      refine decide_eq_false fun h => ?_
      rw [h, hc] at this
      cases this
    rw [trim_run hc hzero, Text.trimEnd_trimEnd,
      Text.dropWhile_run (fun b hb => by simpa using List.eq_of_mem_replicate hb) hstarts]

theorem parse_divider (i : Nat) (d : List Char) :
    ∃ data, Line.parse i ("Dvd".toList ++ d) = .ok (.command .divider data) ∧
      ∀ j, Attributes.parse data j = Attributes.parse (Text.trimEnd d) j := by
  refine ⟨Text.trim (Text.trimEnd d), ?_, fun j => ?_⟩
  · rw [Line.parse, Text.trim_append (by decide) (by decide) (by decide)]
    rfl
  · rw [Text.trim_eq, Text.trimEnd_trimEnd, Attributes.parse_trimStart]

end Line

theorem Leaf.rule_congr {d d' : List Char} (h : Attributes.parse d n = Attributes.parse d' n) :
    Leaf.rule n c d = Leaf.rule n c d' := by
  rw [rule, rule, h]

theorem Leaf.divider_congr {d d' : List Char} (h : Attributes.parse d n = Attributes.parse d' n) :
    Leaf.divider n d = Leaf.divider n d' := by
  rw [divider, divider, h]

/-- A divider in short is read as the one in full. -/
theorem InFull.reads {d line : List Char} (h : InFull c ms k d line) (hc : Text.isBlank c = false) (hsharp : c ≠ '#')
    (hn : 3 ≤ n) (hd : ∀ b, d.head? = some b → Text.isBlank b = true)
    (hthree : n = 3 → (Text.trimStart d).head? ≠ some c) (i : Nat) :
    ∃ data full, Line.parse i (List.replicate n c ++ d) = .ok (.rule c data) ∧
      Line.parse i line = .ok (.command .divider full) ∧
      ∀ leaf, (Leaf.rule i c data = .ok leaf ↔ Leaf.divider i full = .ok leaf) ∧
        (Leaf.rule i c data = .ok leaf → ∃ attributes args, Attributes.addAll i ms = .ok attributes ∧
          Arguments.read k = .ok args ∧
          leaf = ⟨.divider c "" ((args.nat? "top").getD 0) ((args.nat? "bottom").getD 0), attributes⟩) := by
  obtain ⟨data, hdata, hrun⟩ := Line.parse_run_apart hc hsharp hn hd hthree i
  obtain @⟨markers, gap, body, after, quote, hmarkers, hnames, hword, hgap, hquote, hbody, hafter⟩ := h
  obtain ⟨full, hfull, hdivider⟩ := Line.parse_divider i (markers ++ (gap ++ (quote :: body ++ [quote] ++ (after ++ k))))
  obtain ⟨after', hafter', htrim⟩ := trimEnd_blanks hafter k
  -- The margins at the end are gone in both lines, and the arguments end alike.
  have hquoted : Text.trimEnd (quote :: body ++ [quote]) = quote :: body ++ [quote] := by
    refine Text.trimEnd_eq_self fun b hb => ?_
    rw [List.getLast?_concat, Option.some.injEq] at hb
    subst hb
    obtain rfl | rfl := hquote <;> decide
  rw [Text.trimEnd_append_of_eq hmarkers.trimEnd_eq] at hrun
  rw [Text.trimEnd_append_of_eq hmarkers.trimEnd_eq, Text.trimEnd_append gap, Text.trimEnd_append_of_eq hquoted, htrim,
    if_neg (by simp)] at hdivider
  refine ⟨data, full, hdata, hfull, fun leaf => ?_⟩
  have hnames' : ms ≠ [] → Text.StartsOutside isNameChar (Text.trimEnd k) :=
    fun hms b hb => hnames hms b (Text.head?_of_trimEnd hb)
  rw [Leaf.rule_congr (hrun i), Leaf.divider_congr (hdivider i),
    Leaf.rule_eq_ok_iff hmarkers hnames' hword.trimEnd,
    Leaf.divider_eq_ok_iff hmarkers hword.trimEnd hquote hbody hgap hafter']
  refine ⟨.rfl, ?_⟩
  rintro ⟨a, args, w, ha, hargs, hw, rfl⟩
  exact ⟨a, args, ha, Arguments.read_of_trimEnd hargs, by rw [(Leaf.readAll_dividerOf hw).2]⟩

end Description

end ScreenForm
