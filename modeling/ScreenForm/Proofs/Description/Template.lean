import Mathlib.Tactic.Common
import ScreenForm.Strings
import ScreenForm.Proofs.Description.Fault
/-!
# Texts with keys

A text is read in exactly one way as `Template.Piece`s from left to right
(`Template.Reads`). `StringTable.substitute` puts the values of the pieces one
after the other, and fails with the first key of the text that has no value.
`StringTable.substituteIn` goes from dollar sign to dollar sign; it comes to
the same end before it has gone more rounds than the text has dollar signs.
-/

namespace ScreenForm

open Text (splitOnce)

theorem Text.splitOnce_eq_none_iff {c : Char} {cs : List Char} : splitOnce c cs = none ↔ c ∉ cs := by
  induction cs with
  | nil => simp [splitOnce]
  | cons d cs ih =>
    by_cases h : d = c
    · simp [splitOnce, h]
    · rw [splitOnce, if_neg h, Option.map_eq_none_iff, ih, List.mem_cons, not_or]
      exact ⟨fun hc => ⟨fun hd => h hd.symm, hc⟩, fun hc => hc.2⟩

/-- A text is cut at the first occurrence of a character. -/
theorem Text.splitOnce_append {c : Char} {before : List Char} (h : c ∉ before) (after : List Char) :
    splitOnce c (before ++ c :: after) = some (before, after) := by
  induction before with
  | nil => simp [splitOnce]
  | cons d before ih =>
    rw [List.mem_cons, not_or] at h
    rw [List.cons_append, splitOnce, if_neg fun hd => h.1 hd.symm, ih h.2]
    rfl

theorem Text.not_mem_of_splitOnce {c : Char} {cs before after : List Char}
    (h : splitOnce c cs = some (before, after)) : c ∉ before := by
  induction cs generalizing before with
  | nil => simp [splitOnce] at h
  | cons d cs ih =>
    rw [splitOnce] at h
    split at h
    next => simp_all
    next hd =>
      obtain ⟨r, hr, heq⟩ := Option.map_eq_some_iff.1 h
      simp only [Prod.mk.injEq] at heq
      obtain ⟨rfl, rfl⟩ := heq
      rw [List.mem_cons, not_or]
      exact ⟨fun hc => hd hc.symm, ih hr⟩

namespace Template

/-- What a text with keys is made of. -/
inductive Piece where
  /-- A character other than the dollar sign. -/
  | plain (c : Char)
  /-- Two dollar signs, for one. -/
  | escaped
  /-- A dollar sign before neither another one nor an opening brace. -/
  | lone
  /-- A key in braces after a dollar sign. -/
  | key (name : List Char)
  /-- What follows an opening brace after a dollar sign up to the end of the text, without a
  closing brace. -/
  | unfinished (rest : List Char)
  deriving DecidableEq, Repr

/-- The pieces of a text from left to right. -/
inductive Reads : List Char → List Piece → Prop
  | nil : Reads [] []
  | plain {c : Char} {cs : List Char} {ps : List Piece} (hc : c ≠ '$') (h : Reads cs ps) :
    Reads (c :: cs) (.plain c :: ps)
  | escaped {cs : List Char} {ps : List Piece} (h : Reads cs ps) : Reads ('$' :: '$' :: cs) (.escaped :: ps)
  | lone {cs : List Char} {ps : List Piece} (hdollar : cs.head? ≠ some '$') (hbrace : cs.head? ≠ some '\x7b')
    (h : Reads cs ps) : Reads ('$' :: cs) (.lone :: ps)
  | key {name cs : List Char} {ps : List Piece} (hname : '\x7d' ∉ name) (h : Reads cs ps) :
    Reads ('$' :: '\x7b' :: (name ++ '\x7d' :: cs)) (.key name :: ps)
  | unfinished {rest : List Char} (hrest : '\x7d' ∉ rest) : Reads ('$' :: '\x7b' :: rest) [.unfinished rest]

/-- No text that follows can change how the last piece is read. -/
def Complete (ps : List Piece) : Prop :=
  ps.getLast? ≠ some .lone ∧ ∀ rest, ps.getLast? ≠ some (.unfinished rest)

/-- Every dollar sign twice. -/
def escape (cs : List Char) : List Char :=
  cs.flatMap fun c => if c = '$' then ['$', '$'] else [c]

/-! ## One way to read a text -/

theorem exists_reads (cs : List Char) : ∃ ps, Reads cs ps := by
  match cs with
  | [] => exact ⟨_, .nil⟩
  | c :: cs =>
    by_cases hc : c = '$'
    · subst hc
      match cs with
      | [] => exact ⟨_, .lone (by simp) (by simp) .nil⟩
      | d :: cs =>
        by_cases hd : d = '$'
        · subst hd
          obtain ⟨ps, h⟩ := exists_reads cs
          exact ⟨_, .escaped h⟩
        by_cases hb : d = '\x7b'
        · subst hb
          match hcut : splitOnce '\x7d' cs with
          | none => exact ⟨_, .unfinished (Text.splitOnce_eq_none_iff.1 hcut)⟩
          | some (name, rest) =>
            have := Text.length_of_splitOnce hcut
            obtain ⟨ps, h⟩ := exists_reads rest
            rw [Text.eq_of_splitOnce hcut]
            exact ⟨_, .key (Text.not_mem_of_splitOnce hcut) h⟩
        · obtain ⟨ps, h⟩ := exists_reads (d :: cs)
          exact ⟨_, .lone (by simpa using hd) (by simpa using hb) h⟩
    · obtain ⟨ps, h⟩ := exists_reads cs
      exact ⟨_, .plain hc h⟩
termination_by cs.length

theorem Reads.unique {cs : List Char} {ps qs : List Piece} (h : Reads cs ps) (h' : Reads cs qs) : ps = qs := by
  induction h generalizing qs with
  | nil => cases h'; rfl
  | plain hc h ih => cases h' with
    | plain _ h' => rw [ih h']
    | _ => exact absurd rfl hc
  | escaped h ih => cases h' with
    | plain hc _ => exact absurd rfl hc
    | escaped h' => rw [ih h']
    | lone hdollar _ _ => exact absurd rfl hdollar
  | lone hdollar hbrace h ih => cases h' with
    | plain hc _ => exact absurd rfl hc
    | escaped _ => exact absurd rfl hdollar
    | lone _ _ h' => rw [ih h']
    | key _ _ => exact absurd rfl hbrace
    | unfinished _ => exact absurd rfl hbrace
  | @key name cs ps hname h ih =>
    have hcut : splitOnce '\x7d' (name ++ '\x7d' :: cs) = some (name, cs) := Text.splitOnce_append hname cs
    generalize hall : name ++ '\x7d' :: cs = all at h' hcut
    cases h' with
    | plain hc _ => exact absurd rfl hc
    | lone _ hbrace _ => exact absurd rfl hbrace
    | @key other cs' qs hother h' =>
      rw [Text.splitOnce_append hother] at hcut
      obtain ⟨rfl, rfl⟩ := Prod.mk.inj (Option.some.inj hcut)
      rw [ih h']
    | unfinished hrest => simp [Text.splitOnce_eq_none_iff.2 hrest] at hcut
  | @unfinished rest hrest =>
    have hcut := Text.splitOnce_eq_none_iff.2 hrest
    cases h' with
    | plain hc _ => exact absurd rfl hc
    | lone _ hbrace _ => exact absurd rfl hbrace
    | key hname _ => simp [Text.splitOnce_append hname] at hcut
    | unfinished _ => rfl

/-- A piece in front of others is complete when the last of them is. -/
theorem Complete.tail {p : Piece} {ps : List Piece} (h : Complete (p :: ps)) : Complete ps := by
  cases ps with
  | nil => exact ⟨by simp, by simp⟩
  | cons q ps => exact h

/-- A text after one whose last piece is complete has its own pieces. -/
theorem Reads.append {as bs : List Char} {ps qs : List Piece} (h : Reads as ps) (hps : Complete ps)
    (h' : Reads bs qs) : Reads (as ++ bs) (ps ++ qs) := by
  induction h with
  | nil => exact h'
  | plain hc _ ih => exact .plain hc (ih hps.tail)
  | escaped _ ih => exact .escaped (ih hps.tail)
  | @lone cs ps hdollar hbrace h ih =>
    cases cs with
    | nil => cases h; exact absurd rfl hps.1
    | cons c cs => exact .lone hdollar hbrace (ih hps.tail)
  | @key name cs _ hname _ ih =>
    rw [List.cons_append, List.cons_append, List.append_assoc, List.cons_append]
    exact .key hname (ih hps.tail)
  | unfinished _ => exact absurd rfl (hps.2 _)

theorem reads_escape (cs : List Char) :
    Reads (escape cs) (cs.map fun c => if c = '$' then .escaped else .plain c) := by
  induction cs with
  | nil => exact .nil
  | cons c cs ih =>
    rw [escape, List.flatMap_cons, List.map_cons]
    by_cases hc : c = '$'
    · rw [if_pos hc, if_pos hc]
      exact .escaped ih
    · rw [if_neg hc, if_neg hc]
      exact .plain hc ih

/-- A text without dollar signs has no keys. -/
theorem reads_plain {cs : List Char} (h : '$' ∉ cs) : Reads cs (cs.map .plain) := by
  induction cs with
  | nil => exact .nil
  | cons c cs ih =>
    rw [List.mem_cons, not_or] at h
    exact .plain (Ne.symm h.1) (ih h.2)

theorem complete_plain (cs : List Char) : Complete (cs.map .plain) := by
  simp [Complete, List.getLast?_map]

/-- A line feed at the end is a piece of its own. -/
theorem Reads.getLast?_lineFeed {cs : List Char} {ps : List Piece} (h : Reads cs ps) (hps : Complete ps)
    (hlast : cs.getLast? = some '\n') : ps.getLast? = some (.plain '\n') := by
  have step : ∀ (own : List Char) {cs : List Char} {p : Piece} {ps : List Piece}, Reads cs ps →
      (own.getLast? = some '\n' → p = .plain '\n') → Complete (p :: ps) → (own ++ cs).getLast? = some '\n' →
      (Complete ps → cs.getLast? = some '\n' → ps.getLast? = some (.plain '\n')) →
      (p :: ps).getLast? = some (.plain '\n') := by
    intro own cs p ps h hown hps hlast ih
    cases ps with
    | nil =>
      cases h
      rw [hown (by rwa [List.append_nil] at hlast)]
      rfl
    | cons q ps =>
      cases hrest : cs.getLast? with
      | none =>
        cases List.getLast?_eq_none_iff.1 hrest
        cases h
      | some b =>
        rw [List.getLast?_append, hrest] at hlast
        exact ih hps.tail (hrest.trans hlast)
  induction h with
  | nil => cases hlast
  | @plain c _ _ hc h ih => exact step [c] h (fun hown => by cases hown; rfl) hps hlast ih
  | escaped h ih => exact step ['$', '$'] h (fun hown => by cases hown) hps hlast ih
  | lone _ _ h ih => exact step ['$'] h (fun hown => by cases hown) hps hlast ih
  | @key name _ _ _ h ih =>
    refine step ('$' :: '\x7b' :: (name ++ ['\x7d'])) h (fun hown => ?_) hps (by simpa using hlast) ih
    rw [← List.cons_append, ← List.cons_append, List.getLast?_concat] at hown
    cases hown
  | unfinished _ => exact absurd rfl (hps.2 _)

end Template

namespace StringTable

open Template

variable {t : StringTable} {cs : List Char} {ps : List Piece}

/-- What stands in place of a piece. The text of a key is taken as it is. -/
def value (t : StringTable) : Piece → Except RuntimeError (List Char)
  | .plain c => .ok [c]
  | .escaped | .lone => .ok ['$']
  | .key name => (t.get (String.ofList name)).map (·.toList)
  | .unfinished rest => .ok ('$' :: '\x7b' :: rest)

/-- The values of pieces one after the other. -/
def values (t : StringTable) : List Piece → Except RuntimeError (List Char)
  | [] => .ok []
  | p :: ps => do return (← t.value p) ++ (← t.values ps)

/-- What is written for a dollar sign and what remains to be read, from what follows the sign. -/
def afterDollar (t : StringTable) : List Char → Except RuntimeError (List Char × List Char)
  | '$' :: rest => .ok (['$'], rest)
  | '\x7b' :: body =>
    match splitOnce '\x7d' body with
    | none => .ok ('$' :: '\x7b' :: body, [])
    | some (name, rest) => (t.get (String.ofList name)).map fun text => (text.toList, rest)
  | rest => .ok (['$'], rest)

/-- The same substitution as a loop that goes from dollar sign to dollar sign: `out` is written
already and `rest` is yet to be read. `none`: it is not at its end after so many rounds. -/
def substituteIn (t : StringTable) : Nat → List Char → List Char → Option (Except RuntimeError (List Char))
  | 0, _, _ => none
  | rounds + 1, out, rest =>
    match splitOnce '$' rest with
    | none => some (.ok (out ++ rest))
    | some (before, after) =>
      match t.afterDollar after with
      | .ok (written, rest) => t.substituteIn rounds (out ++ before ++ written) rest
      | .error e => some (.error e)

/-! ## The values of a text's pieces -/

theorem values_append (t : StringTable) (ps qs : List Piece) :
    t.values (ps ++ qs) = do return (← t.values ps) ++ (← t.values qs) := by
  induction ps with
  | nil => cases h : t.values qs <;> simp [values, h, bind, Except.bind, pure, Except.pure]
  | cons p ps ih =>
    rw [List.cons_append, values, values, ih]
    cases t.value p <;> cases t.values ps <;> cases t.values qs <;> simp [bind, Except.bind, pure, Except.pure]

/-- Pieces without a key have the same values in every table. -/
theorem values_escape (t : StringTable) (cs : List Char) :
    t.values (cs.map fun c => if c = '$' then .escaped else .plain c) = .ok cs := by
  induction cs with
  | nil => rfl
  | cons c cs ih =>
    rw [List.map_cons, values, ih]
    by_cases hc : c = '$'
    · rw [if_pos hc, hc]
      rfl
    · rw [if_neg hc]
      rfl

theorem values_plain (t : StringTable) (cs : List Char) : t.values (cs.map .plain) = .ok cs := by
  induction cs with
  | nil => rfl
  | cons c cs ih => rw [List.map_cons, values, ih]; rfl

theorem substituteChars_of_reads (h : Reads cs ps) : t.substituteChars cs = t.values ps := by
  induction h with
  | nil => simp [substituteChars, values]
  | plain hc h ih =>
    rw [substituteChars, ih, values, value]
    · cases t.values _ <;> rfl
    all_goals simp [hc]
  | escaped h ih =>
    rw [substituteChars, ih, values, value]
    cases t.values _ <;> rfl
  | @lone cs ps hdollar hbrace h ih =>
    rw [substituteChars, ih, values, value]
    · cases t.values _ <;> rfl
    all_goals
      rintro _ - rfl
      contradiction
  | @key name cs ps hname h ih =>
    rw [substituteChars]
    split
    next hcut => simp [Text.splitOnce_append hname] at hcut
    next hcut =>
      rw [Text.splitOnce_append hname] at hcut
      obtain ⟨rfl, rfl⟩ := Prod.mk.inj (Option.some.inj hcut)
      rw [values, value]
      simp only [ih]
      cases t.get _ <;> rfl
  | unfinished hrest =>
    rw [substituteChars]
    split
    next => simp [values, value, pure, Except.pure, bind, Except.bind]
    next hcut => simp [Text.splitOnce_eq_none_iff.2 hrest] at hcut

theorem substitute_of_reads {text : String} (h : Reads text.toList ps) :
    t.substitute text = (t.values ps).map String.ofList := by
  rw [substitute, substituteChars_of_reads h]

/-! ## Errors -/

theorem get_eq_error_iff {key : String} {e : RuntimeError} :
    t.get key = .error e ↔ t.contains key = false ∧ e = .undefinedString key := by
  rw [get, contains]
  cases t.entries.lookup key <;> simp [eq_comm]

theorem get_isOk_iff {key : String} : (∃ text, t.get key = .ok text) ↔ t.contains key = true := by
  rw [get, contains]
  cases t.entries.lookup key <;> simp

theorem value_eq_error_iff {p : Piece} {e : RuntimeError} :
    t.value p = .error e ↔ ∃ name, p = .key name ∧ t.contains (String.ofList name) = false ∧
      e = .undefinedString (String.ofList name) := by
  cases p with
  | key name =>
    have hmap : t.value (.key name) = .error e ↔ t.get (String.ofList name) = .error e := by
      rw [value]
      cases t.get (String.ofList name) <;> simp [Except.map]
    rw [hmap, get_eq_error_iff]
    simp
  | _ => simp [value]

theorem value_isOk_iff {p : Piece} :
    (∃ cs, t.value p = .ok cs) ↔ ∀ name, p = .key name → t.contains (String.ofList name) = true := by
  cases p with
  | key name =>
    simp only [value, Except.map_eq_ok, Piece.key.injEq, forall_eq', ← get_isOk_iff]
    exact ⟨fun ⟨_, text, h, _⟩ => ⟨text, h⟩, fun ⟨text, h⟩ => ⟨_, text, h, rfl⟩⟩
  | _ => simp [value]

theorem values_cons_eq_error_iff {p : Piece} {e : RuntimeError} :
    t.values (p :: ps) = .error e ↔
      t.value p = .error e ∨ (∃ cs, t.value p = .ok cs) ∧ t.values ps = .error e := by
  rw [values]
  cases t.value p <;> cases t.values ps <;> simp [bind, Except.bind, pure, Except.pure]

/-- What a text fails with is its first key without a value. -/
theorem values_eq_error_iff {e : RuntimeError} :
    t.values ps = .error e ↔ ∃ before name after, ps = before ++ .key name :: after ∧
      (∀ known, .key known ∈ before → t.contains (String.ofList known) = true) ∧
      t.contains (String.ofList name) = false ∧ e = .undefinedString (String.ofList name) := by
  induction ps with
  | nil => simp [values]
  | cons p ps ih =>
    rw [values_cons_eq_error_iff, value_eq_error_iff, value_isOk_iff, ih]
    constructor
    · rintro (⟨name, rfl, hname, he⟩ | ⟨hp, before, name, after, rfl, hbefore, hname, he⟩)
      · exact ⟨[], name, ps, rfl, nofun, hname, he⟩
      · refine ⟨p :: before, name, after, rfl, fun known hknown => ?_, hname, he⟩
        rcases List.mem_cons.1 hknown with h | h
        · exact hp known h.symm
        · exact hbefore known h
    · rintro ⟨before, name, after, heq, hbefore, hname, he⟩
      cases before with
      | nil =>
        obtain ⟨rfl, rfl⟩ := List.cons.inj heq
        exact .inl ⟨name, rfl, hname, he⟩
      | cons q before =>
        obtain ⟨rfl, rfl⟩ := List.cons.inj heq
        exact .inr ⟨fun known h => hbefore known (h ▸ List.mem_cons_self),
          before, name, after, rfl, fun known h => hbefore known (List.mem_cons_of_mem _ h), hname, he⟩

/-! ## Further keys -/

theorem get_define {t' : StringTable} {key text : String} (h : t.define key text = .ok t') {known old : String}
    (hget : t.get known = .ok old) : t'.get known = .ok old := by
  rw [define] at h
  split at h
  · cases h
  · cases h
    rw [get] at hget ⊢
    rw [List.lookup_append]
    cases hlookup : t.entries.lookup known with
    | none => simp [hlookup] at hget
    | some text => simpa [hlookup] using hget

/-- What has been defined stays while more is. -/
theorem get_foldlM_define {more : List (String × String)} {t' : StringTable}
    (h : more.foldlM (fun t pair => t.define pair.1 pair.2) t = .ok t') {known old : String}
    (hget : t.get known = .ok old) : t'.get known = .ok old := by
  induction more generalizing t with
  | nil => cases h; exact hget
  | cons pair more ih =>
    rw [List.foldlM_cons] at h
    obtain ⟨mid, hmid, h⟩ := Except.bind_eq_ok.1 h
    exact ih h (get_define hmid hget)

theorem values_mono {t' : StringTable} (hget : ∀ known old, t.get known = .ok old → t'.get known = .ok old)
    {cs : List Char} (h : t.values ps = .ok cs) : t'.values ps = .ok cs := by
  induction ps generalizing cs with
  | nil => exact h
  | cons p ps ih =>
    rw [values] at h ⊢
    obtain ⟨first, hfirst, h⟩ := Except.bind_eq_ok.1 h
    obtain ⟨rest, hrest, h⟩ := Except.bind_eq_ok.1 h
    have hfirst' : t'.value p = .ok first := by
      cases p with
      | key name =>
        obtain ⟨text, htext, rfl⟩ := Except.map_eq_ok.1 hfirst
        rw [value, hget _ _ htext]
        rfl
      | _ => exact hfirst
    rw [hfirst', ih hrest]
    exact h

/-! ## From dollar sign to dollar sign -/

theorem substituteIn_cons {c : Char} (hc : c ≠ '$') (rounds : Nat) (out rest : List Char) :
    t.substituteIn rounds out (c :: rest) = t.substituteIn rounds (out ++ [c]) rest := by
  cases rounds with
  | zero => rfl
  | succ rounds =>
    rw [substituteIn, substituteIn, splitOnce, if_neg hc]
    cases splitOnce '$' rest <;> simp

theorem substituteIn_dollar (rounds : Nat) (out : List Char) {after written rest : List Char}
    (h : t.afterDollar after = .ok (written, rest)) :
    t.substituteIn (rounds + 1) out ('$' :: after) = t.substituteIn rounds (out ++ written) rest := by
  rw [substituteIn, splitOnce, if_pos rfl]
  simp [h]

theorem map_values_cons {p : Piece} {first : List Char} (hp : t.value p = .ok first) (out : List Char) :
    (t.values (p :: ps)).map (out ++ ·) = (t.values ps).map (out ++ first ++ ·) := by
  rw [values, hp]
  cases t.values ps <;> simp [Except.map, bind, Except.bind, pure, Except.pure]

/-- A text needs at most one round for each of its dollar signs, and one for what follows them. -/
theorem substituteIn_of_reads (h : Reads cs ps) {rounds : Nat} (hrounds : cs.count '$' < rounds) (out : List Char) :
    t.substituteIn rounds out cs = some ((t.values ps).map (out ++ ·)) := by
  obtain ⟨rounds, rfl⟩ := Nat.exists_eq_add_one_of_ne_zero (Nat.ne_zero_of_lt hrounds)
  induction h generalizing rounds out with
  | nil => rfl
  | plain hc h ih =>
    rw [List.count_cons_of_ne hc] at hrounds
    rw [substituteIn_cons hc, ih _ _ hrounds, map_values_cons rfl]
  | escaped h ih =>
    rw [List.count_cons_self, List.count_cons_self] at hrounds
    obtain ⟨rounds, rfl⟩ := Nat.exists_eq_add_one_of_ne_zero (by omega : rounds ≠ 0)
    rw [substituteIn_dollar _ out rfl, ih _ _ (by omega), map_values_cons rfl]
  | @lone cs ps hdollar hbrace h ih =>
    rw [List.count_cons_self] at hrounds
    obtain ⟨rounds, rfl⟩ := Nat.exists_eq_add_one_of_ne_zero (by omega : rounds ≠ 0)
    have hafter : t.afterDollar cs = .ok (['$'], cs) := by
      rw [afterDollar]
      all_goals
        rintro _ rfl
        contradiction
    rw [substituteIn_dollar _ out hafter, ih _ _ (by omega), map_values_cons rfl]
  | @key name cs ps hname h ih =>
    rw [List.count_cons_self, List.count_cons_of_ne (by decide), List.count_append,
      List.count_cons_of_ne (by decide)] at hrounds
    obtain ⟨rounds, rfl⟩ := Nat.exists_eq_add_one_of_ne_zero (by omega : rounds ≠ 0)
    have hafter : t.afterDollar ('\x7b' :: (name ++ '\x7d' :: cs)) =
        (t.get (String.ofList name)).map fun text => (text.toList, cs) := by
      rw [afterDollar, Text.splitOnce_append hname]
    cases hget : t.get (String.ofList name) with
    | error e =>
      have hvalue : t.value (.key name) = .error e := by rw [value, hget]; rfl
      have herror : t.values (.key name :: ps) = .error e := values_cons_eq_error_iff.2 (.inl hvalue)
      rw [herror, substituteIn, splitOnce, if_pos rfl]
      simp only [hafter, hget, Except.map]
    | ok text =>
      have hvalue : t.value (.key name) = .ok text.toList := by rw [value, hget]; rfl
      rw [hget] at hafter
      rw [substituteIn_dollar _ out hafter, ih _ _ (by omega), map_values_cons hvalue]
  | @unfinished rest hrest =>
    rw [List.count_cons_self] at hrounds
    obtain ⟨rounds, rfl⟩ := Nat.exists_eq_add_one_of_ne_zero (by omega : rounds ≠ 0)
    have hafter : t.afterDollar ('\x7b' :: rest) = .ok ('$' :: '\x7b' :: rest, []) := by
      rw [afterDollar, Text.splitOnce_eq_none_iff.2 hrest]
    rw [substituteIn_dollar _ out hafter, map_values_cons rfl]
    simp [substituteIn, splitOnce, values, Except.map]

/-! ## One pass over every text -/

theorem substituteChars_append {as : List Char} (h : Reads as ps) (hps : Complete ps) (t : StringTable) (bs : List Char) :
    t.substituteChars (as ++ bs) = do return (← t.substituteChars as) ++ (← t.substituteChars bs) := by
  obtain ⟨qs, h'⟩ := exists_reads bs
  rw [substituteChars_of_reads (h.append hps h'), substituteChars_of_reads h, substituteChars_of_reads h', values_append]

theorem substitute_append {as : String} (h : Reads as.toList ps) (hps : Complete ps) (t : StringTable) (bs : String) :
    t.substitute (as ++ bs) = do return (← t.substitute as) ++ (← t.substitute bs) := by
  rw [substitute, substitute, substitute, String.toList_append, substituteChars_append h hps]
  cases t.substituteChars as.toList <;> cases t.substituteChars bs.toList <;>
    simp [Except.map, bind, Except.bind, pure, Except.pure]

/-- A text has its pieces in one way only, and what is substituted in it is their values one after
the other: a text with every dollar sign twice comes out as it was, a text of complete pieces can be
cut off, the only error is the first key that is not in the table, further keys change no result,
and a loop from dollar sign to dollar sign gives the same once it may go more rounds than there are
dollar signs. -/
theorem substitute_in_one_pass (t : StringTable) (text : String) :
    ∃ pieces, (∀ ps, Reads text.toList ps ↔ ps = pieces) ∧
      t.substitute text = (t.values pieces).map String.ofList ∧
      t.substitute (String.ofList (escape text.toList)) = .ok text ∧
      (Complete pieces → ∀ rest, t.substitute (text ++ rest) =
        do return (← t.substitute text) ++ (← t.substitute rest)) ∧
      (∀ e, t.substitute text = .error e ↔ ∃ before name after, pieces = before ++ .key name :: after ∧
        (∀ known, .key known ∈ before → t.contains (String.ofList known) = true) ∧
        t.contains (String.ofList name) = false ∧ e = .undefinedString (String.ofList name)) ∧
      (∀ (more : List (String × String)) (t' : StringTable) (result : String),
        more.foldlM (fun t pair => t.define pair.1 pair.2) t = .ok t' →
        t.substitute text = .ok result → t'.substitute text = .ok result) ∧
      ∀ rounds, text.toList.count '$' < rounds →
        (t.substituteIn rounds [] text.toList).map (·.map String.ofList) = some (t.substitute text) := by
  obtain ⟨pieces, h⟩ := exists_reads text.toList
  refine ⟨pieces, fun ps => ⟨fun h' => h'.unique h, fun h' => h' ▸ h⟩, substitute_of_reads h, ?escape, ?append,
    ?error, ?further, ?loop⟩
  case escape =>
    rw [substitute_of_reads (by simpa using reads_escape text.toList), values_escape]
    simp [Except.map]
  case append => exact fun hps rest => substitute_append h hps t rest
  case error =>
    intro e
    rw [substitute_of_reads h, ← values_eq_error_iff]
    cases t.values pieces <;> simp [Except.map]
  case further =>
    intro more t' result hmore hresult
    rw [substitute_of_reads h] at hresult ⊢
    obtain ⟨cs, hcs, rfl⟩ := Except.map_eq_ok.1 hresult
    rw [values_mono (fun _ _ => get_foldlM_define hmore) hcs]
    rfl
  case loop =>
    intro rounds hrounds
    rw [substituteIn_of_reads h hrounds, substitute_of_reads h]
    cases t.values pieces <;> simp [Except.map]

/-- A value that reads like a key, and a text that follows its key. -/
theorem substitute_price :
    let t : StringTable := ⟨[("COST", "$\x7bX\x7d")]⟩
    let more : StringTable := ⟨[("COST", "$\x7bX\x7d"), ("X", "5")]⟩
    Complete [.key ['C', 'O', 'S', 'T']] ∧ t.define "X" "5" = .ok more ∧
      t.substitute ("$\x7bCOST\x7d" ++ "$") = .ok "$\x7bX\x7d$" ∧
      more.substitute "$\x7bCOST\x7d" = .ok "$\x7bX\x7d" ∧
      (t.substituteIn 2 [] "$\x7bCOST\x7d".toList).map (·.map String.ofList) = some (.ok "$\x7bX\x7d") := by
  intro t more
  obtain ⟨pieces, hreads, hvalue, -, happend, -, hfurther, hloop⟩ := substitute_in_one_pass t "$\x7bCOST\x7d"
  have htext : "$\x7bCOST\x7d".toList = '$' :: '\x7b' :: (['C', 'O', 'S', 'T'] ++ '\x7d' :: []) := rfl
  have hpieces : [Piece.key ['C', 'O', 'S', 'T']] = pieces :=
    (hreads _).1 (by rw [htext]; exact .key (by decide) .nil)
  have hcomplete : Complete [Piece.key ['C', 'O', 'S', 'T']] := ⟨by simp, by simp⟩
  have hdefine : t.define "X" "5" = .ok more := by decide
  have hresult : t.substitute "$\x7bCOST\x7d" = .ok "$\x7bX\x7d" := by
    rw [hvalue, ← hpieces]
    decide
  refine ⟨hcomplete, hdefine, ?_, ?_, ?_⟩
  · rw [happend (hpieces ▸ hcomplete), hresult]
    decide +kernel
  · exact hfurther [("X", "5")] _ _ (by rw [List.foldlM_cons, hdefine]; rfl) hresult
  · rw [hloop 2 (by decide), hresult]

end StringTable

end ScreenForm
