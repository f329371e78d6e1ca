import ScreenForm.Proofs.Description.Template
/-!
# Line feeds in a text with keys

A text that does not end with a dollar sign is complete, or its last key has no
closing brace (`Template.Reads.complete_or_unclosed`). Where no key goes over the
end of a line, the line feeds of a text are its own and those of its strings
(`StringTable.count_values`).
-/

namespace ScreenForm

namespace Template

variable {cs own : List Char} {p : Piece} {ps : List Piece}

/-- The text of a piece. -/
def Piece.source : Piece → List Char
  | plain c => [c]
  | escaped => ['$', '$']
  | lone => ['$']
  | key name => '$' :: '\x7b' :: (name ++ ['\x7d'])
  | unfinished rest => '$' :: '\x7b' :: rest

theorem Reads.eq_flatMap_source (h : Reads cs ps) : cs = ps.flatMap Piece.source := by
  induction h with
  | nil => rfl
  | plain _ _ ih | escaped _ ih | lone _ _ _ ih => simp [Piece.source, ← ih]
  | key _ _ ih => simp [Piece.source, ← ih]
  | unfinished => simp [Piece.source]

/-- No text that follows can change how the piece is read. -/
def Piece.Settled (p : Piece) : Prop := p ≠ .lone ∧ ∀ rest, p ≠ .unfinished rest

theorem Complete.cons (h : Complete ps) (hp : p.Settled ∨ ps ≠ []) : Complete (p :: ps) := by
  cases ps with
  | nil => simpa [Complete, Piece.Settled] using hp
  | cons q ps => exact h

/-- The last key of the text has no closing brace. -/
inductive Unclosed : List Char → List Piece → Prop
  | intro {front rest : List Char} {qs : List Piece} (reads : Reads front qs) (complete : Complete qs)
      (open_ : '\x7d' ∉ rest) : Unclosed (front ++ '$' :: '\x7b' :: rest) (qs ++ [.unfinished rest])

theorem Unclosed.cons (h : Unclosed cs ps) (hp : p.Settled)
    (hown : ∀ {front qs}, Reads front qs → Reads (own ++ front) (p :: qs)) : Unclosed (own ++ cs) (p :: ps) := by
  cases h with
  | intro reads complete open_ =>
    rw [← List.append_assoc, ← List.cons_append]
    exact .intro (hown reads) (complete.cons (.inl hp)) open_

theorem Reads.complete_or_unclosed (h : Reads cs ps) (hend : cs.getLast? ≠ some '$') : Complete ps ∨ Unclosed cs ps := by
  -- What follows the first piece does not end with a dollar sign either.
  have tail : ∀ (own : List Char) {cs : List Char}, (own ++ cs).getLast? ≠ some '$' → cs.getLast? ≠ some '$' :=
    fun _ {_} hend hcs => hend (by rw [List.getLast?_append, hcs]; rfl)
  have step : ∀ (own : List Char) {cs : List Char} {p : Piece} {ps : List Piece}, p.Settled →
      (∀ {front qs}, Reads front qs → Reads (own ++ front) (p :: qs)) → Complete ps ∨ Unclosed cs ps →
      Complete (p :: ps) ∨ Unclosed (own ++ cs) (p :: ps) :=
    fun _ {_ _ _} hp hown => Or.imp (·.cons (.inl hp)) (·.cons hp hown)
  induction h with
  | nil => exact .inl ⟨by simp, by simp⟩
  | @plain c _ _ hc _ ih =>
    exact step [c] ⟨nofun, nofun⟩ (.plain hc) (ih (tail [c] hend))
  | escaped _ ih =>
    exact step ['$', '$'] ⟨nofun, nofun⟩ .escaped (ih (tail ['$', '$'] hend))
  | lone hdollar hbrace h ih =>
    -- The dollar sign is not the last character, and no other one follows it.
    rcases ih (tail ['$'] hend) with hps | hps
    · refine .inl (hps.cons (.inr ?_))
      rintro rfl
      cases h
      exact hend rfl
    · cases hps with
      | @intro front rest qs reads complete open_ =>
        cases front with
        | nil => exact absurd rfl hdollar
        | cons d front =>
          have hqs : qs ≠ [] := by
            rintro rfl
            cases reads
          exact .inr (@Unclosed.intro ('$' :: d :: front) _ _ (.lone hdollar hbrace reads) (complete.cons (.inr hqs)) open_)
  | @key name _ _ hname _ ih =>
    have hown : ∀ {front qs}, Reads front qs →
        Reads ('$' :: '\x7b' :: (name ++ ['\x7d']) ++ front) (.key name :: qs) := by
      intro front qs h
      simpa using Reads.key hname h
    have hp : (Piece.key name).Settled := ⟨nofun, nofun⟩
    simpa using step _ hp hown (ih (tail ('$' :: '\x7b' :: (name ++ ['\x7d'])) (by simpa using hend)))
  | unfinished hrest => exact .inr (.intro .nil ⟨by simp, by simp⟩ hrest)

/-- If each key is on one line, a key that is open at the end of a line is never closed. -/
theorem Unclosed.append {tail : List Char} {pieces : List Piece} (h : Unclosed cs ps) (hlast : cs.getLast? = some '\n')
    (hreads : Reads (cs ++ tail) pieces) (hkeys : ∀ name, .key name ∈ pieces → '\n' ∉ name) :
    ∃ qs rest, ps = qs ++ [.unfinished rest] ∧ rest.getLast? = some '\n' ∧
      pieces = qs ++ [.unfinished (rest ++ tail)] := by
  cases h with
  | @intro front rest qs reads complete open_ =>
    have hrest : rest.getLast? = some '\n' := by
      cases rest with
      | nil => simp at hlast
      | cons c rest => simpa using hlast
    refine ⟨qs, rest, rfl, hrest, ?_⟩
    rw [List.append_assoc, List.cons_append, List.cons_append] at hreads
    by_cases hbrace : '\x7d' ∈ rest ++ tail
    · -- The brace closes a key that has the line feed at the end of `rest` in it.
      exfalso
      obtain ⟨name, others, hcut, hname⟩ := List.eq_append_cons_of_mem hbrace
      obtain ⟨rs, hrs⟩ := exists_reads others
      rw [hcut] at hreads
      obtain rfl := hreads.unique (reads.append complete (.key hname hrs))
      refine hkeys name (by simp) ?_
      have hfeed : '\n' ∈ rest := List.mem_of_getLast? hrest
      rcases List.append_eq_append_iff.1 hcut with ⟨more, rfl, -⟩ | ⟨more, rfl, hmore⟩
      · exact List.mem_append_left _ hfeed
      · cases more with
        | nil => simpa using hfeed
        | cons c more =>
          cases hmore
          simp at open_
    · exact hreads.unique (reads.append complete (.unfinished hbrace))

end Template

namespace StringTable

open Template

variable {t : StringTable} {cs out : List Char} {p : Piece} {ps : List Piece}

/-- The line feeds in the string that a piece stands for. -/
def feedsOf (t : StringTable) : Piece → Nat
  | .key name => ((t.get (String.ofList name)).toOption.getD "").toList.count '\n'
  | _ => 0

/-- The line feeds that strings bring into a text of these pieces. -/
def feeds (t : StringTable) : List Piece → Nat
  | [] => 0
  | p :: ps => t.feedsOf p + t.feeds ps

theorem feedsOf_eq_zero_iff : t.feedsOf p = 0 ↔
    ∀ name text, p = .key name → t.get (String.ofList name) = .ok text → '\n' ∉ text.toList := by
  cases p with
  | key name =>
    rw [feedsOf, List.count_eq_zero]
    cases hget : t.get (String.ofList name) <;> simp +contextual [Except.toOption, hget, eq_comm (a := name)]
  | _ => simp [feedsOf]

theorem feeds_eq_zero_iff : t.feeds ps = 0 ↔
    ∀ name text, .key name ∈ ps → t.get (String.ofList name) = .ok text → '\n' ∉ text.toList := by
  induction ps with
  | nil => simp [feeds]
  | cons p ps ih =>
    rw [feeds, Nat.add_eq_zero_iff, feedsOf_eq_zero_iff, ih]
    simp only [List.mem_cons, or_imp, forall_and, eq_comm (a := p)]

theorem count_value (hkey : ∀ name, p = .key name → '\n' ∉ name) (h : t.value p = .ok out) :
    out.count '\n' = p.source.count '\n' + t.feedsOf p := by
  cases p with
  | key name =>
    obtain ⟨text, hget, rfl⟩ := Except.map_eq_ok.1 h
    have hname : name.count '\n' = 0 := List.count_eq_zero.2 (hkey name rfl)
    simp [feedsOf, hget, Except.toOption, Piece.source, hname]
  | _ =>
    cases h
    rfl

theorem count_values_of_pieces (hkeys : ∀ name, .key name ∈ ps → '\n' ∉ name) (h : t.values ps = .ok out) :
    out.count '\n' = (ps.flatMap Piece.source).count '\n' + t.feeds ps := by
  induction ps generalizing out with
  | nil =>
    cases h
    rfl
  | cons p ps ih =>
    obtain ⟨first, hfirst, h⟩ := Except.bind_eq_ok.1 h
    obtain ⟨rest, hrest, h⟩ := Except.bind_eq_ok.1 h
    cases h
    have hp := count_value (fun name hname => hkeys name (hname ▸ List.mem_cons_self)) hfirst
    have hps := ih (fun name hname => hkeys name (List.mem_cons_of_mem _ hname)) hrest
    rw [List.count_append, hp, hps, List.flatMap_cons, List.count_append, feeds]
    omega

/-- If each key is on one line, the strings bring the line feeds that the text itself does not have. -/
theorem count_values (h : Reads cs ps) (hkeys : ∀ name, .key name ∈ ps → '\n' ∉ name) (hout : t.values ps = .ok out) :
    out.count '\n' = cs.count '\n' + t.feeds ps := by
  rw [count_values_of_pieces hkeys hout, ← h.eq_flatMap_source]

end StringTable

end ScreenForm
