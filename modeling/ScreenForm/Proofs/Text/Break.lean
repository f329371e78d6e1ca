import Mathlib.Algebra.Order.BigOperators.Group.List
import Mathlib.Algebra.Order.Group.Nat
import Mathlib.Data.Prod.Lex
import ScreenForm.Proofs.Text.Wrap
/-!
# Breaking a text into lines

Wrapping loses nothing but the line feeds, and says for each character where it
stands. Of all ways to break a text so that the lines keep to the width, it takes
one with the fewest lines (`length_wrap_le`).
-/

namespace ScreenForm.Text

/-! ## Ways to break a text -/

/-- The columns that a line takes, one character after the other. -/
def lineColumns (line : List Char) : Nat :=
  (line.map columns).sum

/-- A line is no wider than the limit, or there is nothing to be seen before its last character. -/
def KeepsTo (limit : Nat) (line : List Char) : Prop :=
  lineColumns line ≤ limit ∨ ∀ c ∈ line.dropLast, columns c = 0

/-- The lines are those of the pieces between the line feeds, one after the other. A piece may be broken anywhere. -/
def Breaks (cs : List Char) (lines : List (List Char)) : Prop :=
  ∃ parts : List (List (List Char)), (∀ part ∈ parts, part ≠ []) ∧
    parts.map List.flatten = splitOn (· = '\n') cs ∧ parts.flatten = lines

variable {limit used : Nat} {c : Char} {cs line : List Char} {lines : List (List Char)}

@[simp] theorem lineColumns_nil : lineColumns [] = 0 := rfl

@[simp] theorem lineColumns_cons (c : Char) (line : List Char) : lineColumns (c :: line) = columns c + lineColumns line :=
  List.sum_cons

@[simp] theorem lineColumns_append (line line' : List Char) :
    lineColumns (line ++ line') = lineColumns line + lineColumns line' := by
  rw [lineColumns, List.map_append, List.sum_append]
  rfl

theorem lineColumns_eq_zero_iff : lineColumns line = 0 ↔ ∀ c ∈ line, columns c = 0 := by
  simp [lineColumns, List.sum_eq_zero_iff]

theorem keepsTo_singleton (limit : Nat) (c : Char) : KeepsTo limit [c] :=
  .inr fun _ hd => absurd hd List.not_mem_nil

/-- What stands before a character of such a line leaves room for it, or takes no columns. -/
theorem KeepsTo.breaksBefore {pre rest : List Char} (h : KeepsTo limit (pre ++ c :: rest)) :
    breaksBefore limit (lineColumns pre) c = false := by
  rw [Text.breaksBefore, Bool.and_eq_false_iff]
  rcases h with h | h
  · right
    simp only [lineColumns_append, lineColumns_cons] at h
    exact decide_eq_false (by omega)
  · left
    have hpre : lineColumns pre = 0 := lineColumns_eq_zero_iff.2 fun d hd => h d (by
      rw [List.dropLast_append_of_ne_nil (List.cons_ne_nil c rest)]
      exact List.mem_append_left _ hd)
    rw [hpre]
    rfl

theorem keepsTo_concat {pre : List Char} (h : breaksBefore limit (lineColumns pre) c = false) : KeepsTo limit (pre ++ [c]) := by
  rw [breaksBefore, Bool.and_eq_false_iff, decide_eq_false_iff_not, decide_eq_false_iff_not] at h
  rcases h with h | h
  · right
    rw [List.dropLast_concat]
    exact lineColumns_eq_zero_iff.1 (by omega)
  · left
    simp only [lineColumns_append, lineColumns_cons, lineColumns_nil]
    omega

/-! ## Pieces between line feeds -/

theorem flatten_splitOn (p : Char → Bool) (cs : List Char) : (splitOn p cs).flatten = cs.filter (!p ·) := by
  induction cs with
  | nil => rfl
  | cons c cs ih =>
    rw [splitOn]
    split
    · next hc => simp [hc, ih]
    · next hc =>
      obtain ⟨piece, pieces, hpieces⟩ := List.exists_cons_of_ne_nil (splitOn_ne_nil p cs)
      rw [hpieces] at ih ⊢
      simpa [hc] using ih

/-- There is one piece more than there are separators. -/
theorem length_splitOn (p : Char → Bool) (cs : List Char) : (splitOn p cs).length = cs.countP p + 1 := by
  induction cs with
  | nil => rfl
  | cons c cs ih =>
    rw [splitOn]
    by_cases hc : p c = true
    · rw [if_pos hc, List.length_cons, ih, List.countP_cons_of_pos hc]
    · obtain ⟨piece, pieces, hpieces⟩ := List.exists_cons_of_ne_nil (splitOn_ne_nil p cs)
      rw [if_neg hc, hpieces, List.countP_cons_of_neg hc, ← ih, hpieces]
      rfl

theorem eq_false_of_mem_splitOn {p : Char → Bool} {piece : List Char} (h : piece ∈ splitOn p cs) : ∀ c ∈ piece, p c = false := by
  induction cs generalizing piece with
  | nil => simp_all [splitOn]
  | cons c cs ih =>
    rw [splitOn] at h
    split at h
    · rcases List.mem_cons.1 h with rfl | h
      · simp
      · exact ih h
    · next hc =>
      obtain ⟨first, pieces, hpieces⟩ := List.exists_cons_of_ne_nil (splitOn_ne_nil p cs)
      rw [hpieces] at ih h
      rcases List.mem_cons.1 h with rfl | h
      · exact List.forall_mem_cons.2 ⟨by simpa using hc, ih List.mem_cons_self⟩
      · exact ih (List.mem_cons_of_mem _ h)

theorem Breaks.flatten_eq (h : Breaks cs lines) : lines.flatten = cs.filter (· ≠ '\n') := by
  obtain ⟨parts, -, hparts, rfl⟩ := h
  rw [List.flatten_flatten, hparts, flatten_splitOn]
  simp

/-! ## The lines of a wrapped text -/

theorem flatten_consLine (c : Char) (lines : List (List Char)) : (consLine c lines).flatten = c :: lines.flatten := by
  cases lines <;> rfl

theorem length_consLine (c : Char) (h : lines ≠ []) : (consLine c lines).length = lines.length := by
  cases lines with
  | nil => exact absurd rfl h
  | cons line lines => rfl

theorem length_continueLine (line : List Char) (h : lines ≠ []) : (continueLine line lines).length = lines.length := by
  cases lines with
  | nil => exact absurd rfl h
  | cons first lines => rfl

theorem length_wrapFrom_cons (limit used : Nat) (c : Char) (cs : List Char) : (wrapFrom limit used (c :: cs)).length =
    if c = '\n' then (wrapFrom limit 0 cs).length + 1
    else if breaksBefore limit used c then (wrapFrom limit (columns c) cs).length + 1
    else (wrapFrom limit (used + columns c) cs).length := by
  rw [wrapFrom]
  split
  · rfl
  · split
    · rw [List.length_cons, length_consLine _ (wrapFrom_ne_nil _ _ _)]
    · rw [length_consLine _ (wrapFrom_ne_nil _ _ _)]

theorem flatten_wrapFrom (limit used : Nat) (cs : List Char) : (wrapFrom limit used cs).flatten = cs.filter (· ≠ '\n') := by
  induction cs generalizing used with
  | nil => rfl
  | cons c cs ih =>
    rw [wrapFrom]
    split
    · next hc => simpa [hc] using ih 0
    · next hc => split <;> simp [flatten_consLine, ih, hc]

/-- After the first line feed the lines begin again. -/
theorem wrapFrom_eq_append {piece : List Char} {pieces : List (List Char)} (h : splitOn (· = '\n') cs = piece :: pieces)
    (limit used : Nat) : wrapFrom limit used cs = wrapFrom limit used piece ++ pieces.flatMap (wrapFrom limit 0) := by
  induction cs generalizing piece pieces used with
  | nil =>
    cases h
    rfl
  | cons c cs ih =>
    obtain ⟨first, rest, hrest⟩ := List.exists_cons_of_ne_nil (splitOn_ne_nil (· = '\n') cs)
    have hcons (used : Nat) : consLine c (wrapFrom limit used cs) =
        consLine c (wrapFrom limit used first) ++ rest.flatMap (wrapFrom limit 0) := by
      rw [ih hrest]
      obtain ⟨line, lines, hlines⟩ := List.exists_cons_of_ne_nil (wrapFrom_ne_nil limit used first)
      rw [hlines]
      rfl
    rw [splitOn, hrest] at h
    rw [wrapFrom]
    by_cases hc : c = '\n'
    · rw [if_pos (decide_eq_true hc)] at h
      cases h
      rw [if_pos hc, ih hrest]
      rfl
    · rw [if_neg (by simpa using hc)] at h
      cases h
      rw [if_neg hc, wrapFrom, if_neg hc]
      split
      · rw [hcons, List.cons_append]
      · exact hcons _

/-- A text is wrapped piece by piece. -/
theorem wrap_eq_flatMap (cs : List Char) (width : Nat) :
    wrap cs width = (splitOn (· = '\n') cs).flatMap fun piece => wrap piece width := by
  obtain ⟨piece, pieces, hpieces⟩ := List.exists_cons_of_ne_nil (splitOn_ne_nil (· = '\n') cs)
  rw [wrap, wrapFrom_eq_append hpieces, hpieces, List.flatMap_cons]
  rfl

theorem breaks_wrap (cs : List Char) (width : Nat) : Breaks cs (wrap cs width) := by
  refine ⟨(splitOn (· = '\n') cs).map fun piece => wrap piece width, ?_, ?_, ?_⟩
  · intro part hpart
    obtain ⟨piece, -, rfl⟩ := List.mem_map.1 hpart
    exact wrapFrom_ne_nil _ _ _
  · have hpiece : ∀ piece ∈ splitOn (· = '\n') cs, (wrap piece width).flatten = piece := by
      intro piece hpiece
      rw [wrap, flatten_wrapFrom, List.filter_eq_self]
      intro c hc
      simpa using eq_false_of_mem_splitOn hpiece c hc
    rw [List.map_map]
    exact (List.map_congr_left hpiece).trans (List.map_id _)
  · rw [wrap_eq_flatMap, List.flatMap_def]

/-- Every line keeps to the limit, the first one together with what stands before the text. -/
theorem keepsTo_of_mem_continueLine {pre : List Char} (hpre : KeepsTo limit pre)
    (h : line ∈ continueLine pre (wrapFrom limit (lineColumns pre) cs)) : KeepsTo limit line := by
  induction cs generalizing pre with
  | nil =>
    rw [wrapFrom, continueLine, List.append_nil] at h
    exact List.mem_singleton.1 h ▸ hpre
  | cons c cs ih =>
    rw [wrapFrom] at h
    split at h
    · rw [continueLine, List.append_nil] at h
      rcases List.mem_cons.1 h with rfl | h
      · exact hpre
      · have hrest := @ih [] (.inl (Nat.zero_le _))
        rw [lineColumns_nil, continueLine_nil (wrapFrom_ne_nil _ _ _)] at hrest
        exact hrest h
    · split at h
      · rw [continueLine, List.append_nil] at h
        rcases List.mem_cons.1 h with rfl | h
        · exact hpre
        · have hrest := ih (keepsTo_singleton limit c)
          rw [← List.nil_append [c], ← continueLine_consLine [] c (wrapFrom_ne_nil _ _ _),
            continueLine_nil (consLine_ne_nil _ _)] at hrest
          exact hrest h
      · next hbreak =>
        rw [continueLine_consLine _ _ (wrapFrom_ne_nil _ _ _)] at h
        refine ih (keepsTo_concat (by simpa using hbreak)) ?_
        rwa [lineColumns_append, lineColumns_cons, lineColumns_nil, Nat.add_zero]

theorem keepsTo_of_mem_wrap {width : Nat} (h : line ∈ wrap cs width) : KeepsTo (max width 1) line := by
  have hfirst : KeepsTo (max width 1) [] := .inl (Nat.zero_le _)
  have hlines : line ∈ continueLine [] (wrapFrom (max width 1) (lineColumns []) cs) := by
    rwa [lineColumns_nil, continueLine_nil (wrapFrom_ne_nil _ _ _)]
  exact keepsTo_of_mem_continueLine hfirst hlines

/-! ## The fewest lines -/

/-- A line that is fuller at first takes no fewer lines, and at most one more. -/
theorem length_wrapFrom_between (limit : Nat) (cs : List Char) :
    (∀ {used used' : Nat}, used ≤ used' → (wrapFrom limit used cs).length ≤ (wrapFrom limit used' cs).length) ∧
      ∀ used used' : Nat, (wrapFrom limit used cs).length ≤ (wrapFrom limit used' cs).length + 1 := by
  induction cs with
  | nil => exact ⟨fun _ => Nat.le_refl _, fun _ _ => Nat.le_succ _⟩
  | cons c cs ih =>
    obtain ⟨hmono, hsucc⟩ := ih
    by_cases hc : c = '\n'
    · simp only [length_wrapFrom_cons, if_pos hc, Nat.le_refl, Nat.le_succ, implies_true, and_self]
    · simp only [length_wrapFrom_cons, if_neg hc]
      constructor
      · intro used used' hle
        by_cases hbreak : breaksBefore limit used c
        · have hbreak' : breaksBefore limit used' c := by
            simp only [breaksBefore, Bool.and_eq_true, decide_eq_true_eq] at hbreak ⊢
            omega
          rw [if_pos hbreak, if_pos hbreak']
        · rw [if_neg hbreak]
          split
          · exact hsucc ..
          · exact hmono (by omega)
      · intro used used'
        have hnew : (wrapFrom limit (columns c) cs).length ≤ (wrapFrom limit (used' + columns c) cs).length :=
          hmono (by omega)
        have hgo := hsucc (used + columns c) (columns c)
        have hgo' := hsucc (used + columns c) (used' + columns c)
        split <;> split <;> omega

/-- A line that keeps to the limit is not broken. -/
theorem wrapFrom_append {pre : List Char} (h : KeepsTo limit (pre ++ line)) (hfeed : '\n' ∉ line) (cs : List Char) :
    wrapFrom limit (lineColumns pre) (line ++ cs) = continueLine line (wrapFrom limit (lineColumns (pre ++ line)) cs) := by
  induction line generalizing pre with
  | nil => rw [List.append_nil, List.nil_append, continueLine_nil (wrapFrom_ne_nil _ _ _)]
  | cons c line ih =>
    obtain ⟨hc, hline⟩ := List.ne_and_not_mem_of_not_mem_cons hfeed
    have hrest := @ih (pre ++ [c]) (by rwa [List.append_assoc]) hline
    rw [List.append_assoc, List.singleton_append, lineColumns_append, lineColumns_cons, lineColumns_nil, Nat.add_zero] at hrest
    rw [List.cons_append, wrapFrom, if_neg hc.symm, h.breaksBefore, if_neg Bool.false_ne_true, hrest]
    obtain ⟨first, lines, hlines⟩ := List.exists_cons_of_ne_nil (wrapFrom_ne_nil limit (lineColumns (pre ++ c :: line)) cs)
    rw [hlines]
    rfl

/-- A piece without line feeds takes no more lines than any that keep to the limit. -/
theorem length_wrapFrom_flatten_le (hne : lines ≠ []) (hkeeps : ∀ line ∈ lines, KeepsTo limit line)
    (hfeed : '\n' ∉ lines.flatten) : (wrapFrom limit 0 lines.flatten).length ≤ lines.length := by
  induction lines with
  | nil => exact absurd rfl hne
  | cons line rest ih =>
    rw [List.forall_mem_cons] at hkeeps
    rw [List.flatten_cons, List.mem_append, not_or] at hfeed
    have hline : wrapFrom limit 0 (line ++ rest.flatten) =
        continueLine line (wrapFrom limit (lineColumns line) rest.flatten) :=
      @wrapFrom_append limit line [] hkeeps.1 hfeed.1 rest.flatten
    rw [List.flatten_cons, hline, length_continueLine _ (wrapFrom_ne_nil _ _ _), List.length_cons]
    cases rest with
    | nil => exact Nat.le_refl 1
    | cons next rest =>
      have hrest := ih (List.cons_ne_nil next rest) hkeeps.2 hfeed.2
      have hsucc := (length_wrapFrom_between limit (next :: rest).flatten).2 (lineColumns line) 0
      omega

/-- No lines that break the text and keep to the width are fewer. -/
theorem length_wrap_le {width : Nat} (h : Breaks cs lines) (hkeeps : ∀ line ∈ lines, KeepsTo (max width 1) line) :
    (wrap cs width).length ≤ lines.length := by
  obtain ⟨parts, hne, hparts, rfl⟩ := h
  rw [wrap_eq_flatMap, ← hparts, List.length_flatMap, List.length_flatten, List.map_map]
  refine List.sum_le_sum fun part hpart => ?_
  have hpiece : part.flatten ∈ splitOn (· = '\n') cs := hparts ▸ List.mem_map_of_mem hpart
  refine length_wrapFrom_flatten_le (hne part hpart) (fun line hline => ?_) fun hfeed => ?_
  · exact hkeeps line (List.mem_flatten.2 ⟨part, hpart, hline⟩)
  · simpa using eq_false_of_mem_splitOn hpiece '\n' hfeed

/-! ## Where the characters stand -/

/-- Positions on a screen in reading order. -/
def Precedes : Nat × Nat → Nat × Nat → Prop :=
  Prod.Lex (· < ·) (· ≤ ·)

theorem precedes_iff {p q : Nat × Nat} : Precedes p q ↔ p.1 < q.1 ∨ p.1 = q.1 ∧ p.2 ≤ q.2 :=
  Prod.lex_iff

/-- A character stands at a place with this text before it. Some of it is on the line of the character and as wide as the
column says, and the rest is on the lines above. -/
def StandsAt (lines : List (List Char)) (text : List Char) (c : Char) (place : Nat × Nat) : Prop :=
  ∃ before after, lines[place.1]? = some (before ++ c :: after) ∧ lineColumns before = place.2 ∧
    (lines.take place.1).flatten ++ before = text

/-- The places go on from where the text begins. -/
theorem precedes_positionsFrom (limit row used : Nat) (cs : List Char) :
    (∀ p ∈ positionsFrom limit row used cs, Precedes (row, used) p) ∧ (positionsFrom limit row used cs).Pairwise Precedes := by
  induction cs generalizing row used with
  | nil =>
    rw [positionsFrom]
    refine ⟨fun p hp => ?_, List.pairwise_singleton ..⟩
    rw [List.mem_singleton.1 hp, precedes_iff]
    split <;> simp
  | cons c cs ih =>
    -- Each step goes on from a place that is not before this one.
    have hcons {first : Nat × Nat} {row' used' : Nat} (hfirst : Precedes (row, used) first)
        (hnext : ∀ p, Precedes (row', used') p → Precedes first p) :
        (∀ p ∈ first :: positionsFrom limit row' used' cs, Precedes (row, used) p) ∧
          (first :: positionsFrom limit row' used' cs).Pairwise Precedes := by
      obtain ⟨hfrom, hpairs⟩ := ih row' used'
      have hall : ∀ p ∈ positionsFrom limit row' used' cs, Precedes first p := fun p hp => hnext p (hfrom p hp)
      refine ⟨fun p hp => ?_, List.pairwise_cons.2 ⟨hall, hpairs⟩⟩
      rcases List.mem_cons.1 hp with rfl | hp
      · exact hfirst
      · have hp := hall p hp
        rw [precedes_iff] at hfirst hp ⊢
        omega
    have hself : Precedes (row, used) (row, used) := precedes_iff.2 (.inr ⟨rfl, Nat.le_refl _⟩)
    rw [positionsFrom]
    split
    · exact hcons hself fun p hp => by rw [precedes_iff] at hp ⊢; omega
    · split
      · exact hcons (precedes_iff.2 (.inl (Nat.lt_succ_self row))) fun p hp => by
          rw [precedes_iff] at hp ⊢
          omega
      · exact hcons hself fun p hp => by rw [precedes_iff] at hp ⊢; omega

theorem continueLine_cons (line first : List Char) (rest : List (List Char)) :
    continueLine line (first :: rest) = (line ++ first) :: rest := rfl

theorem continueLine_singleton (c : Char) (lines : List (List Char)) : continueLine [c] lines = consLine c lines := by
  cases lines <;> rfl

/-- A character stands behind the line that it goes on with. -/
theorem standsAt_continueLine (full : List (List Char)) (pre : List Char) (c : Char) {lines : List (List Char)} (h : lines ≠ []) :
    StandsAt (full ++ continueLine (pre ++ [c]) lines) (full.flatten ++ pre) c (full.length, lineColumns pre) := by
  obtain ⟨after, rest, rfl⟩ := List.exists_cons_of_ne_nil h
  exact ⟨pre, after, by simp [continueLine_cons], rfl, by simp⟩

/-- Behind full lines and the beginning of one, a text goes on with them as wrapping does. -/
theorem standsAt_of_positionsFrom {full : List (List Char)} {pre : List Char} {i : Nat} {place : Nat × Nat}
    (hc : cs[i]? = some c) (hfeed : c ≠ '\n')
    (hplace : (positionsFrom limit full.length (lineColumns pre) cs)[i]? = some place) :
    StandsAt (full ++ continueLine pre (wrapFrom limit (lineColumns pre) cs))
      (full.flatten ++ pre ++ (cs.take i).filter (· ≠ '\n')) c place := by
  induction cs generalizing full pre i with
  | nil => cases hc
  | cons d cs ih =>
    have hne (used : Nat) : wrapFrom limit used cs ≠ [] := wrapFrom_ne_nil limit used cs
    rw [positionsFrom] at hplace
    rw [wrapFrom]
    by_cases hd : d = '\n'
    · rw [if_pos hd] at hplace ⊢
      cases i with
      | zero => exact absurd ((Option.some.inj hc).symm.trans hd) hfeed
      | succ i =>
        have hrest := @ih (full ++ [pre]) [] i hc (by simpa using hplace)
        simpa [hd, continueLine_cons, continueLine_nil (hne 0)] using hrest
    · rw [if_neg hd] at hplace ⊢
      by_cases hbreak : breaksBefore limit (lineColumns pre) d
      · rw [if_pos hbreak] at hplace ⊢
        have hlines : full ++ continueLine pre ([] :: consLine d (wrapFrom limit (columns d) cs)) =
            (full ++ [pre]) ++ continueLine [d] (wrapFrom limit (columns d) cs) := by
          simp [continueLine_cons, continueLine_singleton]
        rw [hlines]
        cases i with
        | zero =>
          cases hc
          cases hplace
          simpa using standsAt_continueLine (full ++ [pre]) [] c (hne (columns c))
        | succ i => simpa [hd] using @ih (full ++ [pre]) [d] i hc (by simpa using hplace)
      · rw [if_neg hbreak] at hplace ⊢
        rw [continueLine_consLine pre d (hne _)]
        cases i with
        | zero =>
          cases hc
          cases hplace
          simpa using standsAt_continueLine full pre c (hne _)
        | succ i => simpa [hd] using @ih full (pre ++ [d]) i hc (by simpa using hplace)

theorem standsAt_of_wrapPositions {width i : Nat} {place : Nat × Nat} (hc : cs[i]? = some c) (hfeed : c ≠ '\n')
    (hplace : (wrapPositions cs width)[i]? = some place) :
    StandsAt (wrap cs width) ((cs.take i).filter (· ≠ '\n')) c place := by
  have h := @standsAt_of_positionsFrom (max width 1) c cs [] [] i place hc hfeed hplace
  rwa [lineColumns_nil, continueLine_nil (wrapFrom_ne_nil _ _ _)] at h

/-- Wrapping breaks a text at its line feeds and elsewhere, into lines that keep to the width, and no such lines are fewer.
Nothing but the line feeds is lost. Each character has a place and so has the end, in reading order, and a character that
is no line feed stands in the lines at its place. -/
theorem wrap_breaks_and_places (cs : List Char) (width : Nat) :
    Breaks cs (wrap cs width) ∧ (wrap cs width).flatten = cs.filter (· ≠ '\n') ∧
    (∀ line ∈ wrap cs width, KeepsTo (max width 1) line) ∧
    (∀ lines, Breaks cs lines → (∀ line ∈ lines, KeepsTo (max width 1) line) → (wrap cs width).length ≤ lines.length) ∧
    (wrapPositions cs width).length = cs.length + 1 ∧ (wrapPositions cs width).Pairwise Precedes ∧
    ∀ i c place, cs[i]? = some c → c ≠ '\n' → (wrapPositions cs width)[i]? = some place →
      StandsAt (wrap cs width) ((cs.take i).filter (· ≠ '\n')) c place := by
  have hbreaks := breaks_wrap cs width
  refine ⟨hbreaks, hbreaks.flatten_eq, fun line => keepsTo_of_mem_wrap, fun lines => length_wrap_le,
    length_wrapPositions cs width, ?_, fun i c place => standsAt_of_wrapPositions⟩
  exact (precedes_positionsFrom (max width 1) 0 0 cs).2

example : wrap "ab\nc".toList 2 = ["ab".toList, "c".toList] ∧
    wrapPositions "ab\nc".toList 2 = [(0, 0), (0, 1), (0, 2), (1, 0), (1, 1)] := by decide

end ScreenForm.Text
