import ScreenForm.Proofs.Description.Rule
import ScreenForm.Proofs.Description.Template
/-!
# Words and margins

`Text.Words` says which words a text has between the characters of a class, and
`Text.Margins` what is left of it without the white space at both ends. Texts are cut
into just these words (`Text.wordsBy_eq_iff`), and trimmed to just that (`Text.trim_eq_iff`).
-/

namespace ScreenForm

open Description (Blanks)

namespace Text

variable {p : Char → Bool} {c : Char} {cs gap core word : List Char} {words : List (List Char)}

/-- The text has these words, with characters of a class before, between and after them. -/
inductive Words (p : Char → Bool) : List (List Char) → List Char → Prop
  | nil {gap : List Char} (apart : ∀ c ∈ gap, p c = true) : Words p [] gap
  | cons {gap word rest : List Char} {words : List (List Char)} (apart : ∀ c ∈ gap, p c = true)
      (nonempty : word ≠ []) (whole : ∀ c ∈ word, p c = false) (ends : ∀ c, rest.head? = some c → p c = true)
      (others : Words p words rest) : Words p (word :: words) (gap ++ word ++ rest)

/-- The text is this one between margins of white space. -/
def Margins (cs core : List Char) : Prop :=
  ∃ left right, Blanks left ∧ Blanks right ∧ cs = left ++ core ++ right ∧
    StartsOutside isBlank core ∧ StartsOutside isBlank core.reverse

theorem wordsBy_cons (hc : p c = true) (cs : List Char) : wordsBy p (c :: cs) = wordsBy p cs := by
  rw [wordsBy, splitOn, if_pos hc]
  rfl

theorem wordsBy_gap (hgap : ∀ c ∈ gap, p c = true) (cs : List Char) : wordsBy p (gap ++ cs) = wordsBy p cs := by
  induction gap with
  | nil => rfl
  | cons c gap ih =>
    rw [List.forall_mem_cons] at hgap
    rw [List.cons_append, wordsBy_cons hgap.1, ih hgap.2]

theorem wordsBy_word (hne : word ≠ []) (hwhole : ∀ c ∈ word, p c = false) (hends : ∀ c, cs.head? = some c → p c = true) :
    wordsBy p (word ++ cs) = word :: wordsBy p cs := by
  have hone : [word].filter (!·.isEmpty) = [word] := by simp [hne]
  cases cs with
  | nil => rw [List.append_nil, wordsBy, splitOn_of_forall hwhole, hone]; rfl
  | cons c cs =>
    have hc := hends c rfl
    rw [wordsBy_cons hc, wordsBy, splitOn_append hc, splitOn_of_forall hwhole, List.filter_append, hone]
    rfl

theorem Words.wordsBy_eq (h : Words p words cs) : wordsBy p cs = words := by
  induction h with
  | @nil gap hgap =>
    have hnone := wordsBy_gap hgap []
    rwa [List.append_nil] at hnone
  | cons hgap hne hwhole hends _ ih => rw [List.append_assoc, wordsBy_gap hgap, wordsBy_word hne hwhole hends, ih]

theorem exists_words (p : Char → Bool) (cs : List Char) : ∃ words, Words p words cs := by
  induction cs with
  | nil => exact ⟨[], .nil (List.forall_mem_nil _)⟩
  | cons c cs ih =>
    obtain ⟨words, h⟩ := ih
    by_cases hc : p c = true
    · -- A character of the class is one more of the gap in front.
      cases h with
      | nil hgap => exact ⟨[], .nil (List.forall_mem_cons.2 ⟨hc, hgap⟩)⟩
      | cons hgap hne hwhole hends hwords =>
        exact ⟨_, .cons (List.forall_mem_cons.2 ⟨hc, hgap⟩) hne hwhole hends hwords⟩
    · have hc : p c = false := by simpa using hc
      by_cases hstarts : ∃ d, cs.head? = some d ∧ p d = false
      · -- It goes on with a word, which is one longer.
        obtain ⟨d, hd, hdp⟩ := hstarts
        cases h with
        | nil hgap =>
          have := hgap d (List.mem_of_head? hd)
          rw [hdp] at this
          cases this
        | @cons gap word rest words hgap hne hwhole hends hwords =>
          cases gap with
          | nil =>
            have hlonger : ∀ d ∈ c :: word, p d = false := List.forall_mem_cons.2 ⟨hc, hwhole⟩
            exact ⟨(c :: word) :: words, .cons hgap (List.cons_ne_nil _ _) hlonger hends hwords⟩
          | cons b gap =>
            cases hd
            rw [hgap _ List.mem_cons_self] at hdp
            cases hdp
      · have hwhole : ∀ d ∈ [c], p d = false := by simpa using hc
        have hends : ∀ d, cs.head? = some d → p d = true := by
          intro d hd
          by_contra hdp
          exact hstarts ⟨d, hd, by simpa using hdp⟩
        have hgap : ∀ d ∈ ([] : List Char), p d = true := List.forall_mem_nil _
        exact ⟨[c] :: words, .cons hgap (List.cons_ne_nil _ _) hwhole hends h⟩

/-- A text has the words that it is cut into, and no others. -/
theorem wordsBy_eq_iff : wordsBy p cs = words ↔ Words p words cs := by
  refine ⟨?_, Words.wordsBy_eq⟩
  rintro rfl
  obtain ⟨words, h⟩ := exists_words p cs
  rwa [h.wordsBy_eq]

theorem Words.append_gap (h : Words p words cs) (hgap : ∀ c ∈ gap, p c = true) : Words p words (cs ++ gap) := by
  induction h with
  | nil hapart => exact .nil (List.forall_mem_append.2 ⟨hapart, hgap⟩)
  | @cons _ _ rest _ hapart hne hwhole hends _ ih =>
    rw [List.append_assoc]
    refine .cons hapart hne hwhole ?_ ih
    intro c hc
    cases rest with
    | nil => exact hgap c (List.mem_of_head? hc)
    | cons d rest => exact hends c hc

theorem trimEnd_gap (hgap : Blanks gap) (cs : List Char) : trimEnd (cs ++ gap) = trimEnd cs := by
  rw [trimEnd_append, if_pos]
  rw [trimEnd, List.reverse_eq_nil_iff, List.dropWhile_eq_nil_iff]
  intro c hc
  exact hgap c (List.mem_reverse.1 hc)

theorem Margins.trim_eq (h : Margins cs core) : trim cs = core := by
  obtain ⟨left, right, hleft, hright, rfl, hstart, hend⟩ := h
  rw [Text.trim_eq, trimEnd_gap hright]
  by_cases hcore : core = []
  · rw [hcore, List.append_nil]
    have hnil := trimEnd_gap hleft []
    rw [List.nil_append] at hnil
    rw [hnil]
    rfl
  · have hwhole : trimEnd core = core := by
      rw [trimEnd, dropWhile_eq_self_of_startsOutside hend, List.reverse_reverse]
    rw [trimEnd_append, hwhole, if_neg hcore]
    exact dropWhile_run hleft hstart

theorem margins_trim (cs : List Char) : Margins cs (trim cs) := by
  obtain ⟨right, hright, heq⟩ := Description.exists_blanks (trimStart cs)
  refine ⟨cs.takeWhile isBlank, right, fun c hc => List.mem_takeWhile_imp hc, hright, ?_, ?_, ?_⟩
  · rw [List.append_assoc, trim, ← heq, trimStart, List.takeWhile_append_dropWhile]
  · rw [Text.trim_eq]
    exact startsOutside_dropWhile isBlank _
  · rw [trim, trimEnd, List.reverse_reverse]
    exact startsOutside_dropWhile isBlank _

theorem trim_eq_iff : trim cs = core ↔ Margins cs core := by
  refine ⟨?_, Margins.trim_eq⟩
  rintro rfl
  exact margins_trim cs

/-- More margin does not matter. -/
theorem trim_between {left right : List Char} (hleft : Blanks left) (hright : Blanks right) (cs : List Char) :
    trim (left ++ cs ++ right) = trim cs := by
  obtain ⟨before, after, hbefore, hafter, heq, hcore⟩ := margins_trim cs
  refine trim_eq_iff.2 ⟨left ++ before, after ++ right, ?_, ?_, ?_, hcore⟩
  · exact List.forall_mem_append.2 ⟨hleft, hbefore⟩
  · exact List.forall_mem_append.2 ⟨hafter, hright⟩
  · conv_lhs => rw [heq]
    simp only [List.append_assoc]

theorem blanks_iff_trim_eq_nil : Blanks cs ↔ trim cs = [] := by
  rw [trim_eq_iff]
  constructor
  · intro h
    exact ⟨cs, [], h, List.forall_mem_nil _, by simp, nofun, nofun⟩
  · rintro ⟨left, right, hleft, hright, rfl, -⟩ c hc
    rw [List.append_nil, List.mem_append] at hc
    rcases hc with hc | hc
    · exact hleft c hc
    · exact hright c hc

theorem splitOnce_eq_some_iff {before after : List Char} :
    splitOnce c cs = some (before, after) ↔ c ∉ before ∧ cs = before ++ c :: after := by
  constructor
  · intro h
    exact ⟨not_mem_of_splitOnce h, eq_of_splitOnce h⟩
  · rintro ⟨hbefore, rfl⟩
    exact splitOnce_append hbefore after

/-- Margins are cut off on both sides of a character that is none of them. -/
theorem trim_around (hc : isBlank c = false) (before after : List Char) :
    trim (before ++ c :: after) = trimStart before ++ c :: trimEnd after := by
  have hstart : trimStart (before ++ c :: after) = trimStart before ++ c :: after := by
    rw [trimStart, trimStart, List.dropWhile_append]
    split
    · next hnil => rw [List.isEmpty_iff.1 hnil, List.dropWhile_cons_of_neg (by simp [hc])]; rfl
    · rfl
  have hlast : trimEnd (trimStart before ++ [c]) = trimStart before ++ [c] := trimEnd_eq_self (by simp [hc])
  rw [trim, hstart, ← List.singleton_append, ← List.append_assoc, trimEnd_append_of_eq hlast, List.append_assoc]
  rfl

end Text

end ScreenForm
