import ScreenForm.Text.Class

/-!
# Cutting text

Trimming, and cutting a text into pieces, words and lines.
-/

namespace ScreenForm.Text

def trimStart (cs : List Char) : List Char :=
  cs.dropWhile isBlank

def trimEnd (cs : List Char) : List Char :=
  (cs.reverse.dropWhile isBlank).reverse

def trim (cs : List Char) : List Char :=
  trimEnd (trimStart cs)

/-- The pieces between the characters that satisfy `p`: one more than there are of them. -/
def splitOn (p : Char → Bool) : List Char → List (List Char)
  | [] => [[]]
  | c :: cs =>
    if p c then [] :: splitOn p cs
    else
      match splitOn p cs with
      | [] => [[c]]
      | piece :: pieces => (c :: piece) :: pieces

/-- The non-empty pieces between the characters that satisfy `p`. -/
def wordsBy (p : Char → Bool) (cs : List Char) : List (List Char) :=
  (splitOn p cs).filter (!·.isEmpty)

/-- The text up to the first `c` and the text after it. -/
def splitOnce (c : Char) : List Char → Option (List Char × List Char)
  | [] => none
  | d :: cs => if d = c then some ([], cs) else (splitOnce c cs).map fun r => (d :: r.1, r.2)

/-- The text up to the first occurrence of a word and the text after it. -/
def splitAtWord (word : List Char) : List Char → Option (List Char × List Char)
  | [] => if word.isEmpty then some ([], []) else none
  | c :: cs =>
    if word.isPrefixOf (c :: cs) then some ([], (c :: cs).drop word.length)
    else (splitAtWord word cs).map fun r => (c :: r.1, r.2)

/-- A line without the carriage return that ends it. -/
def dropReturn (cs : List Char) : List Char :=
  if cs.getLast? = some '\r' then cs.dropLast else cs

/-- The lines of a text. A line ends with a line feed or with a carriage return and a line feed;
the last line needs no end, and there is none after the last end. -/
def lines (cs : List Char) : List (List Char) :=
  let pieces := splitOn (· = '\n') cs
  pieces.dropLast.map dropReturn ++ [pieces.getLastD []].filter (!·.isEmpty)

/-- What `splitOnce` cuts is whole again with the character between the parts. -/
theorem eq_of_splitOnce {c : Char} {cs before after : List Char}
    (h : splitOnce c cs = some (before, after)) : cs = before ++ c :: after := by
  induction cs generalizing before with
  | nil => simp [splitOnce] at h
  | cons d cs ih =>
    rw [splitOnce] at h
    split at h
    · simp_all
    · obtain ⟨r, hr, hd⟩ := Option.map_eq_some_iff.1 h
      simp only [Prod.mk.injEq] at hd
      obtain ⟨rfl, rfl⟩ := hd
      rw [List.cons_append, ← ih hr]

theorem length_of_splitOnce {c : Char} {cs before after : List Char}
    (h : splitOnce c cs = some (before, after)) : after.length < cs.length := by
  rw [eq_of_splitOnce h]
  simp
  omega

theorem splitOn_ne_nil (p : Char → Bool) (cs : List Char) : splitOn p cs ≠ [] := by
  cases cs with
  | nil => simp [splitOn]
  | cons c cs =>
    rw [splitOn]
    split
    · simp
    · split <;> simp

/-- A separator cuts a text in two. -/
theorem splitOn_append {p : Char → Bool} {c : Char} (hc : p c = true) (cs ds : List Char) :
    splitOn p (cs ++ c :: ds) = splitOn p cs ++ splitOn p ds := by
  induction cs with
  | nil => rw [List.nil_append, splitOn.eq_2, if_pos hc, splitOn, List.singleton_append]
  | cons b cs ih =>
    rw [List.cons_append, splitOn, splitOn]
    by_cases hb : p b = true
    · rw [if_pos hb, if_pos hb, ih, List.cons_append]
    · rw [if_neg hb, if_neg hb, ih]
      obtain ⟨piece, pieces, hpieces⟩ := List.exists_cons_of_ne_nil (splitOn_ne_nil p cs)
      rw [hpieces]
      rfl

/-- A text without separators is one piece. -/
theorem splitOn_of_forall {p : Char → Bool} {cs : List Char} (h : ∀ c ∈ cs, p c = false) : splitOn p cs = [cs] := by
  induction cs with
  | nil => rfl
  | cons c cs ih =>
    rw [List.forall_mem_cons] at h
    rw [splitOn, if_neg (by simp [h.1]), ih h.2]

theorem splitOn_of_not_mem {c : Char} {cs : List Char} (h : c ∉ cs) : splitOn (· = c) cs = [cs] :=
  splitOn_of_forall fun _ hb => decide_eq_false (ne_of_mem_of_not_mem hb h)

/-! ## Runs -/

/-- A text that does not begin with a character of a class. -/
def StartsOutside (p : Char → Bool) (cs : List Char) : Prop := ∀ c, cs.head? = some c → p c = false

section Runs

variable {p : Char → Bool} {run rest : List Char}

theorem startsOutside_dropWhile (p : Char → Bool) (cs : List Char) : StartsOutside p (cs.dropWhile p) := by
  intro c hc
  have := List.head?_dropWhile_not p cs
  rwa [hc] at this

theorem takeWhile_eq_nil_of_startsOutside (h : StartsOutside p rest) : rest.takeWhile p = [] := by
  cases rest with
  | nil => rfl
  | cons c cs => rw [List.takeWhile_cons_of_neg (by simp [h c rfl])]

theorem dropWhile_eq_self_of_startsOutside (h : StartsOutside p rest) : rest.dropWhile p = rest := by
  cases rest with
  | nil => rfl
  | cons c cs => rw [List.dropWhile_cons_of_neg (by simp [h c rfl])]

/-- A run is as long as it can be when what follows does not go on with it. -/
theorem takeWhile_run (hrun : ∀ c ∈ run, p c = true) (h : StartsOutside p rest) : (run ++ rest).takeWhile p = run := by
  rw [List.takeWhile_append_of_pos hrun, takeWhile_eq_nil_of_startsOutside h, List.append_nil]

theorem dropWhile_run (hrun : ∀ c ∈ run, p c = true) (h : StartsOutside p rest) : (run ++ rest).dropWhile p = rest := by
  rw [List.dropWhile_append_of_pos hrun, dropWhile_eq_self_of_startsOutside h]

end Runs

end ScreenForm.Text
