import ScreenForm.Proofs.Number.Machine
import ScreenForm.Text.Wrap
/-!
# Wrapping in place

A text is wrapped character by character, into a last line that grows. With the
arithmetic of the machine this never fails, and it gives the lines and the
positions that wrapping is defined by (`wrapBoth?_eq`).
-/

namespace ScreenForm.Text

open Machine

/-- Lines of which the last one is not full yet, the places of their characters, and the columns that
the last one takes. -/
structure Filling where
  lines : List (List Char)
  places : List (Nat × Nat)
  used : Nat

namespace Filling

def breakLine (f : Filling) : Filling :=
  { f with lines := f.lines ++ [[]], used := 0 }

/-- Writes a character into the last line. -/
def write? (f : Filling) (c : Char) : Option Filling := do
  let row ← minus? f.lines.length 1
  let line ← f.lines[row]?
  let used ← fit? 64 (f.used + columns c)
  return ⟨f.lines.set row (line ++ [c]), f.places ++ [(row, f.used)], used⟩

def put? (limit : Nat) (f : Filling) (c : Char) : Option Filling :=
  if c = '\n' then do
    let row ← minus? f.lines.length 1
    return { f.breakLine with places := f.places ++ [(row, f.used)] }
  else do
    let needed ← fit? 64 (f.used + columns c)
    if limit < needed && 0 < f.used then f.breakLine.write? c else f.write? c

/-- The place after the last character, at the end. -/
def finish? (limit : Nat) (f : Filling) : Option (List (List Char) × List (Nat × Nat)) := do
  let row ← minus? f.lines.length 1
  return (f.lines, f.places ++ [if limit ≤ f.used then (row + 1, 0) else (row, f.used)])

end Filling

/-- The lines of a text in this many columns, and the places of its characters and of its end. -/
def wrapBoth? (cs : List Char) (width : Nat) : Option (List (List Char) × List (Nat × Nat)) := do
  let _ ← fit? 64 ((String.ofList cs).utf8ByteSize + 1)
  let filling ← cs.foldlM (Filling.put? (max width 1)) ⟨[[]], [], 0⟩
  filling.finish? (max width 1)

theorem laterColumns_le (c : Char) : laterColumns c ≤ 3 := by
  unfold laterColumns
  repeat' split
  all_goals decide

/-- No character takes more columns than three. -/
theorem columns_le (c : Char) : columns c ≤ 3 := by
  have := laterColumns_le c
  unfold columns Edition.columns
  repeat' split
  all_goals omega

/-- Puts the beginning of a line in front of the rest of it. -/
def continueLine (line : List Char) : List (List Char) → List (List Char)
  | [] => [line]
  | rest :: lines => (line ++ rest) :: lines

theorem continueLine_consLine (line : List Char) (c : Char) {lines : List (List Char)} (h : lines ≠ []) :
    continueLine line (consLine c lines) = continueLine (line ++ [c]) lines := by
  cases lines with
  | nil => exact absurd rfl h
  | cons rest lines => simp [consLine, continueLine]

theorem consLine_ne_nil (c : Char) (lines : List (List Char)) : consLine c lines ≠ [] := by
  cases lines <;> simp [consLine]

theorem continueLine_nil {lines : List (List Char)} (h : lines ≠ []) : continueLine [] lines = lines := by
  cases lines with
  | nil => exact absurd rfl h
  | cons rest lines => rfl

theorem Filling.write?_eq (full : List (List Char)) (line : List Char) (places : List (Nat × Nat)) {used : Nat}
    {c : Char} (h : used + columns c < 2 ^ 64) :
    (⟨full ++ [line], places, used⟩ : Filling).write? c =
      some ⟨full ++ [line ++ [c]], places ++ [(full.length, used)], used + columns c⟩ := by
  simp [write?, minus?, fit?_of_lt h]

/-- What is put behind full lines, a line and places goes on with them as wrapping does. The columns of a line
stay few, since a line is broken before a character that would not fit. -/
theorem foldlM_put? {limit : Nat} (hlimit : limit ≤ maxCells) (full : List (List Char)) (line : List Char)
    (places : List (Nat × Nat)) {used : Nat} (hused : used ≤ limit + 3) (cs : List Char) :
    (cs.foldlM (Filling.put? limit) ⟨full ++ [line], places, used⟩).bind (Filling.finish? limit) =
      some (full ++ continueLine line (wrapFrom limit used cs), places ++ positionsFrom limit full.length used cs) := by
  induction cs generalizing full line places used with
  | nil => simp [Filling.finish?, minus?, wrapFrom, positionsFrom, continueLine]
  | cons c cs ih =>
    have hc := columns_le c
    have hsmall : used + columns c < 2 ^ 64 := by
      unfold maxCells at hlimit
      omega
    rw [List.foldlM_cons, wrapFrom, positionsFrom]
    by_cases hfeed : c = '\n'
    · have hput : Filling.put? limit ⟨full ++ [line], places, used⟩ c =
          some ⟨full ++ [line] ++ [[]], places ++ [(full.length, used)], 0⟩ := by
        simp [Filling.put?, Filling.breakLine, minus?, hfeed]
      rw [hput, if_pos hfeed, if_pos hfeed]
      refine (ih (full ++ [line]) [] _ (Nat.zero_le _)).trans ?_
      rw [continueLine_nil (wrapFrom_ne_nil limit 0 cs)]
      simp [continueLine]
    · rw [if_neg hfeed, if_neg hfeed]
      by_cases hbreak : breaksBefore limit used c
      · have hput : Filling.put? limit ⟨full ++ [line], places, used⟩ c =
            some ⟨full ++ [line] ++ [[c]], places ++ [(full.length + 1, 0)], columns c⟩ := by
          have hcond : (limit < used + columns c && 0 < used) = true := by
            rwa [Bool.and_comm]
          have hwrite := Filling.write?_eq (full ++ [line]) [] places (by omega : 0 + columns c < 2 ^ 64)
          simp only [Filling.put?, if_neg hfeed, fit?_of_lt hsmall, Option.bind_eq_bind, Option.bind_some, hcond,
            if_true, Filling.breakLine, hwrite]
          simp
        rw [hput, if_pos hbreak, if_pos hbreak]
        refine (ih (full ++ [line]) [c] _ (by omega)).trans ?_
        have hrest := continueLine_consLine [] c (wrapFrom_ne_nil limit (columns c) cs)
        rw [List.nil_append] at hrest
        rw [← hrest, continueLine_nil (consLine_ne_nil c _)]
        simp [continueLine]
      · have hput : Filling.put? limit ⟨full ++ [line], places, used⟩ c =
            some ⟨full ++ [line ++ [c]], places ++ [(full.length, used)], used + columns c⟩ := by
          have hcond : (limit < used + columns c && 0 < used) = false := by
            rwa [Bool.and_comm, ← Bool.not_eq_true]
          simp only [Filling.put?, if_neg hfeed, fit?_of_lt hsmall, Option.bind_eq_bind, Option.bind_some, hcond,
            Bool.false_eq_true, if_false, Filling.write?_eq full line places hsmall]
        have hfits : used + columns c ≤ limit + 3 := by
          simp only [breaksBefore, Bool.and_eq_true, decide_eq_true_eq] at hbreak
          omega
        rw [hput, if_neg hbreak, if_neg hbreak]
        refine (ih full (line ++ [c]) _ hfits).trans ?_
        rw [continueLine_consLine line c (wrapFrom_ne_nil limit _ cs)]
        simp

/-- Each character takes a byte at least. -/
theorem length_le_utf8ByteSize (cs : List Char) : cs.length ≤ (String.ofList cs).utf8ByteSize := by
  induction cs with
  | nil => exact Nat.zero_le _
  | cons c cs ih =>
    have hpos := c.utf8Size_pos
    have hcons : String.ofList (c :: cs) = String.singleton c ++ String.ofList cs := by simp
    rw [hcons, String.utf8ByteSize_append, String.utf8ByteSize_singleton, List.length_cons]
    omega

/-- Wrapping in place does not fail in columns of a screen, if the text has a size in memory. -/
theorem wrapBoth?_eq {cs : List Char} (hcs : (String.ofList cs).utf8ByteSize < 2 ^ 63) {width : Nat}
    (hwidth : width ≤ maxCells) : wrapBoth? cs width = some (wrap cs width, wrapPositions cs width) := by
  have hlimit : max width 1 ≤ maxCells := Nat.max_le.2 ⟨hwidth, by decide⟩
  have hfold := foldlM_put? hlimit [] [] [] (Nat.zero_le _) cs
  rw [wrapBoth?, fit?_of_lt (by omega)]
  refine hfold.trans ?_
  rw [continueLine_nil (wrapFrom_ne_nil _ _ cs)]
  rfl

end ScreenForm.Text
