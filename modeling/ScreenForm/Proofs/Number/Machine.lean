import Mathlib
import ScreenForm.Screen.Area
/-!
# Checked arithmetic

Operations on the words of a machine, which fail where a word overflows or
underflows or where something is divided by zero. Where they do not fail they are
the ones on natural numbers.
-/

namespace ScreenForm.Machine

/-- The number in a word of so many bits. -/
def fit? (bits n : Nat) : Option Nat :=
  if n < 2 ^ bits then some n else none

def minus? (n m : Nat) : Option Nat :=
  if m ≤ n then some (n - m) else none

def over? (n m : Nat) : Option Nat :=
  if m = 0 then none else some (n / m)

/-- The numbers added up in a word of so many bits. -/
def sum? (bits : Nat) (l : List Nat) : Option Nat :=
  l.foldlM (fun sum n => fit? bits (sum + n)) 0

/-- Cells added up. Where they come to more than a screen can have, they stay at that. -/
def sumCells (l : List Nat) : Nat :=
  l.foldl (fun sum n => clampCells (sum + n)) 0

variable {bits n m : Nat}

theorem fit?_of_lt (h : n < 2 ^ bits) : fit? bits n = some n := if_pos h

/-- Whatever is small fits into each word that is used for sizes. -/
theorem fit?_of_le (h : n ≤ maxCells) (hbits : 16 ≤ bits) : fit? bits n = some n := by
  have hpow : 2 ^ 16 ≤ 2 ^ bits := Nat.pow_le_pow_right (by decide) hbits
  exact fit?_of_lt (Nat.lt_of_lt_of_le (Nat.lt_succ_of_le h) hpow)

theorem minus?_of_le (h : m ≤ n) : minus? n m = some (n - m) := if_pos h

theorem over?_of_pos (h : 0 < m) : over? n m = some (n / m) := if_neg (Nat.ne_of_gt h)

/-- A sum overflows if one of the sums on the way does, so if the whole does. -/
theorem sum?_eq (bits : Nat) (l : List Nat) : sum? bits l = fit? bits l.sum := by
  have hfold (k : Nat) (hk : k < 2 ^ bits) :
      l.foldlM (fun sum n => fit? bits (sum + n)) k = fit? bits (k + l.sum) := by
    induction l generalizing k with
    | nil => exact (fit?_of_lt hk).symm
    | cons n l ih =>
      rw [List.foldlM_cons, List.sum_cons, ← Nat.add_assoc]
      by_cases hn : k + n < 2 ^ bits
      · rw [fit?_of_lt hn]
        exact ih (k + n) hn
      · rw [fit?, if_neg hn, fit?, if_neg (by omega)]
        rfl
  rw [sum?, hfold 0 (Nat.two_pow_pos bits), Nat.zero_add]

theorem sumCells_eq (l : List Nat) : sumCells l = clampCells l.sum := by
  have hfold (k : Nat) : l.foldl (fun sum n => clampCells (sum + n)) (clampCells k) = clampCells (k + l.sum) := by
    induction l generalizing k with
    | nil => rfl
    | cons n l ih =>
      have hstep : clampCells (clampCells k + n) = clampCells (k + n) := by
        unfold clampCells
        omega
      rw [List.foldl_cons, hstep, ih, List.sum_cons, Nat.add_assoc]
  have hzero : clampCells 0 = 0 := Nat.min_eq_left (Nat.zero_le _)
  rw [sumCells, ← hzero, hfold, Nat.zero_add]

/-! ## Lists of operations -/

variable {α β : Type}

/-- If no element fails, all results are there. -/
theorem mapM_eq_some {f : α → Option β} {g : α → β} {l : List α} (h : ∀ a ∈ l, f a = some (g a)) :
    l.mapM f = some (l.map g) := by
  induction l with
  | nil => rfl
  | cons a l ih =>
    rw [List.forall_mem_cons] at h
    simp [List.mapM_cons, h.1, ih h.2]

/-- If no step fails that starts where `P` holds, and `P` holds again after it, the whole does not fail. -/
theorem foldlM_eq_some {P : β → Prop} {f : β → α → Option β} {g : β → α → β} {l : List α}
    (h : ∀ b, P b → ∀ a ∈ l, f b a = some (g b a) ∧ P (g b a)) {b : β} (hb : P b) :
    l.foldlM f b = some (l.foldl g b) := by
  induction l generalizing b with
  | nil => rfl
  | cons a l ih =>
    obtain ⟨hstep, hnext⟩ := h b hb a List.mem_cons_self
    rw [List.foldlM_cons, hstep]
    exact ih (fun b hb a ha => h b hb a (List.mem_cons_of_mem _ ha)) hnext

/-- If some step always fails, the whole fails. -/
theorem foldlM_eq_none {f : β → α → Option β} {l : List α} {a : α} (ha : a ∈ l) (h : ∀ b, f b a = none) (b : β) :
    l.foldlM f b = none := by
  induction l generalizing b with
  | nil => cases ha
  | cons a' l ih =>
    rw [List.foldlM_cons]
    rcases List.mem_cons.1 ha with rfl | ha
    · rw [h b]
      rfl
    · cases f b a' with
      | none => rfl
      | some b' => exact ih ha b'

end ScreenForm.Machine
