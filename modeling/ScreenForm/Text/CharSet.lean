/-!
# Sets of characters

A set of characters is a table of runs of code points. `CharSet.contains` is
the membership test; the tables of the Unicode properties that the library
needs are stated this way.
-/

namespace ScreenForm.Text

/-- A set of characters, as runs of code points with both ends included. -/
structure CharSet where
  runs : Array (Nat × Nat)

namespace CharSet

def contains (s : CharSet) (c : Char) : Bool :=
  s.runs.any fun run => run.1 ≤ c.toNat && c.toNat ≤ run.2

theorem contains_iff (s : CharSet) (c : Char) :
    s.contains c = true ↔ ∃ run ∈ s.runs, run.1 ≤ c.toNat ∧ c.toNat ≤ run.2 := by
  rw [contains, Array.any_eq_true']
  simp

end CharSet

end ScreenForm.Text
