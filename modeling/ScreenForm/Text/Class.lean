import ScreenForm.Text.Table.Alphanumeric
import ScreenForm.Text.Table.Combining
import ScreenForm.Text.Table.Printable

/-!
# Classes of characters

White space, letters and numbers, and characters that show as themselves, for
every script. Below U+0080 the classes are decided without a table.
-/

namespace ScreenForm.Text

/-- White space of any script. The zero width space is not of this class. -/
def isBlank (c : Char) : Bool :=
  let n := c.toNat
  (9 ≤ n && n ≤ 13) || n == 0x20 || n == 0x85 || n == 0xa0 || n == 0x1680 ||
    (0x2000 ≤ n && n ≤ 0x200a) || n == 0x2028 || n == 0x2029 || n == 0x202f || n == 0x205f ||
    n == 0x3000

def isControl (c : Char) : Bool :=
  c.toNat < 0x20 || (0x7f ≤ c.toNat && c.toNat < 0xa0)

/-- Letters, letter-like marks and numbers of any script. -/
def isAlphanumeric (c : Char) : Bool :=
  if c.toNat < 0x80 then c.isAlphanum else Table.alphanumeric.contains c

/-- The voice marks of halfwidth letters, which extend a letter but have a cell of their own. -/
def isHalfwidthMark (c : Char) : Bool :=
  c = '\uff9e' || c = '\uff9f'

/-- Characters that stand for themselves in quoted text. -/
def isPlain (c : Char) : Bool :=
  if c.toNat < 0x80 then !isControl c
  else !Table.unprintable.contains c && (!Table.extend.contains c || isHalfwidthMark c)

/-- White space is neither a letter nor a number. -/
theorem isAlphanumeric_of_isBlank {c : Char} (h : isBlank c = true) : isAlphanumeric c = false := by
  have hlow : ∀ n < 0x80, isBlank (Char.ofNat n) = true → (Char.ofNat n).isAlphanum = false := by decide
  -- Beyond ASCII no run of the table meets one of white space.
  have hapart : ∀ run ∈ Table.alphanumeric.runs.toList, ∀ blank ∈ [(0x85, 0x85), (0xa0, 0xa0), (0x1680, 0x1680),
      (0x2000, 0x200a), (0x2028, 0x202f), (0x205f, 0x205f), (0x3000, 0x3000)],
      run.2 < blank.1 ∨ blank.2 < run.1 := by decide +kernel
  unfold isAlphanumeric
  split
  · next hascii =>
    have hc := hlow c.toNat hascii
    rw [Char.ofNat_toNat] at hc
    exact hc h
  · rw [← Bool.not_eq_true, CharSet.contains_iff]
    rintro ⟨run, hmem, hfrom, hto⟩
    have hruns := hapart run (Array.mem_toList_iff.2 hmem)
    simp only [List.forall_mem_cons, List.not_mem_nil, false_implies, implies_true, and_true] at hruns
    simp only [isBlank, Bool.or_eq_true, Bool.and_eq_true, decide_eq_true_eq, beq_iff_eq] at h
    omega

end ScreenForm.Text
