/-!
# Words

Integers are kept in words of 64 bits, so those outside of the range of such a
word cannot be read.
-/

namespace ScreenForm.Number

/-- The least integer of a word, minus two to the power of 63. -/
def minWord : Int := -9223372036854775808

/-- The greatest integer of a word, one less than two to the power of 63. -/
def maxWord : Int := 9223372036854775807

def fitsWord (n : Int) : Bool :=
  minWord ≤ n && n ≤ maxWord

end ScreenForm.Number
