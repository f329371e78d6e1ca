/-!
# Double precision numbers

Numbers with a point are kept with 53 binary digits and an exponent of two.
`Double.ofRat` rounds a rational number to the nearest of them, and of two
equally near ones to the one whose last binary digit is zero.
-/

namespace ScreenForm.Number

/-- The size of a number: `significand * 2 ^ exponent`, or too large to be told. -/
inductive Magnitude where
  | finite (significand : Nat) (exponent : Int)
  | infinite
  deriving Repr, DecidableEq, Inhabited

structure Double where
  negative : Bool
  magnitude : Magnitude
  deriving Repr, DecidableEq, Inhabited

/-- The integer nearest to `x`, and the even one of two. -/
def roundEven (x : Rat) : Int :=
  let low := x.floor
  let part := x - low
  if part < 1 / 2 then low
  else if 1 / 2 < part then low + 1
  else if low % 2 = 0 then low else low + 1

/-- The largest `e` with `base ^ e ≤ x`, for `0 < x`; `digits` counts the digits of a natural
number in that base. -/
def floorLog (base : Nat) (digits : Nat → Nat) (x : Rat) : Int :=
  let guess : Int := (digits x.num.natAbs : Int) - digits x.den
  if (base : Rat) ^ guess ≤ x then guess else guess - 1

/-- Exponents of two go down to this one. -/
def minExponent : Int := -1074

/-- Sizes of `2 ^ maxExponent` and more are infinite. -/
def maxExponent : Int := 1024

/-- Significands are below this power of two, the 53rd. -/
def significandEnd : Nat := 9007199254740992

def Magnitude.toRat? : Magnitude → Option Rat
  | finite significand exponent => some (significand * (2 : Rat) ^ exponent)
  | infinite => none

/-- The size nearest to `x`, for `0 ≤ x`. -/
def Magnitude.ofRat (x : Rat) : Magnitude :=
  if x ≤ 0 then finite 0 minExponent
  else
    let exponent := max minExponent (floorLog 2 Nat.log2 x - 52)
    let significand := (roundEven (x / (2 : Rat) ^ exponent)).toNat
    let carried := significand = significandEnd
    let significand := if carried then significandEnd / 2 else significand
    let exponent := if carried then exponent + 1 else exponent
    if (2 : Rat) ^ maxExponent ≤ significand * (2 : Rat) ^ exponent then infinite
    else finite significand exponent

/-- The double nearest to `x` as a rational number, for `0 ≤ x < 2 ^ maxExponent`. -/
def nearest (x : Rat) : Rat :=
  (Magnitude.ofRat x).toRat?.getD 0

/-- The largest number below `2 ^ bits` whose square is at most `n`. -/
def floorSqrt (bits n : Nat) : Nat :=
  ((List.range bits).reverse.map (Nat.pow 2)).foldl
    (fun root bit => if (root + bit) * (root + bit) ≤ n then root + bit else root) 0

/-- The double nearest to the square root of `x`, for `1 ≤ x < 2 ^ 64`. The root is cut off after
64 binary places, and a half of the last place stands for what is cut off: no double and no middle
between two of them is that near to the root, so the half rounds as the root does. -/
def nearestSqrt (x : Rat) : Rat :=
  let scaled : Rat := x * (2 : Rat) ^ (128 : Nat)
  let root := floorSqrt 96 scaled.floor.toNat
  let cut : Rat := if ((root * root : Nat) : Rat) = scaled then 0 else 1 / 2
  nearest ((root + cut) / (2 : Rat) ^ (64 : Nat))

/-- The number with this sign nearest to `digits / 10 ^ places`. -/
def Double.ofDecimal (negative : Bool) (digits places : Nat) : Double :=
  ⟨negative, Magnitude.ofRat (digits / (10 : Rat) ^ places)⟩

def decimalLength (n : Nat) : Nat :=
  (Nat.toDigits 10 n).length

/-- The size nearest to `digits * 10 ^ exponent`. Sizes from `10 ^ 309` on are infinite, and those
below `10 ^ (-324)` are nearest to zero, so the powers of ten to be calculated are small. -/
def Magnitude.ofScientific (digits : Nat) (exponent : Int) : Magnitude :=
  let order := decimalLength digits + exponent
  if digits = 0 || order < -323 then finite 0 minExponent
  else if 309 < order then infinite
  else ofRat (digits * (10 : Rat) ^ exponent)

end ScreenForm.Number
