import ScreenForm.Number.Double

/-!
# Shortest decimal text

A double is written with the fewest decimal digits that read back as the same
double; of several such texts the nearest to the number is taken, and of two
equally near ones the larger. The text is positional, whatever the size.
-/

namespace ScreenForm.Number

/-- The decimal of `count` digits nearest to `x` that rounds to the same size as `x` does, as an
integer and the exponent of ten to multiply it with. -/
def nearestDecimal? (x : Rat) (count : Nat) : Option (Nat × Int) :=
  let exponent := floorLog 10 decimalLength x - (count - 1 : Nat)
  let scaled := x / (10 : Rat) ^ exponent
  let low := scaled.floor
  let readsBack (n : Int) : Bool :=
    Magnitude.ofRat (n * (10 : Rat) ^ exponent) = Magnitude.ofRat x
  let nearer := if scaled - low < 1 / 2 then [low, low + 1] else [low + 1, low]
  (nearer.find? readsBack).map fun n => (n.toNat, exponent)

/-- The fewest digits that read back. Seventeen are always enough. -/
def shortestDecimal (x : Rat) : Nat × Int :=
  ((List.range 17).findSome? fun i => nearestDecimal? x (i + 1)).getD (0, 0)

/-- The decimal `n * 10 ^ exponent` in positional notation, without zeros at the end of its
fraction. -/
def positional (n : Nat) (exponent : Int) : List Char :=
  let digits := Nat.toDigits 10 n
  if 0 ≤ exponent then digits ++ List.replicate exponent.toNat '0'
  else
    let places := (-exponent).toNat
    let padded := List.replicate (places + 1 - digits.length) '0' ++ digits
    let whole := padded.take (padded.length - places)
    let fraction := ((padded.drop (padded.length - places)).reverse.dropWhile (· = '0')).reverse
    if fraction.isEmpty then whole else whole ++ '.' :: fraction

def Magnitude.text : Magnitude → List Char
  | finite 0 _ => ['0']
  | finite significand exponent =>
    let decimal := shortestDecimal (significand * (2 : Rat) ^ exponent)
    positional decimal.1 decimal.2
  | infinite => ['i', 'n', 'f']

def Double.text (d : Double) : List Char :=
  if d.negative then '-' :: d.magnitude.text else d.magnitude.text

end ScreenForm.Number
