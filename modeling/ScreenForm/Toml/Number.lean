import ScreenForm.Number.Double
import ScreenForm.Number.Word
import ScreenForm.Text.Split

/-!
# TOML numbers

Integers of 64 bits, and doubles, which have a point or an exponent. A number
starts with zero only if its whole part is zero, and single underscores can
stand between its digits. `integer?` and `float?` read whole words.
-/

namespace ScreenForm.Toml

def digitValue? (c : Char) : Option Nat :=
  if c.isDigit then some (c.toNat - '0'.toNat)
  else if 'a' ≤ c && c ≤ 'f' then some (c.toNat - 'a'.toNat + 10)
  else if 'A' ≤ c && c ≤ 'F' then some (c.toNat - 'A'.toNat + 10)
  else none

/-- The number that digits of a base stand for. -/
def digitsValue? (base : Nat) (cs : List Char) : Option Nat :=
  cs.foldlM (fun n c => do
    let d ← digitValue? c
    if d < base then some (base * n + d) else none) 0

/-- Digits without the underscores between them. -/
def ungrouped? (cs : List Char) : Option (List Char) :=
  let groups := Text.splitOn (· = '_') cs
  if groups.any (·.isEmpty) then none else some groups.flatten

/-- The number that digits of a base stand for, with single underscores between digits. -/
def groupedValue? (base : Nat) (cs : List Char) : Option Nat :=
  (ungrouped? cs).bind (digitsValue? base)

/-- The digits of a decimal number without a sign. It starts with zero only if it is zero. -/
def wholeDigits? : List Char → Option (List Char)
  | '0' :: _ :: _ => none
  | cs => ungrouped? cs

/-- Whether a word has a minus sign, and the word without its sign. -/
def splitSign : List Char → Bool × List Char
  | '-' :: cs => (true, cs)
  | '+' :: cs => (false, cs)
  | cs => (false, cs)

def withSign (negative : Bool) (n : Nat) : Int :=
  if negative then -(n : Int) else n

/-- The integer that a word stands for. -/
def integerOf? : List Char → Option Int
  | '0' :: 'x' :: cs => (groupedValue? 16 cs).map Int.ofNat
  | '0' :: 'o' :: cs => (groupedValue? 8 cs).map Int.ofNat
  | '0' :: 'b' :: cs => (groupedValue? 2 cs).map Int.ofNat
  | cs =>
    let (negative, cs) := splitSign cs
    ((wholeDigits? cs).bind (digitsValue? 10)).map (withSign negative)

/-- An integer of 64 bits. -/
def integer? (cs : List Char) : Option Int := do
  let n ← integerOf? cs
  if Number.fitsWord n then some n else none

/-- The digits of a fraction after its point. Without a fraction there are none. -/
def fractionDigits? : List Char → Option (List Char)
  | [] => some []
  | _ :: cs => ungrouped? cs

/-- The value of an exponent after its letter. Without an exponent it is zero. -/
def exponent? : List Char → Option Int
  | [] => some 0
  | _ :: cs =>
    let (negative, cs) := splitSign cs
    (groupedValue? 10 cs).map (withSign negative)

/-- The size of a number with a fraction or an exponent or both. -/
def magnitude? (cs : List Char) : Option Number.Magnitude := do
  let (mantissa, power) := cs.span fun c => c ≠ 'e' && c ≠ 'E'
  let (whole, point) := mantissa.span (· ≠ '.')
  if power.isEmpty && point.isEmpty then none
  let whole ← wholeDigits? whole
  let fraction ← fractionDigits? point
  let digits ← digitsValue? 10 (whole ++ fraction)
  return .ofScientific digits ((← exponent? power) - fraction.length)

/-- The double that a word stands for, or none inside if it stands for what is not a number. Digits
whose size is too large stand for a negative infinity, but not for a positive one. -/
def float? (cs : List Char) : Option (Option Number.Double) :=
  let (negative, cs) := splitSign cs
  if cs = ['n', 'a', 'n'] then some none
  else if cs = ['i', 'n', 'f'] then some (some ⟨negative, .infinite⟩)
  else do
    let size ← magnitude? cs
    if size = .infinite && !negative then none else some (some ⟨negative, size⟩)

end ScreenForm.Toml
