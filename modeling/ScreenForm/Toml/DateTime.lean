import ScreenForm.Toml.Number

/-!
# TOML dates and times

A date, a time, or both, and then perhaps an offset from universal time.
`DateTime.ofWord?` reads the written form, and `DateTime.text` writes it with
`T` before the time and `Z` for universal time, without zeros at the end of a
fraction.
-/

namespace ScreenForm.Toml

structure Date where
  year : Nat
  month : Nat
  day : Nat
  deriving Repr, DecidableEq, Inhabited

structure Time where
  hour : Nat
  minute : Nat
  second : Nat
  nanosecond : Nat
  deriving Repr, DecidableEq, Inhabited

/-- How far local time is ahead of universal time. -/
inductive Offset where
  | universal
  | minutes (n : Int)
  deriving Repr, DecidableEq, Inhabited

inductive DateTime where
  | date (date : Date)
  | time (time : Time)
  | both (date : Date) (time : Time) (offset : Option Offset)
  deriving Repr, DecidableEq, Inhabited

/-- A number of `count` digits in a range, and the rest. -/
def numberIn? (count low high : Nat) (cs : List Char) : Option (Nat × List Char) := do
  let digits := cs.take count
  if digits.length < count then none
  let n ← digitsValue? 10 digits
  if low ≤ n && n ≤ high then some (n, cs.drop count) else none

/-- What follows a character. -/
def after? (c : Char) : List Char → Option (List Char)
  | d :: cs => if c = d then some cs else none
  | [] => none

/-- A number of at least `count` digits, with zeros in front. -/
def padded (count n : Nat) : List Char :=
  let digits := Nat.toDigits 10 n
  List.replicate (count - digits.length) '0' ++ digits

namespace Date

def isLeapYear (year : Nat) : Bool :=
  year % 4 = 0 && (year % 100 ≠ 0 || year % 400 = 0)

def daysOfMonth (year month : Nat) : Nat :=
  if month = 2 then if isLeapYear year then 29 else 28
  else if [4, 6, 9, 11].contains month then 30
  else 31

def read? (cs : List Char) : Option (Date × List Char) := do
  let (year, rest) ← numberIn? 4 0 9999 cs
  let (month, rest) ← numberIn? 2 1 12 (← after? '-' rest)
  let (day, rest) ← numberIn? 2 1 (daysOfMonth year month) (← after? '-' rest)
  return (⟨year, month, day⟩, rest)

def text (d : Date) : List Char :=
  padded 4 d.year ++ '-' :: padded 2 d.month ++ '-' :: padded 2 d.day

end Date

namespace Time

/-- The nanoseconds of a fraction of a second, whose further digits do not count. -/
def nanoseconds? (fraction : List Char) : Option Nat :=
  digitsValue? 10 ((fraction ++ List.replicate 9 '0').take 9)

/-- A time of the day. A second can be a leap second. -/
def read? (cs : List Char) : Option (Time × List Char) := do
  let (hour, rest) ← numberIn? 2 0 23 cs
  let (minute, rest) ← numberIn? 2 0 59 (← after? ':' rest)
  let (second, rest) ← numberIn? 2 0 60 (← after? ':' rest)
  match rest with
  | '.' :: rest => do
    let (fraction, rest) := rest.span Char.isDigit
    if fraction.isEmpty then none
    else return (⟨hour, minute, second, ← nanoseconds? fraction⟩, rest)
  | rest => return (⟨hour, minute, second, 0⟩, rest)

def fractionText (nanosecond : Nat) : List Char :=
  if nanosecond = 0 then []
  else '.' :: ((padded 9 nanosecond).reverse.dropWhile (· = '0')).reverse

def text (t : Time) : List Char :=
  padded 2 t.hour ++ ':' :: padded 2 t.minute ++ ':' :: padded 2 t.second ++
    fractionText t.nanosecond

end Time

namespace Offset

/-- An offset, which takes all of a text. -/
def ofWord? (cs : List Char) : Option Offset :=
  match cs with
  | ['Z'] | ['z'] => some universal
  | '+' :: _ | '-' :: _ => do
    let (negative, cs) := splitSign cs
    let (hours, rest) ← numberIn? 2 0 23 cs
    let (minute, rest) ← numberIn? 2 0 59 (← after? ':' rest)
    if rest.isEmpty then some (minutes (withSign negative (60 * hours + minute))) else none
  | _ => none

def text : Offset → List Char
  | universal => ['Z']
  | minutes n =>
    (if n < 0 then '-' else '+') :: padded 2 (n.natAbs / 60) ++ ':' :: padded 2 (n.natAbs % 60)

end Offset

namespace DateTime

/-- The character between a date and a time. -/
def isDelimiter (c : Char) : Bool :=
  c = 'T' || c = 't' || c = ' '

/-- A time and perhaps an offset, which take all of a text, after a date. -/
def withTime? (d : Date) (cs : List Char) : Option DateTime := do
  let (t, rest) ← Time.read? cs
  if rest.isEmpty then some (both d t none)
  else (Offset.ofWord? rest).map fun offset => both d t (some offset)

/-- The date, the time or both that a word stands for. -/
def ofWord? (cs : List Char) : Option DateTime :=
  match Date.read? cs with
  | some (d, []) => some (date d)
  | some (d, c :: rest) => if isDelimiter c then withTime? d rest else none
  | none =>
    match Time.read? cs with
    | some (t, []) => some (time t)
    | _ => none

def text : DateTime → List Char
  | date d => d.text
  | time t => t.text
  | both d t offset => d.text ++ 'T' :: t.text ++ ((offset.map Offset.text).getD [])

end DateTime

end ScreenForm.Toml
