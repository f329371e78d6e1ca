import ScreenForm.Text.Columns

/-!
# Ligatures

Letters of some scripts are drawn as one with the letters before them, and take
fewer columns than by themselves. A ligature is known by its last letter, so
`Ligature` is one read from its end: `ofLast?` begins it, `passes` names what may
stand within it, and `continue?` takes the letter before.
-/

namespace ScreenForm.Text

/-- Binds the letters or pictures before and after it into one. -/
def joiner : Char := '\u200d'

/-- A ligature as far as its end has been read. -/
inductive Ligature where
  /-- An alef of Arabic, which a lam before it takes in. -/
  | alef
  /-- A lamed of Hebrew, joined to an alef before it. -/
  | lamed
  /-- A ya of Buginese. -/
  | ya
  /-- A ya of Buginese, joined to a vowel sign before it. -/
  | signedYa
  /-- A consonant of Tifinagh. -/
  | consonant
  /-- A consonant of Tifinagh after the sign that joins it to the one before. -/
  | joinedConsonant
  /-- A second tone letter of Lisu. -/
  | tone
  /-- An i of Old Turkic, joined to the letter before it. -/
  | orkhonI
  /-- A letter of Khmer that can be written below the one before it. -/
  | subscript
  /-- A vowel sign E of Kirat Rai, two or three of which make another sign. -/
  | signE
  /-- A vowel sign AI of Kirat Rai, or two signs E. -/
  | signAI
  deriving Repr, DecidableEq

namespace Ligature

def isAlef (c : Char) : Bool :=
  let n := c.toNat
  n = 0x622 || n = 0x623 || n = 0x625 || n = 0x627 || (0x671 ≤ n && n ≤ 0x673) || n = 0x675 ||
    n = 0x773 || n = 0x774 || (0x870 ≤ n && n ≤ 0x882)

def isLam (c : Char) : Bool :=
  let n := c.toNat
  n = 0x644 || (0x6b5 ≤ n && n ≤ 0x6b8) || n = 0x76a || n = 0x8a6 || n = 0x8c7

def isTifinagh (c : Char) : Bool :=
  (0x2d31 ≤ c.toNat && c.toNat ≤ 0x2d65) || c.toNat = 0x2d6f

/-- Letters of Khmer with a form below the line. -/
def subscripts : CharSet := ⟨#[
  (0x1780, 0x1782), (0x1784, 0x1787), (0x1789, 0x178c), (0x178e, 0x1793), (0x1795, 0x1798),
  (0x179b, 0x179d), (0x17a0, 0x17a0), (0x17a2, 0x17a2), (0x17a7, 0x17a7), (0x17ab, 0x17ac),
  (0x17af, 0x17af)]⟩

/-- The ligature that a letter ends. The earlier edition does not know Kirat Rai. -/
def ofLast? (e : Edition) (c : Char) : Option Ligature :=
  if isAlef c then some alef
  else if c.toNat = 0x5dc then some lamed
  else if c.toNat = 0x1a10 then some ya
  else if isTifinagh c then some consonant
  else if c.toNat = 0xa4fc || c.toNat = 0xa4fd then some tone
  else if c.toNat = 0x10c03 then some orkhonI
  else if subscripts.contains c then some subscript
  else if e = .screen then none
  else if c.toNat = 0x16d67 then some signE
  else if c.toNat = 0x16d68 then some signAI
  else none

/-- Marks without columns that letters of Arabic join across. -/
def isTransparent (e : Edition) (c : Char) : Bool :=
  e.columns c = 0 && !Table.unjoined.contains c

/-- Marks that are ignored unless a font knows them. -/
def isIgnorableMark (c : Char) : Bool :=
  let n := c.toNat
  n = 0x34f || n = 0x17b4 || n = 0x17b5 || (0x180b ≤ n && n ≤ 0x180d) || n = 0x180f ||
    (0xfe00 ≤ n && n ≤ 0xfe0f) || (0xe0100 ≤ n && n ≤ 0xe01ef)

/-- What may stand between the letters of a ligature. -/
def passes (l : Ligature) (e : Edition) (c : Char) : Bool :=
  match l with
  | alef => isTransparent e c
  | _ => c = joiner || isIgnorableMark c

/-- The columns that a letter adds to the ligature that it continues, and what is left of the
ligature to be read. Some ligatures need a joiner between their letters. -/
def continue? (l : Ligature) (joined : Bool) (c : Char) : Option (Int × Option Ligature) :=
  match l with
  | alef => if isLam c then some (0, none) else none
  | lamed => if joined && c.toNat = 0x5d0 then some (0, none) else none
  | ya => if joined && c.toNat = 0x1a17 then some (0, some signedYa) else none
  | signedYa => if c.toNat = 0x1a15 then some (0, none) else none
  | consonant =>
    if c.toNat = 0x2d7f then some (1, some joinedConsonant)
    else if joined && isTifinagh c then some (0, none)
    else none
  | joinedConsonant => if isTifinagh c then some (-1, none) else none
  | tone => if 0xa4f8 ≤ c.toNat && c.toNat ≤ 0xa4fb then some (0, none) else none
  | orkhonI => if joined && c.toNat = 0x10c32 then some (0, none) else none
  | subscript => if c.toNat = 0x17d2 then some (-1, none) else none
  | signE =>
    if c.toNat = 0x16d63 || c.toNat = 0x16d69 then some (0, none)
    else if c.toNat = 0x16d67 then some (0, some signAI)
    else if c.toNat = 0x16d68 then some (1, some signE)
    else none
  | signAI => if c.toNat = 0x16d63 then some (0, none) else none

end Ligature

end ScreenForm.Text
