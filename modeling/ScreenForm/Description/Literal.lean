import ScreenForm.Number.Shortest
import ScreenForm.Number.Word
import ScreenForm.Text.Quoted

/-!
# Literals

The values that can stand in the argument list of a description line. A literal
is only ever read, never evaluated.
-/

namespace ScreenForm.Description

inductive Literal where
  | text (s : String)
  | int (n : Int)
  | real (x : Number.Double)
  | bool (b : Bool)
  | word (w : String)
  deriving Repr, DecidableEq, Inhabited

namespace Literal

/-- A bare word, which is a truth value if it is one of their four spellings. -/
def ofWord (w : String) : Literal :=
  if w = "True" || w = "true" then bool true
  else if w = "False" || w = "false" then bool false
  else word w

/-- An integer is true unless it is zero. -/
def asBool? : Literal → Option Bool
  | bool b => some b
  | int n => some (n ≠ 0)
  | _ => none

def asInt? : Literal → Option Int
  | int n => some n
  | _ => none

/-- An integer that is not negative. -/
def asNat? : Literal → Option Nat
  | int (.ofNat n) => some n
  | _ => none

/-- Strings and bare words both read as text. -/
def asText? : Literal → Option String
  | text s => some s
  | word w => some w
  | _ => none

/-- The written form of a literal. A string is quoted. -/
def written : Literal → String
  | text s => Text.quoted s
  | int n => toString n
  | real x => String.ofList x.text
  | bool b => if b then "true" else "false"
  | word w => w

end Literal

end ScreenForm.Description
