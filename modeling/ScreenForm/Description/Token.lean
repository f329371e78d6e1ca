import ScreenForm.Description.Literal
import ScreenForm.Error
import ScreenForm.Text.Split

/-!
# Tokens of an argument list

Strings between either kind of quote, numbers, words, `=` and `,`, with white
space between them. `Token.scan` cuts a text into its tokens.
-/

namespace ScreenForm.Description

/-- Characters of a name or word, apart from its first one. -/
def isNameChar (c : Char) : Bool :=
  Text.isAlphanumeric c || c = '_' || c = '-' || c = '.'

inductive Token where
  /-- A string or a number. -/
  | literal (value : Literal)
  | word (w : String)
  | equals
  | comma
  deriving Repr, DecidableEq, Inhabited

namespace Token

/-- The character that a backslash and `c` stand for. -/
def unescape? : Char → Option Char
  | 'n' => some '\n'
  | 't' => some '\t'
  | '\\' => some '\\'
  | '\'' => some '\''
  | '"' => some '"'
  | _ => none

/-- The content of a string whose first quote has been read, and the text after its last one. -/
def scanString (quote : Char) : List Char → Except ArgumentFault (List Char × List Char)
  | [] => .error .unterminatedString
  | c :: cs =>
    if c = quote then .ok ([], cs)
    else if c = '\\' then
      match cs with
      | [] => .error .unterminatedString
      | e :: cs =>
        match unescape? e with
        | some d => (scanString quote cs).map fun r => (d :: r.1, r.2)
        | none => .error (.unknownEscape e)
    else (scanString quote cs).map fun r => (c :: r.1, r.2)

def isNumberChar (c : Char) : Bool :=
  c.isDigit || c = '.' || c = '_'

def digitsValue (cs : List Char) : Nat :=
  cs.foldl (fun n c => 10 * n + (c.toNat - '0'.toNat)) 0

/-- The number that a sign, digits and points stand for. With one point it is a real number, and
without one an integer, which has to be in range. -/
def numberOf? (cs : List Char) : Option Literal :=
  let negative := cs.head? = some '-'
  let body := cs.filter fun c => c ≠ '+' && c ≠ '-'
  match Text.splitOn (· = '.') body with
  | [digits] =>
    let n : Int := if negative then -(digitsValue digits : Int) else digitsValue digits
    if Number.fitsWord n then some (.int n) else none
  | [whole, fraction] =>
    some (.real (.ofDecimal negative (digitsValue (whole ++ fraction)) fraction.length))
  | _ => none

/-- A number from its written form. Underscores in it mean nothing. -/
def ofNumber (cs : List Char) : Except ArgumentFault Token :=
  match numberOf? (cs.filter (· ≠ '_')) with
  | some value => .ok (literal value)
  | none => .error (.invalidNumber (String.ofList cs))

/-- A number starts with a digit, or with a sign before a digit. -/
def startsNumber (c : Char) (cs : List Char) : Bool :=
  c.isDigit || ((c = '-' || c = '+') && (cs.head?.map Char.isDigit).getD false)

/-- The token that starts with `c`, which is no white space, and the text after it. -/
def next (c : Char) (cs : List Char) : Except ArgumentFault (Token × List Char) :=
  if c = '=' then .ok (equals, cs)
  else if c = ',' then .ok (comma, cs)
  else if c = '\'' || c = '"' then
    (scanString c cs).map fun r => (literal (.text (String.ofList r.1)), r.2)
  else if startsNumber c cs then
    (ofNumber (c :: cs.takeWhile isNumberChar)).map fun t => (t, cs.dropWhile isNumberChar)
  else if Text.isAlphanumeric c || c = '_' then
    .ok (word (String.ofList (c :: cs.takeWhile isNameChar)), cs.dropWhile isNameChar)
  else .error (.unexpectedCharacter c)

theorem length_of_scanString {quote : Char} {cs value rest : List Char}
    (h : scanString quote cs = .ok (value, rest)) : rest.length < cs.length := by
  fun_induction scanString quote cs generalizing value with
  | case1 => simp at h
  | case2 => simp_all
  | case3 => simp at h
  | case4 e cs d _ _ ih =>
    match hr : scanString quote cs with
    | .error _ => simp [hr, Except.map] at h
    | .ok (value, rest) =>
      simp only [hr, Except.map, Except.ok.injEq, Prod.mk.injEq] at h
      have := ih (h.2 ▸ hr)
      simp only [List.length_cons]
      omega
  | case5 => simp at h
  | case6 _ cs _ _ ih =>
    match hr : scanString quote cs with
    | .error _ => simp [hr, Except.map] at h
    | .ok (value, rest) =>
      simp only [hr, Except.map, Except.ok.injEq, Prod.mk.injEq] at h
      have := ih (h.2 ▸ hr)
      simp only [List.length_cons]
      omega

theorem length_dropWhile_le (p : Char → Bool) (cs : List Char) :
    (cs.dropWhile p).length ≤ cs.length :=
  (List.dropWhile_suffix p).length_le

theorem length_of_next {c : Char} {cs rest : List Char} {t : Token}
    (h : next c cs = .ok (t, rest)) : rest.length ≤ cs.length := by
  unfold next at h
  split at h
  · simp_all
  split at h
  · simp_all
  split at h
  · match hr : scanString c cs with
    | .error _ => simp [hr, Except.map] at h
    | .ok (value, rest) =>
      simp only [hr, Except.map, Except.ok.injEq, Prod.mk.injEq] at h
      exact h.2 ▸ Nat.le_of_lt (length_of_scanString hr)
  split at h
  · match hr : ofNumber (c :: cs.takeWhile isNumberChar) with
    | .error _ => simp [hr, Except.map] at h
    | .ok t =>
      simp only [hr, Except.map, Except.ok.injEq, Prod.mk.injEq] at h
      exact h.2 ▸ length_dropWhile_le ..
  split at h
  · simp only [Except.ok.injEq, Prod.mk.injEq] at h
    exact h.2 ▸ length_dropWhile_le ..
  · simp at h

/-- The tokens of a text. -/
def scan : List Char → Except ArgumentFault (List Token)
  | [] => .ok []
  | c :: cs =>
    if Text.isBlank c then scan cs
    else
      match h : next c cs with
      | .error e => .error e
      | .ok (t, rest) =>
        have := length_of_next h
        (scan rest).map (t :: ·)
termination_by cs => cs.length

end Token

end ScreenForm.Description
