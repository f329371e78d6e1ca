import ScreenForm.Toml.Number

/-!
# TOML lexemes

Blanks, comments, keys and strings of TOML. Each reader takes one of them from
the front of a text and gives the rest, or nothing if there is none.
-/

namespace ScreenForm.Toml

def isSpace (c : Char) : Bool :=
  c = ' ' || c = '\t'

def skipSpaces (cs : List Char) : List Char :=
  cs.dropWhile isSpace

/-- Characters that can stand in comments and strings. -/
def isPlain (c : Char) : Bool :=
  c = '\t' || (0x20 ≤ c.toNat && c.toNat ≠ 0x7f)

def newline? : List Char → Option (List Char)
  | '\n' :: cs => some cs
  | '\r' :: '\n' :: cs => some cs
  | _ => none

/-- The rest of a comment line, without the end of the line. -/
def skipComment : List Char → List Char
  | '#' :: cs => cs.dropWhile isPlain
  | cs => cs

/-- What follows an expression: perhaps a comment, and the end of the line or of the text. -/
def endLine? (cs : List Char) : Option (List Char) :=
  match skipComment (skipSpaces cs) with
  | [] => some []
  | rest => newline? rest

/-- Skips blanks, comments and ends of lines, of which there are at most `fuel`. -/
def skipLines : Nat → List Char → List Char
  | 0, cs => cs
  | fuel + 1, cs =>
    match skipComment (skipSpaces cs) with
    | '\n' :: rest => skipLines fuel rest
    | '\r' :: '\n' :: rest => skipLines fuel rest
    | rest => rest

/-! ## Strings -/

/-- The character whose code point the first `digits` characters give. -/
def codePoint (digits : Nat) (cs : List Char) : Option (Char × List Char) := do
  let code := cs.take digits
  if code.length < digits then none
  let n ← digitsValue? 16 code
  if n.isValidChar then some (Char.ofNat n, cs.drop digits) else none

/-- The character that an escape stands for, whose backslash has been read. -/
def escape : List Char → Option (Char × List Char)
  | 'b' :: cs => some ('\x08', cs)
  | 't' :: cs => some ('\t', cs)
  | 'n' :: cs => some ('\n', cs)
  | 'f' :: cs => some ('\x0c', cs)
  | 'r' :: cs => some ('\r', cs)
  | '"' :: cs => some ('"', cs)
  | '\\' :: cs => some ('\\', cs)
  | 'u' :: cs => codePoint 4 cs
  | 'U' :: cs => codePoint 8 cs
  | _ => none

/-- The content of a string on one line, up to its last quote. -/
def lineString (quote : Char) : Nat → List Char → Option (List Char × List Char)
  | 0, _ => none
  | _, [] => none
  | fuel + 1, c :: cs =>
    if c = quote then some ([], cs)
    else if c = '\\' && quote = '"' then do
      let (d, rest) ← escape cs
      let (value, rest) ← lineString quote fuel rest
      return (d :: value, rest)
    else if isPlain c then do
      let (value, rest) ← lineString quote fuel cs
      return (c :: value, rest)
    else none

/-- Skips blanks and ends of lines. -/
def skipWhite : List Char → List Char
  | '\r' :: '\n' :: cs => skipWhite cs
  | c :: cs => if isSpace c || c = '\n' then skipWhite cs else c :: cs
  | [] => []

/-- What follows a backslash at the end of a line: the white space up to the next character. -/
def joinLines? (cs : List Char) : Option (List Char) :=
  (newline? (skipSpaces cs)).map skipWhite

/-- The content of a string over several lines, up to its last three quotes. One or two more
quotes before these belong to it. -/
def blockString (quote : Char) : Nat → List Char → Option (List Char × List Char)
  | 0, _ => none
  | _, [] => none
  | fuel + 1, c :: cs =>
    let quotes := ((c :: cs).takeWhile (· = quote)).length
    if 3 ≤ quotes then
      some (List.replicate (min quotes 5 - 3) quote, (c :: cs).drop (min quotes 5))
    else if c = '\\' && quote = '"' then
      match joinLines? cs with
      | some rest => blockString quote fuel rest
      | none => do
        let (d, rest) ← escape cs
        let (value, rest) ← blockString quote fuel rest
        return (d :: value, rest)
    else
      match newline? (c :: cs) with
      | some rest => do
        let (value, rest) ← blockString quote fuel rest
        return ('\n' :: value, rest)
      | none =>
        if isPlain c then do
          let (value, rest) ← blockString quote fuel cs
          return (c :: value, rest)
        else none

/-- A string on one line, with either kind of quote. -/
def lineText : List Char → Option (String × List Char)
  | '"' :: cs => (lineString '"' (cs.length + 1) cs).map fun r => (String.ofList r.1, r.2)
  | '\'' :: cs => (lineString '\'' (cs.length + 1) cs).map fun r => (String.ofList r.1, r.2)
  | _ => none

/-- A string over several lines. A line feed right after its first quotes does not count. -/
def blockText (quote : Char) (cs : List Char) : Option (String × List Char) :=
  let cs := (newline? cs).getD cs
  (blockString quote (cs.length + 1) cs).map fun r => (String.ofList r.1, r.2)

def text : List Char → Option (String × List Char)
  | '"' :: '"' :: '"' :: cs => blockText '"' cs
  | '\'' :: '\'' :: '\'' :: cs => blockText '\'' cs
  | cs => lineText cs

/-! ## Keys -/

def isKeyChar (c : Char) : Bool :=
  c.isAlphanum || c = '-' || c = '_'

/-- One part of a key: bare, or a string on one line. -/
def keyPart (cs : List Char) : Option (String × List Char) :=
  match cs.takeWhile isKeyChar with
  | [] => lineText cs
  | name => some (String.ofList name, cs.dropWhile isKeyChar)

/-- Values are nested on fewer levels than this, and keys have fewer parts. -/
def levelLimit : Nat := 80

/-- The parts of a key, with dots between them. -/
def keyParts : Nat → List Char → Option (List String × List Char)
  | 0, _ => none
  | fuel + 1, cs => do
    let (part, rest) ← keyPart (skipSpaces cs)
    match skipSpaces rest with
    | '.' :: rest => do
      let (parts, rest) ← keyParts fuel rest
      return (part :: parts, rest)
    | rest => return ([part], rest)

/-- A key. -/
def keyPath (cs : List Char) : Option (List String × List Char) := do
  let (parts, rest) ← keyParts (cs.length + 1) cs
  if parts.length < levelLimit then some (parts, rest) else none

end ScreenForm.Toml
