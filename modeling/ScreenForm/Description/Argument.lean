import ScreenForm.Description.Token

/-!
# Argument lists

    arguments := (argument ','?)*
    argument  := literal | word '=' literal

Positional arguments come first, and no keyword comes twice. `Arguments.parse`
reads a list; the `take` functions remove from it what a widget knows, and
`finish` fails if anything is left.
-/

namespace ScreenForm.Description

structure Arguments where
  positional : List Literal := []
  /-- Keywords and their values, in the order of the text. -/
  keyword : List (String × Literal) := []
  deriving Repr, DecidableEq, Inhabited

/-- The literal that a token stands for as a value. -/
def Token.value : Token → Except ArgumentFault Literal
  | literal value => .ok value
  | word w => .ok (.ofWord w)
  | equals => .error .unexpectedEquals
  | comma => .error .unexpectedComma

namespace Arguments

def isEmpty (args : Arguments) : Bool :=
  args.positional.isEmpty && args.keyword.isEmpty

def dropComma : List Token → List Token
  | .comma :: ts => ts
  | ts => ts

theorem length_dropComma_le (ts : List Token) : (dropComma ts).length ≤ ts.length := by
  unfold dropComma
  split <;> simp

/-- Adds the arguments that the tokens spell. -/
def addTokens (args : Arguments) : List Token → Except ArgumentFault Arguments
  | [] => .ok args
  | [.word _, .equals] => .error .missingValue
  | .word name :: .equals :: t :: ts => do
    let value ← t.value
    if (args.keyword.lookup name).isSome then .error (.repeatedKeyword name)
    else
      have := length_dropComma_le ts
      addTokens { args with keyword := args.keyword ++ [(name, value)] } (dropComma ts)
  | t :: ts =>
    if !args.keyword.isEmpty then .error .positionalAfterKeyword
    else do
      let value ← t.value
      have := length_dropComma_le ts
      addTokens { args with positional := args.positional ++ [value] } (dropComma ts)
termination_by ts => ts.length

/-- The arguments in a text. -/
def read (cs : List Char) : Except ArgumentFault Arguments := do
  addTokens {} (← Token.scan cs)

/-- The arguments at the end of a line. -/
def parse (cs : List Char) (line : Nat) : Except SyntaxError Arguments :=
  (read cs).mapError fun reason => .malformedArguments (String.ofList cs) reason line

def find? (args : Arguments) (name : String) : Option Literal :=
  args.keyword.lookup name

def erase (args : Arguments) (name : String) : Arguments :=
  { args with keyword := args.keyword.eraseP (·.1 = name) }

end Arguments

/-- The arguments that a line has left while a widget is made of them. They stay removed when
their value is refused. -/
abbrev ArgumentReader := ExceptT SyntaxError (StateM Arguments)

namespace ArgumentReader

/-- Removes a keyword argument. -/
def take? (name : String) : ArgumentReader (Option Literal) :=
  modifyGet fun args => (args.find? name, args.erase name)

/-- Removes the first positional argument. -/
def takePositional? : ArgumentReader (Option Literal) :=
  modifyGet fun args => (args.positional.head?, { args with positional := args.positional.tail })

/-- Removes a keyword argument whose value `convert` has to accept. -/
def takeAs? {α : Type} (convert : Literal → Option α) (expected name widget : String)
    (line : Nat) : ArgumentReader (Option α) := do
  match ← take? name with
  | none => return none
  | some literal =>
    match convert literal with
    | some value => return some value
    | none => throw (.invalidArgument name widget expected line)

def takeBool? (name widget : String) (line : Nat) : ArgumentReader (Option Bool) :=
  takeAs? Literal.asBool? "a boolean" name widget line

def takeNat? (name widget : String) (line : Nat) : ArgumentReader (Option Nat) :=
  takeAs? Literal.asNat? "a non-negative integer" name widget line

def takeText? (name widget : String) (line : Nat) : ArgumentReader (Option String) :=
  takeAs? Literal.asText? "a string" name widget line

/-- Refuses what the widget did not take, keywords first. -/
def finish (widget : String) (line : Nat) : ArgumentReader Unit := do
  let args ← get
  match args.keyword, args.positional with
  | (name, _) :: _, _ => throw (.unsupportedArgument name widget line)
  | [], extra :: _ => throw (.unsupportedArgument extra.written widget line)
  | [], [] => return ()

end ArgumentReader

end ScreenForm.Description
