import ScreenForm.Event
import ScreenForm.Text.Quoted

/-!
# Errors

What can be wrong with a description, a palette, or a call on a running form.
Each error is a cause with its details; `message` gives its wording.
-/

namespace ScreenForm

/-- What is wrong with a list of arguments. -/
inductive ArgumentFault where
  | unexpectedCharacter (c : Char)
  | unterminatedString
  | unknownEscape (c : Char)
  | invalidNumber (text : String)
  | repeatedKeyword (name : String)
  | positionalAfterKeyword
  | unexpectedEquals
  | unexpectedComma
  | missingValue
  deriving Repr, DecidableEq, Inhabited

def ArgumentFault.message : ArgumentFault → String
  | unexpectedCharacter c => s!"unexpected character '{c}'"
  | unterminatedString => "unterminated string"
  | unknownEscape c => s!"unknown escape '\\{c}'"
  | invalidNumber text => s!"invalid number '{text}'"
  | repeatedKeyword name => s!"keyword argument '{name}' repeated"
  | positionalAfterKeyword => "positional argument follows keyword argument"
  | unexpectedEquals => "unexpected '='"
  | unexpectedComma => "unexpected ','"
  | missingValue => "expected a value"

/-- What is wrong with a description. Lines are counted from one. -/
inductive SyntaxError where
  | unrecognizedWidget (opcode : String) (line : Nat)
  | malformedAttribute (text : String) (line : Nat)
  | unknownEvent (event : String) (line : Nat)
  | malformedArguments (text : String) (reason : ArgumentFault) (line : Nat)
  | unsupportedArgument (name widget : String) (line : Nat)
  | invalidArgument (name widget expected : String) (line : Nat)
  | malformedButton (text : String) (line : Nat)
  | malformedEdit (text : String) (line : Nat)
  | unbalancedEnd (line : Nat)
  | endWithArguments (text : String) (line : Nat)
  | unclosedContainer (depth : Nat)
  | duplicateHeader (line : Nat)
  | duplicateFooter (line : Nat)
  deriving Repr, DecidableEq, Inhabited

namespace SyntaxError

/-- The line at fault. A container that is never closed has none. -/
def line? : SyntaxError → Option Nat
  | unrecognizedWidget _ line
  | malformedAttribute _ line
  | unknownEvent _ line
  | malformedArguments _ _ line
  | unsupportedArgument _ _ line
  | invalidArgument _ _ _ line
  | malformedButton _ line
  | malformedEdit _ line
  | unbalancedEnd line
  | endWithArguments _ line
  | duplicateHeader line
  | duplicateFooter line => some line
  | unclosedContainer _ => none

def message : SyntaxError → String
  | unrecognizedWidget opcode line => s!"Unrecognized widget '{opcode}' at line {line}"
  | malformedAttribute text line => s!"Malformed attribute '{text}' at line {line}"
  | unknownEvent event line => s!"Unknown event '{event}' at line {line}"
  | malformedArguments text reason line =>
    s!"Malformed arguments {Text.quoted text} at line {line}: {reason.message}"
  | unsupportedArgument name widget line =>
    s!"Unsupported argument '{name}' for {widget} at line {line}"
  | invalidArgument name widget expected line =>
    s!"Argument '{name}' for {widget} expects {expected} at line {line}"
  | malformedButton text line => s!"Malformed button {Text.quoted text} at line {line}"
  | malformedEdit text line => s!"Malformed edit {Text.quoted text} at line {line}"
  | unbalancedEnd line => s!"End called without container widget at line {line}"
  | endWithArguments text line => s!"End takes no argument, got {Text.quoted text} at line {line}"
  | unclosedContainer depth => s!"{depth} container(s) left open at end of description"
  | duplicateHeader line => s!"Header can occur only once (line {line})"
  | duplicateFooter line => s!"Footer can occur only once (line {line})"

end SyntaxError

/-- What is wrong with a palette. Lines are counted from one. -/
inductive StyleError where
  | unknownCode (code : String) (line : Nat)
  | fieldCount (found line : Nat)
  | malformedRule (text : String) (line : Nat)
  deriving Repr, DecidableEq, Inhabited

def StyleError.message : StyleError → String
  | unknownCode code line => s!"Unsupported color '{code}' at palette line {line}"
  | fieldCount found line =>
    s!"Expected NAME: FOREGROUND, BACKGROUND, FONT at palette line {line}, found {found} code(s)"
  | malformedRule text line => s!"Malformed style rule {Text.quoted text} at palette line {line}"

/-- What is wrong with a name, a binding or a request. -/
inductive RuntimeError where
  | duplicateId (id : String)
  | duplicateString (key : String)
  | undefinedId (id : String)
  | undefinedString (key : String)
  | bindingMismatch (event : EventKind) (widget : String) (line : Nat)
  | missingResponder (event : EventKind) (responder : String)
  | noHandler (event : EventKind) (responder : String)
  | noActiveDialog
  | dialogAlreadyActive
  | notEditable (id : String)
  | notText (id : String)
  deriving Repr, DecidableEq, Inhabited

def RuntimeError.message : RuntimeError → String
  | duplicateId id => s!"Duplicate widget id '{id}'"
  | duplicateString key => s!"Duplicate string '{key}'"
  | undefinedId id => s!"Undefined widget id '{id}'"
  | undefinedString key => s!"Undefined string '{key}'"
  | bindingMismatch event widget line => s!"Cannot bind '{event.name}' event to {widget} at line {line}"
  | missingResponder event responder =>
    s!"Handler does not implement '{event.name}' responder '{responder}'"
  | noHandler event responder =>
    s!"No handler installed to receive '{event.name}' responder '{responder}'"
  | noActiveDialog => "No dialog is displayed"
  | dialogAlreadyActive => "A dialog is already displayed"
  | notEditable id => s!"Widget '{id}' is not editable"
  | notText id => s!"Widget '{id}' has no text"

/-- What can stop the making or the running of a form. -/
inductive FormError where
  | syntaxError (cause : SyntaxError)
  | styleError (cause : StyleError)
  | runtimeError (cause : RuntimeError)
  /-- The screen has no more input to give. -/
  | inputExhausted
  deriving Repr, DecidableEq, Inhabited

def FormError.message : FormError → String
  | syntaxError cause => cause.message
  | styleError cause => cause.message
  | runtimeError cause => cause.message
  | inputExhausted => "terminal I/O failed: input script exhausted"

instance : Coe SyntaxError FormError := ⟨.syntaxError⟩
instance : Coe StyleError FormError := ⟨.styleError⟩
instance : Coe RuntimeError FormError := ⟨.runtimeError⟩

/-- A result whose error is one of the causes of a `FormError`. -/
def liftError {ε α : Type} [Coe ε FormError] : Except ε α → Except FormError α
  | .ok a => .ok a
  | .error e => .error e

end ScreenForm
