import ScreenForm.Text.Split

/-!
# Log filters

The level of a log is a list of directives with commas between them, such as

    warn,mail::send=debug,[reply{draft=true}]=trace

A directive is a level or a target, or a target, a span with fields, or both and
then perhaps a level. Directives that are malformed are left out, with a notice
of each.
-/

namespace ScreenForm

/-- Why a directive is left out. -/
inductive FilterFault where
  | malformed
  | unknownLevel
  deriving Repr, DecidableEq, Inhabited

def FilterFault.message : FilterFault → String
  | malformed => "invalid filter directive"
  | unknownLevel =>
    "error parsing level filter: expected one of \"off\", \"error\", \"warn\", \"info\", " ++
      "\"debug\", \"trace\", or a number 0-5"

namespace LogFilter

def levelNames : List String :=
  ["off", "error", "warn", "info", "debug", "trace"]

/-- A level is written as a name, in upper or lower case, or as a number. -/
def isLevel (cs : List Char) : Bool :=
  levelNames.contains (String.ofList (cs.map Char.toLower)) || isNumber cs
where
  isNumber : List Char → Bool
    | '+' :: cs => isSmall cs
    | cs => isSmall cs
  /-- Whether digits stand for at most five. -/
  isSmall (cs : List Char) : Bool :=
    !cs.isEmpty && cs.all Char.isDigit && (cs.dropWhile (· = '0')).length ≤ 1 &&
      cs.getLastD '0' ≤ '5'

/-- The text of the level after the bracket that closes a span, if there is one. -/
def afterSpan? : List Char → Option (Option (List Char))
  | [] => some none
  | '=' :: level => some (some level)
  | _ => none

/-- The text of the level after the brace that opens the field of a span. -/
def afterBrace? (cs : List Char) : Option (Option (List Char)) :=
  match cs.span (· ≠ '\x7d') with
  | (_ :: _, '\x7d' :: ']' :: rest) => afterSpan? rest
  | _ => none

/-- The text of the level after the bracket that opens a span. -/
def afterBracket? (cs : List Char) : Option (Option (List Char)) :=
  match cs.dropWhile fun c => c ≠ ']' && c ≠ '\x7b' with
  | ']' :: rest => afterSpan? rest
  | '\x7b' :: rest => afterBrace? rest
  | _ => none

/-- Characters that a target can start with. -/
def isTargetStart (c : Char) : Bool :=
  Text.isAlphanumeric c || c = '-' || c = ':' || c = '_'

/-- The text of the level in a directive that says more than a level, or none inside if there is no
such text. -/
def levelText? : List Char → Option (Option (List Char))
  | '[' :: cs => afterBracket? cs
  | c :: cs =>
    if isTargetStart c then
      match cs.dropWhile fun c => c ≠ '=' && c ≠ '[' with
      | '=' :: level => some (some level)
      | '[' :: rest => afterBracket? rest
      | _ => some none
    else none
  | [] => none

/-- What is wrong with a directive. Blanks around it do not count for where its level starts, but
are characters of it. -/
def fault? (directive : List Char) : Option FilterFault :=
  let trimmed := Text.trim directive
  match levelText? trimmed with
  | none => some .malformed
  | some none => none
  | some (some level) =>
    let level := directive.drop (trimmed.length - level.length)
    if level.isEmpty || isLevel level then none else some .unknownLevel

/-- The notices of the directives that are left out, each a line. -/
def notices (filter : String) : List String :=
  (Text.wordsBy (· = ',') filter.toList).filterMap fun directive =>
    (fault? directive).map fun fault =>
      s!"ignoring \x60{String.ofList directive}\x60: {fault.message}\n"

end LogFilter

end ScreenForm
