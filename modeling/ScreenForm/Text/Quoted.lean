import ScreenForm.Text.Class

/-!
# Quoted text

The form in which messages and outlines quote a text: between double quotes,
with a backslash before what would end the text or not show.
-/

namespace ScreenForm.Text

/-- A character inside quotes. What does not show as itself is written with its code point. -/
def quoteChar : Char → List Char
  | '"' => ['\\', '"']
  | '\\' => ['\\', '\\']
  | '\n' => ['\\', 'n']
  | '\r' => ['\\', 'r']
  | '\t' => ['\\', 't']
  | '\x00' => ['\\', '0']
  | c =>
    if isPlain c then [c]
    else ['\\', 'u', '\x7b'] ++ Nat.toDigits 16 c.toNat ++ ['\x7d']

def quote (cs : List Char) : List Char :=
  '"' :: cs.flatMap quoteChar ++ ['"']

def quoted (s : String) : String :=
  String.ofList (quote s.toList)

end ScreenForm.Text
