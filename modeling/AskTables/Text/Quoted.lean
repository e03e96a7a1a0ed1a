import AskTables.Text.Hidden

/-!
# Quoted text

Text between double quotes, as log lines and descriptions show it.  Quotes, backslashes, line feeds,
carriage returns, tabs and NUL have short escapes.  Every other hidden character is written by its
code point.
-/

namespace AskTables.Text

/-- A character between quotes. -/
def quoteChar (c : Char) : List Char :=
  match c with
  | '"' => ['\\', '"']
  | '\\' => ['\\', '\\']
  | '\n' => ['\\', 'n']
  | '\r' => ['\\', 'r']
  | '\t' => ['\\', 't']
  | '\x00' => ['\\', '0']
  | _ =>
    if isHidden c then
      '\\' :: 'u' :: '\x7b' :: (Nat.toDigits 16 c.toNat ++ ['\x7d'])
    else [c]

/-- A text between quotes. -/
def quote (s : String) : String :=
  String.ofList ('"' :: (s.toList.flatMap quoteChar ++ ['"']))

end AskTables.Text
