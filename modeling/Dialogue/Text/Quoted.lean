import Dialogue.Text.Printable
import Dialogue.Text.Extender

/-!
# Quoted texts

How error messages show a text that came from outside: between double quotes,
with a backslash before quotes and backslashes, the usual letters for tab, line
feed and carriage return, a zero for the null character, and the hexadecimal
code point in braces for what is unprintable or would join its neighbour.
-/

namespace Dialogue.Text

/-- The code point in lower-case hexadecimal digits. -/
def codePoint (c : Char) : Text :=
  ['\\', 'u', '{'] ++ Nat.toDigits 16 c.toNat ++ ['}']

/-- One character of a quoted text. -/
def quoteChar (c : Char) : Text :=
  match c with
  | '"' => ['\\', '"']
  | '\\' => ['\\', '\\']
  | '\t' => ['\\', 't']
  | '\n' => ['\\', 'n']
  | '\r' => ['\\', 'r']
  | '\x00' => ['\\', '0']
  | c => if isExtender c || !isPrintable c then codePoint c else [c]

/-- The text between double quotes. -/
def quoted (s : Text) : Text :=
  '"' :: s.flatMap quoteChar ++ ['"']

end Dialogue.Text
