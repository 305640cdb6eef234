-- SUMMARY: Texts in quotes, with escapes for what cannot be shown.
import Bindings.Text.Printable
import Bindings.Text.Extending

/-!
# Quoted text

A message shows a text in double quotes. Quotes, backslashes, tabs, line ends and
NUL have short escapes. A character that is not printable, or that would be drawn
into its neighbour, is written by its code point.
-/
namespace Bindings.Text

/-- A character by its code point, in hexadecimal digits. -/
def codePoint (c : Char) : String :=
  "\\u\x7b" ++ String.ofList (Nat.toDigits 16 c.toNat) ++ "\x7d"

/-- How a character stands between quotes. -/
def escaped (c : Char) : String :=
  match c with
  | '\x00' => "\\0"
  | '\t' => "\\t"
  | '\n' => "\\n"
  | '\r' => "\\r"
  | '"' => "\\\""
  | '\\' => "\\\\"
  | _ => if isExtending c || !isPrintable c then codePoint c else c.toString

def quoted (s : String) : String :=
  "\"" ++ String.join (s.toList.map escaped) ++ "\""

end Bindings.Text
