import Inet.Character.Extending
import Inet.Character.Formless
import Inet.Character.Ignorable
import Inet.Numeral
import Inet.Outline.Basic

/-!
Characters in quotes. A quote and a backslash are written after a backslash, the common control characters with a
letter. Any other character that has no visible form, that a display may leave out, or that would join the quote before
it, is written by its number in hexadecimal.
-/

namespace Inet

def quoted (c : Char) : String :=
  let body :=
    match c with
    | '\x00' => "\\0"
    | '\t' => "\\t"
    | '\n' => "\\n"
    | '\r' => "\\r"
    | '\'' => "\\'"
    | '\\' => "\\\\"
    | c =>
      if isExtending c ∨ isFormless c ∨ isIgnorable c then "\\u\x7b" ++ Numeral.text 16 c.toNat ++ "\x7d"
      else c.toString
  "'" ++ body ++ "'"

end Inet
