/-
  Text/Debug.lean --- strings as debug text shows them, in double quotes.

  Inside the quotes the quote and the backslash are escaped, NUL, tab, carriage
  return and line feed take their short escapes, a character that is not
  printable (`Text/Printable`) becomes `\u{x}` with its code point in the fewest
  lower-case hex digits, and every other character stands as itself.  A
  single character is shown in single quotes instead, where the single quote
  is the one escaped.
-/
import TopicHub.Text.Printable

set_option autoImplicit false

namespace TopicHub.Text

/-- The code point of `n` in the fewest lower-case hex digits. -/
def hexText (n : Nat) : String :=
  String.ofList (Nat.toDigits 16 n)

/-- One character inside debug quotes. -/
def debugChar (c : Char) : String :=
  if c = '"' then "\\\""
  else if c = '\\' then "\\\\"
  else if c = '\n' then "\\n"
  else if c = '\r' then "\\r"
  else if c = '\t' then "\\t"
  else if c.toNat = 0 then "\\0"
  else if printable c then String.singleton c
  else "\\u" ++ "\x7b" ++ hexText c.toNat ++ "\x7d"

/-- A character in debug form: in single quotes, the single quote escaped
and the double quote not. -/
def debugCharQuote (c : Char) : String :=
  "'" ++ (if c = '\'' then "\\'" else if c = '"' then "\"" else debugChar c) ++ "'"

/-- A string in debug quotes. -/
def debugQuote (s : String) : String :=
  "\"" ++ String.join (s.toList.map debugChar) ++ "\""

end TopicHub.Text
