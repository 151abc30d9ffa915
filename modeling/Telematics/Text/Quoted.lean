import Telematics.Text.Hex
import Telematics.Text.Undrawn

/-!
# Texts quoted in a message

A message that shows what it was given puts it between quotes and escapes
quotes, backslashes and whatever is not drawn on its own, so that the end of
the text and every character in it can be seen.
-/

namespace Telematics.Text

/-- The hexadecimal digits of a number, without zeros in front. -/
def hexText (n : Nat) : List Char :=
  match (Hex.digits 8 n).dropWhile (· = '0') with
  | [] => ['0']
  | ds => ds

/-- A character within quotes. -/
def escapeQuoted (c : Char) : List Char :=
  if c = '"' then ['\\', '"']
  else if c = '\\' then ['\\', '\\']
  else if c = '\n' then ['\\', 'n']
  else if c = '\r' then ['\\', 'r']
  else if c = '\t' then ['\\', 't']
  else if c.toNat = 0 then ['\\', '0']
  else if isUndrawn c then ['\\', 'u', '\x7b'] ++ hexText c.toNat ++ ['\x7d']
  else [c]

/-- A text between quotes. -/
def quoted (s : String) : String :=
  "\"" ++ String.ofList (s.toList.flatMap escapeQuoted) ++ "\""

end Telematics.Text
