import JavaBuilder.Unicode.Visible

/-!
# Quoted text in diagnostics

A piece of input shown in a diagnostic stands between quotes. Quotes, backslashes and the common
control characters in it are escaped by a letter, and every other character that cannot be seen on
its own by its code point.
-/

namespace JavaBuilder.Text

open Unicode

/-- The hexadecimal digits of a number, without leading zeros. -/
def hexDigits (n : Nat) : List Char := Nat.toDigits 16 n

/-- How a character is shown in quoted text. -/
def showChar (c : Char) : List Char :=
  if c = '"' ∨ c = '\\' then ['\\', c]
  else if c = '\n' then ['\\', 'n']
  else if c = '\r' then ['\\', 'r']
  else if c = '\t' then ['\\', 't']
  else if c = '\x00' then ['\\', '0']
  else if isVisible c then [c]
  else ['\\', 'u', '\x7b'] ++ hexDigits c.toNat ++ ['\x7d']

def quoted (s : String) : String := String.ofList ('"' :: (s.toList.flatMap showChar ++ ['"']))

end JavaBuilder.Text
