/-!
# String literals

The text of a string literal: its characters between quotes, where a quote and a backslash are
written after a backslash, and a line feed and a tab by their letters.
-/

namespace JavaBuilder.Java

/-- How a character is written inside a string literal. -/
def escapeChar (c : Char) : List Char :=
  if c = '"' then ['\\', '"']
  else if c = '\\' then ['\\', '\\']
  else if c = '\n' then ['\\', 'n']
  else if c = '\t' then ['\\', 't']
  else [c]

/-- The characters of a string literal. -/
def literalChars (cs : List Char) : List Char := '"' :: (cs.flatMap escapeChar ++ ['"'])

def stringLiteral (s : String) : String := String.ofList (literalChars s.toList)

end JavaBuilder.Java
