import JavaBuilder.Text.Hex

/-!
# Lexemes of a configuration text

What may stand between values, and how a string is written. Control characters stand nowhere but at
the end of a line. A string between single quotes is taken as it is; one between double quotes has
escapes. Tripled quotes let a string go over several lines, and then a line end right after the
opening quotes is no part of it. Line ends in such a string are kept as they are written.
-/

namespace JavaBuilder.Toml

open Text

/-- White space inside a line. -/
def isGap (c : Char) : Bool := c == ' ' || c == '\t'

/-- A character that stands in no comment and in no string on one line. -/
def isControl (c : Char) : Bool := (c.toNat < 32 && c != '\t') || c.toNat == 127

/-- Drop white space at the front. -/
def skipGaps (cs : List Char) : List Char := cs.dropWhile isGap

/-- What follows a line end. -/
def afterNewline? : List Char → Option (List Char)
  | '\n' :: cs => some cs
  | '\r' :: '\n' :: cs => some cs
  | _ => none

/-- Drop white space, comments and line ends. No comment holds a control character. -/
def skipTrivia? (inComment : Bool) : List Char → Option (List Char)
  | [] => some []
  | '\r' :: '\n' :: cs => skipTrivia? false cs
  | c :: cs =>
    if c = '\n' then skipTrivia? false cs
    else if inComment then if isControl c then none else skipTrivia? true cs
    else if isGap c then skipTrivia? false cs
    else if c = '#' then skipTrivia? true cs
    else some (c :: cs)

/-- End a line: white space, a comment perhaps, and a line end or the end of the text. -/
def endLine? (cs : List Char) : Option (List Char) :=
  match skipGaps cs with
  | [] => some []
  | '#' :: cs =>
    match cs.dropWhile fun c ↦ !isControl c with
    | [] => some []
    | rest => afterNewline? rest
  | cs => afterNewline? cs

/-! ## Strings -/

def shortEscape? : Char → Option Char
  | '"' => some '"'
  | '\\' => some '\\'
  | 'b' => some '\x08'
  | 'e' => some '\x1b'
  | 'f' => some '\x0c'
  | 'n' => some '\n'
  | 'r' => some '\r'
  | 't' => some '\t'
  | _ => none

/-- The character with a number in hexadecimal digits. -/
def numbered? (digits : List Char) : Option Char := (hexNumber? digits).bind scalar?

/-- A character in front of the characters of a string. -/
def prepend (c : Option Char) (rest : Option (List Char × List Char)) :
    Option (List Char × List Char) := do
  let (cs, after) ← rest
  return ((← c) :: cs, after)

/-- A string with escapes after its opening quote, and what follows it. -/
def readEscaped : List Char → Option (List Char × List Char)
  | [] => none
  | '"' :: cs => some ([], cs)
  | '\\' :: 'x' :: a :: b :: cs => prepend (numbered? [a, b]) (readEscaped cs)
  | '\\' :: 'u' :: a :: b :: c :: d :: cs => prepend (numbered? [a, b, c, d]) (readEscaped cs)
  | '\\' :: 'U' :: a :: b :: c :: d :: e :: f :: g :: h :: cs =>
    prepend (numbered? [a, b, c, d, e, f, g, h]) (readEscaped cs)
  | '\\' :: c :: cs => prepend (shortEscape? c) (readEscaped cs)
  | c :: cs => if c = '\\' ∨ isControl c then none else prepend (some c) (readEscaped cs)

/-- A string with escapes over several lines after its opening quotes, and what follows it. A
backslash at the end of a line drops all white space up to the next other character, and `dropping`
says that this is going on. -/
def readEscapedLines (dropping : Bool) : List Char → Option (List Char × List Char)
  | [] => none
  | '"' :: '"' :: '"' :: '"' :: '"' :: cs => some (['"', '"'], cs)
  | '"' :: '"' :: '"' :: '"' :: cs => some (['"'], cs)
  | '"' :: '"' :: '"' :: cs => some ([], cs)
  | '\\' :: 'x' :: a :: b :: cs => prepend (numbered? [a, b]) (readEscapedLines false cs)
  | '\\' :: 'u' :: a :: b :: c :: d :: cs =>
    prepend (numbered? [a, b, c, d]) (readEscapedLines false cs)
  | '\\' :: 'U' :: a :: b :: c :: d :: e :: f :: g :: h :: cs =>
    prepend (numbered? [a, b, c, d, e, f, g, h]) (readEscapedLines false cs)
  | '\\' :: c :: cs =>
    if (afterNewline? (skipGaps (c :: cs))).isSome then readEscapedLines true (c :: cs)
    else prepend (shortEscape? c) (readEscapedLines false cs)
  | '\r' :: '\n' :: cs =>
    if dropping then readEscapedLines true cs
    else prepend (some '\r') (prepend (some '\n') (readEscapedLines false cs))
  | c :: cs =>
    if dropping ∧ (isGap c ∨ c = '\n') then readEscapedLines true cs
    else if c = '\\' ∨ (isControl c ∧ c ≠ '\n') then none
    else prepend (some c) (readEscapedLines false cs)

/-- A string without escapes after its opening quote, and what follows it. -/
def readVerbatim : List Char → Option (List Char × List Char)
  | [] => none
  | '\'' :: cs => some ([], cs)
  | c :: cs => if isControl c then none else prepend (some c) (readVerbatim cs)

/-- A string without escapes over several lines after its opening quotes, and what follows it. -/
def readVerbatimLines : List Char → Option (List Char × List Char)
  | [] => none
  | '\'' :: '\'' :: '\'' :: '\'' :: '\'' :: cs => some (['\'', '\''], cs)
  | '\'' :: '\'' :: '\'' :: '\'' :: cs => some (['\''], cs)
  | '\'' :: '\'' :: '\'' :: cs => some ([], cs)
  | '\r' :: '\n' :: cs => prepend (some '\r') (prepend (some '\n') (readVerbatimLines cs))
  | c :: cs =>
    if isControl c ∧ c ≠ '\n' then none else prepend (some c) (readVerbatimLines cs)

/-- A text without the line end at its front. -/
def withoutNewline (cs : List Char) : List Char := (afterNewline? cs).getD cs

/-- A string on one line, and what follows it. -/
def readString? : List Char → Option (String × List Char)
  | '"' :: cs => (readEscaped cs).map fun r ↦ (String.ofList r.1, r.2)
  | '\'' :: cs => (readVerbatim cs).map fun r ↦ (String.ofList r.1, r.2)
  | _ => none

/-- A string, and what follows it. -/
def readAnyString? : List Char → Option (String × List Char)
  | '"' :: '"' :: '"' :: cs =>
    (readEscapedLines false (withoutNewline cs)).map fun r ↦ (String.ofList r.1, r.2)
  | '\'' :: '\'' :: '\'' :: cs =>
    (readVerbatimLines (withoutNewline cs)).map fun r ↦ (String.ofList r.1, r.2)
  | cs => readString? cs

end JavaBuilder.Toml
