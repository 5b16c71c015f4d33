import JavaBuilder.Text.Segments
import JavaBuilder.Text.Trim

/-!
# Indentation by nesting depth

Code is written without indentation and indented at the end, by the number of braces open at each
line. White space already at the front of a line is kept after the computed indentation, which is
how continuation lines and comment lines get their offset; white space at the end of a line is
dropped.

A brace counts unless it stands in a string or character literal, after `//`, or on a line that
starts a documentation comment or continues one. Literals end at the end of their line at the
latest. A line that closes blocks before any other code is indented by what is left open after
those closing braces.
-/

namespace JavaBuilder.Java

open Unicode Text

/-- The unit of indentation. -/
inductive Indent where
  | two
  | four
  | tab
deriving DecidableEq, Repr

/-- The text of one unit of indentation. -/
def Indent.unit : Indent → String
  | two => "  "
  | four => "    "
  | tab => "\t"

/-- The text of several units of indentation. -/
def Indent.times (i : Indent) (n : Nat) : String := String.join (List.replicate n i.unit)

/-- The end of a line. -/
inductive LineEnd where
  | lf
  | crlf
deriving DecidableEq, Repr

def LineEnd.text : LineEnd → String
  | lf => "\n"
  | crlf => "\r\n"

/-! ## Braces of a line -/

structure Braces where
  /-- Opening braces. -/
  opening : Nat
  /-- Closing braces. -/
  closing : Nat
  /-- Closing braces before any other code. -/
  leading : Nat
deriving DecidableEq, Repr

namespace Braces

def none : Braces := ⟨0, 0, 0⟩

mutual

/-- Count braces outside literals. `seen` says that the line has had other code. -/
def inCode (seen : Bool) : List Char → Braces
  | [] => none
  | c :: cs =>
    if c = '"' ∨ c = '\'' then inLiteral c cs
    else if c = '/' ∧ cs.head? = some '/' then none
    else if c = '{' then
      let b := inCode true cs
      { b with opening := b.opening + 1 }
    else if c = '}' then
      let b := inCode seen cs
      { b with closing := b.closing + 1, leading := if seen then b.leading else b.leading + 1 }
    else inCode (seen || !isBlank c) cs

/-- Count braces after a literal that ends with `quote`. -/
def inLiteral (quote : Char) : List Char → Braces
  | [] => none
  | ['\\'] => none
  | '\\' :: _ :: cs => inLiteral quote cs
  | c :: cs => if c = quote then inCode true cs else inLiteral quote cs

end

/-- The line belongs to a comment, by how it starts. -/
def isComment : List Char → Bool
  | '/' :: '*' :: '*' :: _ => true
  | '*' :: _ => true
  | '/' :: '/' :: _ => true
  | _ => false

/-- The braces that count on a line without indentation. -/
def ofLine (line : List Char) : Braces := if isComment line then none else inCode false line

end Braces

/-! ## Lines -/

/-- The lines of a text. A line feed at the end ends the last line and starts no other. -/
def textLines (cs : List Char) : List (List Char) :=
  let ss := segments '\n' cs
  if ss.getLast? = some [] then ss.dropLast else ss

/-- Indent lines, the first of them at a depth. -/
def indentLines (i : Indent) (e : LineEnd) : Nat → List (List Char) → List String
  | _, [] => []
  | depth, line :: rest =>
    let content := trimEnd line
    if content = [] then e.text :: indentLines i e depth rest
    else
      let b := Braces.ofLine (trimStart content)
      (i.times (depth - b.leading) ++ String.ofList content ++ e.text) ::
        indentLines i e (depth + b.opening - b.closing) rest

/-- Indent a text by nesting depth. -/
def reindent (i : Indent) (e : LineEnd) (text : String) : String :=
  String.join (indentLines i e 0 (textLines text.toList))

end JavaBuilder.Java
