import JavaBuilder.Java.TypeRef
import JavaBuilder.Text.Trim

/-!
# Reading type text

Type text is a sequence of words and marks. A word is a maximal run of letters, numbers,
underscores, dollar signs and dots; white space only separates. The grammar is

* a type is a wildcard, `? extends` and a type, `void`, or a base followed by any number of `[]`;
* a base is a primitive keyword, a dotted class name with optional type arguments in angle
  brackets, or an identifier, which is a type variable.

A bound takes everything after `extends`, so `? extends T[]` is bounded by an array and no wildcard
is ever the component of one. Words without a dot are never classes: a class of the default package
cannot be written. Lower bounds and nested generic classes are outside the grammar, and `TypeRef.ofText`
keeps all text outside it, trimmed, as an unresolved type.

The reader counts down from the number of words and marks. Every level of nesting uses up at
least one of them, so the count never decides an answer.
-/

namespace JavaBuilder.Java

open Unicode Name Text

/-- The marks of type text. -/
inductive TypeMark where
  | less
  | greater
  | comma
  | question
  | openBracket
  | closeBracket
deriving DecidableEq, Repr

/-- A lexeme of type text. -/
inductive TypeLexeme where
  | word (text : String)
  | mark (m : TypeMark)
deriving DecidableEq, Repr

namespace TypeMark

def char : TypeMark → Char
  | less => '<'
  | greater => '>'
  | comma => ','
  | question => '?'
  | openBracket => '['
  | closeBracket => ']'

/-- The mark written by a character. -/
def ofChar? : Char → Option TypeMark
  | '<' => some less
  | '>' => some greater
  | ',' => some comma
  | '?' => some question
  | '[' => some openBracket
  | ']' => some closeBracket
  | _ => none

@[simp] theorem ofChar?_char (m : TypeMark) : ofChar? m.char = some m := by cases m <;> rfl

end TypeMark

namespace TypeLexeme

def isWordChar (c : Char) : Bool := isLetterOrNumber c || c == '_' || c == '$' || c == '.'

/-- Put a word in front of lexemes, unless it is empty. -/
def consWord (w : List Char) (ls : List TypeLexeme) : List TypeLexeme :=
  if w = [] then ls else word (String.ofList w) :: ls

/-- The word a text starts with, possibly empty, and the lexemes after it. A character that belongs
to no lexeme is refused. -/
def lexWord : List Char → Option (List Char × List TypeLexeme)
  | [] => some ([], [])
  | c :: cs =>
    match lexWord cs with
    | none => none
    | some (w, ls) =>
      if isWordChar c then some (c :: w, ls)
      else
        match TypeMark.ofChar? c with
        | some m => some ([], mark m :: consWord w ls)
        | none => if isBlank c then some ([], consWord w ls) else none

/-- The lexemes of a text. -/
def lex? (text : String) : Option (List TypeLexeme) :=
  (lexWord text.toList).map fun r ↦ consWord r.1 r.2

end TypeLexeme

namespace TypeRef

open TypeLexeme TypeMark

/-- Wrap a type into an array for each pair of brackets that follows it. -/
def withBrackets : TypeRef → List TypeLexeme → Option (TypeRef × List TypeLexeme)
  | t, mark openBracket :: mark closeBracket :: ls => withBrackets (array t) ls
  | _, mark openBracket :: _ => none
  | t, ls => some (t, ls)

mutual

/-- Read one type from the front of a sequence of lexemes. -/
def read? : Nat → List TypeLexeme → Option (TypeRef × List TypeLexeme)
  | 0, _ => none
  | n + 1, mark question :: ls =>
    match ls with
    | word w :: rest =>
      if w = "extends" then (read? n rest).map fun r ↦ (extending r.1, r.2) else none
    | _ => some (wildcard, ls)
  | n + 1, word w :: ls =>
    if w = "void" then some (void, ls)
    else
      match Primitive.ofKeyword? w with
      | some p => withBrackets (primitive p) ls
      | none =>
        if '.' ∈ w.toList then
          match ClassName.parse? w, ls with
          | none, _ => none
          | some name, mark less :: rest =>
            match readArgs? n rest with
            | none => none
            | some (args, rest) => withBrackets (declared name args) rest
          | some name, _ => withBrackets (declared name []) ls
        else if isIdentifier w then withBrackets (typeVar w) ls
        else none
  | _, _ => none

/-- Read type arguments up to the closing bracket. -/
def readArgs? : Nat → List TypeLexeme → Option (List TypeRef × List TypeLexeme)
  | 0, _ => none
  | n + 1, ls =>
    match read? n ls with
    | some (t, mark comma :: rest) => (readArgs? n rest).map fun r ↦ (t :: r.1, r.2)
    | some (t, mark greater :: rest) => some ([t], rest)
    | _ => none

end

/-- The type a whole sequence of lexemes stands for. -/
def ofLexemes? (ls : List TypeLexeme) : Option TypeRef :=
  match read? (ls.length + 1) ls with
  | some (t, []) => some t
  | _ => none

/-- The type a text stands for; text that is no type is kept. -/
def ofText (text : String) : TypeRef :=
  ((lex? text).bind ofLexemes?).getD (unresolved (trim text))

end TypeRef

end JavaBuilder.Java
