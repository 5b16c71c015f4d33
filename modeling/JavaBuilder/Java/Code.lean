import JavaBuilder.Java.Literal
import JavaBuilder.Java.TypeRef

/-!
# Code

Code is a sequence of tokens: plain text, and references to classes. How a class is spelled depends
on the whole file, so a reference stays a reference until the file is laid out. Spelling every
class in full gives the *qualified text* of the code.

Sequences of tokens are composed freely. A `Writer` keeps them in a normal form, where no text is
empty and no two texts stand next to each other: it merges a text with the text before it.
-/

namespace JavaBuilder.Java

/-- A piece of code. -/
inductive Token where
  | text (s : String)
  /-- A reference to a class. -/
  | type (name : ClassName)
deriving DecidableEq, Repr

/-- A sequence of tokens. -/
abbrev Code := List Token

namespace Token

/-- The token as text, given a spelling of classes. -/
def spell (spelling : ClassName → String) : Token → String
  | text s => s
  | type name => spelling name

end Token

namespace Code

/-- The code as text, given a spelling of classes. -/
def spell (spelling : ClassName → String) (code : Code) : String :=
  String.join (code.map (·.spell spelling))

/-- The code with every class spelled in full. -/
def qualified (code : Code) : String := code.spell ClassName.text

/-- The classes the code refers to, in order. -/
def types (code : Code) : List ClassName :=
  code.filterMap fun
    | .type name => some name
    | .text _ => none

/-- Pieces of code with a text between each two of them. -/
def separated (sep : String) : List Code → Code
  | [] => []
  | [c] => c
  | c :: d :: cs => c ++ .text sep :: separated sep (d :: cs)

@[simp] theorem qualified_nil : qualified [] = "" := rfl

theorem types_append (c d : Code) : types (c ++ d) = types c ++ types d := by
  simp [types]

end Code

/-! ## Types as code -/

namespace TypeRef

mutual

/-- The type with its classes as references. -/
def code : TypeRef → Code
  | declared name [] => [.type name]
  | declared name (a :: as) => .type name :: .text "<" :: (a.code ++ tailCode as)
  | extending bound => .text "? extends " :: bound.code
  | array component => component.code ++ [.text "[]"]
  | t => [.text t.text]

/-- The type arguments after the first one, and the bracket that closes them. -/
def tailCode : List TypeRef → Code
  | [] => [.text ">"]
  | a :: as => .text ", " :: (a.code ++ tailCode as)

end

end TypeRef

namespace GenericClass

variable (c : GenericClass)

/-- The class with its type parameters. -/
def code : Code := [.type c.name, .text c.paramsText]

/-- The class with a wildcard for each type parameter. -/
def wildcardCode : Code :=
  if c.isGeneric then
    [.type c.name, .text ("<" ++ ", ".intercalate (c.params.map fun _ ↦ "?") ++ ">")]
  else [.type c.name]

/-- The class as it is instantiated, with the diamond in place of type parameters if asked for. -/
def newCode (diamond : Bool) : Code :=
  if diamond && c.isGeneric then [.type c.name, .text "<>"] else c.code

end GenericClass

/-! ## Writing in normal form -/

/-- Code written so far, in normal form. -/
structure Writer where
  /-- The tokens written. -/
  tokens : Code
deriving DecidableEq, Repr

namespace Writer

/-- Nothing written. -/
def empty : Writer := ⟨[]⟩

/-- Write text, joined to the text before it. -/
def text (w : Writer) (s : String) : Writer :=
  if s = "" then w
  else
    match w.tokens.getLast? with
    | some (.text t) => ⟨w.tokens.dropLast ++ [.text (t ++ s)]⟩
    | _ => ⟨w.tokens ++ [.text s]⟩

/-- Write a reference to a class. -/
def type (w : Writer) (name : ClassName) : Writer := ⟨w.tokens ++ [.type name]⟩

def token (w : Writer) : Token → Writer
  | .text s => w.text s
  | .type name => w.type name

/-- Write a sequence of tokens. -/
def code (w : Writer) (c : Code) : Writer := c.foldl token w

/-- Write what another writer has written. -/
def append (w other : Writer) : Writer := w.code other.tokens

/-- The pieces of a template around its placeholders, each an empty pair of braces. -/
def templatePieces : List Char → List (List Char)
  | [] => [[]]
  | '\x7b' :: '\x7d' :: cs => [] :: templatePieces cs
  | c :: cs =>
    match templatePieces cs with
    | [] => [[c]]
    | p :: ps => (c :: p) :: ps

/-- Write the pieces of a template with an argument between each two of them. -/
def pieces (w : Writer) : List (List Char) → List Code → Writer
  | [], _ => w
  | p :: ps, [] => pieces (w.text (String.ofList p)) ps []
  | [p], _ :: _ => w.text (String.ofList p)
  | p :: q :: ps, a :: as => pieces ((w.text (String.ofList p)).code a) (q :: ps) as

/-- Write a template with an argument for each placeholder. -/
def template (w : Writer) (t : String) (args : List Code) : Writer :=
  w.pieces (templatePieces t.toList) args

/-- Write a template and end the line. -/
def line (w : Writer) (t : String) (args : List Code) : Writer := (w.template t args).text "\n"

end Writer

def Code.normal (code : Code) : Code := (Writer.empty.code code).tokens

end JavaBuilder.Java
