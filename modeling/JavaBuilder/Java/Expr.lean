import JavaBuilder.Java.Code

/-!
# Expressions

The expressions of generated code. A bare name means different things in Java, so the meanings are
kept apart here and only coincide in print: `var` is a parameter or a local variable, `own` is a
field of the object the method runs on, and `enclosing` is a static field of a class around it.
Whether the printed name is then resolved to what was meant depends on the variables in scope;
`ownField` is the field reference that always is.

Expressions keep their parentheses and their line breaks, so printing has nothing to decide.
-/

namespace JavaBuilder.Java

/-- The binary operators in use. -/
inductive BinaryOp where
  | equal
  | notEqual
  | and
  | or
  | plus
  | atLeast
deriving DecidableEq, Repr

def BinaryOp.symbol : BinaryOp → String
  | equal => "=="
  | notEqual => "!="
  | and => "&&"
  | or => "||"
  | plus => "+"
  | atLeast => ">="

/-- Where the right operand of an operator goes: on the same line, or on the next one after the
operator, indented by so many spaces. -/
inductive Wrap where
  | same
  | next (spaces : Nat)
deriving DecidableEq, Repr

/-- Where the arguments of a call go. -/
inductive ArgLayout where
  /-- On the same line. -/
  | inline
  /-- All on the next line. -/
  | hanging
  /-- Each on a line of its own. -/
  | stacked
deriving DecidableEq, Repr

/-- An expression. -/
inductive Expr where
  /-- A parameter or local variable. -/
  | var (name : String)
  /-- A field of the current object, by its simple name. -/
  | own (name : String)
  /-- A static field of an enclosing class, by its simple name. -/
  | enclosing (name : String)
  | this
  | null
  /-- A literal other than a string, as it is written. -/
  | literal (text : String)
  /-- The literal of a string. -/
  | string (value : String)
  /-- Source text taken over as it is. -/
  | verbatim (text : String)
  /-- A field of another expression. -/
  | field (target : Expr) (name : String)
  /-- A static member of a class, such as an enum constant. -/
  | static (owner : ClassName) (name : String)
  /-- The class object of a class. -/
  | classOf (type : ClassName)
  /-- A method of the current object, by its simple name. -/
  | ownCall (method : String) (args : List Expr)
  /-- A method of another expression. -/
  | call (target : Expr) (method : String) (layout : ArgLayout) (args : List Expr)
  /-- A static method of a class, with explicit type arguments if any. -/
  | staticCall (owner : ClassName) (typeArgs : List TypeRef) (method : String)
    (layout : ArgLayout) (args : List Expr)
  /-- An instantiation; with the diamond, type arguments are left out. -/
  | create (type : TypeRef) (diamond : Bool) (args : List Expr)
  /-- An array with its elements. -/
  | newArray (component : ClassName) (elements : List Expr)
  | cast (type : TypeRef) (e : Expr)
  | not (e : Expr)
  | paren (e : Expr)
  | instanceOf (e : Expr) (type : ClassName)
  | binary (op : BinaryOp) (wrap : Wrap) (left right : Expr)
  | conditional (test yes no : Expr)
deriving Repr, Inhabited

/-- Text indented by so many spaces on a new line. -/
def newLine (spaces : Nat) : String := "\n" ++ String.join (List.replicate spaces " ")

/-- The text between a left operand and a right one. -/
def Wrap.around (op : BinaryOp) : Wrap → String
  | same => " " ++ op.symbol ++ " "
  | next spaces => newLine spaces ++ op.symbol ++ " "

/-- The text that opens the arguments of a call. -/
def ArgLayout.opening : ArgLayout → String
  | inline => "("
  | hanging => "(" ++ newLine 4
  | stacked => "(" ++ newLine 8

/-- The text between two arguments of a call. -/
def ArgLayout.separator : ArgLayout → String
  | inline | hanging => ", "
  | stacked => "," ++ newLine 8

/-- The type of an instantiation, with the diamond in place of type arguments if asked for. -/
def TypeRef.newCode (diamond : Bool) : TypeRef → Code
  | .declared name (a :: as) =>
    if diamond then [.type name, .text "<>"] else TypeRef.code (.declared name (a :: as))
  | t => t.code

/-- Explicit type arguments of a static call. -/
def typeArgsCode : List TypeRef → Code
  | [] => []
  | t :: ts => .text "<" :: (t.code ++ TypeRef.tailCode ts)

namespace Expr

mutual

def code : Expr → Code
  | var name | own name | enclosing name => [.text name]
  | this => [.text "this"]
  | null => [.text "null"]
  | literal s | verbatim s => [.text s]
  | string s => [.text (stringLiteral s)]
  | field e name => e.code ++ [.text ("." ++ name)]
  | static owner name => [.type owner, .text ("." ++ name)]
  | classOf type => [.type type, .text ".class"]
  | ownCall m args => .text m :: argsCode .inline args
  | call e m layout args => e.code ++ .text ("." ++ m) :: argsCode layout args
  | staticCall owner targs m layout args =>
    .type owner :: .text "." :: (typeArgsCode targs ++ .text m :: argsCode layout args)
  | create t diamond args => .text "new " :: (t.newCode diamond ++ argsCode .inline args)
  | newArray c es =>
    .text "new " :: .type c :: .text "[] \x7b" :: (listCode ", " es ++ [.text "\x7d"])
  | cast t e => .text "(" :: (t.code ++ .text ") " :: e.code)
  | not e => .text "!" :: e.code
  | paren e => .text "(" :: (e.code ++ [.text ")"])
  | instanceOf e c => e.code ++ [.text " instanceof ", .type c]
  | binary op wrap l r => l.code ++ .text (wrap.around op) :: r.code
  | conditional c a b => c.code ++ .text " ? " :: (a.code ++ .text " : " :: b.code)

/-- Arguments in parentheses. -/
def argsCode (layout : ArgLayout) : List Expr → Code
  | [] => [.text "()"]
  | e :: es => .text layout.opening :: (e.code ++ tailCode layout.separator es ++ [.text ")"])

/-- Expressions after a separator each. -/
def tailCode (sep : String) : List Expr → Code
  | [] => []
  | e :: es => .text sep :: (e.code ++ tailCode sep es)

/-- Expressions with a separator between each two of them. -/
def listCode (sep : String) : List Expr → Code
  | [] => []
  | e :: es => e.code ++ tailCode sep es

end

/-! ## Shapes in common use -/

def invoke (e : Expr) (method : String) (args : List Expr) : Expr := .call e method .inline args

/-- A static call on one line. -/
def invokeStatic (owner : ClassName) (method : String) (args : List Expr) : Expr :=
  .staticCall owner [] method .inline args

/-- The two expressions are the same value or reference. -/
def eq (l r : Expr) : Expr := .binary .equal .same l r

/-- The two expressions are not the same value or reference. -/
def ne (l r : Expr) : Expr := .binary .notEqual .same l r

/-- A field of the current object, written so that none of these variables captures it. -/
def ownField (name : String) (locals : List String) : Expr :=
  if name ∈ locals then .field .this name else .own name

end Expr

end JavaBuilder.Java
