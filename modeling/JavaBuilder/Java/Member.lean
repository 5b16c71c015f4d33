import JavaBuilder.Java.Stmt

/-!
# Members and classes

Fields, methods, and the classes that hold them. Documentation is part of every declaration;
whether it is printed is decided when the class is, so switching it off cannot touch any code.

The body of a class is a sequence of groups with a blank line between each two of them.
-/

namespace JavaBuilder.Java

/-! ## Documentation -/

/-- A piece of a documentation line. -/
inductive DocPiece where
  | text (s : String)
  /-- Source code. -/
  | code (s : String)
  /-- A link to a class. -/
  | link (type : ClassName)
  /-- A link to a method without parameters. -/
  | linkMethod (type : ClassName) (method : String)
  /-- A link to a method without parameters, shown as a label. -/
  | linkAs (type : ClassName) (method label : String)
deriving Repr

instance : Coe String DocPiece := ⟨.text⟩

/-- A line of documentation. A blank line separates paragraphs. -/
inductive DocLine where
  | blank
  | line (pieces : List DocPiece)
deriving Repr

/-- The lines of a documentation comment. -/
abbrev Doc := List DocLine

/-- The code of a piece of documentation. -/
def DocPiece.toCode : DocPiece → Code
  | text s => [.text s]
  | code s => [.text ("\x7b@code " ++ s ++ "\x7d")]
  | link t => [.text "\x7b@link ", .type t, .text "\x7d"]
  | linkMethod t m => [.text "\x7b@link ", .type t, .text ("#" ++ m ++ "()\x7d")]
  | linkAs t m label => [.text "\x7b@link ", .type t, .text ("#" ++ m ++ "() " ++ label ++ "\x7d")]

def DocLine.toCode : DocLine → Code
  | blank => [.text " *\n"]
  | line pieces => .text " * " :: (pieces.flatMap DocPiece.toCode ++ [.text "\n"])

/-- The code of a documentation comment. -/
def Doc.toCode (doc : Doc) : Code :=
  .text "/**\n" :: (doc.flatMap DocLine.toCode ++ [.text " */\n"])

/-- A documentation comment, if there is one and it is wanted. -/
def docCode (docs : Bool) : Option Doc → Code
  | some doc => if docs then Doc.toCode doc else []
  | none => []

/-! ## Fields -/

/-- The modifiers in use. -/
inductive Modifier where
  | isPublic
  | isPrivate
  | isStatic
  | isFinal
deriving DecidableEq, Repr

def Modifier.keyword : Modifier → String
  | isPublic => "public"
  | isPrivate => "private"
  | isStatic => "static"
  | isFinal => "final"

/-- Modifiers in front of a declaration. -/
def modifiersText (ms : List Modifier) : String := String.join (ms.map (·.keyword ++ " "))

/-- Marker annotations in front of a declaration, on the same line. -/
def markersCode (names : List ClassName) : Code :=
  names.flatMap fun n ↦ [.text "@", .type n, .text " "]

structure Field where
  markers : List ClassName
  modifiers : List Modifier
  type : TypeRef
  name : String
  value : Option Expr
  /-- Where the initial value goes. -/
  wrap : Wrap
deriving Repr

namespace Field

/-- The initial value of a field as code. -/
def valueCode (wrap : Wrap) : Option Expr → Code
  | none => []
  | some e =>
    match wrap with
    | .same => .text " = " :: e.code
    | .next spaces => .text (" =" ++ newLine spaces) :: e.code

def code (f : Field) : Code :=
  markersCode f.markers ++ .text (modifiersText f.modifiers) ::
    (f.type.code ++ .text (" " ++ f.name) :: (valueCode f.wrap f.value ++ [.text ";\n"]))

/-- A private field. -/
def hidden (type : TypeRef) (name : String) (value : Option Expr) : Field :=
  ⟨[], [.isPrivate], type, name, value, .same⟩

/-- A private field that is assigned once. -/
def constant (type : TypeRef) (name : String) (value : Option Expr) : Field :=
  ⟨[], [.isPrivate, .isFinal], type, name, value, .same⟩

end Field

/-! ## Methods -/

/-- A parameter. -/
structure Param where
  markers : List ClassName
  type : TypeRef
  name : String
deriving Repr

/-- A parameter without annotations. -/
def Param.of (type : TypeRef) (name : String) : Param := ⟨[], type, name⟩

def Param.code (p : Param) : Code := markersCode p.markers ++ (p.type.code ++ [.text (" " ++ p.name)])

/-- A method, or a constructor if it has no result type. -/
structure Method where
  doc : Option Doc
  /-- The method overrides another. -/
  overrides : Bool
  /-- Marker annotations on lines of their own. -/
  flags : List ClassName
  /-- Marker annotations on the line of the declaration. -/
  markers : List ClassName
  modifiers : List Modifier
  /-- The type parameters of the method. -/
  typeParams : List String
  result : Option TypeRef
  name : String
  params : List Param
  body : List Stmt
deriving Repr

namespace Method

/-- The type parameters of a method, in front of its result type. -/
def typeParamsText (ps : List String) : String :=
  if ps.isEmpty then "" else "<" ++ ", ".intercalate ps ++ "> "

/-- The line of the declaration. -/
def headCode (m : Method) : Code :=
  markersCode m.markers ++ .text (modifiersText m.modifiers ++ typeParamsText m.typeParams) ::
    ((match m.result with
      | some t => t.code ++ [.text " "]
      | none => []) ++
      .text (m.name ++ "(") :: (Code.separated ", " (m.params.map (·.code)) ++ [.text ") \x7b\n"]))

def code (docs : Bool) (m : Method) : Code :=
  docCode docs m.doc ++ (if m.overrides then [.text "@Override\n"] else []) ++
    m.flags.flatMap (fun n ↦ [.text "@", .type n, .text "\n"]) ++
    m.headCode ++ Stmt.blockCode m.body ++ Stmt.closing

/-- A documented public method. -/
def documented (doc : Doc) (result : TypeRef) (name : String) (params : List Param)
    (body : List Stmt) : Method :=
  ⟨some doc, false, [], [], [.isPublic], [], some result, name, params, body⟩

/-- A public method that overrides another. -/
def overriding (markers : List ClassName) (result : TypeRef) (name : String) (params : List Param)
    (body : List Stmt) : Method :=
  ⟨none, true, [], markers, [.isPublic], [], some result, name, params, body⟩

def constructor (modifiers : List Modifier) (name : String) (params : List Param)
    (body : List Stmt) : Method :=
  ⟨none, false, [], [], modifiers, [], none, name, params, body⟩

end Method

/-! ## Classes -/

/-- A field or a method. -/
inductive Member where
  | field (f : Field)
  | method (m : Method)
deriving Repr

def Member.code (docs : Bool) : Member → Code
  | field f => f.code
  | method m => m.code docs

/-- Groups of code with a blank line between each two of them; empty groups are left out. -/
def groupsCode (groups : List Code) : Code :=
  Code.separated "\n" (groups.filter fun g ↦ !g.isEmpty)

/-- The groups of members of a class body as code. -/
def membersCode (docs : Bool) (groups : List (List Member)) : Code :=
  groupsCode (groups.map fun g ↦ g.flatMap (·.code docs))

/-- An enum whose constants have arguments. -/
structure EnumDecl where
  name : String
  constants : List (String × List Expr)
  groups : List (List Member)
deriving Repr

def EnumDecl.code (docs : Bool) (e : EnumDecl) : Code :=
  .text ("private enum " ++ e.name ++ " \x7b\n") ::
    (e.constants.flatMap (fun c ↦ .text c.1 :: (Expr.argsCode .inline c.2 ++ [.text ",\n"])) ++
      .text ";\n\n" :: (membersCode docs e.groups ++ Stmt.closing))

/-- A private static class that implements or extends another. -/
structure NestedClass where
  /-- The class, named by its simple name. -/
  type : GenericClass
  /-- The class implements an interface. -/
  implements : Bool
  /-- What it implements or extends. -/
  parent : TypeRef
  groups : List (List Member)
deriving Repr

def NestedClass.code (docs : Bool) (c : NestedClass) : Code :=
  .text ("private static final class " ++ c.type.name.simpleName ++ c.type.paramsText ++
    (if c.implements then " implements " else " extends ")) ::
    (c.parent.code ++ .text " \x7b\n" :: (membersCode docs c.groups ++ Stmt.closing))

/-- What stands in a top-level class. -/
inductive Item where
  | member (m : Member)
  | enum (e : EnumDecl)
  | nested (c : NestedClass)
deriving Repr

def Item.code (docs : Bool) : Item → Code
  | member m => m.code docs
  | enum e => e.code docs
  | nested c => c.code docs

structure TopClass where
  doc : Doc
  /-- Annotations with a string each. -/
  annotations : List (ClassName × String)
  type : GenericClass
  implements : Option ClassName
  groups : List (List Item)
deriving Repr

def TopClass.code (docs : Bool) (c : TopClass) : Code :=
  docCode docs (some c.doc) ++
    c.annotations.flatMap (fun a ↦ [.text "@", .type a.1, .text ("(" ++ stringLiteral a.2 ++ ")\n")]) ++
    .text "abstract class " :: (c.type.code ++
      (match c.implements with
        | some n => [.text " implements ", .type n]
        | none => []) ++
      .text " \x7b\n\n" ::
        (groupsCode (c.groups.map fun g ↦ g.flatMap (·.code docs)) ++ Stmt.closing))

end JavaBuilder.Java
