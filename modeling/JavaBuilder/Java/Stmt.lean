import JavaBuilder.Java.Expr

/-!
# Statements

Statements print one to a line. A block holds its statements between the line that opens it and the
line that closes it.
-/

namespace JavaBuilder.Java

/-- A statement. -/
inductive Stmt where
  /-- Declare a local variable. -/
  | declare (type : TypeRef) (name : String) (value : Expr)
  | assign (target value : Expr)
  /-- Evaluate an expression for its effect. -/
  | eval (e : Expr)
  | ret (e : Expr)
  /-- Throw a new exception. -/
  | throwNew (type : ClassName) (args : List Expr)
  | ifThen (test : Expr) (body : List Stmt)
  | ifElse (test : Expr) (yes no : List Stmt)
  | forEach (type : TypeRef) (name : String) (source : Expr) (body : List Stmt)
  /-- A comment on a line of its own. -/
  | remark (text : String)
deriving Repr, Inhabited

namespace Stmt

/-- The line that closes a block. -/
def closing : Code := [.text "\x7d\n"]

mutual

def code : Stmt → Code
  | declare t x e => t.code ++ .text (" " ++ x ++ " = ") :: (e.code ++ [.text ";\n"])
  | assign l r => l.code ++ .text " = " :: (r.code ++ [.text ";\n"])
  | eval e => e.code ++ [.text ";\n"]
  | ret e => .text "return " :: (e.code ++ [.text ";\n"])
  | throwNew c args => .text "throw new " :: .type c :: (Expr.argsCode .inline args ++ [.text ";\n"])
  | ifThen e b => .text "if (" :: (e.code ++ .text ") \x7b\n" :: (blockCode b ++ closing))
  | ifElse e a b =>
    .text "if (" ::
      (e.code ++ .text ") \x7b\n" :: (blockCode a ++ .text "\x7d else \x7b\n" :: (blockCode b ++ closing)))
  | forEach t x e b =>
    .text "for (" ::
      (t.code ++ .text (" " ++ x ++ " : ") :: (e.code ++ .text ") \x7b\n" :: (blockCode b ++ closing)))
  | remark s => [.text ("// " ++ s ++ "\n")]

/-- Statements one after the other. -/
def blockCode : List Stmt → Code
  | [] => []
  | s :: ss => s.code ++ blockCode ss

end

end Stmt

end JavaBuilder.Java
