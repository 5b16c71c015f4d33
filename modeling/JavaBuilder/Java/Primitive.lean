import JavaBuilder.Java.ClassName

/-!
# Primitive types
-/

namespace JavaBuilder.Java

inductive Primitive where
  | boolean
  | byte
  | short
  | int
  | long
  | char
  | float
  | double
deriving DecidableEq, Repr

namespace Primitive

/-- All of them. -/
def all : List Primitive := [boolean, byte, short, int, long, char, float, double]

theorem mem_all (p : Primitive) : p ∈ all := by cases p <;> simp [all]

def keyword : Primitive → String
  | boolean => "boolean"
  | byte => "byte"
  | short => "short"
  | int => "int"
  | long => "long"
  | char => "char"
  | float => "float"
  | double => "double"

def ofKeyword? (word : String) : Option Primitive := all.find? (·.keyword == word)

@[simp] theorem ofKeyword?_keyword (p : Primitive) : ofKeyword? p.keyword = some p := by
  cases p <;> decide

def wrapper : Primitive → ClassName
  | boolean => javaLang "Boolean"
  | byte => javaLang "Byte"
  | short => javaLang "Short"
  | int => javaLang "Integer"
  | long => javaLang "Long"
  | char => javaLang "Character"
  | float => javaLang "Float"
  | double => javaLang "Double"

/-- The literal of the value a field starts with. -/
def zero : Primitive → String
  | boolean => "false"
  | long => "0L"
  | char => "'\\0'"
  | float => "0.0f"
  | double => "0.0"
  | byte | short | int => "0"

/-- Values are floating-point numbers, whose equality is that of their bits. -/
def isFloating : Primitive → Bool
  | float | double => true
  | _ => false

end Primitive

end JavaBuilder.Java
