/-!
# Language level and libraries

What generated code may use: a language level, which only grows, and whether Guava is there.
-/

namespace JavaBuilder.Java

inductive Level where
  | java6
  | java7
  | java8
deriving DecidableEq, Repr

namespace Level

/-- All of them, oldest first. -/
def all : List Level := [java6, java7, java8]

def name : Level → String
  | java6 => "java6"
  | java7 => "java7"
  | java8 => "java8"

/-- The position of the level among all. -/
def rank : Level → Nat
  | java6 => 0
  | java7 => 1
  | java8 => 2

instance : LE Level := ⟨fun a b ↦ a.rank ≤ b.rank⟩

instance : DecidableLE Level := fun a b ↦ inferInstanceAs (Decidable (a.rank ≤ b.rank))

/-- The level of a lower-case name: its full name, its number, or its number after `1.`. -/
def ofLower? : String → Option Level
  | "java6" | "6" | "1.6" => some java6
  | "java7" | "7" | "1.7" => some java7
  | "java8" | "8" | "1.8" => some java8
  | _ => none

@[simp] theorem ofLower?_name (l : Level) : ofLower? l.name = some l := by cases l <;> rfl

/-- The level of a name, in any case. -/
def ofText? (text : String) : Option Level := ofLower? text.toLower

/-- The complaint about a text that names no level. It shows the text in lower case. -/
def unsupported (text : String) : String := "unsupported source level '" ++ text.toLower ++ "'"

end Level

/-- What generated code may use. -/
structure Features where
  /-- The language level. -/
  level : Level
  /-- Guava is available. -/
  guava : Bool
deriving DecidableEq, Repr

namespace Features

variable (f : Features)

/-- The newest level without Guava. -/
def standard : Features := ⟨.java8, false⟩

/-- The class `java.util.Objects` is available. -/
def hasObjects : Bool := Level.java7 ≤ f.level

/-- Type arguments of an instantiation may be left to the diamond. -/
def hasDiamond : Bool := Level.java7 ≤ f.level

/-- Lambdas and the types that go with them are available. -/
def hasLambdas : Bool := Level.java8 ≤ f.level

/-- At least as much is available. -/
instance : LE Features := ⟨fun a b ↦ a.level ≤ b.level ∧ (a.guava = true → b.guava = true)⟩

end Features

end JavaBuilder.Java
