import JavaBuilder.Name.Identifier
import JavaBuilder.Text.Order
import JavaBuilder.Text.Segments

/-!
# Class names

A class is named by its package, the top-level class it lives in, and the classes nested around it.
The three parts are kept apart, so that a reference to the class can later be written with or
without its package.

In text the parts are joined by dots and nothing says where the package ends. `ClassName.parse?`
takes the convention that package segments start in lower case: the first segment that starts with
an ASCII capital is the top-level class, whatever comes after it. A class whose package has a
capital segment, or whose own name has none, cannot be written this way, but can be built.
-/

namespace JavaBuilder.Java

open Text Name

/-- The name of a class, possibly nested. -/
structure ClassName where
  /-- The segments of the package, none for the default package. -/
  package : List String
  /-- The top-level class. -/
  outer : String
  /-- The classes nested in it, from the outside in. -/
  inner : List String
deriving DecidableEq, Repr, Inhabited

/-- The segments of a package written with dots. -/
def packageSegments (text : String) : List String := if text = "" then [] else split '.' text

namespace ClassName

variable (name : ClassName)

def top (package : List String) (outer : String) : ClassName := ⟨package, outer, []⟩

/-- The class `simple` nested directly in this one. -/
def nested (simple : String) : ClassName := { name with inner := name.inner ++ [simple] }

/-- All simple names, from the top-level class inwards. -/
def simpleNames : List String := name.outer :: name.inner

def simpleName : String := name.inner.getLast?.getD name.outer

/-- The top-level class this one lives in. -/
def topLevel : ClassName := { name with inner := [] }

/-- The class directly around this one, if it is nested. -/
def enclosing? : Option ClassName :=
  if name.inner = [] then none else some { name with inner := name.inner.dropLast }

/-- The class is not nested. -/
def isTopLevel : Bool := name.inner.isEmpty

def packageText : String := join '.' name.package

/-- The simple names with dots, without the package. -/
def relativeText : String := join '.' name.simpleNames

/-- The full name with dots. -/
def text : String := join '.' (name.package ++ name.simpleNames)

instance : ToString ClassName := ⟨text⟩

/-- The segment starts with an ASCII capital. -/
def startsCapital (segment : String) : Bool := segment.toList.head?.any Char.isUpper

/-- Read a dotted name: identifiers, of which the first that starts with a capital is the top-level
class. -/
def parse? (text : String) : Option ClassName :=
  let parts := split '.' text
  if parts.all isIdentifier then
    match parts.span (!startsCapital ·) with
    | (_, []) => none
    | (package, outer :: inner) => some { package, outer, inner }
  else none

/-- Names are ordered by package, then by simple names from the outside in. -/
instance : LT ClassName where
  lt a b := a.packageText < b.packageText ∨
    (a.packageText = b.packageText ∧ a.simpleNames < b.simpleNames)

instance : DecidableLT ClassName := fun a b ↦
  inferInstanceAs (Decidable (a.packageText < b.packageText ∨
    (a.packageText = b.packageText ∧ a.simpleNames < b.simpleNames)))

@[simp] theorem simpleNames_nested (simple : String) :
    (name.nested simple).simpleNames = name.simpleNames ++ [simple] := rfl

@[simp] theorem simpleName_nested (simple : String) : (name.nested simple).simpleName = simple := by
  simp [nested, simpleName]

@[simp] theorem enclosing?_nested (simple : String) :
    (name.nested simple).enclosing? = some name := by
  simp [nested, enclosing?]

@[simp] theorem topLevel_nested (simple : String) :
    (name.nested simple).topLevel = name.topLevel := rfl

end ClassName

def javaLang (simple : String) : ClassName := .top ["java", "lang"] simple

def javaUtil (simple : String) : ClassName := .top ["java", "util"] simple

def javaFunction (simple : String) : ClassName := .top ["java", "util", "function"] simple

/-- A class of Guava's `base` package. -/
def guavaBase (simple : String) : ClassName := .top ["com", "google", "common", "base"] simple

/-- A class of Guava's `collect` package. -/
def guavaCollect (simple : String) : ClassName := .top ["com", "google", "common", "collect"] simple

end JavaBuilder.Java
