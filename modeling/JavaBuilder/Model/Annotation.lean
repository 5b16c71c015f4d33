import JavaBuilder.Java.ClassName

/-!
# Annotations

Only the marker `Nullable` matters here: an annotation of that simple name, from any package, that
is written without elements.
-/

namespace JavaBuilder.Model

open Java Text

structure Annotation where
  /-- The annotation type. -/
  name : ClassName
  /-- The elements written out, as source text, sorted by key. -/
  elements : List (String × String)
deriving DecidableEq, Repr

namespace Annotation

variable (a : Annotation)

/-- An annotation without elements. -/
def marker (name : ClassName) : Annotation := ⟨name, []⟩

def withElement (key value : String) : Annotation :=
  { a with elements := putSorted key value a.elements }

/-- The annotation marks a nullable property. -/
def isNullable : Bool := a.elements.isEmpty && a.name.simpleName == "Nullable"

end Annotation

end JavaBuilder.Model
