import JavaBuilder.Java.Code
import JavaBuilder.Text.Order

/-!
# Imports

How each class is spelled in one file. Simple names are given out in the order of use: the first
top-level class with a simple name claims it, and every later class with the same simple name is
spelled in full. A nested class goes with its top-level class. The class of the file claims its own
name from the start, and the names of nested classes in scope cannot be claimed, because inside the
class they would hide an import.

A claimed class is imported unless the compiler finds it anyway, as it does for `java.lang` and for
the package of the file.
-/

namespace JavaBuilder.Java

open Text

/-- The spellings given out so far in one file. -/
structure ImportTable where
  /-- The top-level class of the file. -/
  unit : ClassName
  /-- Simple names of nested classes in scope. -/
  shadowed : List String
  /-- The top-level class that has claimed a simple name. -/
  claimed : List (String × ClassName)
  /-- The top-level classes imported so far, latest first. -/
  imported : List ClassName
deriving Repr

namespace ImportTable

/-- The table of a file, before any class is spelled. -/
def ofUnit (unit : ClassName) (visible : List ClassName) : ImportTable where
  unit := unit.topLevel
  shadowed := visible.map (·.simpleName)
  claimed := [(unit.outer, unit.topLevel)]
  imported := []

variable (t : ImportTable)

/-- The compiler finds the class without an import. -/
def isInScope (top : ClassName) : Bool :=
  top.package == ["java", "lang"] || top.package == t.unit.package

/-- Claim a simple name for a top-level class. -/
def claim (top : ClassName) : ImportTable :=
  { t with
    claimed := (top.outer, top) :: t.claimed
    imported := if t.isInScope top then t.imported else top :: t.imported }

/-- The spelling of a class, and the table after it. -/
def shorten (name : ClassName) : String × ImportTable :=
  if name.topLevel = t.unit then (name.relativeText, t)
  else if name.outer ∈ t.shadowed then (name.text, t)
  else
    match t.claimed.lookup name.outer with
    | some owner => (if owner = name.topLevel then name.relativeText else name.text, t)
    | none => (name.relativeText, t.claim name.topLevel)

/-- The names imported so far, sorted. -/
def names : List String := sortedSet (t.imported.map (·.text))

/-- Spell a sequence of tokens. -/
def spell : ImportTable → Code → List String × ImportTable
  | t, [] => ([], t)
  | t, .text s :: rest =>
    let r := spell t rest
    (s :: r.1, r.2)
  | t, .type name :: rest =>
    let (s, t) := t.shorten name
    let r := spell t rest
    (s :: r.1, r.2)

end ImportTable

end JavaBuilder.Java
