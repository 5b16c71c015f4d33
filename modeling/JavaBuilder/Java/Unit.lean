import JavaBuilder.Java.Imports
import JavaBuilder.Java.Layout

/-!
# Compilation units

A file: a comment line, the package, the imports, and a class. Imports are known only once all the
code is spelled, so the code is spelled first and indented together with what goes before it.
-/

namespace JavaBuilder.Java

/-- A file that declares one top-level class. -/
structure CompilationUnit where
  /-- The class. -/
  type : ClassName
  /-- Nested classes in scope inside the class. -/
  visible : List ClassName
  /-- A comment at the top of the file. -/
  header : Option String
deriving Repr

/-- How a file is laid out. -/
structure LayoutStyle where
  indent : Indent
  lineEnd : LineEnd
deriving DecidableEq, Repr

namespace CompilationUnit

variable (u : CompilationUnit)

/-- The lines before the class, given the imported names. -/
def headText (imports : List String) : String :=
  (u.header.elim "" fun h ↦ "// " ++ h ++ "\n") ++
    (if u.type.packageText = "" then "" else "package " ++ u.type.packageText ++ ";\n\n") ++
    String.join (imports.map fun i ↦ "import " ++ i ++ ";\n") ++
    (if imports.isEmpty then "" else "\n")

/-- The file before it is indented. -/
def rawText (body : Code) : String :=
  let (pieces, table) := (ImportTable.ofUnit u.type u.visible).spell body
  u.headText table.names ++ String.join pieces

/-- The text of the file. -/
def render (style : LayoutStyle) (body : Code) : String :=
  reindent style.indent style.lineEnd (u.rawText body)

end CompilationUnit

end JavaBuilder.Java
