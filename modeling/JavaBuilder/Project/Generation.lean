import JavaBuilder.Builder.Assembly
import JavaBuilder.Project.Load

/-!
# Generating all builders

Each descriptor gives one file. No two descriptors may be of one type, and the files are made in the
order of the names of their types. The first type that has no builder ends the generation.
-/

namespace JavaBuilder.Project

open Builder Disk Text

structure GeneratedFile where
  /-- The name of the described type. -/
  type : String
  /-- Where the descriptor comes from. -/
  source : FilePath
  /-- The names from the source root. -/
  names : List String
  text : String
  /-- The name of each property and of its strategy. -/
  strategies : List (String × String)
deriving DecidableEq, Repr

namespace GeneratedFile

variable (f : GeneratedFile)

/-- The path from the source root. -/
def relative : FilePath := ⟨join '/' f.names⟩

/-- The path below a source root. -/
def pathIn (directory : FilePath) : FilePath := directory.join f.relative

end GeneratedFile

/-- Descriptors by the name of their type. -/
abbrev ByType := List (String × LoadedDescriptor)

/-- Add a descriptor, unless there is one of its type. -/
def addByType (table : ByType) (l : LoadedDescriptor) : Except GenerateFault ByType :=
  let type := l.descriptor.type.text
  match table.lookup type with
  | some first => throw (.duplicate type first.path l.path)
  | none => return putSorted type l table

def generateFile (config : Config) (type : String) (l : LoadedDescriptor) :
    Except GenerateFault GeneratedFile := do
  let g ← (generate config l.descriptor).mapError (.rejected type)
  return ⟨type, l.path, Generated.path g.type, g.text, g.strategies⟩

def generateAll (config : Config) (loaded : List LoadedDescriptor) :
    Except GenerateFault (List GeneratedFile) := do
  let table ← loaded.foldlM addByType []
  table.mapM fun e ↦ generateFile config e.1 e.2

end JavaBuilder.Project
