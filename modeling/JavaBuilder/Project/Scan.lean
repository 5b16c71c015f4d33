import JavaBuilder.Project.Error
import JavaBuilder.Text.Order

/-!
# Finding descriptors

Descriptors are the JSON files below a directory, without the ignored ones, and with a filter only
those whose path from the directory it accepts. They are read in the order in which a walk comes by
them, and then sorted by their paths, name by name. A single file may be given instead of a directory,
and is taken whatever it is called.

A directory that is written `-` stands for the standard input, and a walk comes by nothing there.

Faulty ignore rules in the directories around the root stop the search. Those below it are passed
over.
-/

namespace JavaBuilder.Project

open Disk Glob Text

/-- The ending of the files that hold descriptors. -/
def descriptorExtension : String := "json"

/-- A path is that of a descriptor. -/
def isDescriptor (p : FilePath) : Bool := p.extension? = some descriptorExtension

/-- A file that should hold a descriptor. -/
structure DescriptorFile where
  path : FilePath
  /-- The path from where the search started. -/
  relative : String
  text : String
deriving DecidableEq, Repr

structure Search where
  /-- A directory, or a single file. -/
  root : FilePath
  /-- The ignore rules of repositories count. -/
  repositories : Bool := true
  /-- What to look for, if not everything. -/
  filter : Option PathFilter := none

namespace Search

variable (s : Search)

def withFilter (text : String) : Except ScanFault Search :=
  match PathFilter.ofText text with
  | .ok f => return { s with filter := some f }
  | .error e => throw (.invalidFilter text e)

/-! ## Walking -/

/-- The root is taken for the standard input. -/
def isStandardInput : Bool := s.root.parts = ["-"]

/-- The faults that stop a walk. -/
def faults (d : Disk) (root : Location) : List RuleFault :=
  if s.isStandardInput then [] else faultsAround d s.repositories root

/-- A file below a location, by its names from there. -/
def fileBelow? (root : Location) (e : Location × Node) : Option (List String × ByteArray) :=
  match root.isPrefixOf? e.1, e.2 with
  | some names, .file content => some (names, content)
  | _, _ => none

/-- The files that a walk comes by, in the order in which they are on the disk. -/
def walk (d : Disk) (root : Location) : List (List String × ByteArray) :=
  if s.isStandardInput then []
  else (d.nodes.filterMap (fileBelow? root)).filter fun f ↦
    !isLeftOut d s.repositories s.root root f.1

/-! ## Reading -/

/-- A file that a walk comes by is looked for. -/
def wants (names : List String) : Bool :=
  isDescriptor ⟨names.getLastD ""⟩ &&
    match s.filter with
    | some f => f.accepts (join '/' names)
    | none => true

/-- The text of a file that is looked for. -/
def readFile (path : FilePath) (relative : String) (content : ByteArray) :
    Except ScanFault DescriptorFile :=
  match textOf content with
  | .ok text => return ⟨path, relative, text⟩
  | .error f => throw (.unreadable path f)

/-- The text of a file below the root. -/
def readFound (f : List String × ByteArray) : Except ScanFault DescriptorFile :=
  readFile (s.root.append f.1) (join '/' f.1) f.2

/-- The files that are found. -/
def run (d : Disk) : Except ScanFault (List DescriptorFile) :=
  match d.nodeAt? s.root, d.locate s.root with
  | some (.file content), _ => do
    return [← readFile s.root (s.root.fileName?.getD s.root.text) content]
  | some .directory, .ok root => do
    match s.faults d root with
    | [] => pure ()
    | faults => throw (.faultyRules faults)
    let files ← ((s.walk d root).filter fun f ↦ s.wants f.1).mapM s.readFound
    return sortBy (·.path.parts) files
  | _, _ => throw (.notFound s.root)

/-- The files that are found, at least one. -/
def runSome (d : Disk) : Except ScanFault (List DescriptorFile) := do
  match ← s.run d with
  | [] => throw (.noDescriptors s.root)
  | files => return files

end Search

end JavaBuilder.Project
