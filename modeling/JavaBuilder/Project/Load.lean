import JavaBuilder.Project.Scan

/-!
# Loading descriptors

A file whose text is no descriptor, or whose descriptor describes no datatype, is skipped. It never
keeps the others from being loaded.
-/

namespace JavaBuilder.Project

open Disk Model

/-- A descriptor and where it comes from. -/
structure LoadedDescriptor where
  path : FilePath
  /-- The path from where the search started. -/
  relative : String
  descriptor : Descriptor

def DescriptorFile.load (f : DescriptorFile) : Except DescriptorFault LoadedDescriptor := do
  let descriptor ← (Descriptor.ofText f.text).mapError (.json f.path)
  let _ ← descriptor.datatype.mapError (.model f.path)
  return ⟨f.path, f.relative, descriptor⟩

/-- The descriptors that can be used, and the faults of the others. -/
def loadAll : List DescriptorFile → List LoadedDescriptor × List DescriptorFault
  | [] => ([], [])
  | f :: fs =>
    let (loaded, skipped) := loadAll fs
    match f.load with
    | .ok l => (l :: loaded, skipped)
    | .error e => (loaded, e :: skipped)

end JavaBuilder.Project
