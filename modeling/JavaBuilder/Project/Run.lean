import JavaBuilder.Project.Generation
import JavaBuilder.Project.Settings

/-!
# A run over a project

Finding, loading and generating in one go. A project without descriptors gives an empty run.
-/

namespace JavaBuilder.Project

open Disk

/-- What a run over a project gives. -/
structure Run where
  /-- How many files were found. -/
  scanned : Nat
  /-- The files that cannot be used. -/
  skipped : List DescriptorFault
  files : List GeneratedFile

/-- A search below an input with a filter. -/
def searchFor (input : FilePath) (filter : Option String) : Except ScanFault Search :=
  match filter with
  | none => return { root := input }
  | some text => Search.withFilter { root := input } text

/-- Run over the project below an input. -/
def Run.of (d : Disk) (input : FilePath) (filter : Option String) (s : Settings) : Except Error Run := do
  let options ← s.options.mapError .config
  let search ← (searchFor input filter).mapError .scan
  let found ← (search.run d).mapError .scan
  let (loaded, skipped) := loadAll found
  let files ← (generateAll options loaded).mapError .generate
  return ⟨found.length, skipped, files⟩

end JavaBuilder.Project
