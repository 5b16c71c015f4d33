import JavaBuilder.Project.Scan

/-!
# Changes of descriptors

What is reported of a path that changed. Paths of anything but descriptors are of no interest.
-/

namespace JavaBuilder.Project

open Disk

/-- A change. -/
inductive WatchEvent where
  /-- A descriptor was made or changed. -/
  | modified (p : FilePath)
  | deleted (p : FilePath)
  /-- Changes can no longer be seen. -/
  | error (message : String)
deriving DecidableEq, Repr

namespace WatchEvent

def ofPath? (d : Disk) (p : FilePath) : Option WatchEvent :=
  if !isDescriptor p then none
  else if d.hasPath p then some (modified p)
  else some (deleted p)

def path? : WatchEvent → Option FilePath
  | modified p | deleted p => some p
  | error _ => none

/-- Changes can no longer be seen. -/
def isError : WatchEvent → Bool
  | error _ => true
  | _ => false

/-- Why changes can no longer be seen. -/
def message? : WatchEvent → Option String
  | error m => some m
  | _ => none

/-- The changes of descriptors below an input from one disk to another. -/
def between (before after : Disk) (input : FilePath) : List WatchEvent :=
  match after.locate input with
  | .error _ => []
  | .ok root =>
    let names := ((before.nodes ++ after.nodes).filterMap fun e ↦ root.isPrefixOf? e.1)
    let changed := (Text.sortedSet names).filter fun ns ↦ !before.agreesAt after (root ++ ns)
    changed.filterMap fun ns ↦ ofPath? after (input.append ns)

end WatchEvent

end JavaBuilder.Project
