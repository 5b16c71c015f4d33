import JavaBuilder.Project.Error

/-!
# Files of the output

A generated file is written with the directories around it, or only shown in a dry run. A file on the
disk is compared with what would be written to it.
-/

namespace JavaBuilder.Project

open Disk

/-- What became of a file. -/
inductive WriteResult where
  | written (path : FilePath) (bytes : Nat)
  /-- The file would have been written. -/
  | dryRun (path : FilePath) (text : String)
deriving DecidableEq, Repr

namespace WriteResult

def path : WriteResult → FilePath
  | written p _ | dryRun p _ => p

def wasWritten : WriteResult → Bool
  | written .. => true
  | dryRun .. => false

/-- How many bytes were written. -/
def bytes : WriteResult → Nat
  | written _ n => n
  | dryRun .. => 0

end WriteResult

/-- Make the directory of a file, if it is not there. -/
def makeParent (d : Disk) (p : FilePath) : Disk × Except WriteFault Unit :=
  match p.parent? with
  | none => (d, .ok ())
  | some parent =>
    if d.hasPath parent then (d, .ok ())
    else
      let (d, r) := d.makeDirectories parent
      (d, r.mapError (.noDirectory parent))

/-- Write a file, unless it is a dry run. Directories that were made for it stay even if it cannot be
written. -/
def writeFile (dryRun : Bool) (d : Disk) (p : FilePath) (text : String) :
    Disk × Except WriteFault WriteResult :=
  if dryRun then (d, .ok (.dryRun p text))
  else
    match makeParent d p with
    | (d, .error f) => (d, .error f)
    | (d, .ok _) =>
      match d.writeText p text with
      | .error f => (d, .error (.unwritable p f))
      | .ok d => (d, .ok (.written p text.utf8ByteSize))

/-- How a file on the disk compares with what would be written to it. -/
inductive FileStatus where
  | upToDate
  | stale
  | missing
deriving DecidableEq, Repr

/-- Compare a file on the disk with a text. -/
def fileStatus (d : Disk) (p : FilePath) (expected : String) : Except WriteFault FileStatus :=
  if !d.hasPath p then return .missing
  else
    match d.readText p with
    | .error f => throw (.unreadable p f)
    | .ok text => return if text = expected then .upToDate else .stale

end JavaBuilder.Project
