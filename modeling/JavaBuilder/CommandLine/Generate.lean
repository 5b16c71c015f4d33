import JavaBuilder.CommandLine.Notice
import JavaBuilder.CommandLine.Request
import JavaBuilder.Project.Output

/-!
# Generating

A command takes a disk to another one, says things on the way, and may fail. `generate` changes files
only when it has generated all of them, and a dry run changes none.
-/

namespace JavaBuilder.CommandLine

open Disk Project

/-- What a command does. -/
structure Outcome where
  disk : Disk
  notices : List Notice
  error : Option Error

namespace Outcome

/-- The code that the program exits with. -/
def exitCode (o : Outcome) : UInt32 :=
  match o.error with
  | none => 0
  | some (.stale ..) => 2
  | some _ => 1

/-- A notice before all others. -/
def after (n : List Notice) (o : Outcome) : Outcome := { o with notices := n ++ o.notices }

end Outcome

def Target.overrides (t : Target) : Settings.Overrides where
  directory := t.output
  level := t.level
  guava := if t.guava then some true else none

/-- The settings that hold for a command. -/
def Target.settings (t : Target) (d : Disk) : Except Error Settings := do
  return ((← (Settings.read d t.config).mapError .config).override t.overrides)

/-! ## Writing -/

/-- What is said of a file that was written or would have been. -/
def noticeOf (type : String) : WriteResult → Notice
  | .written path bytes => .written type bytes path
  | .dryRun path text => .wouldWrite type path text

/-- Write files below a source root, up to the first one that cannot be written. -/
def writeAll (dryRun : Bool) (directory : FilePath) : List GeneratedFile → Disk → Outcome
  | [], d => ⟨d, [], none⟩
  | f :: fs, d =>
    match writeFile dryRun d (f.pathIn directory) f.text with
    | (d, .error e) => ⟨d, [], some (.write e)⟩
    | (d, .ok r) => (writeAll dryRun directory fs d).after [noticeOf f.type r]

/-- What is said of files that cannot be used. -/
def skipNotices (skipped : List DescriptorFault) : List Notice :=
  if skipped.isEmpty then [] else .skipping skipped.length :: skipped.map .skipped

def writeRun (s : Settings) (dryRun : Bool) (r : Run) (d : Disk) : Outcome :=
  if r.scanned = 0 then ⟨d, [.noneFound], none⟩
  else
    let start := .found r.scanned :: skipNotices r.skipped
    if r.files.isEmpty then ⟨d, start ++ [.noneToGenerate], none⟩
    else
      let o := writeAll dryRun s.directory r.files d
      let finish := if o.error.isNone then [.generated r.files.length] else []
      ⟨o.disk, start ++ .generating s.level s.guava :: (o.notices ++ finish), o.error⟩

def generateOnce (t : Target) (s : Settings) (dryRun : Bool) (d : Disk) : Outcome :=
  match Run.of d t.input t.filter s with
  | .error e => ⟨d, [.scanning], some e⟩
  | .ok r => (writeRun s dryRun r d).after [.scanning]

def runGenerate (t : Target) (dryRun : Bool) (d : Disk) : Outcome :=
  match t.settings d with
  | .error e => ⟨d, [], some e⟩
  | .ok s => generateOnce t s dryRun d

end JavaBuilder.CommandLine
