import JavaBuilder.CommandLine.Watch

/-!
# Running commands

Besides `generate`, which may go on watching, there are `check`, which changes no file, and `init`,
which replaces a configuration only when it is told to.
-/

namespace JavaBuilder.CommandLine

open Disk Project

/-! ## A new configuration -/

/-- Write a new configuration. -/
def runInit (output : FilePath) (force : Bool) (d : Disk) : Outcome :=
  if d.hasPath output && !force then ⟨d, [.useForce], some (.configExists output)⟩
  else
    match d.writeText output Settings.template with
    | .error f => ⟨d, [], some (.disk f)⟩
    | .ok d => ⟨d, [.created output], none⟩

/-! ## Checking -/

/-- What is said of a file that is not as it would be generated. -/
def complaint? (path : FilePath) : FileStatus → Option Notice
  | .upToDate => none
  | .stale => some (.outOfDate path)
  | .missing => some (.missing path)

/-- Compare files with those below a source root. What is said before a comparison fails is said. -/
def compareAll (d : Disk) (directory : FilePath) :
    List GeneratedFile → List Notice × Option WriteFault
  | [] => ([], none)
  | f :: fs =>
    match fileStatus d (f.pathIn directory) f.text with
    | .error e => ([], some e)
    | .ok status =>
      let (notices, fault) := compareAll d directory fs
      ((complaint? (f.pathIn directory) status).toList ++ notices, fault)

/-- The verdict on a run, given the complaints about its files. -/
def verdict (r : Run) (complaints : List Notice) (d : Disk) : Outcome :=
  let notices := complaints ++ r.skipped.map .unreadable
  if complaints.isEmpty && r.skipped.isEmpty then ⟨d, notices ++ [.upToDate r.files.length], none⟩
  else
    ⟨d, notices ++ [.useGenerate], some (.stale complaints.length r.skipped.length)⟩

def runCheck (t : Target) (d : Disk) : Outcome :=
  let result : Outcome :=
    match t.settings d with
    | .error e => ⟨d, [], some e⟩
    | .ok s =>
      match Run.of d t.input t.filter s with
      | .error e => ⟨d, [], some e⟩
      | .ok r =>
        match compareAll d s.directory r.files with
        | (notices, some f) => ⟨d, notices, some (.write f)⟩
        | (complaints, none) => verdict r complaints d
  result.after [.checking]

/-! ## Commands -/

/-- Run a command. Only watching needs a watcher. -/
def Command.run (c : Command) (d : Disk) (watcher : Watcher := .ok []) : Session :=
  match c with
  | generate t false dryRun => ⟨runGenerate t dryRun d, none⟩
  | generate t true dryRun => runWatch t dryRun watcher d
  | init output force => ⟨runInit output force d, none⟩
  | check t => ⟨runCheck t d, none⟩

end JavaBuilder.CommandLine
