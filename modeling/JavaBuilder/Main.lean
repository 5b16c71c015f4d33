import JavaBuilder.CommandLine.Run

/-!
# The program

Reads what a command needs from the disk, runs it, writes what it changes, and says what it says.
-/

namespace JavaBuilder.Main

open Disk Project CommandLine

/-- The help text. -/
def usage : String := String.join <| (· ++ "\n") <$> [
  "Generate Java builder classes from type descriptors",
  "",
  "  generate  generate builders from descriptor files",
  "  init      write a new configuration file",
  "  check     check that generated builders are up-to-date",
  "",
  "Options of generate and check:",
  "  -i, --input PATH         directory or file with descriptors (default: .)",
  "  -o, --output PATH        source root of generated files",
  "  -c, --config PATH        configuration file",
  "      --filter PATTERN     descriptors to use, by their path",
  "      --source-level LEVEL java6, java7 or java8",
  "      --guava              use Guava",
  "      --dry-run            show files instead of writing them (generate)",
  "  -w, --watch              generate again after every change (generate)",
  "",
  "Options of init:",
  "  -o, --output PATH        the file to write (default: buildergen.toml)",
  "      --force              replace a file"]

/-- The location of a path as it is written, from the working directory. -/
def locationOf (working : Location) (p : FilePath) : Location :=
  p.segments.foldl
    (fun l s ↦ if s = "" ∨ s = "." then l else if s = ".." then l.dropLast else l ++ [s])
    (if p.isAbsolute then [] else working)

def readNode (l : Location) (d : Disk) : IO Disk := do
  let path := (← IO.currentDir) / (pathOf l).text
  if ← path.isDir then return d.put l .directory
  if ← path.pathExists then return d.put l (.file (← IO.FS.readBinFile path))
  return d

/-- Read everything below a location. Files that are not wanted are left out. -/
partial def readBelow (wanted : String → Bool) (l : Location) (d : Disk) : IO Disk := do
  let path := (← IO.currentDir) / (pathOf l).text
  let d ← readNode l d
  if !(← path.isDir) then return d
  let names := (← path.readDir).map (·.fileName)
  names.foldlM (fun d name ↦ do
    let below := l ++ [name]
    if wanted name || (← ((← IO.currentDir) / (pathOf below).text).isDir) then readBelow wanted below d
    else return d) d

/-- Read what a path leads to, and the directories around it. -/
def readAt (p : FilePath) (d : Disk) : IO Disk := do
  let l := locationOf d.working p
  let d ← ((around l).filter (!·.isEmpty)).foldlM (fun d directory ↦ readNode directory d) d
  readNode l d

/-- Read the rules of a repository that is kept elsewhere, where a file at its top leads there. -/
def readPointed (directory : Location) (d : Disk) : IO Disk := do
  let some (.file content) := d.node? (directory ++ [repositoryName]) | return d
  let .ok (some line) := firstLine? content | return d
  let some kept := pointed? line | return d
  let d ← readAt (kept.join commonName) d
  match repositoryDirectory d directory with
  | .ok (some p) => readAt (p.join excludeName) d
  | _ => return d

/-- Read the directories around a location and their ignore rules. -/
def readAround (l : Location) (d : Disk) : IO Disk :=
  (around l).foldlM (fun d directory ↦ do
    let files := [[".ignore"], [".gitignore"], [".git"], [".jj"], [".git", "info"],
      [".git", "info", "exclude"]]
    let d ← if directory.isEmpty then pure d else readNode directory d
    readPointed directory (← files.foldlM (fun d file ↦ readNode (directory ++ file) d) d)) d

/-- A file that a search for descriptors looks at. -/
def isLookedAt (name : String) : Bool :=
  isDescriptor ⟨name⟩ || [".ignore", ".gitignore", ".git", ".jj", "exclude"].contains name

/-- Read what a path leads to, and what is around it. -/
def readPath (wanted : String → Bool) (p : FilePath) (d : Disk) : IO Disk := do
  let l := locationOf d.working p
  let d ← readBelow wanted l (← readAround l d)
  d.nodes.foldlM (fun d e ↦ readPointed e.1.dropLast d) d

/-- A disk with nothing but the working directory. -/
def emptyDisk : IO Disk := do
  let names := (Text.split '/' (← IO.currentDir).toString).filter (· ≠ "")
  let home := (← IO.getEnv "HOME").map FilePath.mk
  let config := (← IO.getEnv "XDG_CONFIG_HOME").map FilePath.mk
  return { Disk.empty names with user := ⟨home, config⟩ }

/-- Read what decides the rules of the user. -/
def readUser (d : Disk) : IO Disk := do
  let d ← d.user.configFiles.foldlM (fun d p ↦ readAt p d) d
  (userFile? d).toList.foldlM (fun d p ↦ readAt p d) d

/-- Read what generating or checking needs. -/
def readTarget (t : Target) : IO Disk := do
  let d ← readPath (fun _ ↦ true) (t.config.getD ⟨Settings.fileName⟩) (← emptyDisk)
  match t.settings d with
  | .error _ => return d
  | .ok s => readPath (fun _ ↦ true) s.directory (← readPath isLookedAt t.input (← readUser d))

/-- Read what a command needs. -/
def readFor (c : Command) : IO Disk := do
  match c with
  | .generate t .. => readTarget t
  | .check t => readTarget t
  | .init output _ => readPath (fun _ ↦ true) output (← emptyDisk)

/-- Write what is new on a disk. -/
def save (before after : Disk) : IO Unit := do
  for (l, node) in after.nodes.reverse do
    if !before.agreesAt after l then
      let path := (← IO.currentDir) / (pathOf l).text
      match node with
      | .directory => IO.FS.createDirAll path
      | .file content => IO.FS.writeBinFile path content

/-- Carry an outcome out. -/
def carryOut (before : Disk) (o : Outcome) : IO UInt32 := do
  save before o.disk
  for n in o.notices do IO.println n.text
  if let some e := o.error then IO.eprintln ("Error: " ++ e.message)
  return o.exitCode

/-- Go on watching. -/
partial def watchOn (t : Target) (s : Settings) (dryRun : Bool) (seen : Disk) : IO UInt32 := do
  IO.sleep 500
  let now ← readTarget t
  let o := continueWatch t s dryRun seen now
  let _ ← carryOut now o
  watchOn t s dryRun o.disk

def runCommand (c : Command) : IO UInt32 := do
  let d ← readFor c
  match c with
  | .generate t true dryRun =>
    match t.settings d with
    | .error _ => carryOut d (c.run d).toOutcome
    | .ok s =>
      let o := (startWatch t s dryRun d).await
      let _ ← carryOut d o
      watchOn t s dryRun o.disk
  | _ => carryOut d (c.run d).toOutcome

end JavaBuilder.Main

open JavaBuilder CommandLine in
/-- The program. -/
def main (arguments : List String) : IO UInt32 := do
  match Request.ofArguments arguments with
  | .error f =>
    IO.eprintln ("error: " ++ f.message)
    return 2
  | .ok .version =>
    IO.println versionText
    return 0
  | .ok .help =>
    IO.print Main.usage
    return 0
  | .ok (.run c) =>
    try Main.runCommand c
    catch e =>
      IO.eprintln ("Error: " ++ toString e)
      return 1
