import JavaBuilder.Project.UserRules

/-!
# Ignored files

A directory may hold a file `.ignore` with rules for what is below it. Inside a repository a file
`.gitignore` has more such rules, and so does the repository itself. The rules nearest to a file
decide, and those of `.ignore` files before all others. Rules of repositories do not reach across the
border of the innermost repository around a file. The rules of the user come last, and hold where
there is any repository around.

A repository may be kept elsewhere, and then a file at its top leads there in two steps. Such a path
is followed from the working directory.

Rules are matched against the path of a file from their directory, which is the working directory for
the rules of the user. Below the root of a search, where paths are written as the root is, that is
what follows the text of the directory in the text of the path; so the rules of a root that is written
with `././` in front only see whole paths. The directories around the root are taken by their locations.

What is below an ignored directory is left out as well.
-/

namespace JavaBuilder.Project

open Disk Glob Text

/-! ## Files of rules -/

/-- Why the rules around a search cannot be used. -/
inductive RuleFault where
  /-- A line is no rule. -/
  | line (file : FilePath) (fault : LineFault)
  | unreadable (file : FilePath) (fault : Disk.Fault)
deriving DecidableEq, Repr

def RuleFault.message : RuleFault → String
  | line file f => file.text ++ ": " ++ f.message
  | unreadable file f => file.text ++ ": " ++ f.message

def pathOf (l : Location) : FilePath := ⟨"/" ++ join '/' l⟩

/-- The name at the top of a repository. -/
def repositoryName : String := ".git"

/-- The first line of a file, if it has any. -/
def firstLine? (content : ByteArray) : Except Disk.Fault (Option String) :=
  match byteLines content with
  | [] => return none
  | line :: _ =>
    match lineText? line with
    | some s => return some s
    | none => throw .notText

/-- What stands before the path in the file that leads to a repository. -/
def pointerMark : String := "gitdir: "

/-- Where the first line of the file at the top of a repository leads, if anywhere. -/
def pointed? (line : String) : Option FilePath :=
  (pointerMark.toList.isPrefixOf? line.toList).map fun cs ↦ ⟨String.ofList cs⟩

/-- The file that leads to the place where a repository is kept. -/
def commonName : FilePath := ⟨"commondir"⟩

/-- Where a repository is kept that a line leads to. -/
def commonDirectory (d : Disk) (line : String) : Except RuleFault (Option FilePath) :=
  match pointed? line with
  | none => return none
  | some directory =>
    let file := directory.join commonName
    match d.nodeAt? file with
    | none => return none
    | some .directory => throw (.unreadable file .isDirectory)
    | some (.file content) => do
      let some line ← (firstLine? content).mapError (.unreadable file) | return none
      return some (if line.toList.head? = some '.' then directory.join ⟨line⟩ else ⟨line⟩)

/-- Where the repository is kept whose top a directory may be. -/
def repositoryDirectory (d : Disk) (directory : Location) : Except RuleFault (Option FilePath) :=
  let top := directory ++ [repositoryName]
  match d.node? top with
  | some (.file content) => do
    let some line ← (firstLine? content).mapError (.unreadable (pathOf top)) | return none
    commonDirectory d line
  | _ => return some (pathOf top)

/-- The file of rules of a repository itself. -/
def excludeName : FilePath := ⟨"info/exclude"⟩

/-- The rules that hold below a directory. -/
structure Rules where
  /-- Those that hold with or without a repository. -/
  own : IgnoreFile
  /-- Those of the directory in a repository. -/
  shared : IgnoreFile
  /-- Those of the repository whose top the directory is. -/
  exclude : IgnoreFile
  faults : List RuleFault

/-- The file of rules in a directory, with its faults. -/
def readRules (d : Disk) (p : FilePath) : IgnoreFile × List RuleFault :=
  let file := ignoreFile d p
  (file, file.faults.map (.line p))

/-- The rules of the repository whose top a directory may be. -/
def readExclude (d : Disk) (directory : Location) : IgnoreFile × List RuleFault :=
  match repositoryDirectory d directory with
  | .ok (some p) => readRules d (p.join excludeName)
  | .ok none => (.empty, [])
  | .error f => (.empty, [f])

/-- The rules of a directory for what is below it. `repositories` says that the rules of repositories
count. -/
def Rules.below (d : Disk) (repositories : Bool) (directory : Location) : Rules :=
  let own := readRules d (pathOf (directory ++ [".ignore"]))
  let shared :=
    if repositories then readRules d (pathOf (directory ++ [".gitignore"])) else (.empty, [])
  let exclude := if repositories then readExclude d directory else (.empty, [])
  ⟨own.1, shared.1, exclude.1, own.2 ++ (shared.2 ++ exclude.2)⟩

/-- The directories around a location, the nearest first. -/
def around (l : Location) : List Location := (List.range l.length).reverse.map fun n ↦ l.take n

/-- The faults of the rules around a location, the outermost first. -/
def faultsAround (d : Disk) (repositories : Bool) (l : Location) : List RuleFault :=
  (around l).reverse.flatMap fun directory ↦ (Rules.below d repositories directory).faults

/-! ## What rules say -/

/-- A directory is the top of a repository. -/
def isRepository (d : Disk) (directory : Location) : Bool :=
  [repositoryName, ".jj"].any fun n ↦ (d.node? (directory ++ [n])).isSome

/-- A file as a directory with rules sees it. -/
structure View where
  directory : Location
  rules : Rules
  /-- The path that the rules are matched against. -/
  path : String

/-- The path of a file from a directory, both written from the root of a search. A bare name is
nowhere else, and nothing is taken off for the working directory. -/
def pathFrom (directory file : FilePath) : String :=
  let directory := directory.withoutDot
  let file := file.withoutDot.withoutDot
  if directory.parts = ["."] ∨ !file.text.toList.contains '/' then file.text
  else directory.textBelow file

/-- The path of a file from the root of a search, as the directories around the root see it. -/
def pathFromRoot (root file : FilePath) : FilePath :=
  if root.parts = ["."] then file.withoutDot else ⟨root.withoutDot.textBelow file.withoutDot⟩

/-- The views of a file below a root, the nearest first. -/
def views (d : Disk) (repositories : Bool) (root : FilePath) (location : Location)
    (names : List String) : List View :=
  let view (directory : Location) (path : String) : View :=
    ⟨directory, Rules.below d repositories directory, path⟩
  let file := root.append names
  let whole := (pathOf location).join (pathFromRoot root file)
  ((List.range names.length).reverse.map fun n ↦
    view (location ++ names.take n) (pathFrom (root.append (names.take n)) file)) ++
  (around location).map fun directory ↦ view directory (pathFrom (pathOf directory) whole)

/-- The views up to the top of the innermost repository, if there is one around. -/
def insideRepository (d : Disk) (vs : List View) : List View :=
  match vs.span fun v ↦ !isRepository d v.directory with
  | (inside, top :: _) => inside ++ [top]
  | (_, []) => []

/-- What the nearest rules of a kind say. -/
def nearestVerdict? (kind : Rules → IgnoreFile) (vs : List View) (isDirectory : Bool) :
    Option Bool :=
  vs.findSome? fun v ↦ IgnoreRule.verdict? (kind v.rules).rules v.path isDirectory

/-- What the rules of the user say of a file below a root. -/
def userVerdict? (d : Disk) (vs : List View) (file : FilePath) (isDirectory : Bool) : Option Bool :=
  if vs.any fun v ↦ isRepository d v.directory then
    IgnoreRule.verdict? (userRules d) (pathFrom (pathOf d.working) file) isDirectory
  else none

/-- A file below a root is ignored itself. -/
def isIgnored (d : Disk) (repositories : Bool) (root : FilePath) (location : Location)
    (names : List String) (isDirectory : Bool) : Bool :=
  let vs := views d repositories root location names
  let inside := insideRepository d vs
  let user := if repositories then userVerdict? d vs (root.append names) isDirectory else none
  ((nearestVerdict? Rules.own vs isDirectory).or
    ((nearestVerdict? Rules.shared inside isDirectory).or
      ((nearestVerdict? Rules.exclude inside isDirectory).or user))).getD false

/-- A file below a root is left out: it is ignored, or a directory around it is. -/
def isLeftOut (d : Disk) (repositories : Bool) (root : FilePath) (location : Location)
    (names : List String) : Bool :=
  (List.range names.length).any fun n ↦
    isIgnored d repositories root location (names.take (n + 1)) (n + 1 < names.length)

end JavaBuilder.Project
