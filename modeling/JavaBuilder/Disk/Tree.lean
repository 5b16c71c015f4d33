import JavaBuilder.Disk.FilePath

/-!
# A disk

A disk holds files and directories at locations, and one of its locations is the working directory.
A location is the list of names from the root, and the root is always a directory. The user who looks
at a disk may have places for a configuration there.

A path is followed segment by segment: each step leaves from a directory, `..` goes one up, and an
empty segment or `.` stays. So a path with a slash at its end leads to a directory or nowhere, and
`locate` finds the location of a path whose last name does not exist yet.

Names have at most 255 bytes, and paths fewer than 4096.

Writing a file changes the content at one location. Nothing else on the disk can be told apart from
before: `node?_put` is the equation that says so.
-/

namespace JavaBuilder.Disk

/-- The names from the root. -/
abbrev Location := List String

/-- What is at a location. -/
inductive Node where
  | file (content : ByteArray)
  | directory

def Node.same : Node → Node → Bool
  | file a, file b => a == b
  | directory, directory => true
  | _, _ => false

/-- Why a path cannot be used. -/
inductive Fault where
  | missing
  | notDirectory
  | isDirectory
  | taken
  /-- A name, or the whole path, is too long. -/
  | tooLong
  /-- A path holds the character zero. -/
  | zero
  /-- The content is not text. -/
  | notText
deriving DecidableEq, Repr

def Fault.message : Fault → String
  | missing => "No such file or directory (os error 2)"
  | notDirectory => "Not a directory (os error 20)"
  | isDirectory => "Is a directory (os error 21)"
  | taken => "File exists (os error 17)"
  | tooLong => "File name too long (os error 36)"
  | zero => "file name contained an unexpected NUL byte"
  | notText => "stream did not contain valid UTF-8"

/-- Who looks at a disk. -/
structure User where
  home : Option FilePath := none
  /-- Where configurations are kept, if that is said. -/
  config : Option FilePath := none
deriving DecidableEq, Repr

end JavaBuilder.Disk

namespace JavaBuilder

open Disk

/-- Files and directories, with the directory that a program works in and its user. -/
structure Disk where
  /-- What is where. The root is not listed. -/
  nodes : List (Location × Node)
  working : Location
  user : User := {}

namespace Disk

variable (d : Disk)

/-- A disk with nothing but its working directory. -/
def empty (working : Location) : Disk where
  nodes := (List.range working.length).map fun n ↦ (working.take (n + 1), .directory)
  working := working

def node? (l : Location) : Option Node := if l = [] then some .directory else d.nodes.lookup l

/-- What is at a location is the same on another disk. -/
def agreesAt (e : Disk) (l : Location) : Bool :=
  match d.node? l, e.node? l with
  | some m, some n => m.same n
  | none, none => true
  | _, _ => false

/-- Set what is at a location. -/
def put (l : Location) (n : Node) : Disk :=
  { d with nodes := (l, n) :: d.nodes.filter fun e ↦ !(e.1 == l) }

/-- Remove what is at a location. -/
def erase (l : Location) : Disk := { d with nodes := d.nodes.filter fun e ↦ !(e.1 == l) }

theorem lookup_filter_ne {l m : Location} (h : m ≠ l) (es : List (Location × Node)) :
    (es.filter fun e ↦ !(e.1 == l)).lookup m = es.lookup m := by
  induction es with
  | nil => rfl
  | cons e es ih =>
    by_cases he : e.1 = l
    · have hm : (m == e.1) = false := by simpa [he] using h
      rw [List.filter_cons_of_neg (by simp [he]), ih, List.lookup_cons, hm]
    · rw [List.filter_cons_of_pos (by simp [he]), List.lookup_cons, List.lookup_cons, ih]

theorem node?_put {l : Location} (hl : l ≠ []) (n : Node) (m : Location) :
    (d.put l n).node? m = if m = l then some n else d.node? m := by
  unfold node? put
  by_cases hm : m = l
  · subst hm; simp [hl]
  · by_cases h0 : m = []
    · subst h0; simp [Ne.symm hl]
    · have hb : (m == l) = false := by simpa using hm
      simp only [if_neg h0, if_neg hm, List.lookup_cons, hb, lookup_filter_ne hm]

/-! ## Following a path -/

/-- There is a directory. -/
def demandDirectory (l : Location) : Except Fault Unit :=
  match d.node? l with
  | none => throw .missing
  | some (.file _) => throw .notDirectory
  | some .directory => return ()

/-- The bytes that a name may have. -/
def maxNameBytes : Nat := 255

/-- The bytes that a path may have. -/
def maxPathBytes : Nat := 4095

def step (l : Location) (segment : String) : Except Fault Location := do
  d.demandDirectory l
  if segment = "" ∨ segment = "." then return l
  if segment = ".." then return l.dropLast
  if maxNameBytes < segment.utf8ByteSize then throw .tooLong
  return l ++ [segment]

/-- Where following a path starts. -/
def start (p : FilePath) : Location := if p.isAbsolute then [] else d.working

/-- The location that a path leads to. -/
def locate (p : FilePath) : Except Fault Location :=
  if p.text = "" then throw .missing
  else if p.text.toList.contains '\x00' then throw .zero
  else if maxPathBytes < p.text.utf8ByteSize then throw .tooLong
  else p.segments.foldlM d.step (d.start p)

def nodeAt? (p : FilePath) : Option Node :=
  match d.locate p with
  | .ok l => d.node? l
  | .error _ => none

/-- The content of the file that a path leads to. -/
def contentAt? (p : FilePath) : Option ByteArray :=
  match d.nodeAt? p with
  | some (.file content) => some content
  | _ => none

/-- A path leads to something. -/
def hasPath (p : FilePath) : Bool := (d.nodeAt? p).isSome

def hasFile (p : FilePath) : Bool :=
  match d.nodeAt? p with
  | some (.file _) => true
  | _ => false

def hasDirectory (p : FilePath) : Bool :=
  match d.nodeAt? p with
  | some .directory => true
  | _ => false

/-! ## Reading and writing -/

def textOf (content : ByteArray) : Except Fault String :=
  match String.fromUTF8? content with
  | some s => return s
  | none => throw .notText

/-- Read the text of the file that a path leads to. -/
def readText (p : FilePath) : Except Fault String := do
  match d.node? (← d.locate p) with
  | none => throw .missing
  | some .directory => throw .isDirectory
  | some (.file content) => textOf content

/-- Write a text to the file that a path leads to. Its directory must be there. -/
def writeText (p : FilePath) (text : String) : Except Fault Disk := do
  let l ← d.locate p
  match d.node? l with
  | some .directory => throw .isDirectory
  | _ => return d.put l (.file text.toUTF8)

/-- Make the directory that a path leads to. The one around it must be there. -/
def makeDirectory (p : FilePath) : Except Fault Disk := do
  let l ← d.locate p.withoutSlashes
  if (d.node? l).isSome then throw .taken
  return d.put l .directory

/-- Make the directory that the first path leads to, where each path goes through the ones after it.
Those that are missing around it are made first, and stay if it cannot be made. -/
def makeFirst (d : Disk) : List FilePath → Disk × Except Fault Unit
  | [] => (d, .ok ())
  | p :: above =>
    match d.makeDirectory p with
    | .ok e => (e, .ok ())
    | .error .missing =>
      match makeFirst d above with
      | (e, .error f) => (e, .error f)
      | (e, .ok _) =>
        match e.makeDirectory p with
        | .ok e => (e, .ok ())
        | .error f => (e, if e.hasDirectory p then .ok () else .error f)
    | .error f => (d, if d.hasDirectory p then .ok () else .error f)

/-- Make the directory that a path leads to, and those around it. -/
def makeDirectories (p : FilePath) : Disk × Except Fault Unit :=
  if p.text = "" then (d, .ok ()) else d.makeFirst p.ancestors

end Disk

end JavaBuilder
