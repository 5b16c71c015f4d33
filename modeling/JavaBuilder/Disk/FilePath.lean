import JavaBuilder.Text.Segments

/-!
# Paths

A path is kept as it was written, since messages show it that way. `segments` are what stands
between its slashes; `parts` leaves out the segments that change nothing, which are empty ones and
`.`, but keeps a slash or a `.` in front: `./a//b/.` and `./a/b` have the same parts, and `a/b` has
others.
-/

namespace JavaBuilder.Disk

open Text

/-- A path, as written. -/
structure FilePath where
  text : String
deriving DecidableEq, Repr, Inhabited

namespace FilePath

variable (p : FilePath)

/-- What stands between the slashes. -/
def segments : List String := split '/' p.text

/-- The path does not start from the working directory. -/
def isAbsolute : Bool := p.text.toList.head? = some '/'

/-- The segments that say something, after a slash or a `.` in front. -/
def parts : List String :=
  let named := p.segments.filter fun s ↦ s ≠ "" ∧ s ≠ "."
  if p.isAbsolute then "/" :: named
  else if p.segments.head? = some "." then "." :: named
  else named

/-- Go on from a path with another one. An absolute path is not changed by what stands before it. -/
def join (q : FilePath) : FilePath :=
  if q.isAbsolute ∨ p.text = "" then q
  else if p.text.toList.getLast? = some '/' then ⟨p.text ++ q.text⟩
  else ⟨p.text ++ "/" ++ q.text⟩

/-- Go on from a path with names. -/
def append (names : List String) : FilePath := names.foldl (fun q n ↦ q.join ⟨n⟩) p

/-- The name at the end of a path, if it ends with one. -/
def fileName? : Option String :=
  match p.parts.getLast? with
  | some n => if n = "/" ∨ n = "." ∨ n = ".." then none else some n
  | none => none

/-- A segment that changes nothing. -/
def isIdle (segment : String) : Bool := segment = "" ∨ segment = "."

/-- Segments without those at the end that change nothing. -/
def trimIdle (segments : List String) : List String :=
  (segments.reverse.dropWhile isIdle).reverse

/-- The path without its last part. What stands before it is kept as it is written. -/
def parent? : Option FilePath :=
  match p.segments with
  | [] => none
  | first :: rest =>
    match trimIdle rest with
    | [] => if p.isAbsolute ∨ first = "" then none else some ⟨""⟩
    | named =>
      let text := Text.join '/' (first :: trimIdle named.dropLast)
      some ⟨if text = "" then "/" else text⟩

/-- The paths that a path goes through, the longest first. Each has fewer parts than the one before
it, so counting the parts is enough. -/
def above (p : FilePath) : Nat → List FilePath
  | 0 => []
  | n + 1 =>
    match p.parent? with
    | some q => if q.text = "" then [] else q :: q.above n
    | none => []

/-- A path and those that it goes through, the longest first. -/
def ancestors : List FilePath := p :: p.above p.parts.length

/-- The path without slashes at its end. -/
def withoutSlashes : FilePath :=
  ⟨String.ofList (p.text.toList.reverse.dropWhile (· = '/')).reverse⟩

/-- The path without one `./` in front. -/
def withoutDot : FilePath :=
  match p.text.toList with
  | '.' :: '/' :: cs => ⟨String.ofList cs⟩
  | _ => p

/-- What follows the text of a path in another one, and a slash between them. A path that does not
start with that text is left as it is. -/
def textBelow (q : FilePath) : String :=
  match p.text.toList.isPrefixOf? q.text.toList with
  | some ('/' :: cs) => String.ofList cs
  | some cs => String.ofList cs
  | none => q.text

/-- What follows the last point of a name. A name that only starts with a point has nothing. -/
def nameExtension? (name : String) : Option String :=
  match (split '.' name).reverse with
  | ending :: before :: more => if before = "" ∧ more = [] then none else some ending
  | _ => none

/-- What follows the last point of the file name. -/
def extension? : Option String := p.fileName?.bind nameExtension?

end FilePath

end JavaBuilder.Disk
