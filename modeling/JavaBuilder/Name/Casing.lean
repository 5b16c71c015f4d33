import JavaBuilder.Text.Segments
import JavaBuilder.Unicode.Case
import JavaBuilder.Unicode.Cluster

/-!
# Name forms

Two forms are derived from the identifier of a property. `capitalize` puts its first character in
upper case (`firstName` to `FirstName`). `constantName` is the form of an enum constant
(`firstName` to `FIRST_NAME`): the words of the identifier in upper case with an underscore between
each two of them. Words are split at boundaries, which are between clusters and take none of them
away: before an upper-case cluster that follows a lower-case one or a digit, and before the last
capital of an acronym when a lower-case cluster follows it, so `URLPath` has the words `URL` and
`Path`. Digits and underscores never start a word.
-/

namespace JavaBuilder.Name

open Unicode

/-! ## Words -/

/-- A kind of place where a word ends and the next one starts. -/
inductive Boundary where
  | lowerUpper
  | digitUpper
  /-- The last capital of an acronym starts a word that goes on in lower case. -/
  | acronym

def isDigits (k : List Char) : Bool := k.all Char.isDigit

/-- There is a boundary after the first of some clusters. -/
def Boundary.isAt : Boundary → List (List Char) → Bool
  | lowerUpper, k :: l :: _ => isLowerText k && isUpperText l
  | digitUpper, k :: l :: _ => isDigits k && isUpperText l
  | acronym, k :: l :: m :: _ => isUpperText k && isUpperText l && isLowerText m
  | _, _ => false

/-- The boundaries of camel case. Digits stay with their word. -/
def camelWords : List Boundary := [.lowerUpper, .digitUpper, .acronym]

def splitWords (boundaries : List Boundary) : List (List Char) → List (List Char)
  | [] => []
  | k :: ks =>
    match splitWords boundaries ks with
    | [] => [k]
    | w :: ws => if boundaries.any (·.isAt (k :: ks)) then k :: w :: ws else (k ++ w) :: ws

/-! ## Forms -/

/-- The words of clusters in upper case, with an underscore between each two of them. -/
def constantClusters (ks : List (List Char)) : List Char :=
  Text.joinSegments '_' ((splitWords camelWords ks).map upperText)

/-- The enum constant form of a name. -/
def constantName (name : String) : String :=
  String.ofList (constantClusters (clusters name.toList))

/-- The name with its first character in upper case. -/
def capitalize (name : String) : String :=
  match name.toList with
  | [] => ""
  | c :: cs => String.ofList (upper c ++ cs)

end JavaBuilder.Name
