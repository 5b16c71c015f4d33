import JavaBuilder.Glob.Pattern

/-!
# Filters

A filter is a pattern for the path of a file. In it `?` stands for any character, `*` for any run of
characters, slashes included, and brackets for a set of characters. `**` must fill the space between
two slashes, and stands for any number of whole segments, also for none.
-/

namespace JavaBuilder.Glob

/-- A piece of a filter. -/
inductive Piece where
  | char (c : Char)
  | anyChar
  | set (s : SymbolSet Char)
  /-- `*` -/
  | anyRun
  /-- `**` -/
  | anySegments
deriving DecidableEq, Repr

/-- Why a text is no filter. -/
inductive FilterFault where
  /-- More than two stars in a row. -/
  | stars
  /-- Two stars that do not fill a segment. -/
  | segment
  /-- Brackets that are not closed or hold nothing. -/
  | set
deriving DecidableEq, Repr

def FilterFault.message : FilterFault → String
  | stars => "wildcards are either regular \x60*\x60 or recursive \x60**\x60"
  | segment => "recursive wildcards must form a single path component"
  | set => "invalid range pattern"

/-- A fault and the number of characters before it. -/
structure FilterError where
  position : Nat
  fault : FilterFault
deriving DecidableEq, Repr

def FilterError.message (e : FilterError) : String :=
  "Pattern syntax error near position " ++ toString e.position ++ ": " ++ e.fault.message

/-! ## Reading a filter -/

/-- The ranges in a pair of brackets. -/
def charRanges : List Char → List (Char × Char)
  | lo :: '-' :: hi :: cs => (lo, hi) :: charRanges cs
  | c :: cs => (c, c) :: charRanges cs
  | [] => []

/-- Cut at the first closing bracket, which is not the first character. -/
def cutBrackets? : List Char → Option (List Char × List Char)
  | [] => none
  | c :: cs =>
    match cs.dropWhile (· ≠ ']') with
    | [] => none
    | _ :: rest => some (c :: cs.takeWhile (· ≠ ']'), rest)

/-- A set after its opening bracket, and what follows it. -/
def readSet? : List Char → Option (SymbolSet Char × List Char)
  | '!' :: cs => (cutBrackets? cs).map fun r ↦ (⟨true, charRanges r.1⟩, r.2)
  | cs => (cutBrackets? cs).map fun r ↦ (⟨false, charRanges r.1⟩, r.2)

theorem length_of_cutBrackets? {cs : List Char} {r : List Char × List Char}
    (h : cutBrackets? cs = some r) : r.2.length < cs.length := by
  cases cs with
  | nil => simp [cutBrackets?] at h
  | cons c cs =>
    have hl := (List.dropWhile_suffix (l := cs) fun c : Char ↦ decide (c ≠ ']')).length_le
    simp only [cutBrackets?] at h
    split at h
    · simp at h
    · next heq =>
      rw [heq] at hl
      simp only [Option.some.injEq] at h
      subst h
      simp only [List.length_cons] at hl ⊢
      omega

theorem length_of_readSet? {cs : List Char} {r : SymbolSet Char × List Char}
    (h : readSet? cs = some r) : r.2.length < cs.length := by
  unfold readSet? at h
  split at h <;> obtain ⟨t, ht, rfl⟩ := Option.map_eq_some_iff.1 h
  · have := length_of_cutBrackets? ht
    simp only [List.length_cons]
    omega
  · exact length_of_cutBrackets? ht

/-- The pieces of a filter from some position on, where `before` is the character before it. -/
def readPieces (position : Nat) (before : Option Char) :
    List Char → Except FilterError (List Piece)
  | [] => return []
  | '*' :: '*' :: '*' :: _ => throw ⟨position + 2, .stars⟩
  | '*' :: '*' :: cs =>
    if before ≠ none ∧ before ≠ some '/' then throw ⟨position - 1, .segment⟩
    else
      match cs with
      | [] => return [.anySegments]
      | '/' :: cs => return .anySegments :: (← readPieces (position + 3) (some '/') cs)
      | _ => throw ⟨position + 2, .segment⟩
  | '*' :: cs => return .anyRun :: (← readPieces (position + 1) (some '*') cs)
  | '?' :: cs => return .anyChar :: (← readPieces (position + 1) (some '?') cs)
  | '[' :: cs =>
    match h : readSet? cs with
    | none => throw ⟨position, .set⟩
    | some (s, rest) =>
      have : rest.length < cs.length := length_of_readSet? h
      return .set s :: (← readPieces (position + 1 + (cs.length - rest.length)) (some ']') rest)
  | c :: cs => return .char c :: (← readPieces (position + 1) (some c) cs)
termination_by cs => cs.length
decreasing_by all_goals simp only [List.length_cons]; omega

/-- A filter. -/
structure PathFilter where
  pieces : List Piece
deriving DecidableEq, Repr

namespace PathFilter

/-- The filter that a text stands for. -/
def ofText (text : String) : Except FilterError PathFilter :=
  return ⟨← readPieces 0 none text.toList⟩

/-- Any number of whole segments, each with the slash after it. -/
def wholeSegments : Pattern Char := .either .empty (.seq (.many .all) (.one (.only '/')))

/-- The pattern of pieces. At the end `**` stands for everything. -/
def patternOf : List Piece → Pattern Char
  | [] => .empty
  | .char c :: ps => .seq (.one (.only c)) (patternOf ps)
  | .anyChar :: ps => .seq (.one .all) (patternOf ps)
  | .set s :: ps => .seq (.one s) (patternOf ps)
  | .anyRun :: ps => .seq (.many .all) (patternOf ps)
  | [.anySegments] => .many .all
  | .anySegments :: ps => .seq wholeSegments (patternOf ps)

def accepts (f : PathFilter) (path : String) : Bool := (patternOf f.pieces).accepts path.toList

end PathFilter

end JavaBuilder.Glob
