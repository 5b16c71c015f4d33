import JavaBuilder.Unicode.ClusterRole

/-!
# Character clusters

What a reader takes for one character may be several code points: a letter and its accents, the
parts of a Hangul syllable, consonants tied together in a conjunct, pictographs held together by
joiners, or the two letters of a flag. `clusters` cuts a text between such units and loses nothing:
a text is the concatenation of its clusters.

Whether a character joins the cluster before it depends on its role, on the role of the character
before it, and on how far three kinds of sequences have come at that point. `Context` is what is
remembered of the text before.
-/

namespace JavaBuilder.Unicode

/-- How far a sequence has come that a tie continues. -/
inductive Progress where
  | nothing
  /-- It has begun, and extenders may have followed. -/
  | begun
  /-- The tie has followed. -/
  | tied
deriving DecidableEq, Repr

/-- What is remembered of the text before a character. -/
structure Context where
  /-- The role of the character before. -/
  role : ClusterRole
  /-- A pictograph, extenders, and a joiner. -/
  pictographs : Progress
  /-- A consonant, and extenders with a linker among them. -/
  conjunct : Progress
  /-- An odd number of letters of flags. -/
  halfFlag : Bool
deriving DecidableEq, Repr

namespace Context

variable (x : Context)

/-- Nothing stands before. -/
def start : Context := ⟨.other, .nothing, .nothing, false⟩

/-- The progress of pictographs after a character with a role. -/
def pictographsAfter (role : ClusterRole) : Progress :=
  match role, x.pictographs with
  | .pictograph, _ => .begun
  | .extender, .begun => .begun
  | .joiner, .begun => .tied
  | _, _ => .nothing

/-- The progress of a conjunct after a character. The zero-width non-joiner breaks it off. -/
def conjunctAfter (c : Char) : Progress :=
  if ClusterRole.of c = .consonant then .begun
  else if isLinker c then if x.conjunct = .nothing then .nothing else .tied
  else if (ClusterRole.of c = .extender ∧ c ≠ '\u200c') ∨ ClusterRole.of c = .joiner then x.conjunct
  else .nothing

/-- What is remembered after a character. -/
def after (c : Char) : Context where
  role := ClusterRole.of c
  pictographs := x.pictographsAfter (ClusterRole.of c)
  conjunct := x.conjunctAfter c
  halfFlag := ClusterRole.of c = .regional && !x.halfFlag

/-- A character with a role joins the cluster before it. -/
def joins (role : ClusterRole) : Bool :=
  match x.role, role with
  | .carriageReturn, .lineFeed => true
  | .carriageReturn, _ | .lineFeed, _ | .control, _ => false
  | _, .carriageReturn | _, .lineFeed | _, .control => false
  | .initial, .initial | .initial, .vowel => true
  | .initial, .openSyllable | .initial, .closedSyllable => true
  | .openSyllable, .vowel | .openSyllable, .final | .vowel, .vowel | .vowel, .final => true
  | .closedSyllable, .final | .final, .final => true
  | _, .extender | _, .joiner | _, .spacingMark => true
  | .prepended, _ => true
  | _, .consonant => x.conjunct = .tied
  | .joiner, .pictograph => x.pictographs = .tied
  | .regional, .regional => x.halfFlag
  | _, _ => false

/-- The rest of a cluster, and the clusters after it. -/
def split (x : Context) : List Char → List Char × List (List Char)
  | [] => ([], [])
  | c :: cs =>
    let r := (x.after c).split cs
    if x.joins (ClusterRole.of c) then (c :: r.1, r.2) else ([], (c :: r.1) :: r.2)

theorem flatten_split (x : Context) (cs : List Char) :
    (x.split cs).1 ++ (x.split cs).2.flatten = cs := by
  induction cs generalizing x with
  | nil => rfl
  | cons c cs ih =>
    unfold split
    split <;> simp [ih (x.after c)]

end Context

/-- The clusters of a text. -/
def clusters : List Char → List (List Char)
  | [] => []
  | c :: cs =>
    let r := (Context.start.after c).split cs
    (c :: r.1) :: r.2

/-- Nothing is lost when a text is cut into clusters. -/
theorem flatten_clusters (cs : List Char) : (clusters cs).flatten = cs := by
  cases cs with
  | nil => rfl
  | cons c cs => simp [clusters, Context.flatten_split]

end JavaBuilder.Unicode
