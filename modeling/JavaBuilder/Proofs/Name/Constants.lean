import JavaBuilder.Name.Casing
import JavaBuilder.Proofs.Unicode.Classes

/-!
# Constants of ASCII identifiers

The constant of a name is made of the words between its boundaries, which look at two or three clusters. On
an identifier of ASCII every character is a cluster of its own, so the constant can be said without words:
whether one starts at an index is a matter of the characters at that index and at its two neighbours, and
the constant is the name in upper case with an underscore at each such index.

Words are split from the end, so the split is followed from an index on, with the characters before it kept
aside.
-/

namespace JavaBuilder

open Unicode

/-! ## Characters of ASCII -/

namespace Unicode

theorem upper_of_isAscii {c : Char} (h : isAscii c = true) : upper c = [c.toUpper] := if_pos h

/-- The case of a character of ASCII, checked for each of them. -/
theorem casing_of_isAscii {c : Char} (h : isAscii c = true) :
    isUpperText [c] = c.isUpper ∧ isLowerText [c] = c.isLower ∧ c.toUpper.isLower = false := by
  have hall : ∀ n < 128, isUpperText [Char.ofNat n] = (Char.ofNat n).isUpper ∧
      isLowerText [Char.ofNat n] = (Char.ofNat n).isLower ∧
        (Char.ofNat n).toUpper.isLower = false := by
    decide +kernel
  have hc := hall c.toNat (of_decide_eq_true h)
  rwa [Char.ofNat_toNat] at hc

/-! ## Clusters -/

namespace Context

variable {x : Context}

theorem joins_other (h : x.role = .other) : x.joins .other = false := by
  simp [joins, h]

/-- After an ordinary character, ordinary characters stand alone. -/
theorem split_eq_map {cs : List Char} (hx : x.role = .other)
    (h : ∀ c ∈ cs, ClusterRole.of c = .other) : x.split cs = ([], cs.map fun c ↦ [c]) := by
  induction cs generalizing x with
  | nil => rfl
  | cons c cs ih =>
    rw [List.forall_mem_cons] at h
    rw [split, h.1, joins_other hx, ih h.1 h.2]
    rfl

end Context

theorem clusters_eq_map {cs : List Char} (h : ∀ c ∈ cs, ClusterRole.of c = .other) :
    clusters cs = cs.map fun c ↦ [c] := by
  cases cs with
  | nil => rfl
  | cons c cs =>
    rw [List.forall_mem_cons] at h
    rw [clusters, Context.split_eq_map h.1 h.2]
    rfl

end Unicode

namespace Name

/-! ## Identifiers of ASCII -/

/-- A character of ASCII that may start an identifier. -/
def isAsciiStart (c : Char) : Bool := c.isAlpha || c == '_' || c == '$'

/-- A character of ASCII that may continue an identifier. -/
def isAsciiPart (c : Char) : Bool := c.isAlphanum || c == '_' || c == '$'

/-- The characters spell an identifier of ASCII. -/
def isAsciiIdentifier : List Char → Bool
  | [] => false
  | c :: cs => isAsciiStart c && cs.all isAsciiPart

section

variable {c : Char} {cs : List Char}

theorem isAsciiPart_of_start (h : isAsciiStart c = true) : isAsciiPart c = true := by
  simp only [isAsciiStart, isAsciiPart, Char.isAlphanum, Bool.or_eq_true] at h ⊢
  rcases h with (h | h) | h
  · exact .inl (.inl (.inl h))
  · exact .inl (.inr h)
  · exact .inr h

theorem bounds_of_isAsciiPart (h : isAsciiPart c = true) : 32 ≤ c.toNat ∧ c.toNat < 127 := by
  simp only [isAsciiPart, Char.isAlphanum, Bool.or_eq_true, beq_iff_eq] at h
  rcases h with ((h | h) | rfl) | rfl
  · rw [isAlpha_iff] at h
    omega
  · simp [Char.isDigit, UInt32.le_iff_toNat_le] at h
    omega
  · decide
  · decide

theorem isAscii_of_isAsciiPart (h : isAsciiPart c = true) : isAscii c = true := by
  have hbounds := bounds_of_isAsciiPart h
  exact decide_eq_true (by omega)

theorem of_isAsciiPart (h : isAsciiPart c = true) : ClusterRole.of c = .other := by
  have hbounds := bounds_of_isAsciiPart h
  have hreturn : c ≠ '\r' := by
    rintro rfl
    exact absurd hbounds.1 (by decide)
  have hfeed : c ≠ '\n' := by
    rintro rfl
    exact absurd hbounds.1 (by decide)
  rw [ClusterRole.of, if_pos (isAscii_of_isAsciiPart h), ClusterRole.ofAscii, if_neg hreturn,
    if_neg hfeed, if_neg (by omega)]

theorem isAsciiStart_toUpper (h : isAsciiStart c = true) : isAsciiStart c.toUpper = true := by
  rcases isAlpha_toUpper_or_eq c with hletter | hsame
  · simp [isAsciiStart, hletter]
  · rwa [hsame]

theorem isAsciiPart_toUpper (h : isAsciiPart c = true) : isAsciiPart c.toUpper = true := by
  rcases isAlpha_toUpper_or_eq c with hletter | hsame
  · simp [isAsciiPart, Char.isAlphanum, hletter]
  · rwa [hsame]

theorem isIdentifierStart_of_isAsciiStart (h : isAsciiStart c = true) : isIdentifierStart c = true := by
  have hascii := isAscii_of_isAsciiPart (isAsciiPart_of_start h)
  rwa [isIdentifierStart, isLetter, if_pos hascii]

theorem isIdentifierPart_of_isAsciiPart (h : isAsciiPart c = true) : isIdentifierPart c = true := by
  have hascii := isAscii_of_isAsciiPart h
  rwa [isIdentifierPart, isLetterOrNumber, isLetter, isNumber, if_pos hascii, if_pos hascii]

theorem isAsciiIdentifier_cons_iff : isAsciiIdentifier (c :: cs) = true ↔
    isAsciiStart c = true ∧ ∀ d ∈ cs, isAsciiPart d = true := by
  rw [isAsciiIdentifier, Bool.and_eq_true, List.all_eq_true]

theorem isAsciiPart_of_mem (h : isAsciiIdentifier cs = true) : ∀ c ∈ cs, isAsciiPart c = true := by
  cases cs with
  | nil => cases h
  | cons c cs =>
    obtain ⟨hstart, hparts⟩ := isAsciiIdentifier_cons_iff.mp h
    exact List.forall_mem_cons.mpr ⟨isAsciiPart_of_start hstart, hparts⟩

theorem isIdentifier_of_isAsciiIdentifier {n : String} (h : isAsciiIdentifier n.toList = true) :
    isIdentifier n = true := by
  rw [isIdentifier]
  cases hn : n.toList with
  | nil => simp [hn, isAsciiIdentifier] at h
  | cons c cs =>
    rw [hn] at h
    obtain ⟨hstart, hparts⟩ := isAsciiIdentifier_cons_iff.mp h
    rw [isIdentifierText, Bool.and_eq_true, List.all_eq_true]
    exact ⟨isIdentifierStart_of_isAsciiStart hstart, fun d hd ↦
      isIdentifierPart_of_isAsciiPart (hparts d hd)⟩

end

/-! ## Words -/

/-- A word starts at the index, which is never the first: an upper-case letter stands there, and before it
a lower-case letter or a digit, or another upper-case letter if a lower-case one comes after. -/
def startsWordAt (cs : List Char) : Nat → Bool
  | 0 => false
  | i + 1 =>
    cs[i + 1]?.any Char.isUpper &&
      (cs[i]?.any Char.isLower || cs[i]?.any Char.isDigit ||
        (cs[i]?.any Char.isUpper && cs[i + 2]?.any Char.isLower))

/-- The characters in upper case, with an underscore before each word that starts. -/
def constantText (cs : List Char) : List Char :=
  (cs.mapIdx fun i c ↦ if startsWordAt cs i then ['_', c.toUpper] else [c.toUpper]).flatten

theorem splitWords_cons_ne_nil (boundaries : List Boundary) (k : List Char) (ks : List (List Char)) :
    splitWords boundaries (k :: ks) ≠ [] := by
  rw [splitWords]
  split
  · simp
  · split <;> simp

/-- Clusters go into the constant one by one, each with an underscore after it if a word ends there. -/
theorem constantClusters_cons (k : List Char) (ks : List (List Char)) :
    constantClusters (k :: ks) = upperText k ++
      ((if camelWords.any (·.isAt (k :: ks)) then ['_'] else []) ++ constantClusters ks) := by
  rw [constantClusters, constantClusters, splitWords]
  cases hwords : splitWords camelWords ks with
  | nil =>
    have hks : ks = [] := by
      cases ks with
      | nil => rfl
      | cons l ls => exact absurd hwords (splitWords_cons_ne_nil camelWords l ls)
    simp [hks, Text.joinSegments, camelWords, Boundary.isAt]
  | cons w ws =>
    by_cases hend : camelWords.any (·.isAt (k :: ks))
    · simp [hend, Text.joinSegments]
    · cases ws <;> simp [hend, Text.joinSegments, upperText_append]

/-- A word starts after a character where a boundary is after its cluster. -/
theorem any_isAt_eq_startsWordAt (bs : List Char) {b : Char} {cs : List Char}
    (h : ∀ d ∈ b :: cs, isAscii d = true) :
    camelWords.any (·.isAt ((b :: cs).map fun d ↦ [d])) = startsWordAt (bs ++ b :: cs) (bs.length + 1) := by
  simp only [List.forall_mem_cons] at h
  obtain ⟨hb, hcs⟩ := h
  cases cs with
  | nil => simp [camelWords, Boundary.isAt, startsWordAt]
  | cons c cs =>
    obtain ⟨hc, hcs⟩ := List.forall_mem_cons.mp hcs
    have hafter : (bs ++ b :: c :: cs)[bs.length + 2]? = cs.head? := by
      simp [List.getElem?_append_right, List.head?_eq_getElem?]
    rw [startsWordAt, hafter]
    cases cs with
    | nil => cases hupper : c.isUpper <;>
        simp [camelWords, Boundary.isAt, casing_of_isAscii hb, casing_of_isAscii hc, isDigits, hupper]
    | cons d ds =>
      have hd := hcs d List.mem_cons_self
      cases hupper : c.isUpper <;>
        simp [camelWords, Boundary.isAt, casing_of_isAscii hb, casing_of_isAscii hc, casing_of_isAscii hd,
          isDigits, hupper, Bool.or_assoc]

/-- The constant from an index on, without the underscore before it. -/
theorem mapIdx_eq_constantClusters (before after : List Char)
    (h : ∀ c ∈ before ++ after, isAscii c = true) :
    (after.mapIdx fun i c ↦
      if startsWordAt (before ++ after) (before.length + i) then ['_', c.toUpper]
      else [c.toUpper]).flatten =
    (if startsWordAt (before ++ after) before.length then ['_'] else []) ++
      constantClusters (after.map fun c ↦ [c]) := by
  induction after generalizing before with
  | nil =>
    have hend : startsWordAt (before ++ []) before.length = false := by
      cases hlength : before.length with
      | zero => rfl
      | succ i => simp [startsWordAt, ← hlength]
    rw [hend]
    rfl
  | cons c cs ih =>
    have hc : isAscii c = true := h c (by simp)
    have hrest := ih (before ++ [c]) (by simpa using h)
    simp only [List.append_assoc, List.singleton_append, List.length_append, List.length_singleton] at hrest
    rw [List.mapIdx_cons, List.flatten_cons, List.map_cons, constantClusters_cons,
      ← List.map_cons (f := fun c ↦ [c]),
      any_isAt_eq_startsWordAt before fun d hd ↦ h d (List.mem_append_right before hd)]
    simp only [Nat.add_zero, Nat.add_assoc, Nat.add_comm 1, upperText_cons, upperText_nil,
      upper_of_isAscii hc] at hrest ⊢
    rw [hrest]
    split <;> simp

section

variable {n : String} (h : isAsciiIdentifier n.toList = true)
include h

/-- **The constant of an identifier of ASCII** is the identifier in upper case, with an underscore before
each word that starts. -/
theorem toList_constantName : (constantName n).toList = constantText n.toList := by
  have hclusters := clusters_eq_map fun c hc ↦ of_isAsciiPart (isAsciiPart_of_mem h c hc)
  have hconstant := mapIdx_eq_constantClusters [] n.toList fun c hc ↦
    isAscii_of_isAsciiPart (isAsciiPart_of_mem h c (by simpa using hc))
  have hfirst : startsWordAt n.toList 0 = false := rfl
  rw [constantName, String.toList_ofList, hclusters]
  simpa [constantText, hfirst] using hconstant.symm

/-- The capitalized form differs from an identifier of ASCII in the first character only. -/
theorem exists_toList_capitalize :
    ∃ c cs, n.toList = c :: cs ∧ (capitalize n).toList = c.toUpper :: cs := by
  cases hn : n.toList with
  | nil => simp [hn, isAsciiIdentifier] at h
  | cons c cs =>
    have hc : isAscii c = true := isAscii_of_isAsciiPart (isAsciiPart_of_mem h c (by simp [hn]))
    refine ⟨c, cs, rfl, ?_⟩
    simp [capitalize, hn, upper_of_isAscii hc]

end

theorem mem_constantText {cs : List Char} {d : Char} (h : d ∈ constantText cs) :
    d = '_' ∨ ∃ c ∈ cs, d = c.toUpper := by
  obtain ⟨ds, hds, hd⟩ := List.mem_flatten.mp h
  obtain ⟨i, hi, rfl⟩ := List.mem_mapIdx.mp hds
  split at hd
  · rcases List.mem_cons.mp hd with rfl | hd
    · exact .inl rfl
    · exact .inr ⟨cs[i], List.getElem_mem hi, List.mem_singleton.mp hd⟩
  · exact .inr ⟨cs[i], List.getElem_mem hi, List.mem_singleton.mp hd⟩

theorem exists_constantText_cons (c : Char) (cs : List Char) :
    ∃ ds, constantText (c :: cs) = c.toUpper :: ds :=
  ⟨_, by rw [constantText, List.mapIdx_cons]; rfl⟩

section

variable {cs : List Char} (h : isAsciiIdentifier cs = true)
include h

theorem isAsciiIdentifier_constantText : isAsciiIdentifier (constantText cs) = true := by
  cases cs with
  | nil => cases h
  | cons c cs =>
    obtain ⟨ds, hds⟩ := exists_constantText_cons c cs
    rw [hds, isAsciiIdentifier_cons_iff]
    refine ⟨isAsciiStart_toUpper (isAsciiIdentifier_cons_iff.mp h).1, fun d hd ↦ ?_⟩
    rcases mem_constantText (hds ▸ List.mem_cons_of_mem _ hd) with rfl | ⟨e, he, rfl⟩
    · decide
    · exact isAsciiPart_toUpper (isAsciiPart_of_mem h e he)

theorem isLower_eq_false_of_mem_constantText : ∀ d ∈ constantText cs, d.isLower = false := by
  intro d hd
  rcases mem_constantText hd with rfl | ⟨c, hc, rfl⟩
  · decide
  · exact (casing_of_isAscii (isAscii_of_isAsciiPart (isAsciiPart_of_mem h c hc))).2.2

end

end Name

end JavaBuilder
