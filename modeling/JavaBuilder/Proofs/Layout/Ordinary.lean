import JavaBuilder.Java.ClassName
import JavaBuilder.Proofs.Java.ClassNameText
import JavaBuilder.Proofs.Name.Constants

/-!
# Ordinary text

Characters that say nothing about the structure of the code they stand in: no white space, no quote,
no brace, no angle bracket, and nothing that a comment could start with. All names in generated code consist of them.
For the name forms that are put in upper case this has to be read off the tables, since an
upper-case image need not be a letter.
-/

namespace JavaBuilder.Java

open Unicode Name

/-- A character that says nothing about the structure of code. -/
def isOrdinary (c : Char) : Bool :=
  c ∉ ['"', '\'', '/', '*', '{', '}', '<', '>'] && !isBlank c

/-- A text of ordinary characters. -/
def IsOrdinary (s : String) : Prop := ∀ c ∈ s.toList, isOrdinary c = true

instance (s : String) : Decidable (IsOrdinary s) := List.decidableBAll _ s.toList

theorem isOrdinary_of_isIdentifierPart {c : Char} (h : isIdentifierPart c = true) :
    isOrdinary c = true := by
  have hblank : isBlank c = false := by
    by_contra hblank
    rw [isIdentifierPart_eq_false_of_isBlank (by simpa using hblank)] at h
    cases h
  have hmark : c ∉ ['"', '\'', '/', '*', '{', '}', '<', '>'] := by
    intro hmem
    have hmarks : ['"', '\'', '/', '*', '{', '}', '<', '>'].all (!isIdentifierPart ·) = true := by
      decide
    have hpart := List.all_eq_true.mp hmarks c hmem
    rw [h] at hpart
    cases hpart
  simp [isOrdinary, hblank, hmark]

theorem IsOrdinary.of_isIdentifier {s : String} (h : isIdentifier s = true) : IsOrdinary s :=
  fun _ hc ↦ isOrdinary_of_isIdentifierPart (isIdentifierPart_of_mem h hc)

theorem IsOrdinary.append {s t : String} (hs : IsOrdinary s) (ht : IsOrdinary t) :
    IsOrdinary (s ++ t) := by
  intro c hc
  rw [String.toList_append] at hc
  rcases List.mem_append.mp hc with hc | hc
  · exact hs c hc
  · exact ht c hc

theorem isOrdinary_of_isAlpha {c : Char} (h : c.isAlpha = true) : isOrdinary c = true := by
  have hletter := isLetterOrNumber_of_isLetter (isLetter_of_isAlpha (isAscii_of_isAlpha h) h)
  exact isOrdinary_of_isIdentifierPart (by simp [isIdentifierPart, hletter])

/-! ## Upper case -/

/-- Code points between two bounds that are all capitals of ASCII, or all above ASCII and no white
space. -/
def plainRange (lo hi : Int) : Bool :=
  (65 ≤ lo && hi ≤ 90) || (128 ≤ lo && blanks.all fun b ↦ hi < b.1 || b.2 < lo)

theorem isOrdinary_of_plainRange {lo hi : Int} (h : plainRange lo hi = true) {n : Nat}
    (hlo : lo ≤ n) (hhi : n ≤ hi) : isOrdinary (Char.ofNat n) = true := by
  by_cases hvalid : n.isValidChar
  · have hn : (Char.ofNat n).toNat = n := by
      rw [Char.ofNat, dif_pos hvalid]
      rfl
    rw [plainRange, Bool.or_eq_true] at h
    rcases h with h | h
    · simp only [Bool.and_eq_true, decide_eq_true_eq] at h
      exact isOrdinary_of_isAlpha (isAlpha_iff.mpr (by omega))
    · simp only [Bool.and_eq_true, decide_eq_true_eq, List.all_eq_true, Bool.or_eq_true] at h
      have hascii : isAscii (Char.ofNat n) = false := by
        simp only [isAscii, hn, decide_eq_false_iff_not]
        omega
      have hblank : blanks.mem (Char.ofNat n) = false := by
        rw [Bool.eq_false_iff, ne_eq, Ranges.mem_iff, hn]
        rintro ⟨b, hb, hblo, hbhi⟩
        rcases h.2 b hb with h | h <;> omega
      have hmark : Char.ofNat n ∉ ['"', '\'', '/', '*', '{', '}', '<', '>'] := by
        intro hmem
        have hmarks : ['"', '\'', '/', '*', '{', '}', '<', '>'].all isAscii = true := by decide
        have hmark := List.all_eq_true.mp hmarks _ hmem
        rw [hascii] at hmark
        cases hmark
      simp [isOrdinary, isBlank, hascii, hblank, hmark]
  · rw [Char.ofNat, dif_neg hvalid]
    decide

/-- A stretch with a plain range of images has ordinary ones. -/
theorem isOrdinary_of_map? {s : Stretch} {c n : Nat}
    (hplain : plainRange (s.first + s.offset) (s.last + s.offset) = true) (h : s.map? c = some n) :
    isOrdinary (Char.ofNat n) = true := by
  rw [Stretch.map?] at h
  split at h
  · obtain rfl := Option.some.inj h
    have hlo : (0 : Int) ≤ s.first + s.offset := by
      simp only [plainRange, Bool.or_eq_true, Bool.and_eq_true, decide_eq_true_eq] at hplain
      omega
    exact isOrdinary_of_plainRange hplain (by omega) (by omega)
  · cases h

/-- What the tables of upper-case images hold: plain ranges, and sequences of ordinary characters
that are not empty. -/
theorem upper_tables :
    (∀ s ∈ upperStretches, plainRange (s.first + s.offset) (s.last + s.offset) = true) ∧
      ∀ e ∈ upperSequences, e.2 ≠ [] ∧ ∀ n ∈ e.2, isOrdinary (Char.ofNat n) = true := by
  decide +kernel

/-- **Upper-case images are ordinary.** -/
theorem isOrdinary_upper {c d : Char} (hc : isOrdinary c = true) (hd : d ∈ upper c) :
    isOrdinary d = true := by
  rw [upper] at hd
  -- ASCII letters have their own image. All others are looked up, among the sequences first.
  split at hd
  · next hascii =>
    obtain rfl := List.mem_singleton.mp hd
    rcases isAlpha_toUpper_or_eq c with hletter | hsame
    · exact isOrdinary_of_isAlpha hletter
    · rwa [hsame]
  · rw [mapCase] at hd
    split at hd
    · next image himage =>
      obtain ⟨n, hn, rfl⟩ := List.mem_map.mp hd
      obtain ⟨before, after, hsplit, -⟩ := List.lookup_eq_some_iff.mp himage
      exact (upper_tables.2 (c.toNat, image) (by simp [hsplit])).2 n hn
    · split at hd
      · next n hn =>
        obtain rfl := List.mem_singleton.mp hd
        obtain ⟨s, hs, hmap⟩ := List.exists_of_findSome?_eq_some hn
        exact isOrdinary_of_map? (upper_tables.1 s hs) hmap
      · obtain rfl := List.mem_singleton.mp hd
        exact hc

theorem isOrdinary_upperText {cs : List Char} (h : ∀ c ∈ cs, isOrdinary c = true) :
    ∀ c ∈ upperText cs, isOrdinary c = true := by
  intro d hd
  obtain ⟨c, hc, hd⟩ := List.mem_flatMap.mp hd
  exact isOrdinary_upper (h c hc) hd

/-! ## Name forms -/

theorem IsOrdinary.capitalize {s : String} (h : IsOrdinary s) : IsOrdinary (capitalize s) := by
  rw [Name.capitalize]
  cases hs : s.toList with
  | nil => exact fun c hc ↦ by simp at hc
  | cons c cs =>
    rw [IsOrdinary, hs] at h
    intro d hd
    rw [String.toList_ofList] at hd
    rcases List.mem_append.mp hd with hd | hd
    · exact isOrdinary_upper (h c (by simp)) hd
    · exact h d (List.mem_cons_of_mem c hd)

theorem isOrdinary_constantClusters {ks : List (List Char)} (h : ∀ k ∈ ks, ∀ c ∈ k, isOrdinary c = true) :
    ∀ c ∈ constantClusters ks, isOrdinary c = true := by
  induction ks with
  | nil => exact fun c hc ↦ by cases hc
  | cons k ks ih =>
    intro c hc
    rw [constantClusters_cons, List.mem_append, List.mem_append] at hc
    rcases hc with hc | hc | hc
    · exact isOrdinary_upperText (h k (by simp)) c hc
    · split at hc
      · obtain rfl := List.mem_singleton.mp hc
        decide
      · cases hc
    · exact ih (fun l hl ↦ h l (List.mem_cons_of_mem k hl)) c hc

theorem IsOrdinary.constantName {s : String} (h : IsOrdinary s) : IsOrdinary (constantName s) := by
  intro c hc
  rw [Name.constantName, String.toList_ofList] at hc
  refine isOrdinary_constantClusters (fun k hk d hd ↦ h d ?_) c hc
  rw [← flatten_clusters s.toList]
  exact List.mem_flatten.mpr ⟨k, hk, hd⟩

/-! ## Empty forms

Only the empty name has an empty constant: no character is without an upper-case image. -/

theorem upper_ne_nil (c : Char) : upper c ≠ [] := by
  rw [upper]
  split
  · simp
  · rw [mapCase]
    split
    · next image himage =>
      obtain ⟨before, after, hsplit, -⟩ := List.lookup_eq_some_iff.mp himage
      simpa using (upper_tables.2 (c.toNat, image) (by simp [hsplit])).1
    · split <;> simp

theorem flatten_eq_nil_of_constantClusters {ks : List (List Char)} (h : constantClusters ks = []) :
    ks.flatten = [] := by
  induction ks with
  | nil => rfl
  | cons k ks ih =>
    rw [constantClusters_cons, List.append_eq_nil_iff, List.append_eq_nil_iff] at h
    obtain ⟨hk, -, hks⟩ := h
    have hempty : k = [] := by
      rw [upperText, List.flatMap_eq_nil_iff] at hk
      exact List.eq_nil_iff_forall_not_mem.mpr fun c hc ↦ upper_ne_nil c (hk c hc)
    rw [List.flatten_cons, hempty, ih hks, List.append_nil]

theorem constantName_ne_empty {s : String} (h : s ≠ "") : Name.constantName s ≠ "" := by
  intro hempty
  have hlist : constantClusters (clusters s.toList) = [] := by
    simpa [Name.constantName] using hempty
  have hflatten := flatten_eq_nil_of_constantClusters hlist
  rw [flatten_clusters] at hflatten
  exact h (by simpa using hflatten)

/-! ## Class names -/

namespace ClassName

variable {name : ClassName}

theorem isOrdinary_join {ss : List String} (h : ∀ s ∈ ss, isIdentifier s = true) :
    IsOrdinary (Text.join '.' ss) := by
  intro c hc
  rw [Text.join, String.toList_ofList] at hc
  rcases Text.mem_joinSegments hc with rfl | ⟨cs, hcs, hc⟩
  · decide
  · obtain ⟨s, hs, rfl⟩ := List.mem_map.mp hcs
    exact IsOrdinary.of_isIdentifier (h s hs) c hc

/-- The segments of a class name are identifiers. -/
def IsSpelled (name : ClassName) : Prop := ∀ s ∈ name.package ++ name.simpleNames, isIdentifier s = true

instance : Decidable name.IsSpelled :=
  inferInstanceAs (Decidable (∀ s ∈ name.package ++ name.simpleNames, isIdentifier s = true))

end ClassName

end JavaBuilder.Java
