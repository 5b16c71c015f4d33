import Mathlib.Data.List.TakeDrop
import Mathlib.Data.List.TakeWhile
import JavaBuilder.Java.ClassName

/-!
# Reading and writing class names

A dotted text does not say where the package ends, so not every class name can be read back from its
text. The names that can are the *readable* ones, and reading is exactly the inverse of writing them.

Everything about the text of a class name goes through its segments: identifiers hold no dot, so
cutting the joined segments at the dots gives them back.
-/

namespace JavaBuilder.Java

open Text Name

/-- An identifier holds no character that cannot continue one. -/
theorem not_mem_of_isIdentifier {s : String} (h : isIdentifier s = true) {c : Char}
    (hc : isIdentifierPart c = false) : c ∉ s.toList := by
  intro hmem
  rw [isIdentifierPart_of_mem h hmem] at hc
  exact absurd hc (by decide)

theorem dot_not_mem_of_isIdentifier {s : String} (h : isIdentifier s = true) : '.' ∉ s.toList :=
  not_mem_of_isIdentifier h (by decide)

namespace ClassName

/-- The names that can be read from their text: all segments are identifiers, and the first that
starts with a capital is the top-level class. -/
structure IsReadable (name : ClassName) : Prop where
  /-- Every segment is an identifier. -/
  identifiers : ∀ s ∈ name.package ++ name.simpleNames, isIdentifier s = true
  /-- No package segment starts with a capital. -/
  lower : ∀ s ∈ name.package, startsCapital s = false
  /-- The top-level class starts with a capital. -/
  capital : startsCapital name.outer = true

/-- Some text reads as this name. -/
def IsRead (name : ClassName) : Prop := ∃ text, parse? text = some name

variable {name : ClassName}

theorem topLevel_eq_iff {other : ClassName} :
    name.topLevel = other.topLevel ↔ name.package = other.package ∧ name.outer = other.outer := by
  simp [topLevel]

theorem split_text (h : ∀ s ∈ name.package ++ name.simpleNames, isIdentifier s = true) :
    split '.' name.text = name.package ++ name.simpleNames :=
  split_join (by simp [simpleNames]) fun s hs ↦ dot_not_mem_of_isIdentifier (h s hs)

theorem split_relativeText (h : ∀ s ∈ name.simpleNames, isIdentifier s = true) :
    split '.' name.relativeText = name.simpleNames :=
  split_join (by simp [simpleNames]) fun s hs ↦ dot_not_mem_of_isIdentifier (h s hs)

/-- The segments of a readable name are cut where the top-level class starts. -/
theorem IsReadable.span_segments (h : name.IsReadable) :
    (name.package ++ name.simpleNames).span (!startsCapital ·) =
      (name.package, name.outer :: name.inner) := by
  have hp : ∀ s ∈ name.package, (!startsCapital s) = true := fun s hs ↦ by simp [h.lower s hs]
  rw [List.span_eq_takeWhile_dropWhile, List.takeWhile_append_of_pos hp,
    List.dropWhile_append_of_pos hp]
  simp [simpleNames, h.capital]

/-- **Reading is the inverse of writing readable names.** -/
theorem parse?_eq_some_iff {text : String} :
    parse? text = some name ↔ name.IsReadable ∧ name.text = text := by
  constructor
  · intro h
    simp only [parse?] at h
    split at h
    · next hall =>
      split at h
      · cases h
      · next package outer inner hspan =>
        obtain rfl := Option.some.inj h
        rw [List.span_eq_takeWhile_dropWhile, Prod.mk.injEq] at hspan
        obtain ⟨htake, hdrop⟩ := hspan
        -- The first segment with a capital ends the package.
        have hsegments : package ++ outer :: inner = split '.' text := by
          rw [← htake, ← hdrop, List.takeWhile_append_dropWhile]
        refine ⟨⟨?_, ?_, ?_⟩, ?_⟩
        · intro s hs
          exact List.all_eq_true.mp hall s (hsegments ▸ hs)
        · intro s hs
          have hmem : s ∈ (split '.' text).takeWhile (!startsCapital ·) := htake ▸ hs
          simpa using List.mem_takeWhile_imp hmem
        · have hhead := List.head?_dropWhile_not (!startsCapital ·) (split '.' text)
          rw [hdrop] at hhead
          simpa using hhead
        · change join '.' (package ++ outer :: inner) = text
          rw [hsegments, join_split]
    · cases h
  · rintro ⟨h, rfl⟩
    simp only [parse?]
    rw [split_text h.identifiers, if_pos (List.all_eq_true.mpr h.identifiers), h.span_segments]

theorem isRead_iff : name.IsRead ↔ name.IsReadable :=
  ⟨fun ⟨_, h⟩ ↦ (parse?_eq_some_iff.mp h).1, fun h ↦ ⟨_, parse?_eq_some_iff.mpr ⟨h, rfl⟩⟩⟩

instance : Decidable name.IsReadable :=
  decidable_of_iff ((name.package ++ name.simpleNames).all isIdentifier = true ∧
      name.package.all (!startsCapital ·) = true ∧ startsCapital name.outer = true) <| by
    simp only [List.all_eq_true, Bool.not_eq_true']
    exact ⟨fun h ↦ ⟨h.1, h.2.1, h.2.2⟩, fun h ↦ ⟨h.identifiers, h.lower, h.capital⟩⟩

instance : Decidable name.IsRead := decidable_of_iff _ isRead_iff.symm

theorem parse?_text_iff : parse? name.text = some name ↔ name.IsReadable := by
  simp [parse?_eq_some_iff]

end ClassName

end JavaBuilder.Java
