import Mathlib.Data.List.Lex
import Mathlib.Data.String.Basic
import JavaBuilder.Proofs.Java.ClassNameText

/-!
# The order of class names

Class names are ordered by the text of their package first. Two packages can have one text, as those of
no segments and of one empty segment have, so not all names can be compared. Those that have been read
can, and these are the ones that are kept sorted.
-/

namespace JavaBuilder.Java.ClassName

open Text Name

instance : IsTrans ClassName (· < ·) where
  trans a b c hab hbc := by
    rcases hab with hab | ⟨hab, hab'⟩ <;> rcases hbc with hbc | ⟨hbc, hbc'⟩
    · exact .inl (lt_trans hab hbc)
    · exact .inl (hbc ▸ hab)
    · exact .inl (hab ▸ hbc)
    · exact .inr ⟨hab.trans hbc, lt_trans hab' hbc'⟩

instance : @Std.Irrefl ClassName (· < ·) where
  irrefl a h := by
    rcases h with h | ⟨-, h⟩
    · exact lt_irrefl _ h
    · exact lt_irrefl _ h

/-- The package of a name that has been read can be found in its text. -/
theorem IsRead.packageSegments_packageText {name : ClassName} (h : name.IsRead) :
    packageSegments name.packageText = name.package := by
  have hidentifiers : ∀ s ∈ name.package, isIdentifier s = true := fun s hs ↦
    (isRead_iff.mp h).identifiers s (List.mem_append_left _ hs)
  rw [packageSegments, packageText]
  cases hpackage : name.package with
  | nil => rfl
  | cons s ss =>
    rw [hpackage] at hidentifiers
    have hsplit := split_join (List.cons_ne_nil s ss) fun s hs ↦
      dot_not_mem_of_isIdentifier (hidentifiers s hs)
    split_ifs with hempty
    · rw [hempty] at hsplit
      obtain ⟨rfl, -⟩ := List.cons.inj hsplit
      exact absurd (hidentifiers "" List.mem_cons_self) (by decide)
    · exact hsplit

/-- Names can be compared if the texts of their packages tell the packages apart. -/
theorem lt_of_ne_of_not_lt {a b : ClassName}
    (hpackage : a.packageText = b.packageText → a.package = b.package) (hne : a ≠ b)
    (hlt : ¬a < b) : b < a := by
  rcases lt_trichotomy a.packageText b.packageText with h | htext | h
  · exact absurd (.inl h) hlt
  · rcases lt_trichotomy a.simpleNames b.simpleNames with h | hnames | h
    · exact absurd (.inr ⟨htext, h⟩) hlt
    · obtain ⟨houter, hinner⟩ := List.cons.inj hnames
      obtain ⟨package, outer, inner⟩ := a
      obtain rfl : package = b.package := hpackage htext
      obtain rfl : outer = b.outer := houter
      obtain rfl : inner = b.inner := hinner
      exact absurd rfl hne
    · exact .inr ⟨htext.symm, h⟩
  · exact .inl h

/-- Names that have been read can be compared. -/
theorem IsRead.lt_of_ne_of_not_lt {a b : ClassName} (ha : a.IsRead) (hb : b.IsRead) (hne : a ≠ b)
    (hlt : ¬a < b) : b < a := by
  refine ClassName.lt_of_ne_of_not_lt (fun htext ↦ ?_) hne hlt
  rw [← ha.packageSegments_packageText, htext, hb.packageSegments_packageText]

end JavaBuilder.Java.ClassName
