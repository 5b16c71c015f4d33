import JavaBuilder.Name.Identifier
import JavaBuilder.Unicode.Blank

/-!
# Classes of characters

Facts about the character classes that hold for all of Unicode. Below 128 a class is an interval or
two; above, the tables of ranges are compared with one another, so no proof ever walks through the
code points of a table.

The main statement is that white space never belongs to a word: no blank character is a letter or
a number, wherever it lies.
-/

namespace JavaBuilder.Unicode

open Name

/-- Two tables without a common code point. -/
def Ranges.disjoint (xs ys : Ranges) : Bool :=
  xs.all fun x ↦ ys.all fun y ↦ x.2 < y.1 || y.2 < x.1

theorem Ranges.mem_eq_false_of_disjoint {xs ys : Ranges} (h : xs.disjoint ys = true) {c : Char}
    (hc : xs.mem c = true) : ys.mem c = false := by
  rw [Bool.eq_false_iff, ne_eq, Ranges.mem_iff]
  rintro ⟨y, hy, hlo, hhi⟩
  obtain ⟨x, hx, hxlo, hxhi⟩ := (Ranges.mem_iff xs c).mp hc
  simp only [Ranges.disjoint, List.all_eq_true, Bool.or_eq_true, decide_eq_true_eq] at h
  rcases h x hx y hy with h | h <;> omega

theorem disjoint_blanks : (blanks.disjoint letters && blanks.disjoint numbers) = true := by
  decide +kernel

/-! ## ASCII -/

theorem isAlpha_iff {c : Char} : c.isAlpha = true ↔
    (65 ≤ c.toNat ∧ c.toNat ≤ 90) ∨ (97 ≤ c.toNat ∧ c.toNat ≤ 122) := by
  delta Char.isAlpha Char.isUpper Char.isLower
  simp [UInt32.le_iff_toNat_le]

theorem isAscii_of_isAlpha {c : Char} (h : c.isAlpha = true) : isAscii c = true := by
  rw [isAlpha_iff] at h
  simp only [isAscii, decide_eq_true_eq]
  omega

/-- The upper case of an ASCII character is a letter, or the character itself. -/
theorem isAlpha_toUpper_or_eq (c : Char) : c.toUpper.isAlpha = true ∨ c.toUpper = c := by
  delta Char.toUpper
  split
  · next h =>
    simp [UInt32.le_iff_toNat_le] at h
    have hval : c.val.toNat = c.toNat := rfl
    rw [isAlpha_iff]
    simp [← Char.toNat_val, UInt32.toNat_add]
    omega
  · exact .inr rfl

theorem toNat_le_of_isBlank {c : Char} (hc : isAscii c = true) (h : isBlank c = true) :
    c.toNat ≤ 32 := by
  rw [isBlank, if_pos hc] at h
  simp only [Bool.or_eq_true, Bool.and_eq_true, beq_iff_eq, decide_eq_true_eq] at h
  rcases h with rfl | ⟨-, h⟩
  · decide
  · omega

theorem lt_toNat_of_isLetterOrNumber {c : Char} (hc : isAscii c = true)
    (h : isLetterOrNumber c = true) : 32 < c.toNat := by
  rw [isLetterOrNumber, isLetter, isNumber, if_pos hc, if_pos hc, Bool.or_eq_true, isAlpha_iff] at h
  simp [Char.isDigit, UInt32.le_iff_toNat_le] at h
  omega

/-! ## White space -/

theorem isLetterOrNumber_eq_false_of_isBlank {c : Char} (h : isBlank c = true) :
    isLetterOrNumber c = false := by
  cases hc : isAscii c with
  | true =>
    rw [Bool.eq_false_iff, ne_eq]
    intro hletter
    have hle := toNat_le_of_isBlank hc h
    have hlt := lt_toNat_of_isLetterOrNumber hc hletter
    omega
  | false =>
    obtain ⟨hletters, hnumbers⟩ := Bool.and_eq_true_iff.mp disjoint_blanks
    rw [isBlank, hc] at h
    simp [isLetterOrNumber, isLetter, isNumber, hc, Ranges.mem_eq_false_of_disjoint hletters h,
      Ranges.mem_eq_false_of_disjoint hnumbers h]

theorem isIdentifierPart_eq_false_of_isBlank {c : Char} (h : isBlank c = true) :
    isIdentifierPart c = false := by
  have hne : c ≠ '_' ∧ c ≠ '$' := by
    constructor <;> rintro rfl <;> exact absurd h (by decide)
  simp [isIdentifierPart, isLetterOrNumber_eq_false_of_isBlank h, hne]

end JavaBuilder.Unicode
