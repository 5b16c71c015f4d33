import Mathlib.Data.List.DropRight
import JavaBuilder.Text.Trim

/-!
# Trimming

What trimming takes away is white space only, and trimming twice changes nothing more.
-/

namespace JavaBuilder.Text

open Unicode

variable {cs : List Char} {c : Char}

theorem trimStart_cons_of_isBlank (h : isBlank c = true) : trimStart (c :: cs) = trimStart cs := by
  simp [trimStart, h]

theorem trimStart_cons_of_not_isBlank (h : isBlank c = false) : trimStart (c :: cs) = c :: cs := by
  simp [trimStart, h]

theorem trimEnd_cons_of_not_isBlank (h : isBlank c = false) :
    trimEnd (c :: cs) = c :: trimEnd cs := by
  rw [trimEnd, List.reverse_cons, List.dropWhile_append]
  split
  · next hnil => simp [trimEnd, h, List.isEmpty_iff.mp hnil]
  · simp [trimEnd]

/-- Only white space is dropped at the back. -/
theorem exists_trimEnd_append (cs : List Char) :
    ∃ bs, (∀ b ∈ bs, isBlank b = true) ∧ trimEnd cs ++ bs = cs := by
  refine ⟨(cs.reverse.takeWhile isBlank).reverse, ?_, ?_⟩
  · intro b hb
    exact List.mem_takeWhile_imp (List.mem_reverse.mp hb)
  · rw [trimEnd, ← List.reverse_append, List.takeWhile_append_dropWhile, List.reverse_reverse]

theorem mem_of_mem_trimEnd (h : c ∈ trimEnd cs) : c ∈ cs := by
  obtain ⟨bs, -, hcs⟩ := exists_trimEnd_append cs
  rw [← hcs]
  exact List.mem_append_left bs h

theorem trimEnd_trimEnd (cs : List Char) : trimEnd (trimEnd cs) = trimEnd cs := by
  rw [trimEnd, trimEnd, List.reverse_reverse, List.dropWhile_idempotent]

theorem isBlank_of_trimStart_eq_cons {rest : List Char} (h : trimStart cs = c :: rest) :
    isBlank c = false := by
  have hhead := List.head?_dropWhile_not isBlank cs
  rw [← trimStart, h] at hhead
  simpa using hhead

theorem trimStart_trimEnd_trimStart (cs : List Char) :
    trimStart (trimEnd (trimStart cs)) = trimEnd (trimStart cs) := by
  cases h : trimStart cs with
  | nil => rfl
  | cons c rest =>
    have hc := isBlank_of_trimStart_eq_cons h
    rw [trimEnd_cons_of_not_isBlank hc, trimStart_cons_of_not_isBlank hc]

theorem trim_trim (s : String) : trim (trim s) = trim s := by
  simp only [trim, String.toList_ofList, trimStart_trimEnd_trimStart, trimEnd_trimEnd]

end JavaBuilder.Text
