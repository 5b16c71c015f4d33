import Mathlib.Tactic.SplitIfs
import JavaBuilder.Text.Segments

/-!
# Cutting what has been joined

Where the parts hold no separator, cutting what has been joined gives them back. Where they hold some,
it cuts each of the parts as well, so two joined texts are the same if and only if all the pieces are.
-/

namespace JavaBuilder.Text

variable {α : Type} (sep : α)

theorem exists_joinSegments_cons (s : List α) (ss : List (List α)) :
    ∃ rest, joinSegments sep (s :: ss) = s ++ rest := by
  cases ss with
  | nil => exact ⟨[], (List.append_nil s).symm⟩
  | cons t ts => exact ⟨_, rfl⟩

theorem joinSegments_append {ss ts : List (List α)} (hs : ss ≠ []) (ht : ts ≠ []) :
    joinSegments sep (ss ++ ts) = joinSegments sep ss ++ sep :: joinSegments sep ts := by
  induction ss with
  | nil => exact absurd rfl hs
  | cons s ss ih =>
    cases ss with
    | nil =>
      cases ts with
      | nil => exact absurd rfl ht
      | cons t ts => rfl
    | cons u us =>
      rw [List.cons_append, List.cons_append, joinSegments, ← List.cons_append, ih (by simp),
        joinSegments, List.append_assoc, List.cons_append]

/-- The parts of a joined text are parts of it. -/
theorem infix_joinSegments {s : List α} {ss : List (List α)} (h : s ∈ ss) :
    s <:+: joinSegments sep ss := by
  induction ss with
  | nil => cases h
  | cons t ts ih =>
    rcases List.mem_cons.mp h with rfl | h
    · obtain ⟨rest, hrest⟩ := exists_joinSegments_cons sep s ts
      exact hrest ▸ List.infix_append' [] s rest
    · cases ts with
      | nil => cases h
      | cons u us =>
        exact (ih h).trans ((List.suffix_cons sep _).trans (List.suffix_append t _)).isInfix

theorem infix_of_mem_segments [DecidableEq α] {s cs : List α} (h : s ∈ segments sep cs) :
    s <:+: cs :=
  joinSegments_segments sep cs ▸ infix_joinSegments sep h

theorem segments_append_sep [DecidableEq α] (s cs : List α) :
    segments sep (s ++ sep :: cs) = segments sep s ++ segments sep cs := by
  induction s with
  | nil => simp [segments]
  | cons c s ih =>
    rw [List.cons_append, segments, segments, ih]
    split_ifs
    · rfl
    · cases hs : segments sep s with
      | nil => exact absurd hs (segments_ne_nil sep s)
      | cons t ts => rfl

theorem length_segments [DecidableEq α] (cs : List α) :
    (segments sep cs).length = cs.count sep + 1 := by
  induction cs with
  | nil => rfl
  | cons c cs ih =>
    by_cases hc : c = sep
    · rw [segments, if_pos hc, hc, List.count_cons_self, List.length_cons, ih]
    · rw [segments, if_neg hc, List.count_cons_of_ne hc, ← ih]
      cases hs : segments sep cs with
      | nil => exact absurd hs (segments_ne_nil sep cs)
      | cons t ts => rfl

theorem segments_joinSegments_flatMap [DecidableEq α] {ss : List (List α)} (hne : ss ≠ []) :
    segments sep (joinSegments sep ss) = ss.flatMap (segments sep) := by
  induction ss with
  | nil => exact absurd rfl hne
  | cons s ss ih =>
    cases ss with
    | nil => simp [joinSegments]
    | cons t ts =>
      rw [joinSegments, segments_append_sep, ih (by simp)]
      rfl

/-- Cutting a joined text cuts each of its parts. -/
theorem split_join_flatMap (sep : Char) {ss : List String} (hne : ss ≠ []) :
    split sep (join sep ss) = ss.flatMap (split sep) := by
  rw [split, join, String.toList_ofList, segments_joinSegments_flatMap sep (by simpa using hne),
    List.flatMap_map, List.map_flatMap]
  rfl

theorem join_eq_join_iff (sep : Char) {ss ts : List String} (hs : ss ≠ []) (ht : ts ≠ []) :
    join sep ss = join sep ts ↔ ss.flatMap (split sep) = ts.flatMap (split sep) := by
  rw [← split_join_flatMap sep hs, ← split_join_flatMap sep ht]
  refine ⟨congrArg (split sep), fun h ↦ ?_⟩
  rw [← join_split sep (join sep ss), h, join_split]

end JavaBuilder.Text
