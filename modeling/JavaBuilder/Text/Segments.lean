/-!
# Separated segments

Dotted names, paths and lines are sequences of segments around a separator character.
`segments` cuts at every separator, so a text with `n` separators has `n + 1` segments, and the
empty text has one empty segment. `joinSegments` is its inverse in both directions: on every text,
and on every nonempty sequence whose segments are free of the separator.
-/

namespace JavaBuilder.Text

variable {α : Type}

/-- Cut a text at every separator. -/
def segments [DecidableEq α] (sep : α) : List α → List (List α)
  | [] => [[]]
  | c :: cs =>
    if c = sep then [] :: segments sep cs
    else
      match segments sep cs with
      | [] => [[c]]
      | s :: ss => (c :: s) :: ss

/-- Put a separator between each two segments. -/
def joinSegments (sep : α) : List (List α) → List α
  | [] => []
  | [s] => s
  | s :: t :: ss => s ++ sep :: joinSegments sep (t :: ss)

theorem mem_joinSegments {sep c : α} {ss : List (List α)} (h : c ∈ joinSegments sep ss) :
    c = sep ∨ ∃ s ∈ ss, c ∈ s := by
  induction ss with
  | nil => simp [joinSegments] at h
  | cons s ss ih =>
    cases ss with
    | nil => exact .inr ⟨s, by simp, h⟩
    | cons t ts =>
      rw [joinSegments, List.mem_append, List.mem_cons] at h
      rcases h with h | h | h
      · exact .inr ⟨s, by simp, h⟩
      · exact .inl h
      · obtain hsep | ⟨u, hu, hc⟩ := ih h
        · exact .inl hsep
        · exact .inr ⟨u, List.mem_cons_of_mem s hu, hc⟩

variable [DecidableEq α]

@[simp] theorem segments_nil (sep : α) : segments sep [] = [[]] := rfl

theorem segments_ne_nil (sep : α) (cs : List α) : segments sep cs ≠ [] := by
  cases cs with
  | nil => simp
  | cons c cs =>
    unfold segments
    split
    · simp
    · split <;> simp

theorem joinSegments_segments (sep : α) (cs : List α) :
    joinSegments sep (segments sep cs) = cs := by
  induction cs with
  | nil => rfl
  | cons c cs ih =>
    unfold segments
    split
    · next h =>
      cases hs : segments sep cs with
      | nil => exact absurd hs (segments_ne_nil sep cs)
      | cons s ss => rw [hs] at ih; simp [joinSegments, ih, h]
    · split
      · next hs => exact absurd hs (segments_ne_nil sep cs)
      · next s ss hs =>
        rw [hs] at ih
        cases ss with
        | nil => simpa [joinSegments] using ih
        | cons t ts => simpa [joinSegments] using ih

theorem segments_of_not_mem {sep : α} {cs : List α} (h : sep ∉ cs) :
    segments sep cs = [cs] := by
  induction cs with
  | nil => rfl
  | cons c cs ih =>
    simp only [List.mem_cons, not_or] at h
    unfold segments
    rw [if_neg (Ne.symm h.1), ih h.2]

/-- A segment followed by a separator is cut off. -/
theorem segments_append_cons {sep : α} {s : List α} (h : sep ∉ s) (cs : List α) :
    segments sep (s ++ sep :: cs) = s :: segments sep cs := by
  induction s with
  | nil => simp [segments]
  | cons c s ih =>
    simp only [List.mem_cons, not_or] at h
    rw [List.cons_append, segments, if_neg (Ne.symm h.1), ih h.2]

theorem segments_joinSegments {sep : α} {ss : List (List α)} (hne : ss ≠ [])
    (h : ∀ s ∈ ss, sep ∉ s) : segments sep (joinSegments sep ss) = ss := by
  induction ss with
  | nil => exact absurd rfl hne
  | cons s ss ih =>
    cases ss with
    | nil => exact segments_of_not_mem (h s (by simp))
    | cons t ts =>
      rw [joinSegments, segments_append_cons (h s (by simp)),
        ih (by simp) fun u hu ↦ h u (List.mem_cons_of_mem _ hu)]

theorem not_mem_of_mem_segments {sep : α} {cs s : List α} (hs : s ∈ segments sep cs) :
    sep ∉ s := by
  induction cs generalizing s with
  | nil => simp only [segments_nil, List.mem_singleton] at hs; simp [hs]
  | cons c cs ih =>
    unfold segments at hs
    split at hs
    · rcases List.mem_cons.1 hs with rfl | hs
      · simp
      · exact ih hs
    · next hc =>
      split at hs
      · simp only [List.mem_singleton] at hs
        simpa [hs] using Ne.symm hc
      · next t ts ht =>
        rcases List.mem_cons.1 hs with rfl | hs
        · simp only [List.mem_cons, not_or]
          exact ⟨Ne.symm hc, ih (by simp [ht])⟩
        · exact ih (by simp [ht, hs])

def split (sep : Char) (s : String) : List String := (segments sep s.toList).map String.ofList

/-- Strings with a separator between each two of them. -/
def join (sep : Char) (ss : List String) : String :=
  String.ofList (joinSegments sep (ss.map String.toList))

theorem join_split (sep : Char) (s : String) : join sep (split sep s) = s := by
  simp [join, split, List.map_map, Function.comp_def, joinSegments_segments]

theorem split_join {sep : Char} {ss : List String} (hne : ss ≠ [])
    (h : ∀ s ∈ ss, sep ∉ s.toList) : split sep (join sep ss) = ss := by
  have hmap : ∀ t ∈ ss.map String.toList, sep ∉ t := by
    intro t ht
    obtain ⟨s, hs, rfl⟩ := List.mem_map.1 ht
    exact h s hs
  rw [split, join, String.toList_ofList, segments_joinSegments (by simpa using hne) hmap]
  simp [List.map_map, Function.comp_def]

end JavaBuilder.Text
