import JavaBuilder.Proofs.Disk.Following

/-!
# The parts of a path

The parts of a path are its segments without those that change nothing. Going on from a path with names
adds them to its parts, whether it is written with a slash at its end or not, so paths that go on from the
same one are told apart and put in order by their names.
-/

namespace JavaBuilder.Disk.FilePath

open Text

variable {p : FilePath} {names : List String} {s : String}

/-- The segments of a path that say something. -/
def named (p : FilePath) : List String := p.segments.filter fun s ↦ s ≠ "" ∧ s ≠ "."

/-- After a slash at the end of a path stands an empty segment, which is not gone on from. -/
theorem segments_of_slash (h : p.text.toList.getLast? = some '/') :
    p.segments = p.leading ++ [""] ∧ p.leading ≠ [] := by
  obtain ⟨cs, hcs⟩ := List.getLast?_eq_some_iff.mp h
  have hsegments : p.segments = split '/' (String.ofList cs) ++ [""] := by
    rw [segments, split, split, hcs, String.toList_ofList, segments_append_sep]
    simp
  have hempty : p.text ≠ "" := by
    intro hempty
    rw [hempty] at h
    cases h
  rw [leading, if_neg hempty, if_pos h, hsegments, List.dropLast_concat]
  exact ⟨rfl, by simp [split, segments_ne_nil]⟩

/-- Nothing that says something is lost at the end of a path that is gone on from. -/
theorem named_leading : (p.leading.filter fun s ↦ s ≠ "" ∧ s ≠ ".") = p.named := by
  rw [named]
  by_cases hslash : p.text.toList.getLast? = some '/'
  · rw [(segments_of_slash hslash).1, List.filter_append]
    simp
  · by_cases hempty : p.text = ""
    · rw [leading, if_pos hempty, segments, hempty]
      rfl
    · rw [leading, if_neg hempty, if_neg hslash]

theorem segments_name (h : IsName s) : (⟨s⟩ : FilePath).segments = [s] := by
  rw [segments, split, segments_of_not_mem h.no_slash]
  simp

theorem isAbsolute_name (h : IsName s) : (⟨s⟩ : FilePath).isAbsolute = false :=
  decide_eq_false fun hhead ↦ h.no_slash (List.mem_of_mem_head? hhead)

/-- A path that is gone on from starts as it did, with a `.` or without. -/
theorem head?_leading_append (h : IsName s) :
    (p.leading ++ [s]).head? = some "." ↔ p.segments.head? = some "." := by
  by_cases hslash : p.text.toList.getLast? = some '/'
  · obtain ⟨hsegments, hne⟩ := segments_of_slash hslash
    rw [hsegments, List.head?_append_of_ne_nil _ hne, List.head?_append_of_ne_nil _ hne]
  · by_cases hempty : p.text = ""
    · rw [leading, if_pos hempty, segments, hempty]
      simp [h.ne_dot, show split '/' "" = [""] from rfl]
    · have hne : p.segments ≠ [] := by simp [segments, split, segments_ne_nil]
      rw [leading, if_neg hempty, if_neg hslash, List.head?_append_of_ne_nil _ hne]

theorem parts_join_name (h : IsName s) : (p.join ⟨s⟩).parts = p.parts ++ [s] := by
  have hrelative := isAbsolute_name h
  have hnamed : ((p.leading ++ [s]).filter fun s ↦ s ≠ "" ∧ s ≠ ".") = p.named ++ [s] := by
    rw [List.filter_append, named_leading]
    simp [h.ne_empty, h.ne_dot]
  rw [parts, parts, isAbsolute_join hrelative, segments_join hrelative, segments_name h]
  simp only [hnamed, head?_leading_append h]
  rw [← named]
  split_ifs <;> rfl

theorem parts_append (h : ∀ s ∈ names, IsName s) : (p.append names).parts = p.parts ++ names := by
  induction names generalizing p with
  | nil => simp [append]
  | cons s names ih =>
    rw [List.forall_mem_cons] at h
    rw [append, List.foldl_cons, ← append, ih h.2, parts_join_name h.1, List.append_assoc]
    rfl

theorem fileName?_append (hne : names ≠ []) (h : ∀ s ∈ names, IsName s) :
    (p.append names).fileName? = some (names.getLastD "") := by
  have hlast : names.getLast? = some (names.getLastD "") := by
    rw [List.getLastD_eq_getLast?, List.getLast?_eq_some_getLast hne]
    rfl
  have hname := h _ (List.mem_of_getLast? hlast)
  have hslash : names.getLastD "" ≠ "/" := fun hslash ↦ hname.no_slash (hslash ▸ List.mem_singleton_self _)
  rw [fileName?, parts_append h, List.getLast?_append, hlast, Option.some_or]
  simp only [hslash, hname.ne_dot, hname.ne_dots, or_self, if_false]

end JavaBuilder.Disk.FilePath

