import JavaBuilder.Proofs.Layout.Scan
import JavaBuilder.Proofs.Text.Segments

/-!
# The depth of braces

How deep a text is nested at its end, by the braces that the layout counts line by line. Since the
beginning of a text is a text itself, this also says how deep any place in a text is nested.

The layout computes with natural numbers, so a line that closed more than is open would be indented
as if it had not. `neverSaturates_of_height` rules this out for texts whose depth is nowhere below
zero.
-/

namespace JavaBuilder.Java

open Text DyckStep LineState

/-- The depth of braces at the end of a text. -/
def braceDepth (cs : List Char) : Int :=
  ((textLines cs).map fun line ↦
    let b := Braces.ofLine (trimStart (trimEnd line))
    (b.opening : Int) - b.closing).sum

/-- Indenting lines from a depth, no line closes more than is open. -/
def NeverSaturates : Nat → List (List Char) → Prop
  | _, [] => True
  | depth, line :: rest =>
    let content := trimEnd line
    if content = [] then NeverSaturates depth rest
    else
      let b := Braces.ofLine (trimStart content)
      b.leading ≤ depth ∧ b.closing ≤ depth + b.opening ∧
        NeverSaturates (depth + b.opening - b.closing) rest

/-! ## Steps up and down -/

/-- How far steps lead up. -/
def height (w : List DyckStep) : Int := (w.count U : Int) - w.count D

@[simp] theorem height_nil : height [] = 0 := rfl

@[simp] theorem height_append (v w : List DyckStep) : height (v ++ w) = height v + height w := by
  simp only [height, List.count_append]
  omega

/-- The beginning of a balanced sequence never leads below its start. -/
theorem height_nonneg_of_prefix (w : DyckWord) {v : List DyckStep} (h : v <+: w.toList) :
    0 ≤ height v := by
  have hcount := w.count_D_le_count_U v.length
  rw [← List.prefix_iff_eq_take.mp h] at hcount
  simp only [height]
  omega

theorem height_dyckWord (w : DyckWord) : height w.toList = 0 := by
  simp [height, w.count_U_eq_count_D]

/-! ## Lines -/

theorem braces_joinSegments (s : LineState) (line : List Char) (lines : List (List Char)) :
    s.braces (joinSegments '\n' (line :: lines)) =
      s.braces line ++ lines.flatMap indent.braces := by
  induction lines generalizing s line with
  | nil => simp [joinSegments]
  | cons next rest ih =>
    rw [joinSegments, braces_append, braces, step_newline, List.nil_append, ih, List.flatMap_cons]

/-- The machine reads a text line by line. -/
theorem flatMap_braces_segments (cs : List Char) :
    (segments '\n' cs).flatMap indent.braces = indent.braces cs := by
  conv_rhs => rw [← joinSegments_segments '\n' cs]
  cases hs : segments '\n' cs with
  | nil => exact absurd hs (segments_ne_nil _ _)
  | cons line lines => rw [braces_joinSegments, List.flatMap_cons]

theorem flatMap_braces_textLines (cs : List Char) :
    (textLines cs).flatMap indent.braces = indent.braces cs := by
  rw [← flatMap_braces_segments]
  simp only [textLines]
  split
  · next hlast =>
    conv_rhs => rw [← List.dropLast_append_getLast? [] hlast]
    simp
  · rfl

theorem not_mem_of_mem_textLines {cs line : List Char} (h : line ∈ textLines cs) :
    '\n' ∉ line := by
  simp only [textLines] at h
  split at h
  · exact not_mem_of_mem_segments (List.mem_of_mem_dropLast h)
  · exact not_mem_of_mem_segments h

/-- The depth of a text is what its braces lead up to. -/
theorem braceDepth_eq (cs : List Char) : braceDepth cs = height (indent.braces cs) := by
  rw [← flatMap_braces_textLines]
  have hlines : ∀ line ∈ textLines cs, '\n' ∉ line := fun _ h ↦ not_mem_of_mem_textLines h
  rw [braceDepth]
  generalize textLines cs = lines at hlines ⊢
  induction lines with
  | nil => rfl
  | cons line rest ih =>
    have htally := Braces.tally_ofLine (hlines line (by simp))
    have hline : height (indent.braces line) =
        ((Braces.ofLine (trimStart (trimEnd line))).opening : Int) -
          (Braces.ofLine (trimStart (trimEnd line))).closing := by
      rw [htally.opening, htally.closing, height]
    rw [List.map_cons, List.sum_cons, List.flatMap_cons, height_append,
      ih fun l hl ↦ hlines l (List.mem_cons_of_mem _ hl), hline]

/-! ## The depth of the layout -/

/-- The depth after indenting lines. -/
def depthAfter : Nat → List (List Char) → Nat
  | depth, [] => depth
  | depth, line :: rest =>
    let content := trimEnd line
    if content = [] then depthAfter depth rest
    else
      let b := Braces.ofLine (trimStart content)
      depthAfter (depth + b.opening - b.closing) rest

/-- A line without white space at the end has no braces if there is nothing on it. -/
theorem braces_of_trimEnd_eq_nil {line : List Char} (h : trimEnd line = []) :
    indent.braces line = [] := by
  rw [← braces_trimEnd, h, braces_nil]

/-- **Where the braces never lead below zero, the layout never saturates.** -/
theorem neverSaturates_of_height (depth : Nat) {lines : List (List Char)}
    (hlines : ∀ line ∈ lines, '\n' ∉ line)
    (h : ∀ v, v <+: lines.flatMap indent.braces → 0 ≤ depth + height v) :
    NeverSaturates depth lines ∧
      (depthAfter depth lines : Int) = depth + height (lines.flatMap indent.braces) := by
  -- Line by line: the depth in front of the rest is that after the line.
  induction lines generalizing depth with
  | nil => simp [NeverSaturates, depthAfter]
  | cons line rest ih =>
    have hrest : ∀ l ∈ rest, '\n' ∉ l := fun l hl ↦ hlines l (List.mem_cons_of_mem _ hl)
    rw [List.flatMap_cons] at h
    rw [NeverSaturates, depthAfter, List.flatMap_cons, height_append]
    by_cases hcontent : trimEnd line = []
    · rw [braces_of_trimEnd_eq_nil hcontent] at h ⊢
      simpa [hcontent] using ih _ hrest h
    · have htally := Braces.tally_ofLine (hlines line (by simp))
      have hleading := h _ (htally.leading.trans (List.prefix_append _ _))
      have hline := h _ (List.prefix_append (indent.braces line) (rest.flatMap indent.braces))
      have hheight : height (indent.braces line) = (indent.braces line).count U -
          (indent.braces line).count D := rfl
      rw [← htally.opening, ← htally.closing] at hheight
      simp only [if_neg hcontent]
      set b := Braces.ofLine (trimStart (trimEnd line)) with hb
      have hnext : ((depth + b.opening - b.closing : Nat) : Int) =
          depth + height (indent.braces line) := by omega
      have hreplicate : height (List.replicate b.leading D) = -b.leading := by
        simp [height, List.count_replicate]
      have hprefix : ∀ v, v <+: rest.flatMap indent.braces →
          0 ≤ ((depth + b.opening - b.closing : Nat) : Int) + height v := by
        intro v hv
        have := h _ ((List.prefix_append_right_inj (indent.braces line)).mpr hv)
        rw [height_append] at this
        omega
      obtain ⟨hsaturates, hdepth⟩ := ih _ hrest hprefix
      refine ⟨⟨by omega, by omega, hsaturates⟩, ?_⟩
      rw [hdepth, hnext]
      omega

end JavaBuilder.Java
