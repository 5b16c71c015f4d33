import JavaBuilder.Proofs.Layout.Depth

/-!
# The outline of a text

The layout decides two things for each line: how many units of indentation go in front of it, and
what of the line is left. Neither depends on the style. A style only says what a unit of indentation
and the end of a line look like, so whatever two styles disagree on is white space.

`outline` is the layout up to that last step, and `reindent_eq_outline` takes it. What the layout keeps
of a text is then read off the outline: its characters apart from white space
(`withoutBlanks_reindent`), its lines (`textLines_reindent`), and with carriage returns in front of the
line feeds nothing else (`reindent_withReturns`).
-/

namespace JavaBuilder.Java

open Unicode Text DyckStep LineState

/-! ## Lines -/

@[simp] theorem textLines_nil : textLines [] = [] := rfl

/-- The lines of two texts with a line feed between them. -/
theorem textLines_append_newline (cs ds : List Char) :
    textLines (cs ++ '\n' :: ds) = segments '\n' cs ++ textLines ds := by
  have hlast : (segments '\n' cs ++ segments '\n' ds).getLast? = (segments '\n' ds).getLast? := by
    rw [List.getLast?_append_of_ne_nil _ (segments_ne_nil '\n' ds)]
  rw [textLines, textLines, segments_append_sep, hlast]
  split
  · rw [List.dropLast_append_of_ne_nil (segments_ne_nil '\n' ds)]
  · rfl

theorem textLines_cons {line : List Char} (h : '\n' ∉ line) (rest : List Char) :
    textLines (line ++ '\n' :: rest) = line :: textLines rest := by
  rw [textLines_append_newline, segments_of_not_mem h, List.singleton_append]

/-- A text without line feeds is a line, unless it is empty. -/
theorem textLines_of_not_mem {line : List Char} (h : '\n' ∉ line) :
    textLines line = if line = [] then [] else [line] := by
  rw [textLines, segments_of_not_mem h]
  simp

/-- A text is its last line, or a line in front of a text. -/
@[elab_as_elim]
theorem lines_induction {P : List Char → Prop} (last : ∀ line, '\n' ∉ line → P line)
    (cons : ∀ line rest, '\n' ∉ line → P rest → P (line ++ '\n' :: rest)) (cs : List Char) : P cs := by
  have hlines : ∀ line ∈ segments '\n' cs, '\n' ∉ line := fun _ ↦ not_mem_of_mem_segments
  rw [← joinSegments_segments '\n' cs]
  generalize segments '\n' cs = lines at hlines
  induction lines with
  | nil => exact last [] (by simp)
  | cons line lines ih =>
    have hline := hlines line (by simp)
    cases lines with
    | nil => exact last line hline
    | cons next rest => exact cons line _ hline (ih fun l hl ↦ hlines l (List.mem_cons_of_mem line hl))

theorem textLines_flatMap_newline {lines : List (List Char)} (h : ∀ line ∈ lines, '\n' ∉ line) :
    textLines (lines.flatMap (· ++ ['\n'])) = lines := by
  induction lines with
  | nil => rfl
  | cons line lines ih =>
    rw [List.flatMap_cons, List.append_assoc, List.singleton_append, textLines_cons (h line (by simp)),
      ih fun l hl ↦ h l (List.mem_cons_of_mem line hl)]

/-! ## Outlines -/

/-- A line before it gets a style. -/
structure OutlineLine where
  /-- The units of indentation in front of it. -/
  depth : ℕ
  content : List Char
deriving DecidableEq

/-- The line with a unit of indentation. -/
def OutlineLine.chars (i : Indent) (l : OutlineLine) : List Char :=
  (i.times l.depth).toList ++ l.content

/-- Nothing is left to be dropped from the line, and nothing stands in front of a blank line. -/
structure OutlineLine.IsTidy (l : OutlineLine) : Prop where
  newline : '\n' ∉ l.content
  trimmed : trimEnd l.content = l.content
  blank : l.content = [] → l.depth = 0

/-- The outline of lines, the first of them at a depth. -/
def outline : ℕ → List (List Char) → List OutlineLine
  | _, [] => []
  | depth, line :: rest =>
    let content := trimEnd line
    if content = [] then ⟨0, []⟩ :: outline depth rest
    else
      let b := Braces.ofLine (trimStart content)
      ⟨depth - b.leading, content⟩ :: outline (depth + b.opening - b.closing) rest

/-- The text of an outline in a style. -/
def outlineText (i : Indent) (e : LineEnd) (ls : List OutlineLine) : List Char :=
  ls.flatMap fun l ↦ l.chars i ++ e.text.toList

variable (i : Indent) (e : LineEnd) (depth : ℕ) {lines : List (List Char)}

theorem length_outline : (outline depth lines).length = lines.length := by
  induction lines generalizing depth with
  | nil => rfl
  | cons line rest ih =>
    rw [outline]
    split <;> rw [List.length_cons, ih, List.length_cons]

theorem outline_append (ls ms : List (List Char)) :
    outline depth (ls ++ ms) = outline depth ls ++ outline (depthAfter depth ls) ms := by
  induction ls generalizing depth with
  | nil => rfl
  | cons l ls ih =>
    simp only [List.cons_append, outline, depthAfter]
    split <;> rw [ih, List.cons_append]

theorem map_content_outline : (outline depth lines).map (·.content) = lines.map trimEnd := by
  induction lines generalizing depth with
  | nil => rfl
  | cons line rest ih =>
    rw [outline]
    split
    · next hblank => rw [List.map_cons, ih, List.map_cons, hblank]
    · rw [List.map_cons, ih, List.map_cons]

theorem isTidy_of_mem_outline (hlines : ∀ line ∈ lines, '\n' ∉ line) {l : OutlineLine}
    (h : l ∈ outline depth lines) : l.IsTidy := by
  induction lines generalizing depth with
  | nil => cases h
  | cons line rest ih =>
    have hrest : ∀ l ∈ rest, '\n' ∉ l := fun l hl ↦ hlines l (List.mem_cons_of_mem line hl)
    rw [outline] at h
    split at h
    · rcases List.mem_cons.mp h with rfl | h
      · exact ⟨by simp, rfl, fun _ ↦ rfl⟩
      · exact ih _ hrest h
    · next hcontent =>
      rcases List.mem_cons.mp h with rfl | h
      · exact ⟨fun hmem ↦ hlines line (by simp) (mem_of_mem_trimEnd hmem), trimEnd_trimEnd line,
          fun hblank ↦ absurd hblank hcontent⟩
      · exact ih _ hrest h

/-- Only what is left after trimming decides the outline. -/
theorem outline_congr {lines' : List (List Char)} (h : lines.map trimEnd = lines'.map trimEnd) :
    outline depth lines = outline depth lines' := by
  induction lines generalizing depth lines' with
  | nil =>
    obtain rfl := List.map_eq_nil_iff.mp h.symm
    rfl
  | cons line rest ih =>
    cases lines' with
    | nil => cases h
    | cons line' rest' =>
      obtain ⟨hline, hrest⟩ := List.cons.inj h
      have htail (depth : ℕ) : outline depth rest = outline depth rest' := ih depth hrest
      simp only [outline, hline, htail]

theorem outlineText_outline :
    outlineText i e (outline depth lines) = (String.join (indentLines i e depth lines)).toList := by
  induction lines generalizing depth with
  | nil => rfl
  | cons line rest ih =>
    rw [outline, indentLines]
    split
    · rw [String.join_cons, String.toList_append, ← ih]
      rfl
    · rw [String.join_cons, String.toList_append, String.toList_append, String.toList_append,
        String.toList_ofList, ← ih]
      rfl

theorem outlineText_append (ls ms : List OutlineLine) :
    outlineText i e (ls ++ ms) = outlineText i e ls ++ outlineText i e ms :=
  List.flatMap_append

theorem exists_outlineText_eq {ls : List OutlineLine} (h : ls ≠ []) :
    ∃ before, outlineText i e ls = before ++ e.text.toList := by
  rw [← List.dropLast_append_getLast h, outlineText_append]
  refine ⟨outlineText i e ls.dropLast ++ (ls.getLast h).chars i, ?_⟩
  rw [outlineText, outlineText, List.flatMap_singleton, List.append_assoc]

/-! ## Laying out a text -/

/-- The outline of a text. -/
def outlineOf (text : String) : List OutlineLine := outline 0 (textLines text.toList)

variable (text : String)

/-- **A style comes last.** The layout is the outline of the text, written in the style. -/
theorem reindent_eq_outline : (reindent i e text).toList = outlineText i e (outlineOf text) :=
  (outlineText_outline i e 0).symm

theorem isTidy_of_mem_outlineOf {l : OutlineLine} (h : l ∈ outlineOf text) : l.IsTidy :=
  isTidy_of_mem_outline 0 (fun _ ↦ not_mem_of_mem_textLines) h

/-! ### Lines of the result -/

theorem Indent.toList_times (n : ℕ) :
    (i.times n).toList = (List.replicate n i.unit.toList).flatten := by
  induction n with
  | zero => rfl
  | succ n ih =>
    rw [times, List.replicate_succ, String.join_cons, String.toList_append, ← times, ih,
      List.replicate_succ, List.flatten_cons]

theorem Indent.isBlank_of_mem_times {n : ℕ} {c : Char} (h : c ∈ (i.times n).toList) :
    isBlank c = true ∧ c ≠ '\n' ∧ c ≠ '\r' := by
  rw [i.toList_times] at h
  obtain ⟨unit, hunit, hc⟩ := List.mem_flatten.mp h
  rw [List.eq_of_mem_replicate hunit] at hc
  have hchar : c = ' ' ∨ c = '\t' := by
    cases i with
    | two => exact .inl (List.eq_of_mem_replicate (n := 2) hc)
    | four => exact .inl (List.eq_of_mem_replicate (n := 4) hc)
    | tab => exact .inr (List.mem_singleton.mp hc)
  rcases hchar with rfl | rfl <;> decide

namespace OutlineLine

variable {i} {l : OutlineLine}

theorem IsTidy.newline_notMem_chars (h : l.IsTidy) : '\n' ∉ l.chars i := by
  rw [chars, List.mem_append, not_or]
  exact ⟨fun hmem ↦ (i.isBlank_of_mem_times hmem).2.1 rfl, h.newline⟩

theorem IsTidy.getLast?_chars (h : l.IsTidy) {c : Char} (hc : (l.chars i).getLast? = some c) :
    isBlank c = false := by
  by_cases hcontent : l.content = []
  · have hnil : l.chars i = [] := by
      rw [chars, hcontent, h.blank hcontent]
      rfl
    rw [hnil] at hc
    cases hc
  · rw [chars, List.getLast?_append_of_ne_nil _ hcontent, ← h.trimmed, trimEnd,
      List.getLast?_reverse] at hc
    have hhead := List.head?_dropWhile_not isBlank l.content.reverse
    rw [hc] at hhead
    simpa using hhead

end OutlineLine

/-- The lines of the result are those of the outline. With CR LF, the carriage returns are theirs. -/
theorem textLines_reindent : textLines (reindent i e text).toList =
    (outlineOf text).map fun l ↦ l.chars i ++ e.text.toList.dropLast := by
  have hend : e.text.toList = e.text.toList.dropLast ++ ['\n'] ∧ '\n' ∉ e.text.toList.dropLast := by
    cases e <;> decide
  have hlines : outlineText i e (outlineOf text) =
      ((outlineOf text).map fun l ↦ l.chars i ++ e.text.toList.dropLast).flatMap (· ++ ['\n']) := by
    rw [outlineText, List.flatMap_map, hend.1]
    simp only [List.append_assoc, List.dropLast_concat]
  rw [reindent_eq_outline, hlines, textLines_flatMap_newline]
  intro line hline
  obtain ⟨l, hl, rfl⟩ := List.mem_map.mp hline
  rw [List.mem_append, not_or]
  exact ⟨(isTidy_of_mem_outlineOf text hl).newline_notMem_chars, hend.2⟩

theorem length_outlineOf : (outlineOf text).length = (textLines text.toList).length :=
  length_outline 0

theorem length_textLines_reindent :
    (textLines (reindent i e text).toList).length = (textLines text.toList).length := by
  rw [textLines_reindent, List.length_map, length_outlineOf]

/-- Every line ends as it should, and with nothing more of a line end. -/
theorem exists_lines_reindent :
    ∃ lines : List (List Char), (reindent i e text).toList = lines.flatMap (· ++ e.text.toList) ∧
      ∀ line ∈ lines, '\n' ∉ line ∧ line.getLast? ≠ some '\r' := by
  refine ⟨(outlineOf text).map (·.chars i), ?_, ?_⟩
  · rw [reindent_eq_outline, outlineText, List.flatMap_map]
  · intro line hline
    obtain ⟨l, hl, rfl⟩ := List.mem_map.mp hline
    have htidy := isTidy_of_mem_outlineOf text hl
    refine ⟨htidy.newline_notMem_chars, fun hreturn ↦ ?_⟩
    exact absurd (htidy.getLast?_chars hreturn) (by decide)

/-! ### The last line -/

/-- **The last line**: where it closes the only open brace, it is indented to a lone brace. -/
theorem reindent_closingLine {cs : List Char}
    (hnonneg : ∀ v, v <+: indent.braces cs → 0 ≤ height v) (hone : height (indent.braces cs) = 1) :
    ∃ before, reindent i e (String.ofList (cs ++ '\n' :: ['}', '\n'])) =
      before ++ e.text ++ "\x7d" ++ e.text := by
  have hlines : ∀ line ∈ segments '\n' cs, '\n' ∉ line := fun _ h ↦ not_mem_of_mem_segments h
  obtain ⟨-, hdepth⟩ := neverSaturates_of_height 0 hlines <| by
    rw [flatMap_braces_segments]
    simpa using hnonneg
  rw [flatMap_braces_segments, hone] at hdepth
  have hopen : depthAfter 0 (segments '\n' cs) = 1 := by omega
  have hne : outline 0 (segments '\n' cs) ≠ [] := by
    rw [← List.length_pos_iff, length_outline, List.length_pos_iff]
    exact segments_ne_nil '\n' cs
  obtain ⟨before, hbefore⟩ := exists_outlineText_eq i e hne
  have hlast : outlineText i e (outline 1 (textLines ['}', '\n'])) = '}' :: e.text.toList := by
    cases i <;> cases e <;> decide
  refine ⟨String.ofList before, ?_⟩
  rw [← String.toList_inj, reindent_eq_outline, outlineOf, String.toList_ofList,
    textLines_append_newline, outline_append, hopen, outlineText_append, hbefore, hlast]
  simp

/-! ### White space -/

/-- A text without its white space. -/
def withoutBlanks (cs : List Char) : List Char := cs.filter (!isBlank ·)

theorem withoutBlanks_append (cs ds : List Char) :
    withoutBlanks (cs ++ ds) = withoutBlanks cs ++ withoutBlanks ds :=
  List.filter_append ..

theorem withoutBlanks_of_isBlank {cs : List Char} (h : ∀ c ∈ cs, isBlank c = true) :
    withoutBlanks cs = [] :=
  List.filter_eq_nil_iff.mpr fun c hc ↦ by simp [h c hc]

theorem withoutBlanks_trimEnd (cs : List Char) : withoutBlanks (trimEnd cs) = withoutBlanks cs := by
  obtain ⟨bs, hblank, hcs⟩ := exists_trimEnd_append cs
  conv_rhs => rw [← hcs, withoutBlanks_append, withoutBlanks_of_isBlank hblank, List.append_nil]

theorem flatMap_withoutBlanks_textLines (cs : List Char) :
    (textLines cs).flatMap withoutBlanks = withoutBlanks cs := by
  induction cs using lines_induction with
  | last line h =>
    rw [textLines_of_not_mem h]
    split
    · next hline => rw [hline]; rfl
    · rw [List.flatMap_singleton]
  | cons line rest h ih =>
    rw [textLines_cons h, List.flatMap_cons, ih, withoutBlanks_append]
    rfl

theorem withoutBlanks_outlineText (ls : List OutlineLine) :
    withoutBlanks (outlineText i e ls) = ls.flatMap fun l ↦ withoutBlanks l.content := by
  have hend : withoutBlanks e.text.toList = [] := by
    cases e <;> decide
  induction ls with
  | nil => rfl
  | cons l ls ih =>
    rw [outlineText, List.flatMap_cons, withoutBlanks_append, ← outlineText, ih, withoutBlanks_append,
      OutlineLine.chars, withoutBlanks_append, hend,
      withoutBlanks_of_isBlank fun c hc ↦ (i.isBlank_of_mem_times hc).1, List.nil_append,
      List.append_nil, List.flatMap_cons]

/-- The layout changes nothing but white space. -/
theorem withoutBlanks_reindent :
    withoutBlanks (reindent i e text).toList = withoutBlanks text.toList := by
  have hcontent : (outlineOf text).flatMap (fun l ↦ withoutBlanks l.content) =
      ((textLines text.toList).map trimEnd).flatMap withoutBlanks := by
    rw [← map_content_outline 0, List.flatMap_map, outlineOf]
  rw [reindent_eq_outline, withoutBlanks_outlineText, hcontent, List.flatMap_map]
  simp only [withoutBlanks_trimEnd]
  exact flatMap_withoutBlanks_textLines _

/-! ### Carriage returns -/

/-- A text with a carriage return in front of each line feed. -/
def withReturns (cs : List Char) : List Char :=
  cs.flatMap fun c ↦ if c = '\n' then ['\r', '\n'] else [c]

theorem withReturns_append (cs ds : List Char) :
    withReturns (cs ++ ds) = withReturns cs ++ withReturns ds :=
  List.flatMap_append ..

theorem withReturns_of_not_mem {cs : List Char} (h : '\n' ∉ cs) : withReturns cs = cs := by
  induction cs with
  | nil => rfl
  | cons c cs ih =>
    obtain ⟨hc, hcs⟩ := List.ne_and_not_mem_of_not_mem_cons h
    rw [withReturns, List.flatMap_cons, if_neg hc.symm, ← withReturns, ih hcs, List.singleton_append]

/-- The two ends of a line differ by a carriage return. -/
theorem reindent_crlf :
    (reindent i .crlf text).toList = withReturns (reindent i .lf text).toList := by
  have htidy : ∀ l ∈ outlineOf text, l.IsTidy := fun _ ↦ isTidy_of_mem_outlineOf text
  rw [reindent_eq_outline, reindent_eq_outline]
  generalize outlineOf text = ls at htidy
  induction ls with
  | nil => rfl
  | cons l ls ih =>
    have hline : withReturns (l.chars i) = l.chars i :=
      withReturns_of_not_mem (htidy l (by simp)).newline_notMem_chars
    have hends : withReturns LineEnd.lf.text.toList = LineEnd.crlf.text.toList := by decide
    rw [outlineText, outlineText, List.flatMap_cons, List.flatMap_cons, withReturns_append,
      withReturns_append, hline, hends, ← outlineText, ← outlineText,
      ih fun l' hl' ↦ htidy l' (List.mem_cons_of_mem l hl')]

theorem trimEnd_append_return (cs : List Char) : trimEnd (cs ++ ['\r']) = trimEnd cs := by
  have hreturn : isBlank '\r' = true := by decide
  rw [trimEnd, List.reverse_append, List.reverse_singleton, List.singleton_append, List.dropWhile_cons,
    if_pos hreturn, trimEnd]

/-- A carriage return in front of a line feed is white space at the end of a line. -/
theorem map_trimEnd_textLines_withReturns (cs : List Char) :
    (textLines (withReturns cs)).map trimEnd = (textLines cs).map trimEnd := by
  induction cs using lines_induction with
  | last line h => rw [withReturns_of_not_mem h]
  | cons line rest h ih =>
    have hreturn : '\n' ∉ line ++ ['\r'] := by
      rw [List.mem_append, not_or]
      exact ⟨h, by decide⟩
    have hrest : withReturns (line ++ '\n' :: rest) = (line ++ ['\r']) ++ '\n' :: withReturns rest := by
      rw [withReturns_append, withReturns_of_not_mem h, List.append_assoc]
      rfl
    rw [hrest, textLines_cons hreturn, textLines_cons h, List.map_cons, List.map_cons, ih,
      trimEnd_append_return]

/-- It makes no difference how the lines of a text end. -/
theorem reindent_withReturns :
    reindent i e (String.ofList (withReturns text.toList)) = reindent i e text := by
  have houtline : outlineOf (String.ofList (withReturns text.toList)) = outlineOf text := by
    rw [outlineOf, String.toList_ofList]
    exact outline_congr 0 (map_trimEnd_textLines_withReturns _)
  rw [← String.toList_inj, reindent_eq_outline, houtline, reindent_eq_outline]

end JavaBuilder.Java
