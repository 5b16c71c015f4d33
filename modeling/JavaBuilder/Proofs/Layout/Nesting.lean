import JavaBuilder.Proofs.Layout.Outline

/-!
# Indentation is nesting depth

The layout goes through a text line by line, with three numbers for each line and a depth that cannot
get below zero. How deep a line really is can be said without any of that: read the text once from its
start to right behind the closing braces that the line starts with, and take the opening braces from the
closing ones. `reindent_eq_nesting` says that the two agree, wherever no beginning of the text closes
more than it opens.

Both readings are brought together at the start of a line. There the reader has forgotten the lines
before (`LineState.after_of_ended`), and up to there the layout has not saturated
(`neverSaturates_of_height`); what is left is a line by itself (`Braces.leading_ofLine`).
-/

namespace JavaBuilder.Java

open Unicode Text DyckStep LineState

/-! ## Beginnings -/

namespace LineState

variable {s : LineState} {c : Char} {cs : List Char}

theorem length_codeStep_snd_le : (codeStep c).2.length ≤ 1 := by
  unfold codeStep
  repeat' split
  all_goals simp

theorem length_step_snd_le : (s.step c).2.length ≤ 1 := by
  have hcode := length_codeStep_snd_le (c := c)
  unfold step
  repeat' split
  all_goals first | exact hcode | exact Nat.zero_le 1

/-- The first braces of a text are the braces of a beginning of it. -/
theorem exists_prefix_of_prefix_braces {w : List DyckStep} (h : w <+: s.braces cs) :
    ∃ v, v <+: cs ∧ s.braces v = w := by
  induction cs generalizing s w with
  | nil => exact ⟨[], List.prefix_rfl, (List.prefix_nil.mp h).symm⟩
  | cons c cs ih =>
    by_cases hw : w = []
    · exact ⟨[], List.nil_prefix, hw.symm⟩
    -- The character has at most one brace, so all it has is in front of `w`.
    have hlength : (s.step c).2.length ≤ w.length :=
      length_step_snd_le.trans (List.length_pos_iff.mpr hw)
    obtain ⟨w', rfl⟩ := List.prefix_of_prefix_length_le (List.prefix_append _ _) h hlength
    obtain ⟨v, hv, rfl⟩ := ih ((List.prefix_append_right_inj _).mp h)
    exact ⟨c :: v, (List.prefix_cons_inj c).mpr hv, rfl⟩

/-- A text whose last line is ended leaves the reader at the start of a line. -/
theorem after_of_ended (h : cs = [] ∨ cs.getLast? = some '\n') : indent.after cs = indent := by
  rcases h with rfl | h
  · rfl
  · rw [← List.dropLast_append_getLast? _ h, after_append, after, step_newline, after_nil]

end LineState

/-! ## The front of a line -/

/-- White space, or a closing brace. -/
def isCloser (c : Char) : Bool := isBlank c || c == '}'

/-- What a line starts with up to the last of its leading closing braces, and white space behind it. -/
def closers (line : List Char) : List Char := line.takeWhile isCloser

theorem isCloser_of_isBlank {c : Char} (h : isBlank c = true) : isCloser c = true := by
  rw [isCloser, h, Bool.true_or]

/-- The reader finds every closing brace that only white space and closing braces stand in front of. -/
theorem LineState.braces_of_isCloser {s : LineState} (hs : s.IsOpen) {cs : List Char}
    (hnewline : '\n' ∉ cs) (h : ∀ c ∈ cs, isCloser c = true) :
    s.braces cs = List.replicate (cs.count '}') D := by
  induction cs generalizing s with
  | nil => rfl
  | cons c cs ih =>
    obtain ⟨hc, hcs⟩ := List.ne_and_not_mem_of_not_mem_cons hnewline
    have hrest : ∀ c ∈ cs, isCloser c = true := fun d hd ↦ h d (List.mem_cons_of_mem c hd)
    by_cases hclose : c = '}'
    · subst hclose
      have hstep : s.step '}' = (middle, [D]) := by
        rcases hs with rfl | rfl <;> decide
      rw [braces, hstep, ih isOpen_middle hcs hrest, List.count_cons_self, List.replicate_succ,
        List.singleton_append]
    · have hblank : isBlank c = true := by
        simpa [isCloser, hclose] using h c (by simp)
      have hopen : (s.step c).1.IsOpen := by
        have hne : c ≠ '"' ∧ c ≠ '\'' ∧ c ≠ '/' ∧ c ≠ '{' ∧ c ≠ '}' := by
          refine ⟨?_, ?_, ?_, ?_, ?_⟩ <;> rintro rfl <;> exact absurd hblank (by decide)
        rcases hs with rfl | rfl
        · simp [step, hc.symm, hblank, isOpen_indent]
        · simp [step, codeStep, hc.symm, hne, isOpen_middle]
      rw [braces, step_snd_of_isBlank hblank, ih hopen hcs hrest, List.count_cons_of_ne hclose,
        List.nil_append]

theorem count_closers_trimStart (line : List Char) :
    (closers (trimStart line)).count '}' = (closers line).count '}' := by
  induction line with
  | nil => rfl
  | cons c cs ih =>
    by_cases hblank : isBlank c = true
    · have hclose : c ≠ '}' := by
        rintro rfl
        exact absurd hblank (by decide)
      rw [trimStart_cons_of_isBlank hblank, ih, closers, closers, List.takeWhile_cons,
        if_pos (isCloser_of_isBlank hblank), List.count_cons_of_ne hclose]
    · rw [trimStart_cons_of_not_isBlank (by simpa using hblank)]

theorem count_closers_trimEnd (line : List Char) :
    (closers (trimEnd line)).count '}' = (closers line).count '}' := by
  obtain ⟨bs, hblank, hline⟩ := exists_trimEnd_append line
  have hbs : (bs.takeWhile isCloser).count '}' = 0 := by
    rw [List.count_eq_zero]
    intro hmem
    exact absurd (hblank _ ((List.takeWhile_sublist isCloser).subset hmem)) (by decide)
  conv_rhs => rw [← hline]
  rw [closers, closers, List.takeWhile_append]
  split
  · next hall =>
    have hself : (trimEnd line).takeWhile isCloser = trimEnd line :=
      (List.takeWhile_prefix isCloser).eq_of_length hall
    rw [List.count_append, hbs, Nat.add_zero, hself]
  · rfl

namespace Braces

/-- The layout counts the leading closing braces that there are. -/
theorem leading_inCode {cs : List Char} (h : '\n' ∉ cs) :
    (inCode false cs).leading = (closers cs).count '}' := by
  induction cs with
  | nil => rfl
  | cons c cs ih =>
    have hcs := List.not_mem_of_not_mem_cons h
    by_cases hcloser : isCloser c = true
    · have hne : ¬(c = '"' ∨ c = '\'') ∧ c ≠ '/' ∧ c ≠ '{' := by
        refine ⟨?_, ?_, ?_⟩
        · rintro (rfl | rfl) <;> exact absurd hcloser (by decide)
        · rintro rfl
          exact absurd hcloser (by decide)
        · rintro rfl
          exact absurd hcloser (by decide)
      rw [closers, List.takeWhile_cons, if_pos hcloser, ← closers, inCode, if_neg hne.1,
        if_neg fun hslash ↦ hne.2.1 hslash.1, if_neg hne.2.2]
      by_cases hclose : c = '}'
      · rw [if_pos hclose, hclose, List.count_cons_self, ← ih hcs]
        rfl
      · have hblank : isBlank c = true := by simpa [isCloser, hclose] using hcloser
        rw [if_neg hclose, List.count_cons_of_ne hclose, hblank, ← ih hcs]
        rfl
    · -- Anything else is code, after which no brace is a leading one.
      have hopen : c ≠ '}' ∧ isBlank c = false := by
        simpa [isCloser, and_comm] using hcloser
      rw [closers, List.takeWhile_cons, if_neg hcloser, List.count_nil, inCode, if_neg hopen.1, hopen.2]
      split_ifs with hquote hslash hbrace
      · exact (tally_inLiteral c cs hcs).2
      · rfl
      · exact (tally_inCode true cs hcs).2 rfl
      · exact (tally_inCode true cs hcs).2 rfl

/-- The leading closing braces of a line are those in front of anything but white space. -/
theorem leading_ofLine {line : List Char} (h : '\n' ∉ line) :
    (ofLine (trimStart (trimEnd line))).leading = (closers line).count '}' := by
  have hnewline : '\n' ∉ trimStart (trimEnd line) := fun hmem ↦
    h (mem_of_mem_trimEnd ((List.dropWhile_sublist _).subset hmem))
  rw [← count_closers_trimEnd, ← count_closers_trimStart, ofLine]
  split
  · next hcomment =>
    -- A comment starts with a slash or a star.
    cases hline : trimStart (trimEnd line) with
    | nil => rfl
    | cons c cs =>
      rw [hline] at hcomment
      have hc : c = '/' ∨ c = '*' := by
        unfold isComment at hcomment
        split at hcomment <;> simp_all
      have hcloser : isCloser c = false := by
        rcases hc with rfl | rfl <;> decide
      simp [closers, hcloser, none]
  · exact leading_inCode hnewline

end Braces

/-! ## Lines in a text -/

/-- A whole line, between the text in front of it and the text behind it. -/
structure IsLine (before line after : List Char) : Prop where
  start : before = [] ∨ before.getLast? = some '\n'
  newline : '\n' ∉ line
  /-- The last line may do without a line feed, if there is something on it. -/
  stop : after.head? = some '\n' ∨ after = [] ∧ line ≠ []

theorem textLines_append_of_ended {before : List Char}
    (h : before = [] ∨ before.getLast? = some '\n') (cs : List Char) :
    textLines (before ++ cs) = textLines before ++ textLines cs := by
  rcases h with rfl | h
  · rfl
  · rw [← List.dropLast_append_getLast? _ h, List.append_assoc, List.singleton_append,
      textLines_append_newline, textLines_append_newline, textLines_nil, List.append_nil]

theorem length_textLines_of_ended {before : List Char}
    (h : before = [] ∨ before.getLast? = some '\n') :
    (textLines before).length = before.count '\n' := by
  rcases h with rfl | h
  · rfl
  · rw [← List.dropLast_append_getLast? _ h, textLines_append_newline, List.length_append,
      length_segments, textLines_nil, List.count_append]
    rfl

theorem IsLine.textLines_eq {before line after : List Char} (h : IsLine before line after) :
    textLines (before ++ line ++ after) = textLines before ++ line :: textLines after.tail := by
  rw [List.append_assoc, textLines_append_of_ended h.start]
  rcases h.stop with hstop | ⟨rfl, hline⟩
  · obtain ⟨rest, rfl⟩ := List.head?_eq_some_iff.mp hstop
    rw [textLines_cons h.newline, List.tail_cons]
  · rw [List.append_nil, textLines_of_not_mem h.newline, if_neg hline]
    rfl

theorem exists_isLine {cs line : List Char} {n : ℕ} (h : (textLines cs)[n]? = some line) :
    ∃ before after, cs = before ++ line ++ after ∧ IsLine before line after ∧
      before.count '\n' = n := by
  induction cs using lines_induction generalizing n with
  | last l hl =>
    rw [textLines_of_not_mem hl] at h
    split at h
    · cases h
    · next hne =>
      obtain ⟨rfl, rfl⟩ : n = 0 ∧ l = line := by
        cases n with
        | zero => exact ⟨rfl, Option.some.inj h⟩
        | succ n => cases h
      exact ⟨[], [], by simp, ⟨.inl rfl, hl, .inr ⟨rfl, hne⟩⟩, rfl⟩
  | cons l rest hl ih =>
    rw [textLines_cons hl] at h
    cases n with
    | zero =>
      obtain rfl := Option.some.inj h
      exact ⟨[], '\n' :: rest, by simp, ⟨.inl rfl, hl, .inl rfl⟩, rfl⟩
    | succ n =>
      obtain ⟨before, after, rfl, hline, hcount⟩ := ih h
      refine ⟨l ++ '\n' :: before, after, by simp, ⟨.inr ?_, hline.newline, hline.stop⟩, ?_⟩
      · rcases hline.start with rfl | hstart
        · simp
        · simp [List.getLast?_append, List.getLast?_cons, hstart]
      · rw [List.count_append, List.count_eq_zero_of_not_mem hl, List.count_cons_self, hcount,
          Nat.zero_add]

/-! ## The depth of a line -/

/-- At the start of a line, the layout is as deep as the text. -/
theorem depthAfter_textLines {before : List Char}
    (h : ∀ v, v <+: before → 0 ≤ height (indent.braces v)) :
    (depthAfter 0 (textLines before) : ℤ) = height (indent.braces before) := by
  have hlines : ∀ line ∈ textLines before, '\n' ∉ line := fun _ ↦ not_mem_of_mem_textLines
  have hsteps : ∀ w, w <+: (textLines before).flatMap indent.braces →
      0 ≤ ((0 : ℕ) : ℤ) + height w := by
    intro w hw
    rw [flatMap_braces_textLines] at hw
    obtain ⟨v, hv, rfl⟩ := exists_prefix_of_prefix_braces hw
    simpa using h v hv
  rw [(neverSaturates_of_height 0 hlines hsteps).2, flatMap_braces_textLines]
  simp

/-- Behind its leading closing braces, a line is as much less deep as there are of them. -/
theorem IsLine.height_closers {before line after : List Char} (h : IsLine before line after) :
    height (indent.braces (before ++ closers line)) =
      height (indent.braces before) - (closers line).count '}' := by
  have hnewline : '\n' ∉ closers line := fun hmem ↦
    h.newline ((List.takeWhile_sublist isCloser).subset hmem)
  rw [braces_append, after_of_ended h.start,
    braces_of_isCloser isOpen_indent hnewline fun _ hc ↦ List.mem_takeWhile_imp hc, height_append]
  simp [height, List.count_replicate, sub_eq_add_neg]

theorem IsLine.outline_eq {before line after : List Char} (h : IsLine before line after) :
    ∃ depth, (outline 0 (textLines (before ++ line ++ after)))[before.count '\n']? =
        some ⟨depth, trimEnd line⟩ ∧
      (trimEnd line = [] → depth = 0) ∧
      (trimEnd line ≠ [] → depth = depthAfter 0 (textLines before) - (closers line).count '}') := by
  have hlength : (outline 0 (textLines before)).length = before.count '\n' := by
    rw [length_outline, length_textLines_of_ended h.start]
  rw [h.textLines_eq, outline_append, ← hlength, List.getElem?_append_right le_rfl, Nat.sub_self, outline]
  split
  · next hblank => exact ⟨0, by rw [hblank]; rfl, fun _ ↦ rfl, fun hne ↦ absurd hblank hne⟩
  · next hne =>
    rw [← Braces.leading_ofLine h.newline]
    exact ⟨_, rfl, fun hblank ↦ absurd hblank hne, fun _ ↦ rfl⟩

/-- **Indentation is nesting depth.** Where no beginning of a text closes more than it opens, each line
of the layout is the line of the text without white space at its end, and if there is anything left of it,
with the unit of indentation in front as often as braces are open right behind the closing braces that
the line starts with, counted in the text from its first character to there. -/
theorem reindent_eq_nesting (text : String)
    (h : ∀ v, v <+: text.toList → 0 ≤ height (indent.braces v)) (i : Indent) :
    ∃ lines : List (List Char),
      (∀ e : LineEnd, (reindent i e text).toList = lines.flatMap (· ++ e.text.toList)) ∧
      (∀ line ∈ lines, '\n' ∉ line) ∧
      lines.length = (textLines text.toList).length ∧
      ∀ n out, lines[n]? = some out → ∃ before line after,
        text.toList = before ++ line ++ after ∧ IsLine before line after ∧ before.count '\n' = n ∧
        (trimEnd line = [] → out = []) ∧
        (trimEnd line ≠ [] → ∃ k : ℕ,
          (k : ℤ) = height (indent.braces (before ++ closers line)) ∧
          out = (i.times k).toList ++ trimEnd line) := by
  refine ⟨(outlineOf text).map (·.chars i), fun e ↦ ?_, ?_, ?_, ?_⟩
  · rw [reindent_eq_outline, outlineText, List.flatMap_map]
  · intro line hline
    obtain ⟨l, hl, rfl⟩ := List.mem_map.mp hline
    exact (isTidy_of_mem_outlineOf text hl).newline_notMem_chars
  · rw [List.length_map, length_outlineOf]
  · intro n out hout
    obtain ⟨l, hl, rfl⟩ : ∃ l, (outlineOf text)[n]? = some l ∧ l.chars i = out := by
      simpa [List.getElem?_map] using hout
    -- The line of the outline is one of the text.
    have hn : n < (textLines text.toList).length := by
      rw [← length_outlineOf]
      exact (List.getElem?_eq_some_iff.mp hl).1
    obtain ⟨line, hget⟩ : ∃ line, (textLines text.toList)[n]? = some line :=
      ⟨_, List.getElem?_eq_getElem hn⟩
    obtain ⟨before, after, htext, hline, rfl⟩ := exists_isLine hget
    obtain ⟨depth, hdepth, hblank, hcode⟩ := hline.outline_eq
    rw [outlineOf, htext, hdepth] at hl
    obtain rfl := Option.some.inj hl
    refine ⟨before, line, after, htext, hline, rfl, fun hnil ↦ ?_, fun hne ↦ ?_⟩
    · rw [OutlineLine.chars, hnil, hblank hnil]
      rfl
    · have hbefore : before ++ closers line <+: text.toList := by
        rw [htext, List.append_assoc]
        exact (List.prefix_append_right_inj before).mpr
          ((List.takeWhile_prefix isCloser).trans (List.prefix_append _ after))
      have hopen := h _ hbefore
      have hdepthAfter := depthAfter_textLines fun v hv ↦
        h v (hv.trans ((List.prefix_append before _).trans hbefore))
      rw [hline.height_closers] at hopen ⊢
      refine ⟨depth, ?_, rfl⟩
      rw [hcode hne]
      omega

/-- A line that closes a block and opens another. -/
theorem reindent_eq_nesting_else :
    let text := "f() \x7b\n\x7d else \x7b\ng();\n\x7d\n"
    (∀ v, v <+: text.toList → 0 ≤ height (indent.braces v)) ∧
      ∃ lines : List (List Char), lines.length = 4 ∧
        ∀ e : LineEnd, (reindent .tab e text).toList = lines.flatMap (· ++ e.text.toList) := by
  intro text
  have hinits : ∀ v ∈ text.toList.inits, 0 ≤ height (indent.braces v) := by decide
  have h : ∀ v, v <+: text.toList → 0 ≤ height (indent.braces v) := fun v hv ↦
    hinits v (List.mem_inits v _ |>.mpr hv)
  obtain ⟨lines, htext, -, hlength, -⟩ := reindent_eq_nesting text h .tab
  exact ⟨h, lines, hlength.trans (by decide), htext⟩

end JavaBuilder.Java
