import JavaBuilder.Proofs.Java.LiteralText
import JavaBuilder.Proofs.Layout.Nesting
import JavaBuilder.Proofs.Layout.Reading

/-!
# Literals and indentation

Whatever string a literal stands for, the layout is the same around it. The writer of literals and the
counter of braces know nothing of each other, but agree on where a literal ends: the reader of a line
comes out of it in the middle of code and has found no braces (`Code.read_literalChars`). So the braces
of the line are those in front of the literal and those behind it (`ofLine_literalLine`), and a text
around the line is laid out alike for all strings.

Literals and comments are here what the layout takes for them. It knows comments to the end of a line
and lines of documentation; a comment that ends on the line on which it starts is code to it.
-/

namespace JavaBuilder.Java

open Unicode Text DyckStep LineState

/-- A line of code with the literal of a string in it. -/
def literalLine (pre suf : List Char) (s : String) : List Char :=
  pre ++ (stringLiteral s).toList ++ suf

variable {before pre suf after line : List Char}

/-! ## The line -/

/-- A line stays a line when another string takes the place of the empty one. -/
theorem isLine_literalLine (h : IsLine before (literalLine pre suf "") after) (s : String) :
    IsLine before (literalLine pre suf s) after := by
  have hne : literalLine pre suf s ≠ [] := by simp [literalLine, stringLiteral, literalChars]
  refine ⟨h.start, ?_, h.stop.imp_right fun hstop ↦ ⟨hstop.1, hne⟩⟩
  have hnewline := h.newline
  simp only [literalLine, List.mem_append, not_or] at hnewline ⊢
  exact ⟨⟨hnewline.1.1, newline_notMem_stringLiteral s⟩, hnewline.2⟩

/-- The braces of the line are those in front of the literal and those behind it. -/
theorem braces_literalLine (hcode : (indent.after pre).IsCode) (s : String) :
    indent.braces (literalLine pre suf s) = indent.braces pre ++ middle.braces suf := by
  obtain ⟨hbraces, hafter⟩ := Code.read_literalChars hcode s.toList
  rw [literalLine, stringLiteral, String.toList_ofList, braces_append, braces_append, after_append,
    hbraces, hafter, List.append_nil]

/-- No brace behind the first quote of a line is a leading one. -/
theorem closers_literalLine (s : String) : closers (literalLine pre suf s) = closers pre := by
  have hquote : isCloser '"' = false := by decide
  rw [literalLine, stringLiteral, String.toList_ofList, literalChars]
  induction pre with
  | nil => simp [closers, hquote]
  | cons c cs ih =>
    simp only [closers, List.cons_append, List.takeWhile_cons] at ih ⊢
    rw [ih]

/-- The layout counts the same braces for every string. -/
theorem ofLine_literalLine (hcode : (indent.after pre).IsCode) (s : String)
    (hnewline : '\n' ∉ literalLine pre suf s) :
    Braces.ofLine (trimStart (trimEnd (literalLine pre suf s))) =
      ⟨(indent.braces pre ++ middle.braces suf).count U,
        (indent.braces pre ++ middle.braces suf).count D, (closers pre).count '}'⟩ := by
  have htally := Braces.tally_ofLine hnewline
  have hleading := Braces.leading_ofLine hnewline
  rw [braces_literalLine hcode] at htally
  rw [closers_literalLine] at hleading
  rw [← htally.opening, ← htally.closing, ← hleading]

/-- Something is left of the line when white space is dropped. -/
theorem trimEnd_literalLine_ne_nil (s : String) : trimEnd (literalLine pre suf s) ≠ [] := by
  intro hnil
  obtain ⟨bs, hblank, hline⟩ := exists_trimEnd_append (literalLine pre suf s)
  rw [hnil, List.nil_append] at hline
  have hquote : '"' ∈ bs := by simp [hline, literalLine, stringLiteral, literalChars]
  exact absurd (hblank _ hquote) (by decide)

/-! ## The text around it -/

/-- A line that is not blank, between what is laid out before it and what is laid out after it. -/
theorem IsLine.outline_split (h : IsLine before line after) (hne : trimEnd line ≠ []) :
    let b := Braces.ofLine (trimStart (trimEnd line))
    let depth := depthAfter 0 (textLines before)
    outline 0 (textLines (before ++ line ++ after)) = outline 0 (textLines before) ++
      ⟨depth - b.leading, trimEnd line⟩ ::
        outline (depth + b.opening - b.closing) (textLines after.tail) := by
  intro b depth
  rw [h.textLines_eq, outline_append, outline, if_neg hne]

/-- **Literals are invisible to the layout.** In a line of code with the literal of a string in it, the
layout counts the braces that it would count with the empty literal. Around the line, the text is laid
out alike for all strings, and the line itself is indented alike. -/
theorem reindent_literalLine (hline : IsLine before (literalLine pre suf "") after)
    (hcode : (indent.after pre).IsCode) :
    (∀ s, Braces.ofLine (trimStart (trimEnd (literalLine pre suf s))) =
      Braces.ofLine (trimStart (trimEnd (literalLine pre suf "")))) ∧
    ∃ (above below : List OutlineLine) (depth : ℕ), ∀ (s : String) (i : Indent) (e : LineEnd),
      (reindent i e (String.ofList (before ++ literalLine pre suf s ++ after))).toList =
        outlineText i e (above ++ ⟨depth, trimEnd (literalLine pre suf s)⟩ :: below) := by
  have hbraces (s : String) : Braces.ofLine (trimStart (trimEnd (literalLine pre suf s))) =
      Braces.ofLine (trimStart (trimEnd (literalLine pre suf ""))) := by
    rw [ofLine_literalLine hcode s (isLine_literalLine hline s).newline,
      ofLine_literalLine hcode "" hline.newline]
  -- What the empty literal leaves of the depth is what every literal leaves of it.
  let b := Braces.ofLine (trimStart (trimEnd (literalLine pre suf "")))
  let depth := depthAfter 0 (textLines before)
  refine ⟨hbraces, outline 0 (textLines before),
    outline (depth + b.opening - b.closing) (textLines after.tail), depth - b.leading,
    fun s i e ↦ ?_⟩
  rw [reindent_eq_outline, outlineOf, String.toList_ofList,
    (isLine_literalLine hline s).outline_split (trimEnd_literalLine_ne_nil s), hbraces s]

/-- A string of quotes, braces, backslashes and slashes, in a line that closes a block and opens another. -/
theorem reindent_literalLine_else :
    let before := "f() \x7b\n".toList
    let pre := "\x7d else g('\"', \"\x7b\" + ".toList
    let suf := ") \x7b".toList
    let after := "\nh();\n\x7d\n".toList
    IsLine before (literalLine pre suf "") after ∧ (indent.after pre).IsCode ∧
      Braces.ofLine (trimStart (trimEnd (literalLine pre suf "\"\x7d\\\x7b//\\"))) = ⟨1, 1, 1⟩ ∧
      ∃ (above below : List OutlineLine) (depth : ℕ), ∀ (s : String) (i : Indent) (e : LineEnd),
        (reindent i e (String.ofList (before ++ literalLine pre suf s ++ after))).toList =
          outlineText i e (above ++ ⟨depth, trimEnd (literalLine pre suf s)⟩ :: below) := by
  intro before pre suf after
  have hline : IsLine before (literalLine pre suf "") after :=
    ⟨.inr (by decide), by decide, .inl (by decide)⟩
  have hcode : (indent.after pre).IsCode := by decide
  obtain ⟨hbraces, hlayout⟩ := reindent_literalLine hline hcode
  exact ⟨hline, hcode, (hbraces _).trans (by decide), hlayout⟩

end JavaBuilder.Java
