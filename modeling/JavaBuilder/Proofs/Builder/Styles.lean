import JavaBuilder.Proofs.Builder.Planning
import JavaBuilder.Proofs.Layout.Outline

/-!
# Styles of generated code

Generating a class asks for the style only when the text of the class is laid out: whether there is a
class, and what it is, is settled by then. So the style changes what the layout lets it change, which is
white space.
-/

namespace JavaBuilder.Builder

open Java Model Text

variable {chain : Chain} {config : Config} {d : Datatype} {ds : List Declaration} {g : Generated}

/-- In another style there is a class as well, made from the same code. -/
theorem exists_generateWith_style (h : generateWith chain config d ds = .ok g) (style : LayoutStyle) :
    ∃ g', generateWith chain { config with style } d ds = .ok g' ∧
      g'.type = g.type ∧ g'.strategies = g.strategies ∧
      ∃ body, g.text = (unitOf d).render config.style body ∧ g'.text = (unitOf d).render style body := by
  obtain ⟨ctx, strategies, hplan, hg⟩ := generateWith_eq_ok_iff.mp h
  refine ⟨_, generateWith_eq_ok_iff.mpr ⟨ctx, strategies, hplan, rfl⟩, ?_, ?_,
    (builderClass ctx strategies config.annotate).code config.docs, ?_, ?_⟩
  · rw [hg]
  · rw [hg]
  · rw [hg]
  · dsimp only

/-- **A style changes white space only.** The layout of a text has an outline that is the same in every
style: as many lines as the text, each trimmed and at a depth, and none at a depth if it is blank. In a
style, each line gets the unit of indentation as often as it is deep, and the end of a line. The layout
keeps what is no white space and the number of lines, ends every line as it should, and does not see
whether the lines of the text end in CR LF. Hence a class is generated in one style if and only if it is in
another, and the two differ in white space only. -/
theorem style_changes_blanks_only :
    (∀ text : String,
      (∃ ls : List OutlineLine, ls.map (·.content) = (textLines text.toList).map trimEnd ∧
        (∀ l ∈ ls, l.IsTidy) ∧ ∀ i e, (reindent i e text).toList = outlineText i e ls) ∧
      (∀ i e,
        withoutBlanks (reindent i e text).toList = withoutBlanks text.toList ∧
        (textLines (reindent i e text).toList).length = (textLines text.toList).length ∧
        (∃ lines : List (List Char), (reindent i e text).toList = lines.flatMap (· ++ e.text.toList) ∧
          ∀ line ∈ lines, '\n' ∉ line ∧ line.getLast? ≠ some '\r') ∧
        reindent i e (String.ofList (withReturns text.toList)) = reindent i e text) ∧
      ∀ i, (reindent i .crlf text).toList = withReturns (reindent i .lf text).toList) ∧
    ∀ {chain : Chain} {config : Config} {d : Datatype} {ds : List Declaration} {g : Generated},
      generateWith chain config d ds = .ok g → ∀ style : LayoutStyle,
        ∃ g', generateWith chain { config with style } d ds = .ok g' ∧
          g'.type = g.type ∧ g'.strategies = g.strategies ∧
          withoutBlanks g'.text.toList = withoutBlanks g.text.toList ∧
          ∃ ls : List OutlineLine, (∀ l ∈ ls, l.IsTidy) ∧
            g.text.toList = outlineText config.style.indent config.style.lineEnd ls ∧
            g'.text.toList = outlineText style.indent style.lineEnd ls := by
  constructor
  · intro text
    refine ⟨⟨outlineOf text, map_content_outline 0, fun l ↦ isTidy_of_mem_outlineOf text,
      fun i e ↦ reindent_eq_outline i e text⟩, fun i e ↦ ?_, fun i ↦ reindent_crlf i text⟩
    exact ⟨withoutBlanks_reindent i e text, length_textLines_reindent i e text,
      exists_lines_reindent i e text, reindent_withReturns i e text⟩
  · intro chain config d ds g h style
    obtain ⟨g', hg', htype, hstrategies, body, htext, htext'⟩ := exists_generateWith_style h style
    rw [CompilationUnit.render] at htext htext'
    refine ⟨g', hg', htype, hstrategies, ?_, outlineOf ((unitOf d).rawText body),
      fun l ↦ isTidy_of_mem_outlineOf _, ?_, ?_⟩
    · rw [htext, htext', withoutBlanks_reindent, withoutBlanks_reindent]
    · rw [htext, reindent_eq_outline]
    · rw [htext', reindent_eq_outline]

/-- A class with two strategies, in spaces and line feeds and in tabs and CR LF. -/
theorem style_changes_blanks_only_person :
    let d := Datatype.standard ⟨.top ["com", "example"] "Person", []⟩
    let ds : List Declaration :=
      [.plain (.of "name" (.ofText "java.lang.String")),
        .plain (.of "friends" (.ofText "java.util.List<java.lang.String>"))]
    ∃ g g', generateWith .standard ⟨.standard, true, true, ⟨.two, .lf⟩⟩ d ds = .ok g ∧
      generateWith .standard ⟨.standard, true, true, ⟨.tab, .crlf⟩⟩ d ds = .ok g' ∧
      withoutBlanks g'.text.toList = withoutBlanks g.text.toList := by
  intro d ds
  obtain ⟨g, hg⟩ : ∃ g, generateWith .standard ⟨.standard, true, true, ⟨.two, .lf⟩⟩ d ds = .ok g :=
    ⟨_, rfl⟩
  obtain ⟨g', hg', -, -, hblanks, -⟩ := style_changes_blanks_only.2 hg ⟨.tab, .crlf⟩
  exact ⟨g, g', hg, hg', hblanks⟩

end JavaBuilder.Builder
