import JavaBuilder.Proofs.Layout.KeptClass
import JavaBuilder.Proofs.Layout.UnitText

/-!
# A file without a diamond

In front of the class a file names its package and its imports, and the layout puts white space between
lines and drops some of it at their ends. None of this makes a diamond where the class has none.
-/

namespace JavaBuilder.Java

open Text Code

/-! ## The head of the file -/

theorem ClassName.IsBracketFree.isSolid_text {name : ClassName} (h : name.IsBracketFree) :
    IsSolid name.text.toList :=
  (isBracketFree_join (by simp [ClassName.simpleNames]) h).isSolid

theorem ClassName.IsBracketFree.topLevel {name : ClassName} (h : name.IsBracketFree) :
    name.topLevel.IsBracketFree :=
  fun x hx ↦ h x (ImportTable.mem_of_mem_topLevel hx)

theorem ClassName.IsBracketFree.isSolid_packageText {name : ClassName} (h : name.IsBracketFree) :
    IsSolid name.packageText.toList := by
  rw [ClassName.packageText]
  by_cases hempty : name.package = []
  · rw [hempty]
    decide
  · exact (isBracketFree_join hempty fun x hx ↦ h x (List.mem_append_left _ hx)).isSolid

namespace CompilationUnit

variable {u : CompilationUnit} {body : Code}

theorem isSolid_headText {imports : List String} (hheader : ∀ x ∈ u.header, IsSolid x.toList)
    (hpackage : IsSolid u.type.packageText.toList) (himports : ∀ x ∈ imports, IsSolid x.toList) :
    IsSolid (u.headText imports).toList := by
  have hcomment : IsSolid (u.header.elim "" fun h ↦ "// " ++ h ++ "\n").toList := by
    cases hu : u.header with
    | none => exact .nil
    | some x => exact isSolid_append (isSolid_append (by decide) (hheader x hu)) (by decide)
  have hpackageLine : IsSolid (if u.type.packageText = "" then ""
      else "package " ++ u.type.packageText ++ ";\n\n").toList := by
    split
    · exact .nil
    · exact isSolid_append (isSolid_append (by decide) hpackage) (by decide)
  have hlines : IsSolid (String.join (imports.map fun i ↦ "import " ++ i ++ ";\n")).toList := by
    refine isSolid_join fun x hx ↦ ?_
    obtain ⟨y, hy, rfl⟩ := List.mem_map.mp hx
    exact isSolid_append (isSolid_append (by decide) (himports y hy)) (by decide)
  have hblank : IsSolid (if imports.isEmpty then "" else "\n").toList := by
    split <;> decide
  exact isSolid_append (isSolid_append (isSolid_append hcomment hpackageLine) hlines) hblank

end CompilationUnit

/-! ## The layout -/

theorem isSolid_times (i : Indent) (n : Nat) : IsSolid (i.times n).toList := by
  refine isSolid_join fun x hx ↦ ?_
  rw [List.eq_of_mem_replicate hx]
  cases i <;> decide

theorem infix_of_mem_textLines {cs line : List Char} (h : line ∈ textLines cs) : line <:+: cs := by
  simp only [textLines] at h
  split at h
  · exact infix_of_mem_segments '\n' (List.mem_of_mem_dropLast h)
  · exact infix_of_mem_segments '\n' h

/-- An indented line ends with a line feed, and between its indentation and that is nothing new. -/
theorem not_diamond_of_mem_indentLines {i : Indent} {e : LineEnd} {depth : Nat}
    {lines : List (List Char)} {x : String} (h : ∀ line ∈ lines, ¬diamond <:+: line)
    (hx : x ∈ indentLines i e depth lines) :
    ¬diamond <:+: x.toList ∧ x.toList.getLast? ≠ some '<' := by
  have hend : IsSolid e.text.toList ∧ e.text.toList ≠ [] := by cases e <;> decide
  induction lines generalizing depth with
  | nil => cases hx
  | cons line rest ih =>
    have hrest : ∀ {n : Nat}, x ∈ indentLines i e n rest →
        ¬diamond <:+: x.toList ∧ x.toList.getLast? ≠ some '<' :=
      ih fun l hl ↦ h l (List.mem_cons_of_mem line hl)
    rw [indentLines] at hx
    split at hx
    · rcases List.mem_cons.mp hx with rfl | hx
      · exact ⟨hend.1.inner, hend.1.last⟩
      · exact hrest hx
    · rcases List.mem_cons.mp hx with rfl | hx
      · -- Indentation and line end are solid, so a diamond would be one of the content.
        have hcontent : ¬diamond <:+: trimEnd line := fun hin ↦ by
          obtain ⟨bs, -, hline⟩ := exists_trimEnd_append line
          exact h line (by simp) (hin.trans ⟨[], bs, by simpa using hline⟩)
        have hindent := isSolid_times i (depth - (Braces.ofLine (trimStart (trimEnd line))).leading)
        rw [String.toList_append, String.toList_append, String.toList_ofList]
        refine ⟨not_diamond_append (not_diamond_append hindent.inner hcontent (.inl hindent.last))
          hend.1.inner (.inr hend.1.head), ?_⟩
        rw [List.getLast?_append_of_ne_nil _ hend.2]
        exact hend.1.last
      · exact hrest hx

theorem not_diamond_reindent (i : Indent) (e : LineEnd) {x : String} (h : ¬diamond <:+: x.toList) :
    ¬diamond <:+: (reindent i e x).toList := by
  rw [reindent, String.toList_join]
  have hlines : ∀ line ∈ textLines x.toList, ¬diamond <:+: line :=
    fun _ hline hin ↦ h (hin.trans (infix_of_mem_textLines hline))
  exact not_diamond_flatMap fun _ hy ↦ not_diamond_of_mem_indentLines hlines hy

/-! ## The file -/

/-- **A file has no diamond where its code may not have one.** -/
theorem CompilationUnit.not_diamond_render {ok : Allowed} {u : CompilationUnit} {body : Code}
    (hok : ok.IsSolid) (hdiamond : ¬ok.diamond) (h : Keeps ok body) (htype : u.type.IsBracketFree)
    (hheader : ∀ x ∈ u.header, Text.IsSolid x.toList) (style : LayoutStyle) :
    ¬diamond <:+: (u.render style body).toList := by
  refine not_diamond_reindent _ _ ?_
  have himports : ∀ x ∈ u.imports body, Text.IsSolid x.toList := fun x hx ↦ by
    obtain ⟨name, hname, rfl⟩ := ImportTable.exists_of_mem_names hx
    exact (hok.type (h.types name hname)).topLevel.isSolid_text
  rw [toList_rawText]
  exact ((isSolid_headText hheader htype.isSolid_packageText himports).append
    (h.solid hdiamond _)).inner

end JavaBuilder.Java
