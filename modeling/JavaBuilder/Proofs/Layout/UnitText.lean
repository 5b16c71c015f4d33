import JavaBuilder.Java.Unit
import JavaBuilder.Proofs.Layout.ClassText
import JavaBuilder.Proofs.Layout.Outline

/-!
# The text of a file

In front of the class a file has a comment, its package and its imports, and none of them has a brace.
The imports are those of the classes that the code refers to, so what can be printed in the class can
be printed there. The layout therefore sees the braces of the class and no others: it never closes more
than is open, and the brace that closes the class is all there is on the last line.
-/

namespace JavaBuilder.Java

open Text DyckStep LineState Code

/-! ## Imports -/

namespace ImportTable

variable {t : ImportTable} {name top : ClassName}

theorem mem_imported_shorten (h : top ∈ (t.shorten name).2.imported) :
    top ∈ t.imported ∨ top = name.topLevel := by
  have hclaim : top ∈ (t.claim name.topLevel).imported → top ∈ t.imported ∨ top = name.topLevel := by
    intro h
    unfold claim at h
    split at h
    · exact .inl h
    · exact (List.mem_cons.mp h).symm
  unfold shorten at h
  split at h
  · exact .inl h
  · split at h
    · exact .inl h
    · split at h
      · exact .inl h
      · exact hclaim h

/-- What a piece of code imports, it refers to. -/
theorem mem_imported_spell {c : Code} (h : top ∈ (t.spell c).2.imported) :
    top ∈ t.imported ∨ ∃ name ∈ c.types, top = name.topLevel := by
  induction c generalizing t with
  | nil => exact .inl h
  | cons token c ih =>
    cases token with
    | text s => exact ih h
    | type name =>
      rcases ih h with h | ⟨n, hn, rfl⟩
      · rcases mem_imported_shorten h with h | rfl
        · exact .inl h
        · exact .inr ⟨name, List.mem_cons_self, rfl⟩
      · exact .inr ⟨n, List.mem_cons_of_mem _ hn, rfl⟩

/-- What a file imports are the top-level classes of what its code refers to. -/
theorem exists_of_mem_names {c : Code} {unit : ClassName} {visible : List ClassName} {x : String}
    (h : x ∈ ((ofUnit unit visible).spell c).2.names) : ∃ name ∈ c.types, x = name.topLevel.text := by
  rw [names, mem_sortedSet] at h
  obtain ⟨top, htop, rfl⟩ := List.mem_map.mp h
  rcases mem_imported_spell htop with htop | ⟨name, hname, rfl⟩
  · cases htop
  · exact ⟨name, hname, rfl⟩

theorem mem_of_mem_topLevel {x : String} (h : x ∈ name.topLevel.package ++ name.topLevel.simpleNames) :
    x ∈ name.package ++ name.simpleNames := by
  simp only [ClassName.topLevel, ClassName.simpleNames, List.mem_append, List.mem_cons,
    List.not_mem_nil, or_false] at h ⊢
  exact h.imp_right .inl

theorem isOrdinary_of_mem_names {c : Code} (hc : ∀ name ∈ c.types, name.IsSpelled)
    {unit : ClassName} {visible : List ClassName} {x : String}
    (h : x ∈ ((ofUnit unit visible).spell c).2.names) : IsOrdinary x := by
  obtain ⟨name, hname, rfl⟩ := exists_of_mem_names h
  exact ClassName.isOrdinary_join fun s hs ↦ hc name hname s (mem_of_mem_topLevel hs)

end ImportTable

/-! ## The lines in front of the class -/

namespace CompilationUnit

variable {u : CompilationUnit} {body : Code}

theorem reads_empty {s : LineState} : Reads s [.text ""] [] s := reads_text rfl rfl

/-- A line that starts with a fixed text and goes on with plain text. -/
theorem reads_line {x y z : String} (hx : indent.braces x.toList = [] ∧ indent.after x.toList = middle)
    (hy : IsPlain y) (hz : middle.braces z.toList = [] ∧ middle.after z.toList = indent) :
    Reads indent [.text (x ++ y ++ z)] [] indent :=
  reads_text_append (reads_text_append (reads_fixed hx) hy.reads) (reads_fixed hz)

theorem reads_importLines {imports : List String} (h : ∀ x ∈ imports, IsOrdinary x) :
    Reads indent [.text (String.join (imports.map fun i ↦ "import " ++ i ++ ";\n"))] [] indent := by
  induction imports with
  | nil => exact reads_empty
  | cons x xs ih =>
    rw [List.map_cons, String.join_cons]
    have hline : Reads indent [.text ("import " ++ x ++ ";\n")] [] indent :=
      reads_line (by decide) (isPlain_of_isOrdinaryText (h x (by simp))) (by decide)
    exact reads_text_append hline (ih fun y hy ↦ h y (List.mem_cons_of_mem x hy))

theorem reads_headText {imports : List String} (hheader : ∀ x ∈ u.header, '\n' ∉ x.toList)
    (hpackage : IsOrdinary u.type.packageText) (himports : ∀ x ∈ imports, IsOrdinary x) :
    Reads indent [.text (u.headText imports)] [] indent := by
  have hcomment : Reads indent [.text (u.header.elim "" fun h ↦ "// " ++ h ++ "\n")] [] indent := by
    cases hu : u.header with
    | none => exact reads_empty
    | some x =>
      have hslashes : Reads indent [.text "// "] [] comment := reads_fixed (by decide)
      have hend : Reads comment [.text "\n"] [] indent := reads_fixed (by decide)
      exact reads_text_append (reads_text_append hslashes (reads_comment (hheader x hu))) hend
  have hpackageLine : Reads indent [.text (if u.type.packageText = "" then ""
      else "package " ++ u.type.packageText ++ ";\n\n")] [] indent := by
    split
    · exact reads_empty
    · exact reads_line (by decide) (isPlain_of_isOrdinaryText hpackage) (by decide)
  have hblank : Reads indent [.text (if imports.isEmpty then "" else "\n")] [] indent := by
    split
    · exact reads_empty
    · exact reads_fixed (by decide)
  exact reads_text_append (reads_text_append (reads_text_append hcomment hpackageLine)
    (reads_importLines himports)) hblank

/-! ## The file -/

variable (u body) in
def imports : List String := ((ImportTable.ofUnit u.type u.visible).spell body).2.names

variable (u body) in
/-- What a file has below its head, before it is indented. -/
def bodyText : List Char := (ImportTable.ofUnit u.type u.visible).spelled body

theorem toList_rawText :
    (u.rawText body).toList = (u.headText (u.imports body)).toList ++ u.bodyText body := by
  rw [rawText, String.toList_append]
  rfl

/-- A file with the text of a class below its head: the layout never closes more than is open, and the
last line is a lone brace in whatever style it is laid out. -/
structure Closes (u : CompilationUnit) (body : Code) (x : ClassText) : Prop where
  text : u.bodyText body = x.text
  neverSaturates : NeverSaturates 0 (textLines (u.rawText body).toList)
  lastLine : ∀ style, ∃ before,
    u.render style body = before ++ style.lineEnd.text ++ "\x7d" ++ style.lineEnd.text

variable {x : ClassText} {v w : DyckWord} {head : List Char}

/-- A text without braces in front of the class keeps the layout from saturating. -/
theorem neverSaturates_append (hx : x.Reads v w) (hbraces : indent.braces head = [])
    (hafter : indent.after head = indent) : NeverSaturates 0 (textLines (head ++ x.text)) := by
  refine (neverSaturates_of_height 0 (fun _ h ↦ not_mem_of_mem_textLines h) fun p hp ↦ ?_).1
  rw [flatMap_braces_textLines, braces_append, hbraces, hafter, List.nil_append,
    hx.braces_text] at hp
  have hnonneg := height_nonneg_of_prefix _ hp
  simpa using hnonneg

theorem reindent_append (hx : x.Reads v w) (hbraces : indent.braces head = [])
    (hafter : indent.after head = indent) (i : Indent) (e : LineEnd) :
    ∃ before, reindent i e (String.ofList (head ++ x.text)) =
      before ++ e.text ++ "\x7d" ++ e.text := by
  obtain ⟨cs, hcs⟩ := hx.inner
  have hinner : indent.braces cs = w.toList := by
    have hline := hx.inner_braces
    rw [hcs, braces_append] at hline
    rw [← hline, braces, step_newline]
    simp
  have hopened : indent.braces (head ++ (x.opening ++ cs)) = v.toList ++ [U] ++ w.toList := by
    rw [braces_append, hbraces, hafter, List.nil_append, braces_append, hx.opening_braces,
      hx.opening_after, hinner]
  have htext : head ++ x.text = (head ++ (x.opening ++ cs)) ++ '\n' :: ['}', '\n'] := by
    simp [ClassText.text, hcs]
  have hone : height [U] = 1 := rfl
  rw [htext]
  refine reindent_closingLine i e (fun p hp ↦ ?_) ?_
  · have hword : v.toList ++ [U] ++ w.toList <+: (v + w.nest).toList :=
      ⟨[D], by
        change v.toList ++ [U] ++ w.toList ++ [D] = v.toList ++ ([U] ++ w.toList ++ [D])
        simp only [List.append_assoc]⟩
    exact height_nonneg_of_prefix _ ((hopened ▸ hp).trans hword)
  · rw [hopened, height_append, height_append, height_dyckWord, height_dyckWord, hone]
    rfl

/-- **The text of a file with a class that can be printed.** -/
theorem exists_classText {c : TopClass} (h : c.Uses printable) (docs : Bool)
    (hheader : ∀ x ∈ u.header, '\n' ∉ x.toList) (hpackage : IsOrdinary u.type.packageText) :
    ∃ x : ClassText, x.IsBalanced ∧ u.Closes (c.code docs) x := by
  obtain ⟨x, htext, v, w, hx⟩ :=
    TopClass.exists_classText h docs (ImportTable.ofUnit u.type u.visible)
  obtain ⟨word, hreads⟩ := TopClass.balanced_code docs h
  have hhead := reads_text_iff.mp <| reads_headText (u := u) hheader hpackage
    fun y (hy : y ∈ u.imports (c.code docs)) ↦ ImportTable.isOrdinary_of_mem_names hreads.types hy
  have hraw : (u.rawText (c.code docs)).toList =
      (u.headText (u.imports (c.code docs))).toList ++ x.text := by
    rw [toList_rawText, bodyText, htext]
  refine ⟨x, hx.isBalanced, htext, ?_, fun style ↦ ?_⟩
  · rw [hraw]
    exact neverSaturates_append hx hhead.1 hhead.2
  · rw [render, ← String.ofList_toList (s := u.rawText (c.code docs)), hraw]
    exact reindent_append hx hhead.1 hhead.2 _ _

end CompilationUnit

end JavaBuilder.Java
