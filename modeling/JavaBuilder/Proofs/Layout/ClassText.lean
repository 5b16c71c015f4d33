import JavaBuilder.Proofs.Layout.PrintedClass

/-!
# The text of a class

However its classes are spelled, the text of a class falls into the lines in front of it, the line
that opens it, the lines in it, and a lone closing brace. The lines in front and the lines in it are
balanced by themselves, and this is all there is to say about the depth of the text anywhere.

That the closing brace stands alone needs more than its braces: every item has to end with the end of
a line.
-/

namespace JavaBuilder.Java

open Text DyckStep LineState

/-! ## Ends of lines -/

namespace Code

/-- Code that ends with the end of a line, or is empty. -/
def EndsLine (c : Code) : Prop := ∀ token ∈ c.getLast?, ∃ x, token = .text (x ++ "\n")

variable {c d : Code}

theorem EndsLine.append (hc : EndsLine c) (hd : EndsLine d) : EndsLine (c ++ d) := by
  intro token htoken
  rw [List.getLast?_append, Option.mem_def, Option.or_eq_some_iff] at htoken
  rcases htoken with htoken | ⟨-, htoken⟩
  · exact hd token htoken
  · exact hc token htoken

theorem endsLine_flatMap {α : Type} {f : α → Code} {xs : List α} (h : ∀ x ∈ xs, EndsLine (f x)) :
    EndsLine (xs.flatMap f) := by
  induction xs with
  | nil => simp [EndsLine]
  | cons x xs ih =>
    rw [List.flatMap_cons]
    exact (h x (by simp)).append (ih fun y hy ↦ h y (List.mem_cons_of_mem x hy))

theorem endsLine_separated {cs : List Code} (h : ∀ c ∈ cs, EndsLine c) :
    EndsLine (separated "\n" cs) := by
  induction cs with
  | nil => simp [separated, EndsLine]
  | cons c cs ih =>
    have hcs := ih fun e he ↦ h e (List.mem_cons_of_mem c he)
    cases cs with
    | nil => exact h c (by simp)
    | cons d ds =>
      have hsep : EndsLine [.text "\n"] := by simpa [EndsLine] using ⟨"", rfl⟩
      exact (h c (by simp)).append (hsep.append hcs)

theorem EndsLine.exists_spelled (h : EndsLine c) (t : ImportTable) :
    t.spelled c = [] ∨ ∃ cs, t.spelled c = cs ++ ['\n'] := by
  cases hlast : c.getLast? with
  | none =>
    rw [List.getLast?_eq_none_iff] at hlast
    exact .inl (by rw [hlast, ImportTable.spelled_nil])
  | some token =>
    obtain ⟨x, rfl⟩ := h token hlast
    rw [List.getLast?_eq_some_iff] at hlast
    obtain ⟨before, rfl⟩ := hlast
    refine .inr ⟨t.spelled before ++ x.toList, ?_⟩
    rw [ImportTable.spelled_append, ImportTable.spelled_text, String.toList_append,
      ← List.append_assoc]
    rfl

/-- Code that stays on its line. -/
def OnLine (c : Code) : Prop := ∀ t : ImportTable, '\n' ∉ t.spelled c

theorem onLine_nil : OnLine [] := fun t ↦ by simp

theorem onLine_text {x : String} (h : '\n' ∉ x.toList) : OnLine [.text x] := fun t ↦ by simpa using h

theorem onLine_type {name : ClassName} (h : name.IsSpelled) : OnLine [.type name] :=
  fun t hmem ↦ absurd ((exists_spelled_type t h).2 _ hmem) (by decide)

theorem OnLine.append (hc : OnLine c) (hd : OnLine d) : OnLine (c ++ d) := by
  intro t
  rw [ImportTable.spelled_append, List.mem_append, not_or]
  exact ⟨hc t, hd _⟩

end Code

open Code

theorem endsLine_iff_of_getLast? {c : Code} {x : String} (h : c.getLast? = some (.text x)) :
    EndsLine c ↔ ∃ y, x = y ++ "\n" := by
  simp [EndsLine, h]

theorem Item.endsLine_code (docs : Bool) (i : Item) : EndsLine (i.code docs) := by
  have hsemicolon : ∃ y, ";\n" = y ++ "\n" := ⟨";", rfl⟩
  have hclosing : ∃ y, "\x7d\n" = y ++ "\n" := ⟨"\x7d", rfl⟩
  cases i with
  | member m =>
    cases m with
    | field f =>
      refine (endsLine_iff_of_getLast? ?_).mpr hsemicolon
      simp [Item.code, Member.code, Field.code, List.getLast?_cons]
    | method m =>
      refine (endsLine_iff_of_getLast? ?_).mpr hclosing
      simp [Item.code, Member.code, Method.code, Stmt.closing]
  | enum e =>
    refine (endsLine_iff_of_getLast? ?_).mpr hclosing
    simp [Item.code, EnumDecl.code, Stmt.closing, List.getLast?_cons]
  | nested c =>
    refine (endsLine_iff_of_getLast? ?_).mpr hclosing
    simp [Item.code, NestedClass.code, Stmt.closing, List.getLast?_cons]

namespace TopClass

variable (c : TopClass) (docs : Bool)

theorem endsLine_frontCode : EndsLine (c.frontCode docs) := by
  refine EndsLine.append ?_ (endsLine_flatMap fun a _ ↦ ?_)
  · rw [docCode]
    split
    · refine (endsLine_iff_of_getLast? (x := " */\n") ?_).mpr ⟨" */", rfl⟩
      simp [Doc.toCode, List.getLast?_cons]
    · simp [EndsLine]
  · refine (endsLine_iff_of_getLast? rfl).mpr ⟨"(" ++ stringLiteral a.2 ++ ")", ?_⟩
    rw [show ")\n" = ")" ++ "\n" from rfl, ← String.append_assoc]

theorem endsLine_innerCode : EndsLine (c.innerCode docs) := by
  refine endsLine_separated fun g hg ↦ ?_
  obtain ⟨items, -, rfl⟩ := List.mem_map.mp (List.mem_of_mem_filter hg)
  exact endsLine_flatMap fun i _ ↦ i.endsLine_code docs

variable {c}

theorem onLine_nameCode (h : c.Uses printable) : OnLine c.nameCode := by
  have hparams : OnLine [.text c.type.paramsText] := onLine_text fun hmem ↦
    absurd (balanced_paramsText h.type.params _ hmem) (by decide)
  have htype : OnLine c.type.code := (onLine_type h.type.name).append hparams
  refine htype.append ?_
  cases hi : c.implements with
  | none => exact onLine_nil
  | some n =>
    have htext : OnLine [.text " implements "] := onLine_text (by decide)
    exact htext.append (onLine_type (h.implements n hi))

end TopClass

/-! ## The parts of the text -/

/-- The text of a class before it is indented. -/
structure ClassText where
  /-- The lines in front of the class. -/
  front : List Char
  /-- The line that opens the class, without its end. -/
  header : List Char
  /-- The lines in the class. -/
  inner : List Char

namespace ClassText

variable (x : ClassText)

/-- The text up to the lines in the class. -/
def opening : List Char := x.front ++ x.header ++ ['\n']

def text : List Char := x.opening ++ x.inner ++ ['}', '\n']

/-- The parts of the text are made of whole lines, and between them they have the braces of these
words, the one that opens the class, and the one that closes it. -/
structure Reads (before inside : DyckWord) : Prop where
  front : x.front = [] ∨ ∃ cs, x.front = cs ++ ['\n']
  header : "abstract class ".toList <+: x.header ∧ '\n' ∉ x.header
  inner : ∃ cs, x.inner = cs ++ ['\n']
  opening_braces : indent.braces x.opening = before.toList ++ [U]
  opening_after : indent.after x.opening = indent
  inner_braces : indent.braces x.inner = inside.toList
  inner_after : indent.after x.inner = indent

/-- The braces of the text are balanced: its depth is nowhere below zero, at least one from the line
that opens the class to the one that closes it, and zero at the end. -/
structure IsBalanced : Prop where
  front : x.front = [] ∨ ∃ cs, x.front = cs ++ ['\n']
  header : "abstract class ".toList <+: x.header ∧ '\n' ∉ x.header
  inner : ∃ cs, x.inner = cs ++ ['\n']
  nonneg : ∀ p, p <+: x.text → 0 ≤ braceDepth p
  inside : ∀ p, p <+: x.inner → 1 ≤ braceDepth (x.opening ++ p)
  closed : braceDepth x.text = 0

variable {x} {v w : DyckWord}

theorem Reads.braces_text (h : x.Reads v w) : indent.braces x.text = (v + w.nest).toList := by
  have hclosing : indent.braces ['}', '\n'] = [D] := by decide
  have hword : (v + w.nest).toList = v.toList ++ ([U] ++ w.toList ++ [D]) := rfl
  rw [text, braces_append, braces_append, after_append, h.opening_braces, h.opening_after,
    h.inner_braces, h.inner_after, hclosing, hword]
  simp only [List.append_assoc]

theorem Reads.isBalanced (h : x.Reads v w) : x.IsBalanced where
  front := h.front
  header := h.header
  inner := h.inner
  nonneg p hp := by
    rw [braceDepth_eq]
    exact height_nonneg_of_prefix (v + w.nest) (h.braces_text ▸ braces_prefix hp)
  inside p hp := by
    have hinner : 0 ≤ height (indent.braces p) :=
      height_nonneg_of_prefix w (h.inner_braces ▸ braces_prefix hp)
    have hone : height [U] = 1 := rfl
    rw [braceDepth_eq, braces_append, h.opening_braces, h.opening_after, height_append,
      height_append, height_dyckWord, hone]
    omega
  closed := by rw [braceDepth_eq, h.braces_text, height_dyckWord]

end ClassText

/-- **The text of a class that can be printed**, under any spelling of the classes in it. -/
theorem TopClass.exists_classText {c : TopClass} (h : c.Uses printable) (docs : Bool)
    (t : ImportTable) :
    ∃ x : ClassText, t.spelled (c.code docs) = x.text ∧ ∃ v w, x.Reads v w := by
  obtain ⟨p, hfront⟩ := balanced_frontCode docs h
  obtain ⟨q, hname⟩ := balanced_nameCode h
  obtain ⟨r, hinner⟩ := balanced_innerCode docs h
  -- The table of imports goes on from one part of the class to the next.
  set u := (t.spell (c.frontCode docs)).2 with hu
  set v := (u.spell c.nameCode).2 with hv
  let x : ClassText :=
    ⟨t.spelled (c.frontCode docs), "abstract class ".toList ++ (u.spelled c.nameCode ++ [' ', '{']),
      '\n' :: v.spelled (c.innerCode docs)⟩
  have hline : x.opening = t.spelled (c.frontCode docs) ++
      ("abstract class ".toList ++ (u.spelled c.nameCode ++ [' ', '{', '\n'])) := by
    simp [x, ClassText.opening]
  have hstart : indent.braces "abstract class ".toList = [] ∧
      indent.after "abstract class ".toList = middle := by decide
  have hopen : middle.braces [' ', '{', '\n'] = [U] ∧ middle.after [' ', '{', '\n'] = indent := by
    decide
  refine ⟨x, ?_, p + q, r, ?_⟩
  · rw [code_eq, ImportTable.spelled_append, ImportTable.spelled_cons_text,
      ImportTable.spelled_append, ImportTable.spelled_cons_text, ImportTable.spelled_append, ← hu,
      ← hv, ClassText.text, hline]
    simp [x, Stmt.closing]
  · refine
      { front := (c.endsLine_frontCode docs).exists_spelled t
        header := ⟨List.prefix_append _ _, ?_⟩
        inner := ?_
        opening_braces := ?_
        opening_after := ?_
        inner_braces := hinner.braces v
        inner_after := hinner.after v }
    · have hclass : '\n' ∉ "abstract class ".toList := by decide
      simpa [x, hclass] using onLine_nameCode h u
    · rcases (c.endsLine_innerCode docs).exists_spelled v with hempty | ⟨cs, hcs⟩
      · exact ⟨[], by simp [x, hempty]⟩
      · exact ⟨'\n' :: cs, by simp [x, hcs]⟩
    · rw [hline, braces_append, braces_append, braces_append, hfront.braces, hfront.after, hstart.1,
        hstart.2, hname.braces, hname.after, hopen.1]
      exact (List.append_assoc p.toList q.toList [U]).symm
    · rw [hline, after_append, after_append, after_append, hfront.after, hstart.2, hname.after,
        hopen.2]

end JavaBuilder.Java
