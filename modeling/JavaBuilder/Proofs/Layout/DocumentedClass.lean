import JavaBuilder.Proofs.Layout.CodeLines
import JavaBuilder.Proofs.Layout.PrintedClass

/-!
# Classes with and without documentation

Documentation is printed in front of declarations and nowhere else, so the lines of a class with
documentation are those of the class without it and comments in between.
-/

namespace JavaBuilder.Java

open Text Code

/-! ## Documentation -/

theorem DocPiece.isInline_toCode {p : DocPiece} (h : p.Uses unbroken) : IsInline p.toCode := by
  have hopening : IsInline [.text "\x7b@link "] := isInline_text (by decide)
  cases p with
  | text x => exact isInline_text h
  | code x =>
    have hx : '\n' ∉ x.toList := h
    exact isInline_text (by simp [hx])
  | link t => exact hopening.cons (h.isInline.cons (isInline_text (by decide)))
  | linkMethod t m =>
    have hm : '\n' ∉ m.toList := h.2
    exact hopening.cons (h.1.isInline.cons (isInline_text (by simp [hm])))
  | linkAs t m label =>
    have hm : '\n' ∉ m.toList := h.2.1
    have hlabel : '\n' ∉ label.toList := h.2.2
    exact hopening.cons (h.1.isInline.cons (isInline_text (by simp [hm, hlabel])))

theorem DocLine.exists_isDocLine {l : DocLine} (h : l.Uses unbroken) :
    ∃ line, IsDocLine line ∧ l.toCode.chars = line ++ ['\n'] := by
  cases l with
  | blank => exact ⟨" *".toList, ⟨by decide, by decide, by decide⟩, by simp [toCode]⟩
  | line pieces =>
    have hpieces : IsInline (pieces.flatMap DocPiece.toCode) :=
      isInline_flatMap fun p hp ↦ DocPiece.isInline_toCode (h p hp)
    refine ⟨" * ".toList ++ chars (pieces.flatMap DocPiece.toCode), ⟨?_, ?_, ?_⟩, by simp [toCode]⟩
    · simpa [IsInline] using hpieces
    · exact ⟨' ' :: chars (pieces.flatMap DocPiece.toCode), by simp⟩
    · simp [docClosing]

/-- Documentation is printed as a comment or not at all. -/
theorem documents_docCode {doc : Option Doc} (h : ∀ d ∈ doc, Doc.Uses unbroken d) :
    Documents (docCode true doc) (docCode false doc) := by
  cases doc with
  | none => exact .nil
  | some d =>
    have hlines : ∃ lines : List (List Char), (∀ l ∈ lines, IsDocLine l) ∧
        chars (d.flatMap DocLine.toCode) = lines.flatMap (· ++ ['\n']) := by
      have hd := h d rfl
      clear h
      induction d with
      | nil => exact ⟨[], by simp, rfl⟩
      | cons l d ih =>
        obtain ⟨line, hline, hl⟩ := DocLine.exists_isDocLine (hd l List.mem_cons_self)
        obtain ⟨lines, hlines, hd⟩ := ih fun x hx ↦ hd x (List.mem_cons_of_mem l hx)
        exact ⟨line :: lines, List.forall_mem_cons.mpr ⟨hline, hlines⟩, by simp [hl, hd]⟩
    obtain ⟨lines, hlines, hchars⟩ := hlines
    refine ⟨docOpening :: (lines ++ [docClosing]), [], .comment hlines .nil, ?_, by simp [docCode]⟩
    simp [docCode, Doc.toCode, hchars, docOpening, docClosing]

/-! ## Fields and methods -/

theorem isInline_markersCode {names : List ClassName} (h : ∀ n ∈ names, unbroken.type n) :
    IsInline (markersCode names) :=
  isInline_flatMap fun n hn ↦
    (isInline_text (by decide)).cons ((h n hn).isInline.cons (isInline_text (by decide)))

theorem newline_notMem_modifiersText (ms : List Modifier) : '\n' ∉ (modifiersText ms).toList :=
  newline_notMem_join fun x hx ↦ by
    obtain ⟨m, -, rfl⟩ := List.mem_map.mp hx
    cases m <;> decide

theorem Field.isMarked_valueCode {f : Field} (h : f.Uses unbroken) {c : Code} (hc : IsMarked c) :
    IsMarked (c ++ valueCode f.wrap f.value) := by
  cases hv : f.value with
  | none => simpa [valueCode] using hc
  | some e =>
    have he := h.value e hv
    cases hw : f.wrap with
    | same =>
      rw [if_pos hw] at he
      exact he.isMarked_assigned hc
    | next spaces =>
      rw [if_neg (by simp [hw])] at he
      have hjoins := joins_newLine (x := " =") (y := "") (by decide) (by decide) spaces
      simpa [valueCode] using hjoins _ _ hc (e.isMarked_code he)

theorem Field.documents_code {f : Field} (h : f.Uses unbroken) : Documents f.code f.code := by
  have hname : IsMarkedLine (" " ++ f.name).toList := by
    simpa using IsMarkedLine.prepend (m := [' ']) h.name (by decide)
  have hfront : IsMarked (markersCode f.markers ++ .text (modifiersText f.modifiers) ::
      (f.type.code ++ [.text (" " ++ f.name)])) := by
    refine (isInline_markersCode h.markers).append_marked ?_
    refine (isInline_text (newline_notMem_modifiersText _)).cons_marked ?_
    exact (f.type.isInline_code h.type).append_marked (isMarked_text hname)
  simpa [code] using Stmt.documents_ended (isMarked_valueCode h hfront)

theorem Param.isInline_code {p : Param} (h : p.Uses unbroken) : IsInline p.code := by
  have hname : '\n' ∉ (" " ++ p.name).toList := by simpa using h.name.1
  exact (isInline_markersCode h.markers).append
    ((p.type.isInline_code h.type).append (isInline_text hname))

theorem newline_notMem_typeParamsText {xs : List String} (h : ∀ x ∈ xs, unbroken.typeVar x) :
    '\n' ∉ (Method.typeParamsText xs).toList := by
  rw [Method.typeParamsText]
  split
  · simp
  · simpa using newline_notMem_intercalate ", " (by decide) h

theorem newline_notMem_paramsText {c : GenericClass} (h : ∀ x ∈ c.params, unbroken.typeVar x) :
    '\n' ∉ c.paramsText.toList := by
  rw [GenericClass.paramsText]
  split
  · simp
  · simpa using newline_notMem_intercalate ", " (by decide) h

theorem Method.documents_headCode {m : Method} (h : m.Uses unbroken) :
    Documents m.headCode m.headCode := by
  have hname : '\n' ∉ m.name.toList := h.name
  have hparams : IsInline (separated ", " (m.params.map (·.code))) := by
    refine isInline_separated (by decide) fun c hc ↦ ?_
    obtain ⟨p, hp, rfl⟩ := List.mem_map.mp hc
    exact Param.isInline_code (h.params p hp)
  have hbracket : IsMarkedLine (m.name ++ "(").toList := by
    simpa using IsMarkedLine.prepend (l := ['(']) (by decide) hname
  have hmodifiers : '\n' ∉ (modifiersText m.modifiers ++ typeParamsText m.typeParams).toList := by
    simpa using ⟨newline_notMem_modifiersText _, newline_notMem_typeParamsText h.typeParams⟩
  have hline {c : Code} (hc : IsInline c) := Stmt.documents_opened
    ((isInline_markersCode h.markers).append_marked ((isInline_text hmodifiers).cons_marked
      (hc.append_marked ((isMarked_text hbracket).append_inline hparams))))
  simp only [List.append_assoc, List.cons_append, List.nil_append] at hline
  refine hline ?_
  split
  · next t ht => exact (t.isInline_code (h.result t ht)).append (isInline_text (by decide))
  · exact isInline_nil

theorem Method.documents_code {m : Method} (h : m.Uses unbroken) :
    Documents (m.code true) (m.code false) := by
  have hoverrides : Documents (if m.overrides then [.text "@Override\n"] else [])
      (if m.overrides then [.text "@Override\n"] else []) := by
    split
    · exact documents_text (x := "@Override") (by decide)
    · exact .nil
  have hflags : Documents (m.flags.flatMap fun n ↦ [.text "@", .type n, .text "\n"])
      (m.flags.flatMap fun n ↦ [.text "@", .type n, .text "\n"]) :=
    .flatMap fun n hn ↦ by
      have hline : IsMarked [.text "@", .type n] :=
        (isMarked_text (by decide)).append_inline (h.flags n hn).isInline
      simpa using hline.ended (x := "") (by decide)
  have hbefore := ((documents_docCode h.doc).append hoverrides).append hflags
  exact ((hbefore.append (documents_headCode h)).append
    (Stmt.documents_blockCode m.body h.body)).append Stmt.documents_closing

/-! ## Classes -/

theorem Member.documents_code {m : Member} (h : m.Uses unbroken) :
    Documents (m.code true) (m.code false) := by
  cases m with
  | field f => exact Field.documents_code h
  | method m => exact Method.documents_code h

/-- With documentation or without it, a declaration is printed as something. -/
theorem Member.code_ne_nil (docs : Bool) (m : Member) : m.code docs ≠ [] := by
  cases m <;> simp [code, Field.code, Method.code, Stmt.closing]

theorem Item.code_ne_nil (docs : Bool) (i : Item) : i.code docs ≠ [] := by
  cases i with
  | member m => exact m.code_ne_nil docs
  | enum e => simp [code, EnumDecl.code]
  | nested c => simp [code, NestedClass.code]

/-- The same groups are left out with documentation and without it. -/
theorem documents_groupsCode {α : Type} {f : Bool → α → Code} {groups : List (List α)}
    (hne : ∀ docs x, f docs x ≠ [])
    (h : ∀ g ∈ groups, ∀ x ∈ g, Documents (f true x) (f false x)) :
    Documents (groupsCode (groups.map fun g ↦ g.flatMap (f true)))
      (groupsCode (groups.map fun g ↦ g.flatMap (f false))) := by
  -- A group has code as soon as it has a declaration, whichever way that is printed.
  have hempty (docs : Bool) : (fun g : List α ↦ !(g.flatMap (f docs)).isEmpty) =
      fun g ↦ !g.isEmpty := by
    funext g
    cases g with
    | nil => rfl
    | cons x g => simp [hne docs x]
  have hgroups (docs : Bool) : groupsCode (groups.map fun g ↦ g.flatMap (f docs)) =
      separated "\n" ((groups.filter fun g ↦ !g.isEmpty).map fun g ↦ g.flatMap (f docs)) := by
    rw [groupsCode, List.filter_map]
    exact congrArg (fun p ↦ separated "\n" ((groups.filter p).map fun g ↦ g.flatMap (f docs)))
      (hempty docs)
  rw [hgroups, hgroups]
  exact .separated .blank fun g hg ↦ .flatMap (h g (List.mem_of_mem_filter hg))

theorem documents_membersCode {groups : List (List Member)}
    (h : ∀ g ∈ groups, ∀ m ∈ g, m.Uses unbroken) :
    Documents (membersCode true groups) (membersCode false groups) :=
  documents_groupsCode (f := Member.code) Member.code_ne_nil fun g hg m hm ↦
    Member.documents_code (h g hg m hm)

theorem EnumDecl.documents_code {e : EnumDecl} (h : e.Uses unbroken) :
    Documents (e.code true) (e.code false) := by
  have hhead : IsMarkedLine ("private enum " ++ e.name ++ " \x7b").toList := by
    have hword : IsMarkedLine "private enum ".toList := by decide
    simpa using (hword.append h.name.1).append (m := " \x7b".toList) (by decide)
  have hname : Documents [.text ("private enum " ++ e.name ++ " \x7b\n")]
      [.text ("private enum " ++ e.name ++ " \x7b\n")] :=
    (documents_text hhead).congr (by simp)
  have hconstants : Documents
      (e.constants.flatMap fun c ↦ .text c.1 :: (Expr.argsCode .inline c.2 ++ [.text ",\n"]))
      (e.constants.flatMap fun c ↦ .text c.1 :: (Expr.argsCode .inline c.2 ++ [.text ",\n"])) :=
    .flatMap fun c hc ↦ by
      have hline := (isMarked_text (h.constants c hc).1).append
        (Expr.isMarked_argsCode .inline c.2 (h.constants c hc).2)
      exact hline.ended (x := ",") (by decide)
  have hsemicolon : Documents [.text ";\n\n"] [.text ";\n\n"] :=
    ((documents_text (x := ";") (by decide)).append .blank).congr (by simp)
  exact hname.append (hconstants.append (hsemicolon.append
    ((documents_membersCode h.groups).append Stmt.documents_closing)))

theorem NestedClass.documents_code {c : NestedClass} (h : c.Uses unbroken) :
    Documents (c.code true) (c.code false) := by
  have hhead : IsMarked [.text ("private static final class " ++ c.type.name.simpleName ++
      c.type.paramsText ++ (if c.implements then " implements " else " extends "))] := by
    have hword : IsMarkedLine "private static final class ".toList := by decide
    have hname := (hword.append h.type.simpleName).append (newline_notMem_paramsText h.type.params)
    refine isMarked_text ?_
    split
    · simpa using hname.append (m := " implements ".toList) (by decide)
    · simpa using hname.append (m := " extends ".toList) (by decide)
  have hline := (hhead.append_inline (c.parent.isInline_code h.parent)).ended (x := " \x7b") (by decide)
  simpa [code] using hline.append ((documents_membersCode h.groups).append Stmt.documents_closing)

theorem Item.documents_code {i : Item} (h : i.Uses unbroken) :
    Documents (i.code true) (i.code false) := by
  cases i with
  | member m => exact Member.documents_code h
  | enum e => exact EnumDecl.documents_code h
  | nested c => exact NestedClass.documents_code h

namespace TopClass

variable {c : TopClass} (h : c.Uses unbroken)

include h

theorem documents_frontCode : Documents (c.frontCode true) (c.frontCode false) := by
  have hdoc : Documents (docCode true (some c.doc)) (docCode false (some c.doc)) :=
    documents_docCode fun d hd ↦ Option.mem_some.mp hd ▸ h.doc
  refine hdoc.append (.flatMap fun a ha ↦ ?_)
  have hliteral : IsMarkedLine ("(" ++ stringLiteral a.2 ++ ")").toList := by
    have hquoted := (isMarkedLine_stringLiteral a.2).prepend (m := ['(']) (by decide)
    simpa using hquoted.append (m := [')']) (by decide)
  have hline := (isInline_text (x := "@") (by decide)).cons_marked
    ((h.annotations a ha).1.isInline.cons_marked (isMarked_text hliteral))
  exact (hline.ended (x := "") (by decide)).congr (by simp)

theorem isMarked_nameCode : IsMarked (.text "abstract class " :: c.nameCode) := by
  refine (isMarked_text (by decide)).append_inline (IsInline.append ?_ ?_)
  · exact h.type.name.isInline.cons (isInline_text (newline_notMem_paramsText h.type.params))
  · split
    · next n hn => exact (isInline_text (by decide)).cons (h.implements n hn).isInline
    · exact isInline_nil

theorem documents_innerCode : Documents (c.innerCode true) (c.innerCode false) :=
  documents_groupsCode (f := Item.code) Item.code_ne_nil fun g hg i hi ↦
    Item.documents_code (h.groups g hg i hi)

/-- **The lines of a class with documentation are those of the class without it, and comments.** -/
theorem documents_code : Documents (c.code true) (c.code false) := by
  have hline := (isMarked_nameCode h).ended_blank (x := " \x7b") (by decide)
  have hclass := hline.append ((documents_innerCode h).append Stmt.documents_closing)
  rw [code_eq, code_eq]
  simpa using (documents_frontCode h).append hclass

end TopClass

end JavaBuilder.Java
