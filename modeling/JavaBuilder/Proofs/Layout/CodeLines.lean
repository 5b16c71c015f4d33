import JavaBuilder.Proofs.Java.LiteralText
import JavaBuilder.Proofs.Java.Uses
import JavaBuilder.Proofs.Layout.DocComments

/-!
# Statements in lines

Where nothing that code is made of breaks a line, only the printer does, and it does so behind a mark: a
bracket, a comma, a semicolon, or the left operand of an operator. So every line of a statement is a line
of code.
-/

namespace JavaBuilder.Java

open Text Code

/-! ## Unbroken names -/

/-- No part of the name has a line break. -/
def ClassName.IsUnbroken (name : ClassName) : Prop :=
  ∀ s ∈ name.package ++ name.simpleNames, '\n' ∉ s.toList

instance (name : ClassName) : Decidable name.IsUnbroken :=
  inferInstanceAs (Decidable (∀ s ∈ name.package ++ name.simpleNames, '\n' ∉ s.toList))

/-- Nothing has a line break. A name or a literal can be an operand, so it has a mark as well. -/
def unbroken : Allowed where
  name x := IsMarkedLine x.toList
  method x := '\n' ∉ x.toList
  literal x := IsMarkedLine x.toList
  string _ := True
  verbatim x := '\n' ∉ x.toList
  static c x := c.IsUnbroken ∧ '\n' ∉ x.toList
  type := ClassName.IsUnbroken
  typeVar x := '\n' ∉ x.toList
  unresolved x := '\n' ∉ x.toList
  comment x := '\n' ∉ x.toList
  diamond := True

theorem ClassName.IsUnbroken.isInline {name : ClassName} (h : name.IsUnbroken) :
    IsInline [.type name] := by
  simp only [IsInline, chars_type, chars_nil, List.append_nil, ClassName.text, join,
    String.toList_ofList]
  intro hmem
  rcases mem_joinSegments hmem with hdot | ⟨cs, hcs, hmem⟩
  · exact absurd hdot (by decide)
  · obtain ⟨s, hs, rfl⟩ := List.mem_map.mp hcs
    exact h s hs hmem

theorem newline_notMem_join {xs : List String} (h : ∀ x ∈ xs, '\n' ∉ x.toList) :
    '\n' ∉ (String.join xs).toList := by
  simpa using h

theorem newline_notMem_intercalate (sep : String) (hsep : '\n' ∉ sep.toList) {xs : List String}
    (h : ∀ x ∈ xs, '\n' ∉ x.toList) : '\n' ∉ (sep.intercalate xs).toList := by
  induction xs with
  | nil => simp
  | cons x xs ih =>
    rw [List.forall_mem_cons] at h
    cases xs with
    | nil => simpa using h.1
    | cons y ys => simpa [String.intercalate_cons_cons, h.1, hsep] using ih h.2

/-- A string literal escapes the line breaks of its string, and its quotes are marks. -/
theorem isMarkedLine_stringLiteral (x : String) : IsMarkedLine (stringLiteral x).toList := by
  refine ⟨newline_notMem_stringLiteral x, '"', ?_, by decide⟩
  rw [stringLiteral, String.toList_ofList, literalChars]
  exact List.mem_cons_self

/-! ## Types -/

namespace TypeRef

mutual

theorem isInline_code : (t : TypeRef) → t.Uses unbroken → IsInline t.code
  | primitive p, _ => isInline_text (by cases p <;> decide)
  | declared _ [], h => h.1.isInline
  | declared _ (a :: as), h => by
    refine h.1.isInline.cons ((isInline_text (by decide)).cons ?_)
    exact (isInline_code a h.2.1).append (isInline_tailCode as h.2.2)
  | typeVar _, h => isInline_text h
  | wildcard, _ => isInline_text (by decide)
  | extending bound, h => (isInline_text (by decide)).cons (isInline_code bound h)
  | array component, h => (isInline_code component h).append (isInline_text (by decide))
  | void, _ => isInline_text (by decide)
  | unresolved _, h => isInline_text h

theorem isInline_tailCode : (ts : List TypeRef) → UsesAll unbroken ts → IsInline (tailCode ts)
  | [], _ => isInline_text (by decide)
  | t :: ts, h =>
    (isInline_text (by decide)).cons ((isInline_code t h.1).append (isInline_tailCode ts h.2))

end

theorem isInline_newCode {t : TypeRef} (h : t.Uses unbroken) (diamond : Bool) :
    IsInline (t.newCode diamond) := by
  unfold newCode
  split
  · split
    · exact h.1.isInline.cons (isInline_text (by decide))
    · exact isInline_code _ h
  · exact isInline_code _ h

end TypeRef

theorem isInline_typeArgsCode {ts : List TypeRef} (h : TypeRef.UsesAll unbroken ts) :
    IsInline (typeArgsCode ts) := by
  cases ts with
  | nil => exact isInline_nil
  | cons t ts =>
    exact (isInline_text (by decide)).cons ((t.isInline_code h.1).append (TypeRef.isInline_tailCode ts h.2))

/-! ## Line breaks -/

/-- Between marked pieces of code, the text leaves all lines marked. -/
def Joins (x : String) : Prop := ∀ c d : Code, IsMarked c → IsMarked d → IsMarked (c ++ .text x :: d)

theorem joins_inline {x : String} (h : '\n' ∉ x.toList) : Joins x :=
  fun _ _ hc hd ↦ hc.append ((isInline_text h).cons_marked hd)

theorem joins_newLine {x y : String} (hx : '\n' ∉ x.toList) (hy : '\n' ∉ y.toList) (n : Nat) :
    Joins (x ++ newLine n ++ y) := by
  intro c d hc hd
  have hspaces : '\n' ∉ (String.join (List.replicate n " ")).toList :=
    newline_notMem_join fun s hs ↦ by
      rw [List.eq_of_mem_replicate hs]
      decide
  have hd := (isInline_text hspaces).cons_marked ((isInline_text hy).cons_marked hd)
  have hall := Marked.newline (hc.append_inline (isInline_text hx)) hd
  simpa [IsMarked, newLine] using hall

theorem joins_around (op : BinaryOp) (wrap : Wrap) : Joins (wrap.around op) := by
  have hsymbol : '\n' ∉ op.symbol.toList := by cases op <;> decide
  cases wrap with
  | same => exact joins_inline (by simp [Wrap.around, hsymbol])
  | next n =>
    have hjoins := joins_newLine (x := "") (y := op.symbol ++ " ") (by simp) (by simp [hsymbol]) n
    simpa [Wrap.around, String.append_assoc] using hjoins

theorem joins_separator (layout : ArgLayout) : Joins layout.separator := by
  cases layout with
  | inline | hanging => exact joins_inline (by decide)
  | stacked =>
    simpa [ArgLayout.separator] using joins_newLine (x := ",") (y := "") (by decide) (by simp) 8

theorem isMarked_opening (layout : ArgLayout) {c : Code} (hc : IsMarked c) :
    IsMarked (.text layout.opening :: c) := by
  have hbracket : IsMarked [.text "("] := isMarked_text (by decide)
  have hnewLine (n : Nat) : IsMarked (.text ("(" ++ newLine n) :: c) := by
    have hjoins := joins_newLine (x := "") (y := "") (by simp) (by simp) n _ _ hbracket hc
    simpa [IsMarked] using hjoins
  cases layout with
  | inline => exact hbracket.append hc
  | hanging => exact hnewLine 4
  | stacked => exact hnewLine 8

/-! ## Expressions -/

namespace Expr

mutual

theorem isMarked_code : (e : Expr) → e.Uses unbroken → IsMarked e.code
  | var _, h | own _, h | enclosing _, h | literal _, h => isMarked_text h
  | this, _ | null, _ => isMarked_text (by decide)
  | string x, _ => isMarked_text (isMarkedLine_stringLiteral x)
  | verbatim _, h => absurd h not_false
  | field e name, h =>
    (isMarked_code e h.1).append_inline (isInline_text (by simpa using h.2.1))
  | static owner name, h => by
    have hdot : IsMarkedLine ".".toList := by decide
    refine h.1.isInline.cons_marked (isMarked_text ?_)
    simpa using hdot.append h.2
  | classOf _, h => h.isInline.cons_marked (isMarked_text (by decide))
  | ownCall _ args, h => (isInline_text h.1).cons_marked (isMarked_argsCode .inline args h.2)
  | call e m layout args, h => by
    have hname : '\n' ∉ m.toList := h.2.1
    refine (isMarked_code e h.1).append (IsInline.cons_marked ?_ (isMarked_argsCode layout args h.2.2))
    exact isInline_text (by simpa using hname)
  | staticCall _ targs _ layout args, h => by
    refine h.1.isInline.cons_marked ((isInline_text (by decide)).cons_marked ?_)
    refine (isInline_typeArgsCode h.2.1).append_marked ?_
    exact (isInline_text h.2.2.1).cons_marked (isMarked_argsCode layout args h.2.2.2)
  | create t diamond args, h => by
    refine (isInline_text (by decide)).cons_marked ?_
    exact (TypeRef.isInline_newCode h.1 diamond).append_marked (isMarked_argsCode .inline args h.2.2)
  | newArray c es, h => by
    have hfront : IsMarked [.text "new ", .type c, .text "[] \x7b"] :=
      (isInline_text (by decide)).cons_marked (h.1.isInline.cons_marked (isMarked_text (by decide)))
    exact (isMarked_listCode hfront es h.2).append_inline (isInline_text (by decide))
  | cast t e, h => by
    refine (isInline_text (by decide)).cons_marked ((t.isInline_code h.1).append_marked ?_)
    exact (isInline_text (by decide)).cons_marked (isMarked_code e h.2)
  | not e, h => (isInline_text (by decide)).cons_marked (isMarked_code e h)
  | paren e, h =>
    (isInline_text (by decide)).cons_marked
      ((isMarked_code e h).append_inline (isInline_text (by decide)))
  | instanceOf e _, h =>
    (isMarked_code e h.1).append_inline ((isInline_text (by decide)).cons h.2.isInline)
  | binary op wrap l r, h =>
    joins_around op wrap _ _ (isMarked_code l h.1) (isMarked_code r h.2)
  | conditional c a b, h => by
    refine (isMarked_code c h.1).append ((isInline_text (by decide)).cons_marked ?_)
    refine (isMarked_code a h.2.1).append ((isInline_text (by decide)).cons_marked ?_)
    exact isMarked_code b h.2.2

theorem isMarked_argsCode (layout : ArgLayout) : (es : List Expr) → UsesAll unbroken es →
    IsMarked (argsCode layout es)
  | [], _ => isMarked_text (by decide)
  | e :: es, h => by
    refine isMarked_opening layout (IsMarked.append_inline ?_ (isInline_text (by decide)))
    exact isMarked_tailCode (joins_separator layout) (isMarked_code e h.1) es h.2

/-- Further expressions do not take the marks of the code in front of them. -/
theorem isMarked_tailCode {sep : String} (hsep : Joins sep) {c : Code} (hc : IsMarked c) :
    (es : List Expr) → UsesAll unbroken es → IsMarked (c ++ tailCode sep es)
  | [], _ => by rwa [tailCode, List.append_nil]
  | e :: es, h => by
    have hfirst := hsep _ _ hc (isMarked_code e h.1)
    simpa [tailCode] using isMarked_tailCode hsep hfirst es h.2

theorem isMarked_listCode {c : Code} (hc : IsMarked c) :
    (es : List Expr) → UsesAll unbroken es → IsMarked (c ++ listCode ", " es)
  | [], _ => by rwa [listCode, List.append_nil]
  | e :: es, h => by
    have hfirst := hc.append (isMarked_code e h.1)
    simpa [listCode] using isMarked_tailCode (joins_inline (by decide)) hfirst es h.2

end

/-- Source text that is assigned only makes a line longer. -/
theorem UsesValue.isMarked_assigned {e : Expr} (h : e.UsesValue unbroken) {c : Code}
    (hc : IsMarked c) : IsMarked (c ++ .text " = " :: e.code) := by
  rcases h with h | ⟨x, rfl, hx⟩
  · exact hc.append ((isInline_text (by decide)).cons_marked (isMarked_code e h))
  · exact hc.append_inline ((isInline_text (by decide)).cons (isInline_text hx))

end Expr

/-! ## Statements -/

namespace Stmt

theorem documents_closing : Documents closing closing := documents_text (x := "\x7d") (by decide)

theorem documents_ended {c : Code} (h : IsMarked c) :
    Documents (c ++ [.text ";\n"]) (c ++ [.text ";\n"]) :=
  h.ended (x := ";") (by decide)

theorem documents_opened {c : Code} (h : IsMarked c) :
    Documents (c ++ [.text ") \x7b\n"]) (c ++ [.text ") \x7b\n"]) :=
  h.ended (x := ") \x7b") (by decide)

mutual

theorem documents_code : (st : Stmt) → st.Uses unbroken → Documents st.code st.code
  | declare t x e, h => by
    have hname : '\n' ∉ (" " ++ x ++ " = ").toList := by simpa using h.2.1.1
    have hline := (t.isInline_code h.1).append_marked
      ((isInline_text hname).cons_marked (e.isMarked_code h.2.2))
    simpa [code] using documents_ended hline
  | assign l r, h => by
    simpa [code] using documents_ended (h.2.isMarked_assigned (l.isMarked_code h.1))
  | eval e, h => documents_ended (e.isMarked_code h)
  | ret e, h => by
    refine documents_ended (c := .text "return " :: e.code) ?_
    exact (isInline_text (by decide)).cons_marked (e.isMarked_code h)
  | throwNew c args, h => by
    refine documents_ended (c := .text "throw new " :: .type c :: Expr.argsCode .inline args) ?_
    exact (isInline_text (by decide)).cons_marked
      (h.1.isInline.cons_marked (Expr.isMarked_argsCode .inline args h.2))
  | ifThen e b, h => by
    have hline := documents_opened ((isInline_text (x := "if (") (by decide)).cons_marked
      (e.isMarked_code h.1))
    simpa [code] using hline.append ((documents_blockCode b h.2).append documents_closing)
  | ifElse e a b, h => by
    have hline := documents_opened ((isInline_text (x := "if (") (by decide)).cons_marked
      (e.isMarked_code h.1))
    have helse : Documents [.text "\x7d else \x7b\n"] [.text "\x7d else \x7b\n"] :=
      documents_text (x := "\x7d else \x7b") (by decide)
    simpa [code] using hline.append ((documents_blockCode a h.2.1).append
      (helse.append ((documents_blockCode b h.2.2).append documents_closing)))
  | forEach t x e b, h => by
    have hname : '\n' ∉ (" " ++ x ++ " : ").toList := by simpa using h.2.1.1
    have hline := documents_opened ((isInline_text (x := "for (") (by decide)).cons_marked
      ((t.isInline_code h.1).append_marked
        ((isInline_text hname).cons_marked (e.isMarked_code h.2.2.1))))
    simpa [code] using hline.append ((documents_blockCode b h.2.2.2).append documents_closing)
  | remark x, h => by
    -- Two slashes are no mark, but no line of a comment starts with them.
    have hremark : '\n' ∉ x.toList := h
    refine .of_isCodeLine ["// ".toList ++ x.toList] (by simp [code]) ?_
    rw [List.forall_mem_singleton]
    exact ⟨by simpa using hremark, by simp [docOpening], by simp [docClosing]⟩

theorem documents_blockCode : (ss : List Stmt) → UsesAll unbroken ss →
    Documents (blockCode ss) (blockCode ss)
  | [], _ => .nil
  | st :: ss, h => (documents_code st h.1).append (documents_blockCode ss h.2)

end

end Stmt

end JavaBuilder.Java
