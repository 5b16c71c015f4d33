import JavaBuilder.Proofs.Java.Uses
import JavaBuilder.Proofs.Layout.Reading

/-!
# Printed code is balanced

Code whose names are ordinary, whose classes can be spelled and whose comments stay on their lines
prints with balanced braces, whatever its shape: expressions inside a line, statements and members
from one line start to the next. The proofs follow the printing functions, one case for each form of
code.
-/

namespace JavaBuilder.Java

open DyckStep LineState Code

/-- Code that can be printed. -/
def printable : Allowed where
  name x := IsOrdinary x ∧ x ≠ ""
  method x := IsOrdinary x ∧ x ≠ ""
  literal x := ∀ s : LineState, s.IsOpen → Reads s [.text x] [] middle
  string _ := True
  verbatim := IsPlain
  static owner x := owner.IsSpelled ∧ IsOrdinary x ∧ x ≠ ""
  type := ClassName.IsSpelled
  typeVar x := IsOrdinary x ∧ x ≠ ""
  unresolved _ := False
  comment x := '\n' ∉ x.toList
  diamond := True

variable {s s' s'' : LineState}

/-! ## Pieces of text -/

namespace Code

theorem Balanced.cons {a : Token} {c : Code} (ha : Balanced s [a] s') (hc : Balanced s' c s'') :
    Balanced s (a :: c) s'' :=
  ha.append hc

theorem reads_fixed {x : String} {w : List DyckStep}
    (h : s.braces x.toList = w ∧ s.after x.toList = s') : Reads s [.text x] w s' :=
  reads_text h.1 h.2

theorem balanced_text {x : String} (h : s.braces x.toList = [] ∧ s.after x.toList = s') :
    Balanced s [.text x] s' :=
  (reads_fixed h).balanced

theorem balanced_middle {x : String} (h : middle.braces x.toList = [] ∧ middle.after x.toList = middle) :
    Balanced middle [.text x] middle :=
  balanced_text h

/-- A fixed text that can also start a line. -/
theorem balanced_start {x : String} (hs : s.IsOpen)
    (h : ∀ s ∈ [indent, middle], s.braces x.toList = [] ∧ s.after x.toList = middle) :
    Balanced s [.text x] middle := by
  rcases hs with rfl | rfl
  · exact balanced_text (h _ (by simp))
  · exact balanced_text (h _ (by simp))

theorem balanced_name {x : String} (h : IsOrdinary x ∧ x ≠ "") (hs : s.IsOpen) :
    Balanced s [.text x] middle :=
  (IsOrdinary.reads h.1 h.2 hs).balanced

theorem balanced_plain {x : String} (h : IsPlain x) : Balanced middle [.text x] middle :=
  (IsPlain.reads h).balanced

theorem balanced_dotted {x : String} (h : IsOrdinary x ∧ x ≠ "") :
    Balanced middle [.text ("." ++ x)] middle :=
  balanced_plain (IsPlain.append (by decide) (isPlain_of_isOrdinaryText h.1))

theorem balanced_type {name : ClassName} (h : name.IsSpelled) (hs : s.IsOpen) :
    Balanced s [.type name] middle :=
  (reads_type h hs).balanced

theorem spaces_of_indent (n : Nat) :
    indent.braces (String.join (List.replicate n " ")).toList = [] ∧
      indent.after (String.join (List.replicate n " ")).toList = indent := by
  rw [String.toList_join, List.flatMap_replicate]
  induction n with
  | zero => exact ⟨rfl, rfl⟩
  | succ n ih => exact ih

theorem balanced_newLine (n : Nat) : Balanced middle [.text (newLine n)] indent :=
  balanced_text_append (balanced_text ⟨rfl, rfl⟩) (balanced_text (spaces_of_indent n))

end Code

/-! ## Types -/

namespace TypeRef

mutual

theorem balanced_code : (t : TypeRef) → t.Uses printable → {s : LineState} → s.IsOpen →
    Balanced s t.code middle
  | primitive p, _, _, hs => by
    cases p <;> exact balanced_start hs (by decide)
  | declared name [], h, _, hs => balanced_type h.1 hs
  | declared name (a :: as), h, _, hs => by
    refine (balanced_type h.1 hs).cons (.cons (balanced_middle (by decide)) ?_)
    exact (balanced_code a h.2.1 isOpen_middle).append (balanced_tailCode as h.2.2)
  | typeVar name, h, _, hs => balanced_name h hs
  | wildcard, _, _, hs => balanced_start hs (by decide)
  | extending bound, h, _, hs =>
    .cons (balanced_start hs (by decide)) (balanced_code bound h isOpen_middle)
  | array component, h, _, hs =>
    (balanced_code component h hs).append (balanced_middle (by decide))
  | void, _, _, hs => balanced_start hs (by decide)
  | unresolved _, h, _, _ => absurd h not_false

theorem balanced_tailCode : (ts : List TypeRef) → TypeRef.UsesAll printable ts →
    Balanced middle (tailCode ts) middle
  | [], _ => balanced_middle (by decide)
  | t :: ts, h =>
    .cons (balanced_middle (by decide))
      ((balanced_code t h.1 isOpen_middle).append (balanced_tailCode ts h.2))

end

theorem balanced_newCode {t : TypeRef} (h : t.Uses printable) (diamond : Bool) (hs : s.IsOpen) :
    Balanced s (t.newCode diamond) middle := by
  unfold newCode
  split
  · next name a as =>
    split
    · exact (balanced_type h.1 hs).cons (balanced_middle (by decide))
    · exact balanced_code _ h hs
  · exact balanced_code _ h hs

end TypeRef

/-! ## Expressions -/

theorem balanced_around (op : BinaryOp) (wrap : Wrap) :
    Balanced middle [.text (wrap.around op)] middle := by
  cases wrap with
  | same => cases op <;> exact balanced_middle (by decide)
  | next spaces =>
    refine balanced_text_append (balanced_text_append (balanced_newLine spaces) ?_)
      (balanced_middle (by decide))
    cases op <;> exact balanced_start isOpen_indent (by decide)

/-- What opens the arguments of a call leads to code again. -/
theorem balanced_opening (layout : ArgLayout) (hs : s.IsOpen) :
    ∃ s', s'.IsOpen ∧ Balanced s [.text layout.opening] s' := by
  cases layout with
  | inline => exact ⟨middle, isOpen_middle, balanced_start hs (by decide)⟩
  | hanging =>
    exact ⟨indent, isOpen_indent, balanced_text_append (balanced_start hs (by decide))
      (balanced_newLine 4)⟩
  | stacked =>
    exact ⟨indent, isOpen_indent, balanced_text_append (balanced_start hs (by decide))
      (balanced_newLine 8)⟩

theorem balanced_separator (layout : ArgLayout) :
    ∃ s', s'.IsOpen ∧ Balanced middle [.text layout.separator] s' := by
  cases layout with
  | inline | hanging => exact ⟨middle, isOpen_middle, balanced_middle (by decide)⟩
  | stacked =>
    exact ⟨indent, isOpen_indent, balanced_text_append (balanced_middle (by decide))
      (balanced_newLine 8)⟩

theorem balanced_typeArgsCode {ts : List TypeRef} (h : TypeRef.UsesAll printable ts) :
    Balanced middle (typeArgsCode ts) middle := by
  cases ts with
  | nil => exact balanced_nil
  | cons t ts =>
    exact .cons (balanced_middle (by decide))
      ((TypeRef.balanced_code t h.1 isOpen_middle).append (TypeRef.balanced_tailCode ts h.2))

namespace Expr

mutual

theorem balanced_code : (e : Expr) → e.Uses printable → {s : LineState} → s.IsOpen →
    Balanced s e.code middle
  | var _, h, _, hs | own _, h, _, hs | enclosing _, h, _, hs => balanced_name h hs
  | this, _, _, hs | null, _, _, hs => balanced_start hs (by decide)
  | literal _, h, _, hs => (h _ hs).balanced
  | string x, _, _, hs => (reads_stringLiteral x hs).balanced
  | verbatim _, h, _, _ => absurd h not_false
  | field e _, h, _, hs => (balanced_code e h.1 hs).append (balanced_dotted h.2)
  | static _ _, h, _, hs => (balanced_type h.1 hs).cons (balanced_dotted h.2)
  | classOf _, h, _, hs => (balanced_type h hs).cons (balanced_middle (by decide))
  | ownCall _ args, h, _, hs =>
    (balanced_name h.1 hs).cons (balanced_argsCode .inline args h.2 isOpen_middle)
  | call e _ layout args, h, _, hs =>
    (balanced_code e h.1 hs).append
      ((balanced_dotted h.2.1).cons (balanced_argsCode layout args h.2.2 isOpen_middle))
  | staticCall _ targs _ layout args, h, _, hs => by
    refine (balanced_type h.1 hs).cons (.cons (balanced_middle (by decide)) ?_)
    exact (balanced_typeArgsCode h.2.1).append
      ((balanced_name h.2.2.1 isOpen_middle).cons
        (balanced_argsCode layout args h.2.2.2 isOpen_middle))
  | create t diamond args, h, _, hs =>
    .cons (balanced_start hs (by decide))
      ((TypeRef.balanced_newCode h.1 diamond isOpen_middle).append
        (balanced_argsCode .inline args h.2.2 isOpen_middle))
  | newArray c es, h, _, hs => by
    refine .cons (balanced_start hs (by decide)) ((balanced_type h.1 isOpen_middle).cons ?_)
    exact (reads_fixed (by decide)).opens.close (balanced_listCode es h.2) (reads_fixed (by decide))
  | cast t e, h, _, hs => by
    refine .cons (balanced_start hs (by decide)) ?_
    exact (TypeRef.balanced_code t h.1 isOpen_middle).append
      (.cons (balanced_middle (by decide)) (balanced_code e h.2 isOpen_middle))
  | not e, h, _, hs => .cons (balanced_start hs (by decide)) (balanced_code e h isOpen_middle)
  | paren e, h, _, hs =>
    .cons (balanced_start hs (by decide))
      ((balanced_code e h isOpen_middle).append (balanced_middle (by decide)))
  | instanceOf e _, h, _, hs =>
    (balanced_code e h.1 hs).append
      (.cons (balanced_middle (by decide)) (balanced_type h.2 isOpen_middle))
  | binary op wrap l r, h, _, hs =>
    (balanced_code l h.1 hs).append
      ((balanced_around op wrap).cons (balanced_code r h.2 isOpen_middle))
  | conditional c a b, h, _, hs =>
    (balanced_code c h.1 hs).append (.cons (balanced_middle (by decide))
      ((balanced_code a h.2.1 isOpen_middle).append
        (.cons (balanced_middle (by decide)) (balanced_code b h.2.2 isOpen_middle))))

theorem balanced_argsCode (layout : ArgLayout) : (es : List Expr) → UsesAll printable es →
    {s : LineState} → s.IsOpen → Balanced s (argsCode layout es) middle
  | [], _, _, hs => balanced_start hs (by decide)
  | e :: es, h, _, hs => by
    obtain ⟨s', hs', hopening⟩ := balanced_opening layout hs
    refine hopening.cons (Balanced.append ?_ (balanced_middle (by decide)))
    exact (balanced_code e h.1 hs').append (balanced_tailCode layout es h.2)

theorem balanced_tailCode (layout : ArgLayout) : (es : List Expr) → UsesAll printable es →
    Balanced middle (tailCode layout.separator es) middle
  | [], _ => balanced_nil
  | e :: es, h => by
    obtain ⟨s', hs', hseparator⟩ := balanced_separator layout
    exact hseparator.cons ((balanced_code e h.1 hs').append (balanced_tailCode layout es h.2))

theorem balanced_listCode : (es : List Expr) → UsesAll printable es →
    Balanced middle (listCode ", " es) middle
  | [], _ => balanced_nil
  | e :: es, h => (balanced_code e h.1 isOpen_middle).append (balanced_tailCode .inline es h.2)

end

theorem UsesValue.balanced_code {e : Expr} (h : e.UsesValue printable) :
    Balanced middle e.code middle := by
  rcases h with h | ⟨x, rfl, hx⟩
  · exact e.balanced_code h isOpen_middle
  · exact balanced_plain hx

end Expr

/-! ## Statements -/

theorem reads_closing : Reads indent Stmt.closing [D] indent := reads_fixed (by decide)

theorem balanced_semicolon : Balanced middle [.text ";\n"] indent := balanced_text (by decide)

theorem opens_block : Opens middle [.text ") \x7b\n"] indent := (reads_fixed (by decide)).opens

theorem balanced_spaced {x : String} (h : IsOrdinary x ∧ x ≠ "") (after : String)
    (hafter : IsPlain after) : Balanced middle [.text (" " ++ x ++ after)] middle :=
  balanced_plain (((show IsPlain " " by decide).append (isPlain_of_isOrdinaryText h.1)).append hafter)

theorem balanced_comment {x : String} (h : '\n' ∉ x.toList) : Balanced comment [.text x] comment :=
  (reads_comment h).balanced

namespace Stmt

mutual

theorem balanced_code : (st : Stmt) → st.Uses printable → Balanced indent st.code indent
  | declare t x e, h => by
    refine (t.balanced_code h.1 isOpen_indent).append ?_
    refine (balanced_spaced h.2.1 " = " (by decide)).cons ?_
    exact (e.balanced_code h.2.2 isOpen_middle).append balanced_semicolon
  | assign l r, h =>
    (l.balanced_code h.1 isOpen_indent).append
      (.cons (balanced_middle (by decide)) (h.2.balanced_code.append balanced_semicolon))
  | eval e, h => (e.balanced_code h isOpen_indent).append balanced_semicolon
  | ret e, h =>
    .cons (balanced_start isOpen_indent (by decide))
      ((e.balanced_code h isOpen_middle).append balanced_semicolon)
  | throwNew _ args, h => by
    refine .cons (balanced_start isOpen_indent (by decide)) ?_
    exact (balanced_type h.1 isOpen_middle).cons
      ((Expr.balanced_argsCode .inline args h.2 isOpen_middle).append balanced_semicolon)
  | ifThen e b, h =>
    .cons (balanced_start isOpen_indent (by decide))
      ((e.balanced_code h.1 isOpen_middle).append
        (opens_block.close (balanced_blockCode b h.2) reads_closing))
  | ifElse e a b, h => by
    refine .cons (balanced_start isOpen_indent (by decide))
      ((e.balanced_code h.1 isOpen_middle).append ?_)
    have helse : Reads indent [.text "\x7d else \x7b\n"] [D, U] indent := reads_fixed (by decide)
    have hopen := opens_block.reopen (balanced_blockCode a h.2.1) helse
    have hclose := hopen.close (balanced_blockCode b h.2.2) reads_closing
    simpa using hclose
  | forEach t x e b, h => by
    refine .cons (balanced_start isOpen_indent (by decide)) ?_
    refine (t.balanced_code h.1 isOpen_middle).append ?_
    refine (balanced_spaced h.2.1 " : " (by decide)).cons ?_
    exact (e.balanced_code h.2.2.1 isOpen_middle).append
      (opens_block.close (balanced_blockCode b h.2.2.2) reads_closing)
  | remark x, h =>
    balanced_text_append (balanced_text_append (balanced_text (by decide)) (balanced_comment h))
      (balanced_text (by decide))

theorem balanced_blockCode : (ss : List Stmt) → UsesAll printable ss →
    Balanced indent (blockCode ss) indent
  | [], _ => balanced_nil
  | st :: ss, h => (balanced_code st h.1).append (balanced_blockCode ss h.2)

end

end Stmt

end JavaBuilder.Java
