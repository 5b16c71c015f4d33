import JavaBuilder.Proofs.Layout.Printed

/-!
# Printed declarations are balanced

Members and nested classes are sequences of whole lines. A top-level class is opened by one line and
closed by another, and everything between them is balanced by itself: `code_eq` cuts the code of a
class there.
-/

namespace JavaBuilder.Java

open DyckStep LineState Code

/-! ## Documentation -/

theorem not_mem_append {x y : String} (hx : '\n' ∉ x.toList) (hy : '\n' ∉ y.toList) :
    '\n' ∉ (x ++ y).toList := by
  simp [hx, hy]

theorem not_mem_of_isOrdinary {x : String} (h : IsOrdinary x) : '\n' ∉ x.toList :=
  fun hmem ↦ absurd (h _ hmem) (by decide)

theorem DocPiece.balanced_toCode {p : DocPiece} (h : p.Uses printable) :
    Balanced comment p.toCode comment := by
  have htype : ∀ {t : ClassName}, t.IsSpelled → Balanced comment [.type t] comment :=
    fun h ↦ (reads_comment_type h).balanced
  have hopening : Balanced comment [.text "\x7b@link "] comment := balanced_comment (by decide)
  cases p with
  | text x => exact balanced_comment h
  | code x => exact balanced_comment (not_mem_append (not_mem_append (by decide) h) (by decide))
  | link t => exact hopening.cons ((htype h).cons (balanced_comment (by decide)))
  | linkMethod t m =>
    have hm := not_mem_of_isOrdinary h.2.1
    refine hopening.cons ((htype h.1).cons (balanced_comment ?_))
    exact not_mem_append (not_mem_append (by decide) hm) (by decide)
  | linkAs t m label =>
    have hm := not_mem_of_isOrdinary h.2.1.1
    refine hopening.cons ((htype h.1).cons (balanced_comment ?_))
    exact not_mem_append (not_mem_append (not_mem_append (not_mem_append (by decide) hm)
      (by decide)) h.2.2) (by decide)

theorem DocLine.balanced_toCode {l : DocLine} (h : l.Uses printable) :
    Balanced indent l.toCode indent := by
  cases l with
  | blank => exact balanced_text (by decide)
  | line pieces =>
    have hstar : Balanced indent [.text " * "] comment := balanced_text (by decide)
    refine hstar.cons ?_
    exact (balanced_flatMap fun p hp ↦ DocPiece.balanced_toCode (h p hp)).append
      (balanced_text (by decide))

theorem balanced_docCode (docs : Bool) {doc : Option Doc} (h : ∀ d ∈ doc, Doc.Uses printable d) :
    Balanced indent (docCode docs doc) indent := by
  cases doc with
  | none => exact balanced_nil
  | some d =>
    rw [docCode]
    split
    · have hopening : Balanced indent [.text "/**\n"] indent := balanced_text (by decide)
      refine hopening.cons ?_
      exact (balanced_flatMap fun l hl ↦ DocLine.balanced_toCode (h d rfl l hl)).append
        (balanced_text (by decide))
    · exact balanced_nil

/-! ## Fields -/

variable {s : LineState}

/-- Markers in front of a declaration lead to code again. -/
theorem balanced_markersCode {names : List ClassName} (h : ∀ n ∈ names, n.IsSpelled)
    (hs : s.IsOpen) : ∃ s', s'.IsOpen ∧ Balanced s (markersCode names) s' := by
  induction names generalizing s with
  | nil => exact ⟨s, hs, balanced_nil⟩
  | cons n ns ih =>
    obtain ⟨s', hs', hrest⟩ := ih (fun m hm ↦ h m (List.mem_cons_of_mem n hm)) isOpen_middle
    refine ⟨s', hs', ?_⟩
    have hmarker : Balanced s [.text "@", .type n, .text " "] middle :=
      .cons (balanced_start hs (by decide))
        ((balanced_type (h n (by simp)) isOpen_middle).cons (balanced_middle (by decide)))
    exact hmarker.append hrest

theorem balanced_modifiersText (ms : List Modifier) (hs : s.IsOpen) :
    ∃ s', s'.IsOpen ∧ Balanced s [.text (modifiersText ms)] s' := by
  induction ms generalizing s with
  | nil => exact ⟨s, hs, balanced_text ⟨rfl, rfl⟩⟩
  | cons m ms ih =>
    obtain ⟨s', hs', hrest⟩ := ih isOpen_middle
    refine ⟨s', hs', ?_⟩
    have hmodifier : Balanced s [.text (m.keyword ++ " ")] middle := by
      cases m <;> exact balanced_start hs (by decide)
    rw [modifiersText, List.map_cons, String.join_cons]
    exact balanced_text_append hmodifier hrest

theorem Field.balanced_code {f : Field} (h : f.Uses printable) :
    Balanced indent f.code indent := by
  obtain ⟨s, hs, hmarkers⟩ := balanced_markersCode h.markers isOpen_indent
  obtain ⟨s', hs', hmodifiers⟩ := balanced_modifiersText f.modifiers hs
  have hvalue : Balanced middle (Field.valueCode f.wrap f.value) middle := by
    cases hv : f.value with
    | none => exact balanced_nil
    | some e =>
      have he := h.value e hv
      cases hw : f.wrap with
      | same =>
        rw [if_pos hw] at he
        exact .cons (balanced_middle (by decide)) he.balanced_code
      | next spaces =>
        rw [if_neg (by simp [hw])] at he
        exact .cons (balanced_text_append (balanced_middle (by decide)) (balanced_newLine spaces))
          (e.balanced_code he isOpen_indent)
  refine hmarkers.append (hmodifiers.cons ((f.type.balanced_code h.type hs').append ?_))
  have hname : Balanced middle [.text (" " ++ f.name)] middle :=
    balanced_plain (.append (by decide) (isPlain_of_isOrdinaryText h.name.1))
  exact hname.cons (hvalue.append balanced_semicolon)

/-! ## Methods -/

theorem Param.balanced_code {p : Param} (h : p.Uses printable) (hs : s.IsOpen) :
    Balanced s p.code middle := by
  obtain ⟨s', hs', hmarkers⟩ := balanced_markersCode h.markers hs
  refine hmarkers.append ((p.type.balanced_code h.type hs').append ?_)
  exact balanced_plain (.append (by decide) (isPlain_of_isOrdinaryText h.name.1))

theorem isPlain_intercalate {xs : List String} (h : ∀ x ∈ xs, IsOrdinary x ∧ x ≠ "") :
    IsPlain (", ".intercalate xs) := by
  induction xs with
  | nil => decide
  | cons x xs ih =>
    have hx := isPlain_of_isOrdinaryText (h x (by simp)).1
    have hxs := ih fun y hy ↦ h y (List.mem_cons_of_mem x hy)
    cases xs with
    | nil => simpa using hx
    | cons y ys =>
      rw [String.intercalate_cons_cons]
      exact (hx.append (by decide)).append hxs

theorem balanced_typeParamsText {xs : List String} (h : ∀ x ∈ xs, IsOrdinary x ∧ x ≠ "")
    (hs : s.IsOpen) : ∃ s', s'.IsOpen ∧ Balanced s [.text (Method.typeParamsText xs)] s' := by
  rw [Method.typeParamsText]
  split
  · exact ⟨s, hs, balanced_text ⟨rfl, rfl⟩⟩
  · refine ⟨middle, isOpen_middle, balanced_text_append (balanced_text_append
      (balanced_start hs (by decide)) ?_) (balanced_middle (by decide))⟩
    exact balanced_plain (isPlain_intercalate h)

theorem balanced_params {ps : List Param} (h : ∀ p ∈ ps, p.Uses printable) :
    Balanced middle (separated ", " (ps.map (·.code))) middle := by
  by_cases hne : ps = []
  · subst hne
    exact balanced_nil
  · refine balanced_separated (balanced_middle (by decide)) ?_ (by simpa using hne)
    intro c hc
    obtain ⟨p, hp, rfl⟩ := List.mem_map.mp hc
    exact Param.balanced_code (h p hp) isOpen_middle

theorem Method.opens_headCode {m : Method} (h : m.Uses printable) :
    Opens indent m.headCode indent := by
  obtain ⟨s, hs, hmarkers⟩ := balanced_markersCode h.markers isOpen_indent
  obtain ⟨s', hs', hmodifiers⟩ := balanced_modifiersText m.modifiers hs
  obtain ⟨s'', hs'', hparams⟩ := balanced_typeParamsText h.typeParams hs'
  refine hmarkers.append_opens (Balanced.append_opens (balanced_text_append hmodifiers hparams) ?_)
  have hname : ∀ {s : LineState}, s.IsOpen → Balanced s [.text (m.name ++ "(")] middle :=
    fun hs ↦ balanced_text_append (balanced_name h.name hs) (balanced_middle (by decide))
  have htail : Opens middle (separated ", " (m.params.map (·.code)) ++ [.text ") \x7b\n"]) indent :=
    (balanced_params h.params).append_opens opens_block
  cases hr : m.result with
  | none => exact (hname hs'').append_opens htail
  | some t =>
    have ht := t.balanced_code (h.result t hr) hs''
    refine (ht.append (balanced_middle (by decide))).append_opens ?_
    exact (hname isOpen_middle).append_opens htail

theorem Method.balanced_code (docs : Bool) {m : Method} (h : m.Uses printable) :
    Balanced indent (m.code docs) indent := by
  have hoverrides : Balanced indent (if m.overrides then [.text "@Override\n"] else []) indent := by
    split
    · exact balanced_text (by decide)
    · exact balanced_nil
  have hflags : Balanced indent (m.flags.flatMap fun n ↦ [.text "@", .type n, .text "\n"])
      indent := by
    refine balanced_flatMap fun n hn ↦ .cons (balanced_start isOpen_indent (by decide)) ?_
    exact (balanced_type (h.flags n hn) isOpen_middle).cons (balanced_text (by decide))
  have hbefore := ((balanced_docCode docs h.doc).append hoverrides).append hflags
  exact (hbefore.append_opens (opens_headCode h)).close
    (Stmt.balanced_blockCode m.body h.body) reads_closing

/-! ## Classes -/

theorem Member.balanced_code (docs : Bool) {m : Member} (h : m.Uses printable) :
    Balanced indent (m.code docs) indent := by
  cases m with
  | field f => exact Field.balanced_code h
  | method m => exact Method.balanced_code docs h

theorem balanced_groupsCode {groups : List Code} (h : ∀ g ∈ groups, Balanced indent g indent) :
    Balanced indent (groupsCode groups) indent := by
  rw [groupsCode]
  by_cases hne : groups.filter (fun g ↦ !g.isEmpty) = []
  · rw [hne]
    exact balanced_nil
  · refine balanced_separated (balanced_text (by decide)) (fun g hg ↦ h g ?_) hne
    exact List.mem_of_mem_filter hg

theorem balanced_membersCode (docs : Bool) {groups : List (List Member)}
    (h : ∀ g ∈ groups, ∀ m ∈ g, m.Uses printable) :
    Balanced indent (membersCode docs groups) indent := by
  refine balanced_groupsCode fun c hc ↦ ?_
  obtain ⟨g, hg, rfl⟩ := List.mem_map.mp hc
  exact balanced_flatMap fun m hm ↦ Member.balanced_code docs (h g hg m hm)

theorem EnumDecl.balanced_code (docs : Bool) {e : EnumDecl} (h : e.Uses printable) :
    Balanced indent (e.code docs) indent := by
  have hopens : Opens middle [.text " \x7b\n"] indent := (reads_fixed (by decide)).opens
  have hhead : Opens indent [.text ("private enum " ++ e.name ++ " \x7b\n")] indent :=
    opens_text_append (balanced_text_append (balanced_start isOpen_indent (by decide))
      (balanced_name h.name isOpen_middle)) hopens
  have hconstants : Balanced indent
      (e.constants.flatMap fun c ↦ .text c.1 :: (Expr.argsCode .inline c.2 ++ [.text ",\n"]))
      indent := by
    refine balanced_flatMap fun c hc ↦ (balanced_name (h.constants c hc).1 isOpen_indent).cons ?_
    exact (Expr.balanced_argsCode .inline c.2 (h.constants c hc).2 isOpen_middle).append
      (balanced_text (by decide))
  have hend : Balanced indent [.text ";\n\n"] indent := balanced_text (by decide)
  have hbody := hconstants.append (hend.cons (balanced_membersCode docs h.groups))
  have hall := hhead.close hbody reads_closing
  simpa only [EnumDecl.code, List.append_assoc, List.cons_append, List.nil_append] using hall

theorem balanced_paramsText {c : GenericClass} (h : ∀ x ∈ c.params, IsOrdinary x ∧ x ≠ "") :
    IsPlain c.paramsText := by
  rw [GenericClass.paramsText]
  split
  · decide
  · exact ((show IsPlain "<" by decide).append (isPlain_intercalate h)).append (by decide)

theorem NestedClass.balanced_code (docs : Bool) {c : NestedClass} (h : c.Uses printable) :
    Balanced indent (c.code docs) indent := by
  have hhead : Balanced indent [.text ("private static final class " ++ c.type.name.simpleName ++
      c.type.paramsText ++ (if c.implements then " implements " else " extends "))] middle := by
    refine balanced_text_append (balanced_text_append (balanced_text_append
      (balanced_start isOpen_indent (by decide)) (balanced_name h.type.simpleName isOpen_middle))
      (balanced_plain (balanced_paramsText h.type.params))) ?_
    split <;> exact balanced_middle (by decide)
  have hopens : Opens middle [.text " \x7b\n"] indent := (reads_fixed (by decide)).opens
  have hline := hhead.append_opens
    ((c.parent.balanced_code h.parent isOpen_middle).append_opens hopens)
  have hall := hline.close (balanced_membersCode docs h.groups) reads_closing
  simpa only [NestedClass.code, List.append_assoc, List.cons_append, List.nil_append] using hall

theorem Item.balanced_code (docs : Bool) {i : Item} (h : i.Uses printable) :
    Balanced indent (i.code docs) indent := by
  cases i with
  | member m => exact Member.balanced_code docs h
  | enum e => exact EnumDecl.balanced_code docs h
  | nested c => exact NestedClass.balanced_code docs h

/-! ## The top-level class -/

namespace TopClass

variable (c : TopClass)

/-- What stands before the class: documentation and annotations. -/
def frontCode (docs : Bool) : Code :=
  docCode docs (some c.doc) ++
    c.annotations.flatMap fun a ↦ [.text "@", .type a.1, .text ("(" ++ stringLiteral a.2 ++ ")\n")]

/-- The class and what it implements, as declared. -/
def nameCode : Code :=
  c.type.code ++ match c.implements with
    | some n => [.text " implements ", .type n]
    | none => []

/-- What stands in the class. -/
def innerCode (docs : Bool) : Code := groupsCode (c.groups.map fun g ↦ g.flatMap (·.code docs))

theorem code_eq (docs : Bool) : c.code docs =
    c.frontCode docs ++ (.text "abstract class " ::
      (c.nameCode ++ .text " \x7b\n\n" :: (c.innerCode docs ++ Stmt.closing))) := rfl

variable {c}

theorem balanced_frontCode (docs : Bool) (h : c.Uses printable) :
    Balanced indent (c.frontCode docs) indent := by
  have hdoc : ∀ d ∈ some c.doc, Doc.Uses printable d := by
    intro d hd
    rw [← Option.mem_some.mp hd]
    exact h.doc
  refine (balanced_docCode docs hdoc).append (balanced_flatMap fun a ha ↦ ?_)
  refine .cons (balanced_start isOpen_indent (by decide)) ?_
  refine (balanced_type (h.annotations a ha).1 isOpen_middle).cons ?_
  exact balanced_text_append (balanced_text_append (balanced_middle (by decide))
    (reads_stringLiteral a.2 isOpen_middle).balanced) (balanced_text (by decide))

theorem balanced_nameCode (h : c.Uses printable) : Balanced middle c.nameCode middle := by
  have hparams : Balanced middle [.text c.type.paramsText] middle :=
    balanced_plain (balanced_paramsText h.type.params)
  have htype : Balanced middle c.type.code middle :=
    (balanced_type h.type.name isOpen_middle).cons hparams
  refine htype.append ?_
  cases hi : c.implements with
  | none => exact balanced_nil
  | some n =>
    exact .cons (balanced_middle (by decide)) (balanced_type (h.implements n hi) isOpen_middle)

theorem balanced_innerCode (docs : Bool) (h : c.Uses printable) :
    Balanced indent (c.innerCode docs) indent := by
  refine balanced_groupsCode fun g hg ↦ ?_
  obtain ⟨items, hitems, rfl⟩ := List.mem_map.mp hg
  exact balanced_flatMap fun i hi ↦ Item.balanced_code docs (h.groups items hitems i hi)

theorem balanced_code (docs : Bool) (h : c.Uses printable) :
    Balanced indent (c.code docs) indent := by
  have hclass : Balanced indent [.text "abstract class "] middle := balanced_text (by decide)
  have hopens : Opens middle [.text " \x7b\n\n"] indent := (reads_fixed (by decide)).opens
  have hline := hclass.append_opens ((balanced_nameCode h).append_opens hopens)
  have hall := ((balanced_frontCode docs h).append_opens hline).close (balanced_innerCode docs h)
    reads_closing
  rw [code_eq]
  simpa only [List.append_assoc, List.cons_append, List.nil_append] using hall

end TopClass

end JavaBuilder.Java
