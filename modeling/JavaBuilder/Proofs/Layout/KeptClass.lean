import JavaBuilder.Proofs.Layout.Kept
import JavaBuilder.Proofs.Layout.PrintedClass

/-!
# Printed declarations keep to what is allowed

What is true of statements is true of members and classes made of them, and of their documentation.
-/

namespace JavaBuilder.Java

open Text Code

variable {ok : Allowed}

/-! ## Documentation -/

theorem DocPiece.keeps_toCode (hok : ok.IsClosed) {p : DocPiece} (h : p.Uses ok) :
    Keeps ok p.toCode := by
  have hopening : Keeps ok [.text "\x7b@link "] := keeps_fixed (by decide)
  cases p with
  | text _ => exact keeps_comment hok h
  | code _ =>
    exact ((keeps_fixed (by decide)).text_append (keeps_comment hok h)).text_append
      (keeps_fixed (by decide))
  | link _ => exact hopening.cons ((keeps_type hok h).cons (keeps_fixed (by decide)))
  | linkMethod _ _ =>
    refine hopening.cons ((keeps_type hok h.1).cons ?_)
    exact ((keeps_fixed (by decide)).text_append (keeps_method hok h.2)).text_append
      (keeps_fixed (by decide))
  | linkAs _ _ _ =>
    refine hopening.cons ((keeps_type hok h.1).cons ?_)
    exact ((((keeps_fixed (by decide)).text_append (keeps_method hok h.2.1)).text_append
      (keeps_fixed (by decide))).text_append (keeps_comment hok h.2.2)).text_append
      (keeps_fixed (by decide))

theorem DocLine.keeps_toCode (hok : ok.IsClosed) {l : DocLine} (h : l.Uses ok) :
    Keeps ok l.toCode := by
  cases l with
  | blank => exact keeps_fixed (by decide)
  | line pieces =>
    refine (keeps_fixed (by decide)).cons ?_
    exact (keeps_flatMap fun p hp ↦ DocPiece.keeps_toCode hok (h p hp)).append
      (keeps_fixed (by decide))

theorem keeps_docCode (hok : ok.IsClosed) (docs : Bool) {doc : Option Doc}
    (h : ∀ d ∈ doc, Doc.Uses ok d) : Keeps ok (docCode docs doc) := by
  cases doc with
  | none => exact keeps_nil
  | some d =>
    rw [docCode]
    split
    · refine (keeps_fixed (by decide)).cons ?_
      exact (keeps_flatMap fun l hl ↦ DocLine.keeps_toCode hok (h d rfl l hl)).append
        (keeps_fixed (by decide))
    · exact keeps_nil

/-! ## Fields and methods -/

theorem keeps_markersCode (hok : ok.IsClosed) {names : List ClassName} (h : ∀ n ∈ names, ok.type n) :
    Keeps ok (markersCode names) :=
  keeps_flatMap fun n hn ↦
    (keeps_fixed (by decide)).cons ((keeps_type hok (h n hn)).cons (keeps_fixed (by decide)))

theorem keeps_modifiersText (ms : List Modifier) : Keeps ok [.text (modifiersText ms)] := by
  refine keeps_fixed (isSolid_join fun x hx ↦ ?_)
  obtain ⟨m, -, rfl⟩ := List.mem_map.mp hx
  cases m <;> decide

theorem Field.keeps_code (hok : ok.IsClosed) {f : Field} (h : f.Uses ok) : Keeps ok f.code := by
  have hvalue : Keeps ok (Field.valueCode f.wrap f.value ++ [.text ";\n"]) := by
    cases hv : f.value with
    | none => exact keeps_fixed (by decide)
    | some e =>
      have he := h.value e hv
      cases hw : f.wrap with
      | same =>
        rw [if_pos hw] at he
        exact he.keeps_code hok
      | next spaces =>
        rw [if_neg (by simp [hw])] at he
        refine ((keeps_fixed (by decide)).text_append (keeps_fixed (isSolid_newLine spaces))).cons ?_
        exact (e.keeps_code hok he).append (keeps_fixed (by decide))
  refine (keeps_markersCode hok h.markers).append ((keeps_modifiersText _).cons ?_)
  refine (f.type.keeps_code hok h.type).append (Keeps.cons ?_ hvalue)
  exact (keeps_fixed (by decide)).text_append (keeps_name hok h.name)

theorem Param.keeps_code (hok : ok.IsClosed) {p : Param} (h : p.Uses ok) : Keeps ok p.code :=
  (keeps_markersCode hok h.markers).append ((p.type.keeps_code hok h.type).append
    ((keeps_fixed (by decide)).text_append (keeps_name hok h.name)))

theorem keeps_brackets (hok : ok.IsClosed) {xs : List String} (hne : xs ≠ [])
    (h : ∀ x ∈ xs, ok.typeVar x) : Keeps ok [.text ("<" ++ ", ".intercalate xs ++ ">")] :=
  keeps_text fun hd ↦ isSolid_brackets hne fun x hx ↦ (hok.solid hd).typeVar (h x hx)

theorem keeps_typeParamsText (hok : ok.IsClosed) {xs : List String} (h : ∀ x ∈ xs, ok.typeVar x) :
    Keeps ok [.text (Method.typeParamsText xs)] := by
  rw [Method.typeParamsText]
  split
  · exact keeps_fixed (by decide)
  · next hne =>
    have hspace : "> " = ">" ++ " " := rfl
    rw [hspace, ← String.append_assoc]
    exact (keeps_brackets hok (by simpa using hne) h).text_append (keeps_fixed (by decide))

theorem keeps_paramsText (hok : ok.IsClosed) {c : GenericClass} (h : ∀ x ∈ c.params, ok.typeVar x) :
    Keeps ok [.text c.paramsText] := by
  rw [GenericClass.paramsText]
  split
  · exact keeps_fixed (by decide)
  · next hne => exact keeps_brackets hok (by simpa using hne) h

theorem Method.keeps_headCode (hok : ok.IsClosed) {m : Method} (h : m.Uses ok) :
    Keeps ok m.headCode := by
  have hparams : Keeps ok (separated ", " (m.params.map (·.code))) := by
    refine keeps_separated (by decide) fun c hc ↦ ?_
    obtain ⟨p, hp, rfl⟩ := List.mem_map.mp hc
    exact Param.keeps_code hok (h.params p hp)
  refine (keeps_markersCode hok h.markers).append
    (Keeps.cons ?_ (Keeps.append ?_ (Keeps.cons ?_ ?_)))
  · exact (keeps_modifiersText _).text_append (keeps_typeParamsText hok h.typeParams)
  · cases hresult : m.result with
    | none => exact keeps_nil
    | some t => exact (t.keeps_code hok (h.result t hresult)).append (keeps_fixed (by decide))
  · exact (keeps_method hok h.name).text_append (keeps_fixed (by decide))
  · exact hparams.append (keeps_fixed (by decide))

theorem Method.keeps_code (hok : ok.IsClosed) (docs : Bool) {m : Method} (h : m.Uses ok) :
    Keeps ok (m.code docs) := by
  have hoverrides : Keeps ok (if m.overrides then [.text "@Override\n"] else []) := by
    split
    · exact keeps_fixed (by decide)
    · exact keeps_nil
  have hflags : Keeps ok (m.flags.flatMap fun n ↦ [.text "@", .type n, .text "\n"]) :=
    keeps_flatMap fun n hn ↦ (keeps_fixed (by decide)).cons
      ((keeps_type hok (h.flags n hn)).cons (keeps_fixed (by decide)))
  have hbefore := ((keeps_docCode hok docs h.doc).append hoverrides).append hflags
  exact ((hbefore.append (keeps_headCode hok h)).append
    (Stmt.keeps_blockCode hok m.body h.body)).append Stmt.keeps_closing

/-! ## Classes -/

theorem Member.keeps_code (hok : ok.IsClosed) (docs : Bool) {m : Member} (h : m.Uses ok) :
    Keeps ok (m.code docs) := by
  cases m with
  | field f => exact Field.keeps_code hok h
  | method m => exact Method.keeps_code hok docs h

theorem keeps_groupsCode {groups : List Code} (h : ∀ g ∈ groups, Keeps ok g) :
    Keeps ok (groupsCode groups) :=
  keeps_separated (by decide) fun g hg ↦ h g (List.mem_of_mem_filter hg)

theorem keeps_membersCode (hok : ok.IsClosed) (docs : Bool) {groups : List (List Member)}
    (h : ∀ g ∈ groups, ∀ m ∈ g, m.Uses ok) : Keeps ok (membersCode docs groups) := by
  refine keeps_groupsCode fun c hc ↦ ?_
  obtain ⟨g, hg, rfl⟩ := List.mem_map.mp hc
  exact keeps_flatMap fun m hm ↦ Member.keeps_code hok docs (h g hg m hm)

theorem EnumDecl.keeps_code (hok : ok.IsClosed) (docs : Bool) {e : EnumDecl} (h : e.Uses ok) :
    Keeps ok (e.code docs) := by
  have hconstants : Keeps ok
      (e.constants.flatMap fun c ↦ .text c.1 :: (Expr.argsCode .inline c.2 ++ [.text ",\n"])) :=
    keeps_flatMap fun c hc ↦ (keeps_name hok (h.constants c hc).1).cons
      ((Expr.keeps_argsCode hok .inline c.2 (h.constants c hc).2).append (keeps_fixed (by decide)))
  have hmembers := (keeps_membersCode hok docs h.groups).append Stmt.keeps_closing
  refine Keeps.cons ?_ (hconstants.append ((keeps_fixed (by decide)).cons hmembers))
  exact ((keeps_fixed (by decide)).text_append (keeps_name hok h.name)).text_append
    (keeps_fixed (by decide))

theorem NestedClass.keeps_code (hok : ok.IsClosed) (docs : Bool) {c : NestedClass} (h : c.Uses ok) :
    Keeps ok (c.code docs) := by
  have hrelation : Keeps ok [.text (if c.implements then " implements " else " extends ")] := by
    split <;> exact keeps_fixed (by decide)
  have hmembers := (keeps_membersCode hok docs h.groups).append Stmt.keeps_closing
  refine Keeps.cons ?_ ((c.parent.keeps_code hok h.parent).append
    ((keeps_fixed (by decide)).cons hmembers))
  exact (((keeps_fixed (by decide)).text_append (keeps_method hok h.type.simpleName)).text_append
    (keeps_paramsText hok h.type.params)).text_append hrelation

theorem Item.keeps_code (hok : ok.IsClosed) (docs : Bool) {i : Item} (h : i.Uses ok) :
    Keeps ok (i.code docs) := by
  cases i with
  | member m => exact Member.keeps_code hok docs h
  | enum e => exact EnumDecl.keeps_code hok docs h
  | nested c => exact NestedClass.keeps_code hok docs h

namespace TopClass

variable {c : TopClass}

theorem keeps_frontCode (hok : ok.IsClosed) (docs : Bool) (h : c.Uses ok) :
    Keeps ok (c.frontCode docs) := by
  have hdoc : ∀ d ∈ some c.doc, Doc.Uses ok d := by
    intro d hd
    rw [← Option.mem_some.mp hd]
    exact h.doc
  refine (keeps_docCode hok docs hdoc).append (keeps_flatMap fun a ha ↦ ?_)
  obtain ⟨htype, hstring⟩ := h.annotations a ha
  refine (keeps_fixed (by decide)).cons ((keeps_type hok htype).cons ?_)
  have hliteral : Keeps ok [.text (stringLiteral a.2)] :=
    keeps_text fun hd ↦ isSolid_stringLiteral ((hok.solid hd).string hstring)
  exact ((keeps_fixed (by decide)).text_append hliteral).text_append (keeps_fixed (by decide))

theorem keeps_nameCode (hok : ok.IsClosed) (h : c.Uses ok) : Keeps ok c.nameCode := by
  refine Keeps.append ((keeps_type hok h.type.name).cons (keeps_paramsText hok h.type.params)) ?_
  cases hi : c.implements with
  | none => exact keeps_nil
  | some n => exact (keeps_fixed (by decide)).cons (keeps_type hok (h.implements n hi))

theorem keeps_innerCode (hok : ok.IsClosed) (docs : Bool) (h : c.Uses ok) :
    Keeps ok (c.innerCode docs) := by
  refine keeps_groupsCode fun g hg ↦ ?_
  obtain ⟨items, hitems, rfl⟩ := List.mem_map.mp hg
  exact keeps_flatMap fun i hi ↦ Item.keeps_code hok docs (h.groups items hitems i hi)

/-- **The code of a class keeps to what the class is made of.** -/
theorem keeps_code (hok : ok.IsClosed) (docs : Bool) (h : c.Uses ok) : Keeps ok (c.code docs) := by
  have hinner := (keeps_innerCode hok docs h).append Stmt.keeps_closing
  rw [code_eq]
  refine (keeps_frontCode hok docs h).append ((keeps_fixed (by decide)).cons ?_)
  exact (keeps_nameCode hok h).append ((keeps_fixed (by decide)).cons hinner)

end TopClass

end JavaBuilder.Java
