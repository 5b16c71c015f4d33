import JavaBuilder.Java.Member

/-!
# What code is made of

Many properties of generated code say no more than that its names, classes and literals are all of
some kind. `Uses` says so for every form of code, with the kinds left open, so that one walk over the
code of a property serves all of them.

Source text that is taken over as it is may only be a value that is assigned, never a part of another
expression or the start of a line.
-/

namespace JavaBuilder.Java

/-- What code may be made of. -/
structure Allowed where
  /-- Variables and fields. -/
  name : String → Prop
  /-- Methods and constructors. -/
  method : String → Prop
  /-- Literals other than strings. -/
  literal : String → Prop
  /-- Strings. -/
  string : String → Prop
  /-- Source text taken over. -/
  verbatim : String → Prop
  /-- Static members of classes. -/
  static : ClassName → String → Prop
  /-- Classes. -/
  type : ClassName → Prop
  /-- Type variables. -/
  typeVar : String → Prop
  /-- Text that is not a type. -/
  unresolved : String → Prop
  /-- Text of comments. -/
  comment : String → Prop
  /-- The diamond in place of type arguments. -/
  diamond : Prop

variable (ok : Allowed)

/-! ## Types -/

namespace TypeRef

mutual

/-- The type is made of what is allowed. -/
@[simp] def Uses : TypeRef → Prop
  | primitive _ | wildcard | void => True
  | declared name args => ok.type name ∧ UsesAll args
  | typeVar name => ok.typeVar name
  | extending t | array t => t.Uses
  | unresolved s => ok.unresolved s

/-- All of the types are made of what is allowed. -/
@[simp] def UsesAll : List TypeRef → Prop
  | [] => True
  | t :: ts => t.Uses ∧ UsesAll ts

end

theorem usesAll_iff {ts : List TypeRef} : UsesAll ok ts ↔ ∀ t ∈ ts, t.Uses ok := by
  induction ts with
  | nil => simp [UsesAll]
  | cons t ts ih => simp [UsesAll, ih]

end TypeRef

/-! ## Expressions -/

namespace Expr

mutual

/-- The expression is made of what is allowed. -/
@[simp] def Uses : Expr → Prop
  | var name | own name | enclosing name => ok.name name
  | this | null => True
  | literal s => ok.literal s
  | string s => ok.string s
  | verbatim _ => False
  | field e name => e.Uses ∧ ok.name name
  | static owner name => ok.static owner name
  | classOf type => ok.type type
  | ownCall m args => ok.method m ∧ UsesAll args
  | call e m _ args => e.Uses ∧ ok.method m ∧ UsesAll args
  | staticCall owner targs m _ args =>
    ok.type owner ∧ TypeRef.UsesAll ok targs ∧ ok.method m ∧ UsesAll args
  | create t diamond args => t.Uses ok ∧ (diamond = true → ok.diamond) ∧ UsesAll args
  | newArray c es => ok.type c ∧ UsesAll es
  | cast t e => t.Uses ok ∧ e.Uses
  | not e | paren e => e.Uses
  | instanceOf e c => e.Uses ∧ ok.type c
  | binary _ _ l r => l.Uses ∧ r.Uses
  | conditional c a b => c.Uses ∧ a.Uses ∧ b.Uses

/-- All of the expressions are made of what is allowed. -/
@[simp] def UsesAll : List Expr → Prop
  | [] => True
  | e :: es => e.Uses ∧ UsesAll es

end

theorem usesAll_iff {es : List Expr} : UsesAll ok es ↔ ∀ e ∈ es, e.Uses ok := by
  induction es with
  | nil => simp [UsesAll]
  | cons e es ih => simp [UsesAll, ih]

section

variable {ok} {e l r : Expr} {args : List Expr} {m x : String}

@[simp] theorem uses_invoke_iff :
    (e.invoke m args).Uses ok ↔ e.Uses ok ∧ ok.method m ∧ UsesAll ok args := Iff.rfl

@[simp] theorem uses_invokeStatic_iff {owner : ClassName} :
    (invokeStatic owner m args).Uses ok ↔ ok.type owner ∧ ok.method m ∧ UsesAll ok args := by
  simp [invokeStatic, TypeRef.UsesAll]

@[simp] theorem uses_eq_iff : (eq l r).Uses ok ↔ l.Uses ok ∧ r.Uses ok := Iff.rfl

@[simp] theorem uses_ne_iff : (ne l r).Uses ok ↔ l.Uses ok ∧ r.Uses ok := Iff.rfl

@[simp] theorem uses_ownField_iff {locals : List String} :
    (ownField x locals).Uses ok ↔ ok.name x := by
  unfold ownField
  split <;> simp

end

/-- A value that is assigned: made of what is allowed, or source text. -/
@[simp] def UsesValue (e : Expr) : Prop := e.Uses ok ∨ ∃ s, e = verbatim s ∧ ok.verbatim s

end Expr

/-! ## Statements -/

namespace Stmt

mutual

/-- The statement is made of what is allowed. -/
@[simp] def Uses : Stmt → Prop
  | declare t x e => t.Uses ok ∧ ok.name x ∧ e.Uses ok
  | assign l r => l.Uses ok ∧ r.UsesValue ok
  | eval e | ret e => e.Uses ok
  | throwNew c args => ok.type c ∧ Expr.UsesAll ok args
  | ifThen e b => e.Uses ok ∧ UsesAll b
  | ifElse e a b => e.Uses ok ∧ UsesAll a ∧ UsesAll b
  | forEach t x e b => t.Uses ok ∧ ok.name x ∧ e.Uses ok ∧ UsesAll b
  | remark s => ok.comment s

/-- All of the statements are made of what is allowed. -/
@[simp] def UsesAll : List Stmt → Prop
  | [] => True
  | s :: ss => s.Uses ∧ UsesAll ss

end

theorem usesAll_iff {ss : List Stmt} : UsesAll ok ss ↔ ∀ s ∈ ss, s.Uses ok := by
  induction ss with
  | nil => simp [UsesAll]
  | cons s ss ih => simp [UsesAll, ih]

theorem usesAll_append {ss ts : List Stmt} :
    UsesAll ok (ss ++ ts) ↔ UsesAll ok ss ∧ UsesAll ok ts := by
  simp only [usesAll_iff, List.mem_append, or_imp, forall_and]

variable {ok}

theorem usesAll_map {α : Type} {f : α → Stmt} {xs : List α} (h : ∀ x ∈ xs, (f x).Uses ok) :
    UsesAll ok (xs.map f) :=
  (usesAll_iff ok).mpr (List.forall_mem_map.mpr h)

theorem usesAll_flatMap {α : Type} {f : α → List Stmt} {xs : List α}
    (h : ∀ x ∈ xs, UsesAll ok (f x)) : UsesAll ok (xs.flatMap f) := by
  rw [usesAll_iff]
  intro st hst
  obtain ⟨x, hx, hst⟩ := List.mem_flatMap.mp hst
  exact (usesAll_iff ok).mp (h x hx) st hst

end Stmt

/-! ## Members -/

/-- The piece of documentation is made of what is allowed. -/
def DocPiece.Uses : DocPiece → Prop
  | text s | code s => ok.comment s
  | link t => ok.type t
  | linkMethod t m => ok.type t ∧ ok.method m
  | linkAs t m label => ok.type t ∧ ok.method m ∧ ok.comment label

/-- The documentation line is made of what is allowed. -/
def DocLine.Uses : DocLine → Prop
  | blank => True
  | line pieces => ∀ p ∈ pieces, p.Uses ok

/-- The documentation is made of what is allowed. -/
def Doc.Uses (doc : Doc) : Prop := ∀ l ∈ doc, DocLine.Uses ok l

section

variable {ok} {x label : String} {t : ClassName}

@[simp] theorem DocPiece.uses_text_iff : (DocPiece.text x).Uses ok ↔ ok.comment x := Iff.rfl

@[simp] theorem DocPiece.uses_code_iff : (DocPiece.code x).Uses ok ↔ ok.comment x := Iff.rfl

@[simp] theorem DocPiece.uses_link_iff : (DocPiece.link t).Uses ok ↔ ok.type t := Iff.rfl

@[simp] theorem DocPiece.uses_linkAs_iff :
    (DocPiece.linkAs t x label).Uses ok ↔ ok.type t ∧ ok.method x ∧ ok.comment label := Iff.rfl

@[simp] theorem DocLine.uses_blank : DocLine.blank.Uses ok := trivial

@[simp] theorem DocLine.uses_line_iff {pieces : List DocPiece} :
    (DocLine.line pieces).Uses ok ↔ ∀ p ∈ pieces, p.Uses ok := Iff.rfl

end

/-- The field is made of what is allowed. Source text does not start a line. -/
structure Field.Uses (f : Field) : Prop where
  markers : ∀ n ∈ f.markers, ok.type n
  type : f.type.Uses ok
  name : ok.name f.name
  value : ∀ e ∈ f.value, if f.wrap = .same then e.UsesValue ok else e.Uses ok

/-- The parameter is made of what is allowed. -/
structure Param.Uses (p : Param) : Prop where
  markers : ∀ n ∈ p.markers, ok.type n
  type : p.type.Uses ok
  name : ok.name p.name

/-- The method is made of what is allowed. -/
structure Method.Uses (m : Method) : Prop where
  doc : ∀ d ∈ m.doc, Doc.Uses ok d
  flags : ∀ n ∈ m.flags, ok.type n
  markers : ∀ n ∈ m.markers, ok.type n
  typeParams : ∀ x ∈ m.typeParams, ok.typeVar x
  result : ∀ t ∈ m.result, t.Uses ok
  name : ok.method m.name
  params : ∀ p ∈ m.params, p.Uses ok
  body : Stmt.UsesAll ok m.body

section

variable {ok} {t : TypeRef} {x : String} {e : Option Expr}

@[simp] theorem Param.uses_of_iff : (Param.of t x).Uses ok ↔ t.Uses ok ∧ ok.name x :=
  ⟨fun h ↦ ⟨h.type, h.name⟩, fun h ↦ ⟨by simp [Param.of], h.1, h.2⟩⟩

@[simp] theorem Field.uses_hidden_iff :
    (Field.hidden t x e).Uses ok ↔ t.Uses ok ∧ ok.name x ∧ ∀ v ∈ e, v.UsesValue ok := by
  constructor
  · intro h
    exact ⟨h.type, h.name, fun v hv ↦ by simpa [Field.hidden] using h.value v hv⟩
  · rintro ⟨htype, hname, hvalue⟩
    exact ⟨by simp [Field.hidden], htype, hname, fun v hv ↦ by simpa [Field.hidden] using hvalue v hv⟩

@[simp] theorem Field.uses_constant_iff :
    (Field.constant t x e).Uses ok ↔ t.Uses ok ∧ ok.name x ∧ ∀ v ∈ e, v.UsesValue ok := by
  constructor
  · intro h
    exact ⟨h.type, h.name, fun v hv ↦ by simpa [Field.constant] using h.value v hv⟩
  · rintro ⟨htype, hname, hvalue⟩
    exact ⟨by simp [Field.constant], htype, hname,
      fun v hv ↦ by simpa [Field.constant] using hvalue v hv⟩

@[simp] theorem Method.uses_documented_iff {doc : Doc} {params : List Param} {body : List Stmt} :
    (Method.documented doc t x params body).Uses ok ↔
      Doc.Uses ok doc ∧ t.Uses ok ∧ ok.method x ∧ (∀ p ∈ params, p.Uses ok) ∧
        Stmt.UsesAll ok body := by
  constructor
  · intro h
    exact ⟨h.doc doc rfl, h.result t rfl, h.name, h.params, h.body⟩
  · rintro ⟨hdoc, hresult, hname, hparams, hbody⟩
    exact ⟨by simpa [Method.documented] using hdoc, by simp [Method.documented],
      by simp [Method.documented], by simp [Method.documented],
      by simpa [Method.documented] using hresult, hname, hparams, hbody⟩

theorem Method.Uses.withFlags {m : Method} {flags : List ClassName} (h : m.Uses ok)
    (hflags : ∀ n ∈ flags, ok.type n) : Method.Uses ok { m with flags } :=
  { h with flags := hflags }

@[simp] theorem Method.uses_overriding_iff {markers : List ClassName} {params : List Param}
    {body : List Stmt} :
    (Method.overriding markers t x params body).Uses ok ↔
      (∀ n ∈ markers, ok.type n) ∧ t.Uses ok ∧ ok.method x ∧ (∀ p ∈ params, p.Uses ok) ∧
        Stmt.UsesAll ok body := by
  constructor
  · intro h
    exact ⟨h.markers, h.result t rfl, h.name, h.params, h.body⟩
  · rintro ⟨hmarkers, hresult, hname, hparams, hbody⟩
    exact ⟨by simp [Method.overriding], by simp [Method.overriding], hmarkers,
      by simp [Method.overriding], by simpa [Method.overriding] using hresult, hname, hparams, hbody⟩

@[simp] theorem Method.uses_constructor_iff {modifiers : List Modifier} {params : List Param}
    {body : List Stmt} :
    (Method.constructor modifiers x params body).Uses ok ↔
      ok.method x ∧ (∀ p ∈ params, p.Uses ok) ∧ Stmt.UsesAll ok body := by
  constructor
  · intro h
    exact ⟨h.name, h.params, h.body⟩
  · rintro ⟨hname, hparams, hbody⟩
    exact ⟨by simp [Method.constructor], by simp [Method.constructor], by simp [Method.constructor],
      by simp [Method.constructor], by simp [Method.constructor], hname, hparams, hbody⟩

end

/-- The member is made of what is allowed. -/
def Member.Uses : Member → Prop
  | field f => f.Uses ok
  | method m => m.Uses ok

/-- The enum is made of what is allowed. -/
structure EnumDecl.Uses (e : EnumDecl) : Prop where
  name : ok.name e.name
  constants : ∀ c ∈ e.constants, ok.name c.1 ∧ Expr.UsesAll ok c.2
  groups : ∀ g ∈ e.groups, ∀ m ∈ g, m.Uses ok

/-- The class with its type parameters is made of what is allowed. -/
structure GenericClass.Uses (c : GenericClass) : Prop where
  name : ok.type c.name
  /-- The class can be declared by its simple name. -/
  simpleName : ok.method c.name.simpleName
  params : ∀ x ∈ c.params, ok.typeVar x

/-- The nested class is made of what is allowed. -/
structure NestedClass.Uses (c : NestedClass) : Prop where
  type : c.type.Uses ok
  parent : c.parent.Uses ok
  groups : ∀ g ∈ c.groups, ∀ m ∈ g, m.Uses ok

/-- The item is made of what is allowed. -/
def Item.Uses : Item → Prop
  | member m => m.Uses ok
  | enum e => e.Uses ok
  | nested c => c.Uses ok

/-- The class is made of what is allowed. -/
structure TopClass.Uses (c : TopClass) : Prop where
  doc : Doc.Uses ok c.doc
  annotations : ∀ a ∈ c.annotations, ok.type a.1 ∧ ok.string a.2
  type : c.type.Uses ok
  implements : ∀ n ∈ c.implements, ok.type n
  groups : ∀ g ∈ c.groups, ∀ i ∈ g, i.Uses ok

end JavaBuilder.Java
