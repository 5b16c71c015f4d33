import JavaBuilder.Name.Identifier
import JavaBuilder.Proofs.Java.Parts

/-!
# Where code mentions a name

Variables and fields have names of one kind, and code may use a name in three ways: an expression
*names* a variable or a field, it *refers* to a field of some object, or a declaration introduces the
name. Source text that is taken over uses all the words in it. The names of methods, classes, enum
constants and type variables are of other kinds, and comments use no names.

A variable is declared *for use* in a method if it is declared exactly where something names it, at most
once, and before anything does. A field is declared for use in a class if it is declared exactly where
something in the class refers to it.
-/

namespace JavaBuilder.Java

open Name

/-- The name is a word of the text: no identifier goes on at either end of it. -/
def HasWord (x text : String) : Prop :=
  ∃ before after, text.toList = before ++ x.toList ++ after ∧
    (∀ c ∈ before.getLast?, isIdentifierPart c = false) ∧
    ∀ c ∈ after.head?, isIdentifierPart c = false

/-- The word stands at this position of the text. -/
def isWordAt (x text : List Char) (i : Nat) : Bool :=
  x.isPrefixOf (text.drop i) && !(text.take i).getLast?.any isIdentifierPart &&
    !((text.drop i).drop x.length).head?.any isIdentifierPart

theorem isWordAt_iff {x text : List Char} {i : Nat} : isWordAt x text i = true ↔
    x <+: text.drop i ∧ (∀ c ∈ (text.take i).getLast?, isIdentifierPart c = false) ∧
      ∀ c ∈ ((text.drop i).drop x.length).head?, isIdentifierPart c = false := by
  simp only [isWordAt, Bool.and_eq_true, List.isPrefixOf_iff_prefix, Bool.not_eq_true',
    Option.any_eq_false, and_assoc]
  rfl

/-- A word is found by looking at every position of the text. -/
theorem hasWord_iff {x text : String} : HasWord x text ↔
    (List.range (text.toList.length + 1)).any (isWordAt x.toList text.toList) = true := by
  rw [List.any_eq_true]
  simp only [isWordAt_iff]
  constructor
  · rintro ⟨before, after, htext, hbefore, hafter⟩
    have hdrop : text.toList.drop before.length = x.toList ++ after := by
      rw [htext, List.append_assoc, List.drop_left]
    refine ⟨before.length, ?_, ?_, ?_, ?_⟩
    · rw [List.mem_range, htext]
      simp only [List.length_append]
      omega
    · exact hdrop ▸ List.prefix_append _ _
    · rwa [htext, List.append_assoc, List.take_left]
    · rwa [hdrop, List.drop_left]
  · rintro ⟨i, -, ⟨after, hdrop⟩, hbefore, hafter⟩
    refine ⟨text.toList.take i, after, ?_, hbefore, ?_⟩
    · rw [List.append_assoc, hdrop, List.take_append_drop]
    · rwa [← hdrop, List.drop_left] at hafter

instance {x text : String} : Decidable (HasWord x text) := decidable_of_iff _ hasWord_iff.symm

example : HasWord "base" "base.name()" ∧ ¬HasWord "base" "database()" := by decide +kernel

/-- Neither the name nor source text with this word is allowed. -/
structure Allowed.Forbids (ok : Allowed) (x : String) : Prop where
  name : ¬ok.name x
  verbatim : ∀ {text}, ok.verbatim text → ¬HasWord x text

variable {ok : Allowed} {x : String}

/-! ## Expressions -/

namespace Expr

/-- The expression is a variable or a field of this name, or text with this word. -/
def Names (x : String) : Expr → Prop
  | var y | own y | enclosing y => y = x
  | verbatim text => HasWord x text
  | _ => False

/-- The expression names `x`, or is the field `x` of some object. -/
def RefersTo (x : String) (e : Expr) : Prop := e.Names x ∨ ∃ target, e = .field target x

theorem not_names_of_uses (hok : ok.Forbids x) {e : Expr} (h : e.Uses ok) : ¬e.Names x := by
  intro hnames
  cases e with
  | var y | own y | enclosing y => exact hok.name (hnames ▸ h)
  | verbatim text => exact h
  | _ => exact hnames

theorem UsesValue.not_refersTo (hok : ok.Forbids x) {e : Expr} (h : e.UsesValue ok) :
    ¬e.RefersTo x := by
  rcases h with h | ⟨text, rfl, htext⟩
  · rintro (hnames | ⟨target, rfl⟩)
    · exact not_names_of_uses hok h hnames
    · exact hok.name h.2
  · rintro (hword | ⟨target, htarget⟩)
    · exact hok.verbatim htext hword
    · cases htarget

end Expr

theorem Stmt.not_refersTo_of_usesAll (hok : ok.Forbids x) {ss : List Stmt} (h : UsesAll ok ss)
    {e : Expr} (he : e ∈ allParts ss) : ¬e.RefersTo x :=
  (usesValue_of_mem_allParts ss h he).not_refersTo hok

/-! ## Members -/

/-- Something in the member refers to `x`. -/
def Member.RefersTo (x : String) : Member → Prop
  | field f => ∃ value ∈ f.value, ∃ e ∈ value.parts, e.RefersTo x
  | method m => ∃ e ∈ Stmt.allParts m.body, e.RefersTo x

/-- The member declares `x`, or something in it does or refers to `x`. -/
def Member.Mentions (x : String) (m : Member) : Prop :=
  m.RefersTo x ∨ match m with
    | field f => f.name = x
    | method m => x ∈ m.locals

/-- The item mentions `x` in one of its members, or in what its constants are made with. -/
def Item.Mentions (x : String) : Item → Prop
  | member m => m.Mentions x
  | enum e =>
    (∃ c ∈ e.constants, ∃ arg ∈ c.2, ∃ part ∈ arg.parts, part.RefersTo x) ∨
      ∃ g ∈ e.groups, ∃ m ∈ g, m.Mentions x
  | nested c => ∃ g ∈ c.groups, ∃ m ∈ g, m.Mentions x

theorem Field.Uses.usesValue {f : Field} (h : f.Uses ok) : ∀ e ∈ f.value, e.UsesValue ok := by
  intro e he
  have hvalue := h.value e he
  split at hvalue
  · exact hvalue
  · exact .inl hvalue

theorem Method.Uses.not_mem_locals (hok : ok.Forbids x) {m : Method} (h : m.Uses ok) :
    x ∉ m.locals := by
  intro hx
  rcases List.mem_append.mp hx with hx | hx
  · obtain ⟨p, hp, rfl⟩ := List.mem_map.mp hx
    exact hok.name (h.params p hp).name
  · exact hok.name (Stmt.name_of_mem_allDeclared m.body h.body hx)

theorem Member.Uses.not_mentions (hok : ok.Forbids x) {m : Member} (h : m.Uses ok) :
    ¬m.Mentions x := by
  cases m with
  | field f =>
    rintro (⟨value, hvalue, e, he, hrefers⟩ | hname)
    · exact ((h.usesValue value hvalue).of_mem_parts he).not_refersTo hok hrefers
    · exact hok.name (hname ▸ h.name)
  | method m =>
    rintro (⟨e, he, hrefers⟩ | hlocal)
    · exact Stmt.not_refersTo_of_usesAll hok h.body he hrefers
    · exact h.not_mem_locals hok hlocal

theorem NestedClass.Uses.not_mentions (hok : ok.Forbids x) {c : NestedClass} (h : c.Uses ok) :
    ¬(Item.nested c).Mentions x := by
  rintro ⟨g, hg, m, hm, hmentions⟩
  exact Member.Uses.not_mentions hok (h.groups g hg m hm) hmentions

/-! ## Declared for use -/

/-- The method refers to the field of the object that it runs on. -/
def Method.UsesField (x : String) (m : Method) : Prop :=
  .own x ∈ Stmt.allParts m.body ∨ .field .this x ∈ Stmt.allParts m.body

theorem Method.UsesField.refersTo {m : Method} (h : m.UsesField x) : (Member.method m).RefersTo x := by
  rcases h with h | h
  · exact ⟨_, h, .inl rfl⟩
  · exact ⟨_, h, .inr ⟨_, rfl⟩⟩

/-- The members declare the field exactly if something in them refers to a field of this name, and then
not only to that of another object. -/
structure DeclaresFieldForUse (x : String) (members : List Member) : Prop where
  declared_iff : (∃ f, .field f ∈ members ∧ f.name = x) ↔ ∃ m ∈ members, m.RefersTo x
  used : (∃ f, .field f ∈ members ∧ f.name = x) → ∃ m, .method m ∈ members ∧ m.UsesField x

theorem declaresFieldForUse_of_not_mentions {members : List Member}
    (h : ∀ m ∈ members, ¬m.Mentions x) : DeclaresFieldForUse x members := by
  have hdeclared : ¬∃ f, .field f ∈ members ∧ f.name = x := by
    rintro ⟨f, hf, hname⟩
    exact h _ hf (.inr hname)
  refine ⟨iff_of_false hdeclared ?_, fun hf ↦ absurd hf hdeclared⟩
  rintro ⟨m, hm, hrefers⟩
  exact h m hm (.inl hrefers)

theorem declaresFieldForUse_of_usesField {members : List Member} {f : Field} {m : Method}
    (hf : .field f ∈ members) (hname : f.name = x) (hm : .method m ∈ members) (h : m.UsesField x) :
    DeclaresFieldForUse x members :=
  ⟨iff_of_true ⟨f, hf, hname⟩ ⟨.method m, hm, h.refersTo⟩, fun _ ↦ ⟨m, hm, h⟩⟩

/-- The variable is declared in the method exactly if something there names it. It is declared once, at
the top of the body, and nothing before the declaration or in it names the variable. -/
structure Method.DeclaresForUse (x : String) (m : Method) : Prop where
  not_param : x ∉ m.params.map (·.name)
  declared_iff : x ∈ Stmt.allDeclared m.body ↔ ∃ e ∈ Stmt.allParts m.body, e.Names x
  once_before_uses : x ∈ Stmt.allDeclared m.body → ∃ before type value after,
    m.body = before ++ .declare type x value :: after ∧
      x ∉ Stmt.allDeclared before ∧ x ∉ Stmt.allDeclared after ∧
      ∀ e ∈ Stmt.allParts before ++ value.parts, ¬e.Names x

namespace Method

variable {m : Method}

theorem declaresForUse_of_uses (hok : ok.Forbids x) (hparam : x ∉ m.params.map (·.name))
    (h : Stmt.UsesAll ok m.body) : m.DeclaresForUse x := by
  have hdeclared : x ∉ Stmt.allDeclared m.body := fun hx ↦
    hok.name (Stmt.name_of_mem_allDeclared m.body h hx)
  refine ⟨hparam, iff_of_false hdeclared ?_, fun hx ↦ absurd hx hdeclared⟩
  rintro ⟨e, he, hnames⟩
  exact Stmt.not_refersTo_of_usesAll hok h he (.inl hnames)

theorem Uses.declaresForUse (hok : ok.Forbids x) (h : m.Uses ok) : m.DeclaresForUse x :=
  declaresForUse_of_uses hok (fun hx ↦ h.not_mem_locals hok (List.mem_append_left _ hx)) h.body

/-- A declaration is for use if something after it names the variable and nothing else does. -/
theorem declaresForUse_of_declares (hok : ok.Forbids x) {before after : List Stmt} {type : TypeRef}
    {value : Expr} (hbody : m.body = before ++ .declare type x value :: after)
    (hparam : x ∉ m.params.map (·.name)) (hbefore : Stmt.UsesAll ok before) (hvalue : value.Uses ok)
    (hafter : x ∉ Stmt.allDeclared after) (hused : ∃ e ∈ Stmt.allParts after, e.Names x) :
    m.DeclaresForUse x := by
  obtain ⟨e, he, hnames⟩ := hused
  refine ⟨hparam, iff_of_true (by simp [hbody]) ⟨e, ?_, hnames⟩, fun _ ↦
    ⟨before, type, value, after, hbody, fun hx ↦ ?_, hafter, fun e he hnames ↦ ?_⟩⟩
  · rw [hbody, Stmt.allParts_append]
    exact List.mem_append_right _ (List.mem_append_right _ he)
  · exact hok.name (Stmt.name_of_mem_allDeclared before hbefore hx)
  · rcases List.mem_append.mp he with he | he
    · exact Stmt.not_refersTo_of_usesAll hok hbefore he (.inl hnames)
    · exact Expr.not_names_of_uses hok (Expr.uses_of_mem_parts value hvalue he) hnames

end Method

end JavaBuilder.Java
