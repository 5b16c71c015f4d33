import JavaBuilder.Proofs.Builder.PlanUses
import JavaBuilder.Proofs.Layout.PrintedClass
import JavaBuilder.Proofs.TypeText.RoundTrip

/-!
# Names that have been read

Nothing in a datatype says that its names are names. Where its classes and types have been read from
text, though, all of them are made of identifiers, and the names of properties are checked. So the
class of a plan is made of what can be printed.
-/

namespace JavaBuilder

open Unicode Name Java Model

namespace Java

/-! ## Identifiers and types -/

theorem ClassName.IsRead.isSpelled {name : ClassName} (h : name.IsRead) : name.IsSpelled :=
  (isRead_iff.mp h).identifiers

theorem ClassName.simpleName_mem_simpleNames (name : ClassName) :
    name.simpleName ∈ name.simpleNames := by
  rw [simpleNames, simpleName]
  cases hlast : name.inner.getLast? with
  | none => simp
  | some x => simp [List.mem_of_getLast? hlast]

theorem ClassName.IsSpelled.simpleName {name : ClassName} (h : name.IsSpelled) :
    isIdentifier name.simpleName = true :=
  h _ (List.mem_append_right _ name.simpleName_mem_simpleNames)

namespace TypeRef

section

variable {ok : Allowed} (htype : ∀ {name : ClassName}, name.IsRead → ok.type name)
  (hvar : ∀ {x : String}, isIdentifier x = true → ok.typeVar x)

include htype hvar

theorem Expressible.uses {t : TypeRef} (h : Expressible t) : t.Uses ok := by
  induction h with
  | declared hname _ _ ih => exact ⟨htype ⟨_, hname⟩, (usesAll_iff _).mpr ih⟩
  | typeVar hname => exact hvar hname
  | extending _ ih => exact ih
  | array _ _ ih => exact ih
  | _ => trivial

/-- A text that is read as anything but text is read as a type made of names that have been read. -/
theorem uses_ofText {x : String} (h : ∀ y, ofText x ≠ unresolved y) : (ofText x).Uses ok := by
  rcases ofText_cases x with ⟨ls, -, hderives⟩ | ⟨hkept, -⟩
  · exact hderives.expressible.uses htype hvar
  · exact absurd hkept (h _)

theorem uses_ofText_of_isResolved {x : String} (h : (ofText x).isResolved = true) :
    (ofText x).Uses ok := by
  refine uses_ofText htype hvar fun y hy ↦ ?_
  rw [hy] at h
  cases h

end

end TypeRef

/-- A class and its type parameters have been read from text. -/
structure GenericClass.IsRead (c : GenericClass) : Prop where
  name : c.name.IsRead
  params : ∀ x ∈ c.params, isIdentifier x = true

theorem GenericClass.IsRead.uses {c : GenericClass} (h : c.IsRead) : c.Uses printable where
  name := h.name.isSpelled
  simpleName := name_of_isIdentifier h.name.isSpelled.simpleName
  params x hx := name_of_isIdentifier (h.params x hx)

end Java

namespace Model

/-- All names of a datatype have been read from text. -/
structure Datatype.IsRead (d : Datatype) : Prop where
  source : d.source.IsRead
  builder : d.builder.IsRead
  generated : d.generated.IsRead
  value : d.value.IsRead
  partialType : ∀ p ∈ d.partialType, p.IsRead
  propertyEnum : ∀ name ∈ d.propertyEnum, name.IsRead

/-- All names and types of a declaration have been read from text, and source text that is taken over
does not touch the structure of code. -/
structure Declaration.IsRead (d : Declaration) : Prop where
  type : ∃ x, d.property.type = .ofText x
  annotations : ∀ a ∈ d.annotations, a.name.IsRead
  builder : ∀ b ∈ d.buildable, ∃ x, b.builder = .ofText x
  initializer : ∀ x, d.default = some (.initializer x) → Code.IsPlain x

namespace Declaration.IsRead

variable {ok : Allowed} (htype : ∀ {name : ClassName}, name.IsRead → ok.type name)
  (hvar : ∀ {x : String}, isIdentifier x = true → ok.typeVar x) {x : Declaration} (hx : x.IsRead)

include htype hx

theorem type_of_mem_nullMarkers {n : ClassName} (hn : n ∈ x.nullMarkers) : ok.type n := by
  obtain ⟨a, ha, rfl⟩ := List.mem_map.mp hn
  exact htype (hx.annotations a (List.mem_of_mem_filter ha))

include hvar

theorem uses_type (hresolved : ∀ y, x.property.type ≠ .unresolved y) : x.property.type.Uses ok := by
  obtain ⟨y, hy⟩ := hx.type
  rw [hy] at hresolved ⊢
  exact TypeRef.uses_ofText htype hvar hresolved

theorem uses_builder {b : Buildable} (hb : b ∈ x.buildable) (hresolved : b.builder.isResolved = true) :
    b.builder.Uses ok := by
  obtain ⟨y, hy⟩ := hx.builder b hb
  rw [hy] at hresolved ⊢
  exact TypeRef.uses_ofText_of_isResolved htype hvar hresolved

end Declaration.IsRead

end Model

namespace Builder

/-! ## Fixed parts -/

theorem reads_fixedLiteral {x : String} (h : x ∈ fixedLiterals) (s : LineState) (hs : s.IsOpen) :
    Code.Reads s [.text x] [] .middle := by
  have hfixed : ∀ x ∈ fixedLiterals, ∀ s ∈ [LineState.indent, .middle],
      s.braces x.toList = [] ∧ s.after x.toList = .middle := by decide
  refine Code.reads_fixed (hfixed x h s ?_)
  rcases hs with rfl | rfl <;> simp

theorem isSpelled_of_isLibrary {name : ClassName} (h : isLibrary name = true) : name.IsSpelled :=
  fun _ hs ↦ isIdentifier_of_isWord (List.all_eq_true.mp h _ hs)

variable {d : Datatype} {ds : List Declaration} {ctx : Context} {strategies : List Strategy}
  {chain : Chain} {f : Features}

theorem allowsFixed_printable : AllowsFixed printable f where
  name h := name_of_isIdentifier (isIdentifier_of_isWord (isFixedName_iff.mp h).1)
  method h := name_of_isIdentifier (isIdentifier_of_isWord h)
  literal h := reads_fixedLiteral h
  type h := isSpelled_of_isLibrary (isLibrary_of_isBasic h)
  objects _ := isSpelled_of_isLibrary (by decide)
  functional _ := fun h ↦ isSpelled_of_isLibrary (Bool.and_eq_true _ _ ▸ h).1
  guava _ := fun h ↦ isSpelled_of_isLibrary (Bool.and_eq_true _ _ ▸ h).1
  diamond _ := trivial
  comment h := (isPhrase_iff.mp h).1
  string _ := trivial
  append _ _ := trivial

theorem allowsNames_printable : AllowsNames printable where
  name h := h
  method h := h
  static hc h := ⟨hc, h⟩
  comment h := not_mem_of_isOrdinary h
  string _ := trivial

/-! ## What has been read -/

theorem allowsDatatype_printable (hd : d.IsRead) : AllowsDatatype printable d where
  source := hd.source.uses
  builder := hd.builder.uses
  generated := hd.generated.uses
  value := hd.value.uses
  partialType p hp := (hd.partialType p hp).uses
  propertyEnum name hname := by
    have hspelled := (hd.propertyEnum name hname).isSpelled
    have hsimple := name_of_isIdentifier hspelled.simpleName
    exact ⟨hspelled, hsimple, hsimple⟩
  sourceName :=
    ⟨not_mem_of_isOrdinary (.of_isIdentifier hd.source.name.isSpelled.simpleName), trivial⟩

/-- What has been read can be printed, unless it has been read as text. -/
theorem allowsDeclaration_printable {x : Declaration} (hx : x.IsRead)
    (hresolved : ∀ y, x.property.type ≠ .unresolved y) : AllowsDeclaration printable x where
  type := hx.uses_type ClassName.IsRead.isSpelled name_of_isIdentifier hresolved
  optional kind _ := by cases kind <;> exact isSpelled_of_isLibrary (by decide)
  markers _ hn := hx.type_of_mem_nullMarkers ClassName.IsRead.isSpelled hn
  builder _ hb := hx.uses_builder ClassName.IsRead.isSpelled name_of_isIdentifier hb
  initializer := hx.initializer

/-- **The class of a plan can be printed.** -/
theorem IsPlan.uses_printable (h : IsPlan chain f d ds ctx strategies) (hd : d.IsRead)
    (hds : ∀ x ∈ ds, x.IsRead) (annotate : Bool) :
    (builderClass ctx strategies annotate).Uses printable :=
  h.uses allowsFixed_printable allowsNames_printable (allowsDatatype_printable hd)
    (fun x hx ↦ allowsDeclaration_printable (hds x hx)) annotate

end Builder

end JavaBuilder
