import JavaBuilder.Proofs.Builder.Failure

/-!
# Which types fields get

A property ends up in two fields, one of the builder and one of the value class, and a field can have
neither `void` nor a wildcard for its type. Each factory says for itself which types it takes. Where it
asks for a type argument it takes a class and nothing else, and where it asks for a field type it says so.

Two factories ask for less. A marker `Nullable` is enough to take a wildcard, and of the type of a nested
builder nothing is asked but that it is a type at all. Every other property that a factory takes has legal
fields.
-/

namespace JavaBuilder

open Java Model

namespace Java.TypeRef

variable {t a b : TypeRef}

/-! ## Parts of a type -/

theorem mem_args_of_element? (h : t.element? = some a) : a ∈ t.args ∧ a.isPlain = true := by
  unfold element? at h
  split at h
  · next hargs =>
    split at h
    · next hplain =>
      obtain rfl := Option.some.inj h
      exact ⟨by simp [hargs], hplain⟩
    · cases h
  · cases h

theorem mem_args_of_entry? (h : t.entry? = some (a, b)) : a ∈ t.args ∧ b ∈ t.args := by
  unfold entry? at h
  split at h
  · next hargs =>
    split at h
    · obtain ⟨rfl, rfl⟩ := Prod.mk.inj (Option.some.inj h)
      exact ⟨by simp [hargs], by simp [hargs]⟩
    · cases h
  · cases h

/-- The type arguments of a type that has been read are types. -/
theorem IsOfText.isResolved_of_mem_args (h : t.IsOfText) (ha : a ∈ t.args) :
    a.isResolved = true := by
  cases t with
  | declared name args =>
    have hresolved := h.isResolved (by simp)
    exact (allResolved_iff args).mp hresolved a ha
  | _ => cases ha

end Java.TypeRef

namespace Model

/-- The types of a declaration have been read from text. -/
structure Declaration.HasTypesOfText (d : Declaration) : Prop where
  property : d.property.type.IsOfText
  builder : ∀ b ∈ d.buildable, b.builder.IsOfText

/-- A wildcard with a marker that allows null. -/
def Declaration.IsMarkedWildcard (d : Declaration) : Prop :=
  d.property.type.isWildcard = true ∧ d.nullMarkers ≠ []

end Model

namespace Builder

open TypeRef

/-- The fields of the property have types that a field can have, and a nested builder is a class. -/
structure Strategy.HasLegalFields (ctx : Context) (s : Strategy) : Prop where
  builderField : isFieldType (s.code ctx).builderField.type = true
  valueField : isFieldType (s.code ctx).valueType = true
  nested : ∀ b, s = .nested b → b.builderType.erasure?.isSome = true

/-- The factory would take the declaration without asking enough about its types. -/
def Factory.Oversteps (d : Declaration) : Factory → Prop
  | nullable => d.property.type.isWildcard = true
  | nested => ∃ b, d.buildable = some b ∧ b.builder.erasure? = none
  | _ => False

variable {f : Features} {d : Declaration} {ctx : Context} {t a : TypeRef} {e : Error}

/-! ## Types of fields -/

theorem isFieldType_iff :
    isFieldType t = true ↔ t ≠ .void ∧ t.isWildcard = false ∧ t.isResolved = true := by
  simp [isFieldType, and_assoc]

theorem isFieldType_of_isPlain (hplain : t.isPlain = true) (hresolved : t.isResolved = true) :
    isFieldType t = true := by
  rw [isFieldType_iff]
  cases t <;> simp_all [isPlain, isWildcard]

theorem isFieldType_of_erasure? (herasure : t.erasure?.isSome = true)
    (hresolved : t.isResolved = true) : isFieldType t = true := by
  cases t with
  | declared name args => exact isFieldType_of_isPlain rfl hresolved
  | _ => cases herasure

/-- A type with a type argument is a class. -/
theorem isFieldType_of_mem_args (h : t.IsOfText) (ha : a ∈ t.args) : isFieldType t = true := by
  cases t with
  | declared name args => exact isFieldType_of_isPlain rfl (h.isResolved (by simp))
  | _ => cases ha

theorem isFieldType_declared {name : ClassName} {args : List TypeRef}
    (h : ∀ a ∈ args, a.isResolved = true) : isFieldType (.declared name args) = true :=
  isFieldType_of_isPlain rfl ((allResolved_iff args).mpr h)

theorem isFieldType_of_element? (h : t.IsOfText) (helement : t.element? = some a) :
    (∀ name, isFieldType (.declared name [a]) = true) ∧ isFieldType t = true := by
  obtain ⟨hmem, -⟩ := mem_args_of_element? helement
  refine ⟨fun name ↦ isFieldType_declared ?_, isFieldType_of_mem_args h hmem⟩
  simpa using h.isResolved_of_mem_args hmem

/-! ## What the factories take -/

/-- Nothing but the type being a wildcard spoils a property that may be null. -/
theorem Nullable.hasLegalFields_iff (n : Nullable) (h : n.property.type ≠ .void)
    (hresolved : n.property.type.isResolved = true) :
    (Strategy.nullable n).HasLegalFields ctx ↔ ¬n.property.type.isWildcard = true := by
  have hlegal : isFieldType n.property.type = true ↔ ¬n.property.type.isWildcard = true := by
    rw [isFieldType_iff, Bool.not_eq_true]
    exact ⟨fun h ↦ h.2.1, fun hwildcard ↦ ⟨h, hwildcard, hresolved⟩⟩
  exact ⟨fun h ↦ hlegal.mp h.builderField,
    fun h ↦ ⟨hlegal.mpr h, hlegal.mpr h, fun _ hn ↦ by cases hn⟩⟩

/-- A nested builder that is accepted has legal fields if it is a class. -/
theorem NestedBuilder.hasLegalFields_iff {n : NestedBuilder} (h : of? d = some n) :
    (Strategy.nested n).HasLegalFields ctx ↔ n.builderType.erasure?.isSome = true := by
  obtain ⟨b, -, ⟨herasure, hresolved⟩, hbuilder, rfl⟩ := of?_eq_some_iff.mp h
  refine ⟨fun hlegal ↦ hlegal.nested _ rfl, fun hclass ↦ ⟨isFieldType_of_erasure? hclass hbuilder,
    isFieldType_of_erasure? herasure hresolved, ?_⟩⟩
  rintro _ ⟨⟩
  exact hclass

/-- **A factory gives a property legal fields exactly where it asks enough.** -/
theorem Factory.hasLegalFields_iff (hd : d.HasTypesOfText) {factory : Factory} {s : Strategy}
    (h : factory.create? f d = some s) : s.HasLegalFields ctx ↔ ¬factory.Oversteps d := by
  have hfits := fits_of_create? h
  cases factory <;> obtain ⟨x, hx, rfl⟩ := Option.map_eq_some_iff.mp h
  case nullable =>
    have htyped := isTyped_of_create? hd.property h
    cases hfits with
    | nullable _ => exact Nullable.hasLegalFields_iff _ htyped.notVoid htyped.resolved
  case nested =>
    obtain ⟨b, hb, -, -, rfl⟩ := NestedBuilder.of?_eq_some_iff.mp hx
    rw [NestedBuilder.hasLegalFields_iff hx, Option.isSome_iff_ne_none, Oversteps]
    refine not_congr ⟨fun hnone ↦ ⟨b, hb, hnone⟩, ?_⟩
    rintro ⟨b', hb', hnone⟩
    obtain rfl := Option.some.inj (hb.symm.trans hb')
    exact hnone
  -- All others ask enough.
  all_goals refine iff_of_true ?_ not_false
  case collection =>
    cases hfits with
    | collection helement =>
      obtain ⟨hfield, htype⟩ := isFieldType_of_element? hd.property helement
      exact ⟨hfield _, htype, fun _ hn ↦ by cases hn⟩
  case multiset =>
    cases hfits with
    | multiset _ helement =>
      obtain ⟨hfield, htype⟩ := isFieldType_of_element? hd.property helement
      exact ⟨hfield _, htype, fun _ hn ↦ by cases hn⟩
  case map =>
    cases hfits with
    | map hentry =>
      obtain ⟨hkey, hvalue⟩ := mem_args_of_entry? hentry
      refine ⟨isFieldType_declared ?_, isFieldType_of_mem_args hd.property hkey,
        fun _ hn ↦ by cases hn⟩
      simpa using ⟨hd.property.isResolved_of_mem_args hkey,
        hd.property.isResolved_of_mem_args hvalue⟩
  case optional =>
    cases hfits with
    | optional _ helement =>
      obtain ⟨hmem, hplain⟩ := mem_args_of_element? helement
      have helement := isFieldType_of_isPlain hplain (hd.property.isResolved_of_mem_args hmem)
      exact ⟨helement, helement, fun _ hn ↦ by cases hn⟩
  case defaulted =>
    cases hfits with
    | defaulted _ htype => exact ⟨htype, htype, fun _ hn ↦ by cases hn⟩
  case required =>
    cases hfits with
    | required htype => exact ⟨htype, htype, fun _ hn ↦ by cases hn⟩

/-! ## What the standard chain takes -/

theorem isTyped_iff_isFieldType (h : d.property.type.IsOfText) :
    d.IsTyped ↔ isFieldType d.property.type = true ∨ d.IsMarkedWildcard := by
  constructor
  · intro htyped
    cases hwildcard : d.property.type.isWildcard with
    | false => exact .inl (isFieldType_iff.mpr ⟨htyped.notVoid, hwildcard, htyped.resolved⟩)
    | true =>
      exact .inr ⟨hwildcard, Declaration.nullMarkers_ne_nil_iff.mpr (htyped.marked hwildcard)⟩
  · rintro (htype | ⟨hwildcard, hmarkers⟩)
    · obtain ⟨hvoid, hwildcard, hresolved⟩ := isFieldType_iff.mp htype
      exact ⟨hresolved, hvoid, by simp [hwildcard]⟩
    · refine ⟨h.isResolved ?_, ?_, fun _ ↦ Declaration.nullMarkers_ne_nil_iff.mp hmarkers⟩
      · rintro s hs
        rw [hs] at hwildcard
        cases hwildcard
      · rintro hvoid
        rw [hvoid] at hwildcard
        cases hwildcard

/-- **What has no legal fields, and is not refused.** A factory that takes a declaration gives it legal
fields unless it is a marked wildcard or comes with a nested builder that is no class, and the standard
chain takes the field types and the marked wildcards. -/
theorem hasLegalFields_create? (hd : d.HasTypesOfText) :
    (∀ factory s ctx, Factory.create? f d factory = some s →
      (s.HasLegalFields ctx ↔ ¬factory.Oversteps d)) ∧
    ((∃ s, Chain.standard.select f d = .ok s) ↔
      isFieldType d.property.type = true ∨ d.IsMarkedWildcard) ∧
    ∀ e, Chain.standard.select f d = .error e ↔
      ¬(isFieldType d.property.type = true ∨ d.IsMarkedWildcard) ∧
        e = .unresolved d.property.name d.property.type := by
  refine ⟨fun factory s ctx h ↦ Factory.hasLegalFields_iff hd h, ?_, fun e ↦ ?_⟩
  · rw [Chain.exists_select_standard_iff hd.property, isTyped_iff_isFieldType hd.property]
  · rw [Chain.select_standard_eq_error_iff hd.property, isTyped_iff_isFieldType hd.property]

/-- A string is required, in fields of its own type. -/
theorem hasLegalFields_create?_string :
    (∀ ctx, Strategy.HasLegalFields ctx
      (.required ⟨.of "name" (.declared (javaLang "String") [])⟩)) ∧
    ∃ s, Chain.standard.select ⟨.java8, false⟩
      (.plain (.of "name" (.declared (javaLang "String") []))) = .ok s := by
  obtain ⟨hlegal, hselect, -⟩ := hasLegalFields_create? (f := ⟨.java8, false⟩)
    (d := .plain (.of "name" (.declared (javaLang "String") [])))
    ⟨⟨"java.lang.String", by decide⟩, by simp [Declaration.plain]⟩
  exact ⟨fun ctx ↦ (hlegal .required _ ctx rfl).mpr id, hselect.mpr (.inl (by decide))⟩

/-- **A marked wildcard is taken**, by the factory of nullable properties and so by the chain. -/
theorem not_hasLegalFields_wildcard : ¬∀ (f : Features) (d : Declaration), d.HasTypesOfText →
    (∀ factory s ctx, Factory.create? f d factory = some s → s.HasLegalFields ctx) ∧
    ((∃ s, Chain.standard.select f d = .ok s) ↔ isFieldType d.property.type = true) := by
  intro h
  obtain ⟨-, hselect⟩ := h ⟨.java8, false⟩
    ⟨.of "x" .wildcard, [.marker (.top ["javax", "annotation"] "Nullable")], none, none⟩
    ⟨⟨"?", by decide⟩, by simp⟩
  exact absurd (hselect.mp ⟨_, rfl⟩) (by decide)

end Builder

end JavaBuilder
