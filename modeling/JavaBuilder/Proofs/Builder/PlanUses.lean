import JavaBuilder.Proofs.Builder.StrategyUses
import JavaBuilder.Proofs.Layout.Ordinary

/-!
# What the class of a plan is made of

A plan checks the names of its properties, and everything else that its class is made of comes from the
fixed vocabulary, the datatype and the declarations. So the class is made of what is allowed as soon as
these are and ordinary names are.
-/

namespace JavaBuilder

open Unicode Name Java Model

namespace Java

theorem name_of_isIdentifier {x : String} (h : isIdentifier x = true) : IsOrdinary x ∧ x ≠ "" := by
  refine ⟨.of_isIdentifier h, ?_⟩
  rintro rfl
  cases h

theorem name_append {x y : String} (hx : IsOrdinary x ∧ x ≠ "") (hy : IsOrdinary y) :
    IsOrdinary (x ++ y) ∧ x ++ y ≠ "" := by
  refine ⟨hx.1.append hy, fun h ↦ hx.2 ?_⟩
  exact (String.append_eq_empty_iff.mp h).1

end Java

/-! ## Checked properties -/

namespace Model

/-- What is known about a property that has been checked. -/
structure Property.IsChecked (p : Property) : Prop where
  name : isIdentifier p.name = true
  capitalized : p.capitalized = capitalize p.name
  constant : p.constant = constantName p.name
  getter : isIdentifier p.getter = true
  boxed : p.boxed = wrapper? p.type

theorem Property.isChecked_of_check {p : Property} (h : p.check = .ok ()) : p.IsChecked := by
  have hfault : p.fault? = none := by
    unfold check at h
    split at h
    · cases h
    · assumption
  unfold fault? at hfault
  split_ifs at hfault with hname hcapitalized hconstant hgetter hboxed
  exact ⟨by simpa using hname, by simpa using hcapitalized, by simpa using hconstant,
    by simpa using hgetter, by simpa using hboxed⟩

end Model

namespace Builder

theorem isIdentifier_of_isWord {x : String} (h : isWord x = true) : isIdentifier x = true := by
  have hletter : ∀ {c : Char}, c.isAlpha = true → isLetter c = true :=
    fun h ↦ isLetter_of_isAlpha (isAscii_of_isAlpha h) h
  unfold isWord at h
  rw [isIdentifier]
  split at h
  · cases h
  · next c cs hx =>
    rw [Bool.and_eq_true, List.all_eq_true] at h
    rw [hx, isIdentifierText, Bool.and_eq_true, List.all_eq_true]
    refine ⟨by simp [isIdentifierStart, hletter h.1], fun d hd ↦ ?_⟩
    rcases Bool.or_eq_true _ _ ▸ h.2 d hd with hd | hd
    · exact isIdentifierPart_of_start (by simp [isIdentifierStart, hletter hd])
    · simp [isIdentifierPart, hd]

/-- Names are allowed if they are ordinary. -/
structure AllowsNames (ok : Allowed) : Prop where
  name : ∀ {x}, IsOrdinary x ∧ x ≠ "" → ok.name x
  method : ∀ {x}, IsOrdinary x ∧ x ≠ "" → ok.method x
  static : ∀ {c x}, ok.type c → IsOrdinary x ∧ x ≠ "" → ok.static c x
  comment : ∀ {x}, IsOrdinary x → ok.comment x
  string : ∀ {x}, IsOrdinary x → ok.string x

/-- The classes of a datatype are allowed. -/
structure AllowsDatatype (ok : Allowed) (d : Datatype) : Prop where
  source : d.source.Uses ok
  builder : d.builder.Uses ok
  generated : d.generated.Uses ok
  value : d.value.Uses ok
  partialType : ∀ p ∈ d.partialType, p.Uses ok
  propertyEnum : ∀ name ∈ d.propertyEnum,
    ok.type name ∧ ok.name name.simpleName ∧ ok.method name.simpleName
  sourceName : ok.comment d.source.name.simpleName ∧ ok.string d.source.name.simpleName

variable {ok : Allowed} {f : Features} {p : Property} {ctx : Context} {d : Datatype}
  {ds : List Declaration} {strategies : List Strategy} {chain : Chain}

theorem uses_boxed (hf : AllowsFixed ok f) {t : TypeRef} (h : t.Uses ok) : t.boxed.Uses ok := by
  cases t with
  | primitive p => cases p <;> exact ⟨hf.type (by decide), trivial⟩
  | _ => exact h

theorem allowsProperty_of_isChecked (hf : AllowsFixed ok f) (hn : AllowsNames ok) (hp : p.IsChecked)
    (ht : p.type.Uses ok) : AllowsProperty ok p where
  name := hn.name (name_of_isIdentifier hp.name)
  comment := hn.comment (.of_isIdentifier hp.name)
  string := hn.string (.of_isIdentifier hp.name)
  method h := by
    rw [Property.method, hp.capitalized]
    exact hn.method (name_append (name_of_isIdentifier (isIdentifier_of_isWord h))
      (IsOrdinary.of_isIdentifier hp.name).capitalize)
  getter := hn.method (name_of_isIdentifier hp.getter)
  builder := by
    rw [Property.builderGetter, Property.method, hp.capitalized]
    exact hn.method (name_append (name_append (by decide)
      (IsOrdinary.of_isIdentifier hp.name).capitalize) (by decide))
  type := ht
  boxedType := by
    rw [Property.boxedType, hp.boxed, wrapper?]
    split
    · exact uses_boxed hf ht
    · exact ht

theorem AllowsDatatype.allowsContext (h : AllowsDatatype ok ctx.datatype) : AllowsContext ok ctx where
  builder := uses_type_of_class h.builder
  generated := uses_type_of_class h.generated
  source := uses_type_of_class h.source

theorem AllowsNames.allowsHelpers (hn : AllowsNames ok) : AllowsHelpers ok ctx :=
  ⟨fun _ ↦ hn.name (by decide), fun _ ↦ hn.name (by decide), fun _ ↦ hn.name (by decide),
    fun _ ↦ hn.name (by decide)⟩

namespace IsPlan

variable (h : IsPlan chain f d ds ctx strategies) (hf : AllowsFixed ok f) (hn : AllowsNames ok)
  (hd : AllowsDatatype ok d)

include h in
/-- A tracked property has the names of a required one. -/
theorem isOrdinary_tracked {t : Tracking} (ht : ctx.tracking = some t) {k : Tracked}
    (hk : k ∈ t.tracked) :
    (IsOrdinary k.constant ∧ k.constant ≠ "") ∧ IsOrdinary k.property := by
  obtain ⟨s, hs, -, rfl⟩ := h.exists_of_mem_tracked ht hk
  obtain ⟨x, -, hfits, hcheck⟩ := h.exists_fits hs
  have hx := Property.isChecked_of_check hcheck
  rw [hfits.property_eq, hx.constant]
  exact ⟨⟨(IsOrdinary.of_isIdentifier hx.name).constantName,
    constantName_ne_empty (name_of_isIdentifier hx.name).2⟩, .of_isIdentifier hx.name⟩

include h hn hd in
theorem allowsClasses : AllowsClasses ok ctx where
  sourceName := by
    rw [Context.sourceName, h.datatype]
    exact hd.sourceName
  typeParams := (h.datatype ▸ hd.source).params
  generated := h.datatype ▸ hd.generated
  value := h.datatype ▸ hd.value
  partialType := h.datatype ▸ hd.partialType
  enum _ ht := (hd.propertyEnum _ (h.isOf ht).enum).1
  constants _ ht _ hk := hn.static (hd.propertyEnum _ (h.isOf ht).enum).1 (h.isOrdinary_tracked ht hk).1

include h hn hd in
theorem allowsEnum : AllowsEnum ok ctx where
  name _ ht := (hd.propertyEnum _ (h.isOf ht).enum).2
  constants _ ht _ hk :=
    ⟨hn.name (h.isOrdinary_tracked ht hk).1, hn.string (h.isOrdinary_tracked ht hk).2⟩

include h hf hn hd in
/-- **The class of a plan is made of what is allowed.** No strategy is made for text that is not a type,
so declarations of such types need not be allowed. -/
theorem uses (hds : ∀ x ∈ ds, (∀ y, x.property.type ≠ .unresolved y) → AllowsDeclaration ok x)
    (annotate : Bool) : (builderClass ctx strategies annotate).Uses ok := by
  have hclasses := h.allowsClasses hn hd
  have hhelpers : AllowsHelpers ok ctx := hn.allowsHelpers
  have hdatatype : AllowsDatatype ok ctx.datatype := h.datatype ▸ hd
  refine uses_builderClass (h.features ▸ hf) hdatatype.allowsContext hclasses hhelpers
    (h.allowsEnum hn hd) ?_ ?_ annotate
  · intro s hs
    obtain ⟨x, hx, hfits, hcheck⟩ := h.exists_fits hs
    rw [hfits.property_eq]
    have hallows := hds x hx hfits.type_ne_unresolved
    exact allowsProperty_of_isChecked hf hn (Property.isChecked_of_check hcheck) hallows.type
  · intro s hs
    obtain ⟨x, hx, hfits, -⟩ := h.exists_fits hs
    -- Only a required property refers to what tracks it.
    refine hfits.allows (hds x hx hfits.type_ne_unresolved) fun _ c hc ↦ ?_
    have htracking := isSome_tracking_of_constant? hc
    exact ⟨hhelpers.unset htracking, hhelpers.base htracking, uses_constant? hclasses c hc⟩

end IsPlan

end Builder

end JavaBuilder
