import JavaBuilder.Proofs.Builder.ClassUses
import JavaBuilder.Proofs.Builder.Collections
import JavaBuilder.Proofs.Builder.Planning
import JavaBuilder.Proofs.Builder.Strategies

/-!
# What the code of any property is made of

A strategy takes from a declaration the types, markers and source text that its code is made of.
Where these are allowed, so is the code of the strategy, and the class of a plan with it.
-/

namespace JavaBuilder.Builder

open Java Model

variable {ok : Allowed} {ctx : Context} {s : Strategy} {d : Declaration}

/-- What is known about the accessor of a property is allowed. -/
structure AllowsDeclaration (ok : Allowed) (d : Declaration) : Prop where
  type : d.property.type.Uses ok
  optional : ∀ kind : OptionalKind, d.property.type.isClass kind.type.text = true → ok.type kind.type
  markers : ∀ n ∈ d.nullMarkers, ok.type n
  builder : ∀ b ∈ d.buildable, b.builder.isResolved = true → b.builder.Uses ok
  initializer : ∀ x, d.default = some (.initializer x) → ok.verbatim x

namespace Strategy

/-- What a strategy has found is allowed. A multiset is built on Guava. A required property may have its
constant, which comes with the set that it is in and the variable in which this is looked up. -/
def Allows (ok : Allowed) (ctx : Context) : Strategy → Prop
  | nullable n => ∀ m ∈ n.markers, ok.type m
  | collection c => c.element.Uses ok
  | map m => m.key.Uses ok ∧ m.value.Uses ok
  | multiset m => ctx.features.guava = true ∧ m.element.Uses ok
  | optional o => ok.type o.kind.type ∧ o.element.Uses ok
  | nested b => b.builderType.Uses ok
  | defaulted v => ∀ x, v.source = .initializer x → ok.verbatim x
  | required r => ∀ c ∈ ctx.constant? r.property.name,
    ok.name unsetField ∧ ok.name baseVar ∧ c.Uses ok

theorem uses_code (hf : AllowsFixed ok ctx.features) (hc : AllowsContext ok ctx)
    (hp : AllowsProperty ok s.property) (hs : s.Allows ok ctx) : (s.code ctx).Uses ok := by
  cases s with
  | nullable n => exact Nullable.uses_code hf hc hp hs
  | collection c => exact Collection.uses_code hf hc hp hs
  | map m => exact MapProperty.uses_code hf hc hp hs.1 hs.2
  | multiset m => exact MultisetProperty.uses_code hf hc hp hs.2 hs.1
  | optional o => exact OptionalProperty.uses_code hf hc hp hs.1 hs.2
  | nested b => exact NestedBuilder.uses_code hf hc hp hs
  | defaulted v => exact Defaulted.uses_code hf hc hp hs
  | required r => exact Required.uses_code hf hc hp hs

theorem uses_element? {t element : TypeRef} (ht : t.Uses ok) (h : t.element? = some element) :
    element.Uses ok := by
  unfold TypeRef.element? at h
  split at h
  · next a hargs =>
    split at h
    · obtain rfl := Option.some.inj h
      cases t <;> cases hargs
      exact ht.2.1
    · cases h
  · cases h

theorem uses_entry? {t key value : TypeRef} (ht : t.Uses ok) (h : t.entry? = some (key, value)) :
    key.Uses ok ∧ value.Uses ok := by
  unfold TypeRef.entry? at h
  split at h
  · next k v hargs =>
    split at h
    · obtain ⟨rfl, rfl⟩ := Prod.mk.inj (Option.some.inj h)
      cases t <;> cases hargs
      exact ⟨ht.2.1, ht.2.2.1⟩
    · cases h
  · cases h

theorem Fits.allows (h : s.Fits ctx.features d) (hd : AllowsDeclaration ok d)
    (hrequired : s.category = .required → ∀ c ∈ ctx.constant? s.property.name,
      ok.name unsetField ∧ ok.name baseVar ∧ c.Uses ok) : s.Allows ok ctx := by
  cases h with
  | nullable => exact hd.markers
  | collection h => exact uses_element? hd.type h
  | multiset hguava h => exact ⟨hguava, uses_element? hd.type h⟩
  | optional hclass h => exact ⟨hd.optional _ hclass, uses_element? hd.type h⟩
  | map h => exact uses_entry? hd.type h
  | nested hbuildable _ hresolved => exact hd.builder _ hbuildable hresolved
  | defaulted hdefault _ => exact fun x hx ↦ hd.initializer x (hx ▸ hdefault)
  | required _ => exact hrequired rfl

end Strategy

/-- **The class of a plan is made of what is allowed.** -/
theorem uses_builderClass {strategies : List Strategy} (hf : AllowsFixed ok ctx.features)
    (hc : AllowsContext ok ctx) (hd : AllowsClasses ok ctx) (hh : AllowsHelpers ok ctx)
    (he : AllowsEnum ok ctx) (hp : ∀ s ∈ strategies, AllowsProperty ok s.property)
    (hs : ∀ s ∈ strategies, s.Allows ok ctx) (annotate : Bool) :
    (builderClass ctx strategies annotate).Uses ok := by
  refine Assembly.uses_topClass hf hc hd hh (List.forall_mem_map.mpr fun s hmem ↦ ?_)
    (List.forall_mem_map.mpr fun s hmem ↦ ?_) he annotate
  · rw [Strategy.property_code]
    exact hp s hmem
  · exact Strategy.uses_code hf hc (hp s hmem) (hs s hmem)

end JavaBuilder.Builder
