import JavaBuilder.Proofs.Builder.StrategyUses

/-!
# What code does not refer to

To say that code leaves something alone is to say that it is made of everything else. Two things
matter here. The field of the unset properties is left alone by the code of any property that is not
required, unless the property itself has the name of the field or its source text mentions it. The
constant of a required property is left alone by the code of all other properties.
-/

namespace JavaBuilder.Java

/-- Everything is allowed. -/
def anything : Allowed where
  name _ := True
  method _ := True
  literal _ := True
  string _ := True
  verbatim _ := True
  static _ _ := True
  type _ := True
  typeVar _ := True
  unresolved _ := True
  comment _ := True
  diamond := True

/-- Everything but a field or variable, and source text that mentions it. -/
def avoidingName (x : String) : Allowed :=
  { anything with name := (· ≠ x), verbatim := fun s ↦ ¬x.toList <:+: s.toList }

/-- Everything but a static member of a class. -/
def avoidingStatic (owner : ClassName) (x : String) : Allowed :=
  { anything with static := fun o y ↦ ¬(o = owner ∧ y = x) }

/-- Only names, static members and source text may be restricted. -/
structure Allowed.IsLax (ok : Allowed) : Prop where
  method : ∀ x, ok.method x
  literal : ∀ x, ok.literal x
  string : ∀ x, ok.string x
  type : ∀ c, ok.type c
  typeVar : ∀ x, ok.typeVar x
  unresolved : ∀ x, ok.unresolved x
  comment : ∀ x, ok.comment x
  diamond : ok.diamond

theorem isLax_avoidingName (x : String) : (avoidingName x).IsLax :=
  ⟨fun _ ↦ trivial, fun _ ↦ trivial, fun _ ↦ trivial, fun _ ↦ trivial, fun _ ↦ trivial,
    fun _ ↦ trivial, fun _ ↦ trivial, trivial⟩

theorem isLax_avoidingStatic (owner : ClassName) (x : String) : (avoidingStatic owner x).IsLax :=
  ⟨fun _ ↦ trivial, fun _ ↦ trivial, fun _ ↦ trivial, fun _ ↦ trivial, fun _ ↦ trivial,
    fun _ ↦ trivial, fun _ ↦ trivial, trivial⟩

namespace TypeRef

mutual

theorem uses_of_isLax {ok : Allowed} (h : ok.IsLax) : (t : TypeRef) → t.Uses ok
  | primitive _ | wildcard | void => trivial
  | declared name args => ⟨h.type name, usesAll_of_isLax h args⟩
  | typeVar name => h.typeVar name
  | extending t | array t => uses_of_isLax h t
  | unresolved s => h.unresolved s

theorem usesAll_of_isLax {ok : Allowed} (h : ok.IsLax) : (ts : List TypeRef) → UsesAll ok ts
  | [] => trivial
  | t :: ts => ⟨uses_of_isLax h t, usesAll_of_isLax h ts⟩

end

end TypeRef

end JavaBuilder.Java

namespace JavaBuilder.Builder

open Java Model

/-! ## Vocabulary -/

section

variable {ok : Allowed} (h : ok.IsLax) {f : Features} {ctx : Context} {p : Property}
  {d : Declaration}

include h

theorem allowsFixed_of_isLax (hname : ∀ {x}, isFixedName x = true → ok.name x) :
    AllowsFixed ok f where
  name := hname
  method _ := h.method _
  literal _ := h.literal _
  type _ := h.type _
  objects _ := h.type _
  functional _ := fun _ ↦ h.type _
  guava _ := fun _ ↦ h.type _
  diamond _ := h.diamond
  comment _ := h.comment _
  string _ := h.string _
  append _ _ := h.string _

theorem allowsContext_of_isLax : AllowsContext ok ctx :=
  ⟨TypeRef.uses_of_isLax h _, TypeRef.uses_of_isLax h _, TypeRef.uses_of_isLax h _⟩

theorem allowsProperty_of_isLax (hname : ok.name p.name) : AllowsProperty ok p where
  name := hname
  comment := h.comment _
  string := h.string _
  method _ := h.method _
  getter := h.method _
  builder := h.method _
  type := TypeRef.uses_of_isLax h _
  boxedType := TypeRef.uses_of_isLax h _

theorem allowsDeclaration_of_isLax
    (hinitializer : ∀ x, d.default = some (.initializer x) → ok.verbatim x) :
    AllowsDeclaration ok d where
  type := TypeRef.uses_of_isLax h _
  optional _ _ := h.type _
  markers _ _ := h.type _
  builder _ _ _ := TypeRef.uses_of_isLax h _
  initializer := hinitializer

end

/-! ## Unset properties -/

/-- The property neither has the name of the field of unset properties nor mentions it in source
text. -/
structure AvoidsUnset (d : Declaration) : Prop where
  name : d.property.name ≠ unsetField
  initializer : ∀ x, d.default = some (.initializer x) → ¬unsetField.toList <:+: x.toList

theorem ne_of_isFixedName {x y : String} (h : isFixedName x = true) (hy : y ∈ helperNames) :
    x ≠ y := by
  rintro rfl
  exact (isFixedName_iff.mp h).2 hy

theorem allowsFixed_avoidingUnset (f : Features) : AllowsFixed (avoidingName unsetField) f :=
  allowsFixed_of_isLax (isLax_avoidingName _) fun h ↦ ne_of_isFixedName h (by decide)

/-- **A property that is not required leaves the unset properties alone.** -/
theorem Strategy.Fits.avoidsUnset {ctx : Context} {s : Strategy} {d : Declaration}
    (h : s.Fits ctx.features d) (hd : AvoidsUnset d) (hcategory : s.category ≠ .required) :
    (s.code ctx).Uses (avoidingName unsetField) := by
  have hlax := isLax_avoidingName unsetField
  have hname : s.property.name ≠ unsetField := h.property_eq ▸ hd.name
  refine Strategy.uses_code (allowsFixed_avoidingUnset _) (allowsContext_of_isLax hlax)
    (allowsProperty_of_isLax hlax hname) ?_
  exact h.allows (allowsDeclaration_of_isLax hlax hd.initializer)
    fun hrequired ↦ absurd hrequired hcategory

/-! ## Constants -/

namespace IsPlan

variable {chain : Chain} {f : Features} {d : Datatype} {ds : List Declaration} {ctx : Context}
  {strategies : List Strategy} (h : IsPlan chain f d ds ctx strategies) {t : Tracking}
  {s r : Strategy}

include h

theorem mem_tracked (ht : ctx.tracking = some t) (hs : s ∈ strategies)
    (hcategory : s.category = .required) :
    (⟨s.property.name, s.property.constant⟩ : Tracked) ∈ t.tracked := by
  rw [(h.isOf ht).tracked]
  exact List.mem_map.mpr ⟨(s.property, s.category),
    List.mem_filter.mpr ⟨List.mem_map.mpr ⟨s, hs, rfl⟩, by simpa using hcategory⟩, rfl⟩

/-- The constant of a required property is the one that is looked up by its name. -/
theorem constant?_of_required (ht : ctx.tracking = some t) (hs : s ∈ strategies)
    (hcategory : s.category = .required) :
    ctx.constant? s.property.name = some (.static t.enum s.property.constant) := by
  have hmem := h.mem_tracked ht hs hcategory
  have hfind : t.tracked.find? (·.property == s.property.name) =
      some ⟨s.property.name, s.property.constant⟩ := by
    cases hfind : t.tracked.find? (·.property == s.property.name) with
    | none =>
      have hnone := List.find?_eq_none.mp hfind _ hmem
      simp at hnone
    | some k =>
      have hk : k.property = s.property.name := by simpa using List.find?_some hfind
      obtain ⟨r, hr, -, rfl⟩ := h.exists_of_mem_tracked ht (List.mem_of_find?_eq_some hfind)
      rw [List.inj_on_of_nodup_map h.nodup_names hr hs hk]
  rw [Context.constant?, ht, Option.bind_some, Tracking.constant?, hfind, Option.map_some]

theorem constant?_of_not_required (hs : s ∈ strategies) (hcategory : s.category ≠ .required) :
    ctx.constant? s.property.name = none := by
  cases ht : ctx.tracking with
  | none => rw [Context.constant?, ht, Option.bind_none]
  | some t =>
    have hfind : t.tracked.find? (·.property == s.property.name) = none := by
      refine List.find?_eq_none.mpr fun k hk ↦ ?_
      obtain ⟨r, hr, hrequired, rfl⟩ := h.exists_of_mem_tracked ht hk
      have hname : r.property.name ≠ s.property.name := fun heq ↦
        hcategory (List.inj_on_of_nodup_map h.nodup_names hr hs heq ▸ hrequired)
      simpa using hname
    rw [Context.constant?, ht, Option.bind_some, Tracking.constant?, hfind, Option.map_none]

/-- **The code of a property refers to no constant but its own.** -/
theorem avoidsStatic (ht : ctx.tracking = some t) (hs : s ∈ strategies)
    (hcategory : s.category = .required) (hr : r ∈ strategies)
    (hname : r.property.name ≠ s.property.name) :
    (r.code ctx).Uses (avoidingStatic t.enum s.property.constant) := by
  have hlax := isLax_avoidingStatic t.enum s.property.constant
  obtain ⟨x, -, hfits, -⟩ := h.exists_fits hr
  refine Strategy.uses_code (allowsFixed_of_isLax hlax fun _ ↦ trivial)
    (allowsContext_of_isLax hlax) (allowsProperty_of_isLax hlax trivial) ?_
  refine hfits.allows (allowsDeclaration_of_isLax hlax fun _ _ ↦ trivial)
    fun hrequired c hc ↦ ⟨trivial, trivial, ?_⟩
  rw [h.constant?_of_required ht hr hrequired] at hc
  obtain rfl := Option.some.inj hc
  rintro ⟨-, hconstant⟩
  have heq := List.inj_on_of_nodup_map (h.isOf ht).constants (h.mem_tracked ht hr hrequired)
    (h.mem_tracked ht hs hcategory) hconstant
  exact hname (congrArg Tracked.property heq)

end IsPlan

end JavaBuilder.Builder
