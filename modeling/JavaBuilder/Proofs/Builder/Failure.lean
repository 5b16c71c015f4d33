import JavaBuilder.Proofs.Builder.Binding
import JavaBuilder.Proofs.Model.Decoded

/-!
# When generation fails

Five checks stand between a descriptor and its builder: of each property, of the datatype, of the names
while strategies are chosen, of the types by the factories, and of the constants when tracking is set up.
For a decoded descriptor the first two never refuse anything, and of the third kind only what the factories
leave over counts. What remains are three ways to fail, tried in this order: a property in the order of
declaration repeats a name or has a type no field can have, and, where neither is so, two required
properties share a constant.

Both searches, for a faulty property and for a repeated constant, are described by where they stop: at the
first place before which nothing is wrong.
-/

namespace JavaBuilder

open Java Model

namespace Model

/-! ## Types of fields -/

/-- The type can be that of a field, where a wildcard needs a marker that allows null. -/
structure Declaration.IsTyped (d : Declaration) : Prop where
  resolved : d.property.type.isResolved = true
  notVoid : d.property.type ≠ .void
  marked : d.property.type.isWildcard = true → ∃ a ∈ d.annotations, a.isNullable = true

theorem Declaration.nullMarkers_ne_nil_iff {d : Declaration} :
    d.nullMarkers ≠ [] ↔ ∃ a ∈ d.annotations, a.isNullable = true := by
  simp [nullMarkers, List.filter_eq_nil_iff]

/-- A class with type arguments can be the type of a field. -/
theorem Declaration.isTyped_of_declared {d : Declaration} (h : d.property.type.IsOfText)
    {name : ClassName} {args : List TypeRef} (htype : d.property.type = .declared name args) :
    d.IsTyped where
  resolved := h.isResolved fun s hs ↦ by simp [htype] at hs
  notVoid := by simp [htype]
  marked := by simp [htype, TypeRef.isWildcard]

@[simp] theorem Datatype.source_withExtensible (d : Datatype) (extensible : Bool) :
    (d.withExtensible extensible).source = d.source := by
  unfold withExtensible
  split <;> rfl

@[simp] theorem Datatype.propertyEnum_withExtensible (d : Datatype) (extensible : Bool) :
    (d.withExtensible extensible).propertyEnum = d.propertyEnum := by
  unfold withExtensible
  split <;> rfl

/-- The datatype of a descriptor is never refused. -/
theorem Descriptor.check_conventional (d : Descriptor) : d.conventional.check = .ok () := by
  have hnested (c : ClassName) : Datatype.nestedFault? c [] [c.nested "Value", c.nested "Property"] =
      none ∧ Datatype.nestedFault? c []
        [c.nested "Value", c.nested "Partial", c.nested "Property"] = none := by
    simp [Datatype.nestedFault?]
  rw [Datatype.check, Datatype.fault?]
  cases hextensible : d.extensible <;>
    simp [conventional, hextensible, Datatype.standard, Datatype.withInterface, Datatype.withFactory,
      Datatype.withSerializable, Datatype.withExtensible, Datatype.hide, Datatype.nestedNames,
      ClassName.top, ClassName.isTopLevel, GenericClass.sibling, hnested]

theorem Descriptor.source_conventional (d : Descriptor) : d.conventional.source.name = d.type := by
  rw [conventional, Datatype.source_withExtensible]
  rfl

/-- A required property always has an enum to be tracked in. -/
theorem Descriptor.isSome_propertyEnum (d : Descriptor) :
    d.conventional.propertyEnum.isSome = true := by
  rw [conventional, Datatype.propertyEnum_withExtensible]
  rfl

theorem Descriptor.datatype_eq (d : Descriptor) : d.datatype = .ok d.conventional := by
  rw [datatype, d.check_conventional]
  rfl

end Model

namespace Builder

variable {f : Features} {d : Declaration} {ds : List Declaration} {e : Error}

/-! ## Factories -/

/-- A factory accepts nothing that no field can have. -/
theorem Factory.isTyped_of_create? (hd : d.property.type.IsOfText) {factory : Factory} {s : Strategy}
    (h : factory.create? f d = some s) : d.IsTyped := by
  have hargs (hne : d.property.type.args ≠ []) : d.IsTyped := by
    cases htype : d.property.type with
    | declared name args => exact Declaration.isTyped_of_declared hd htype
    | _ => simp [htype, TypeRef.args] at hne
  have helement {t : TypeRef} (ht : d.property.type.element? = some t) : d.IsTyped :=
    hargs fun hnil ↦ by simp [TypeRef.element?, hnil] at ht
  have hfield (ht : isFieldType d.property.type = true) : d.IsTyped := by
    simp only [isFieldType, Bool.and_eq_true, bne_iff_ne, Bool.not_eq_true'] at ht
    exact ⟨ht.2, ht.1.1, by simp [ht.1.2]⟩
  have hfits := fits_of_create? h
  cases factory <;> obtain ⟨x, hx, rfl⟩ := Option.map_eq_some_iff.mp h
  case nullable =>
    obtain ⟨⟨-, hvoid, hresolved, hmarkers⟩, -⟩ := Nullable.of?_eq_some_iff.mp hx
    exact ⟨hresolved, hvoid, fun _ ↦ Declaration.nullMarkers_ne_nil_iff.mp hmarkers⟩
  case nested =>
    obtain ⟨b, -, ⟨herasure, -⟩, -⟩ := NestedBuilder.of?_eq_some_iff.mp hx
    cases htype : d.property.type with
    | declared name args => exact Declaration.isTyped_of_declared hd htype
    | _ => simp [htype, TypeRef.erasure?] at herasure
  case collection => cases hfits with | collection ht => exact helement ht
  case multiset => cases hfits with | multiset _ ht => exact helement ht
  case optional => cases hfits with | optional _ ht => exact helement ht
  case map =>
    cases hfits with
    | map ht => exact hargs fun hnil ↦ by simp [TypeRef.entry?, hnil] at ht
  case defaulted => cases hfits with | defaulted _ ht => exact hfield ht
  case required => cases hfits with | required ht => exact hfield ht

/-- What a field can have is required, or it is a marked wildcard, which may be null. -/
theorem Factory.exists_isSome_create? (f : Features) (h : d.IsTyped) :
    ∃ factory ∈ Chain.standard, (factory.create? f d).isSome = true := by
  cases hwildcard : d.property.type.isWildcard with
  | false =>
    have htype : isFieldType d.property.type = true := by
      simp [isFieldType, h.resolved, h.notVoid, hwildcard]
    exact ⟨.required, by decide, by simp [create?, Required.of?_eq_some_iff.mpr ⟨htype, rfl⟩]⟩
  | true =>
    have hmarkers := Declaration.nullMarkers_ne_nil_iff.mpr (h.marked hwildcard)
    have hprimitive : d.property.type.isPrimitive = false := by
      cases htype : d.property.type <;>
        simp [htype, TypeRef.isWildcard, TypeRef.isPrimitive, TypeRef.primitive?] at hwildcard ⊢
    have hnullable := Nullable.of?_eq_some_iff.mpr ⟨⟨hprimitive, h.notVoid, h.resolved, hmarkers⟩, rfl⟩
    exact ⟨.nullable, by decide, by simp [create?, hnullable]⟩

namespace Chain

/-- The standard chain leaves over what no field can have, and nothing else. -/
theorem select_standard_eq_error_iff (hd : d.property.type.IsOfText) :
    standard.select f d = .error e ↔
      ¬d.IsTyped ∧ e = .unresolved d.property.name d.property.type := by
  rw [select_eq_error_iff]
  refine and_congr_left fun _ ↦ ⟨fun hnone htyped ↦ ?_, fun hnot factory _ ↦ ?_⟩
  · obtain ⟨factory, hmem, hsome⟩ := Factory.exists_isSome_create? f htyped
    rw [hnone factory hmem] at hsome
    cases hsome
  · by_contra hsome
    obtain ⟨s, hs⟩ := Option.ne_none_iff_exists'.mp hsome
    exact hnot (Factory.isTyped_of_create? hd hs)

theorem exists_select_standard_iff (hd : d.property.type.IsOfText) :
    (∃ s, standard.select f d = .ok s) ↔ d.IsTyped := by
  cases hselect : standard.select f d with
  | ok s =>
    refine ⟨fun _ ↦ ?_, fun _ ↦ ⟨s, rfl⟩⟩
    by_contra hnot
    have herror := (select_standard_eq_error_iff (f := f) hd).mpr ⟨hnot, rfl⟩
    rw [hselect] at herror
    cases herror
  | error e =>
    have hnot := ((select_standard_eq_error_iff hd).mp hselect).1
    refine ⟨?_, fun h ↦ absurd h hnot⟩
    rintro ⟨s, hs⟩
    cases hs

section

variable {chain : Chain} {seen : List String} {before : List Declaration} {x : Declaration}

/-- Binding gets past some properties and stops at the next one. -/
def StopsAt (chain : Chain) (f : Features) (seen : List String) (before : List Declaration)
    (x : Declaration) (e : Error) : Prop :=
  (∃ ss, chain.bindFrom f seen before = .ok ss) ∧
    ((x.property.name ∈ seen ++ before.map (·.property.name) ∧
        e = .property x.property.name .duplicate) ∨
      (x.property.name ∉ seen ++ before.map (·.property.name) ∧ chain.select f x = .error e))

theorem stopsAt_iff (hcheck : x.property.check = .ok ()) : StopsAt chain f seen before x e ↔
    (∃ ss, chain.bindFrom f seen before = .ok ss) ∧
      chain.FailsAt f (seen ++ before.map (·.property.name)) x e := by
  refine and_congr_right fun _ ↦ ⟨?_, ?_⟩
  · rintro (⟨hmem, rfl⟩ | ⟨hmem, hselect⟩)
    · exact .duplicate hcheck hmem
    · obtain ⟨hnone, rfl⟩ := select_eq_error_iff.mp hselect
      exact .unresolved hcheck hmem hnone
  · rintro (hfault | ⟨-, hmem⟩ | ⟨-, hmem, hnone⟩)
    · rw [hcheck] at hfault
      cases hfault
    · exact .inl ⟨hmem, rfl⟩
    · exact .inr ⟨hmem, select_eq_error_iff.mpr ⟨hnone, rfl⟩⟩

/-- Among faultless properties, binding fails with what it stops at. -/
theorem bindFrom_eq_error_iff_stopsAt (hcheck : ∀ x ∈ ds, x.property.check = .ok ()) :
    chain.bindFrom f seen ds = .error e ↔
      ∃ before x after, ds = before ++ x :: after ∧ StopsAt chain f seen before x e := by
  rw [bindFrom_eq_error_iff]
  refine exists_congr fun before ↦ exists_congr fun x ↦ exists_congr fun after ↦
    and_congr_right fun hsplit ↦ ?_
  exact (stopsAt_iff (hcheck x (by simp [hsplit]))).symm

end

end Chain

/-! ## Required properties -/

/-- The constant that is found repeats one before it, and no earlier one repeats another. -/
theorem duplicateConstant?_eq_some_iff {seen : List String} {ts : List Tracked} {c : String} :
    duplicateConstant? seen ts = some c ↔ ∃ before x after,
      ts.map (·.constant) = before ++ x :: after ∧
        (∀ b ∈ before, b ∉ seen) ∧ before.Nodup ∧ x ∈ seen ++ before ∧ x = c := by
  induction ts generalizing seen with
  | nil => simp [duplicateConstant?]
  | cons t ts ih =>
    rw [List.map_cons, exists_split_cons (P := fun before x ↦
      (∀ b ∈ before, b ∉ seen) ∧ before.Nodup ∧ x ∈ seen ++ before ∧ x = c), duplicateConstant?]
    by_cases hseen : t.constant ∈ seen
    · simp [hseen]
    · rw [if_neg hseen, ih, List.append_nil]
      -- The head is not repeated itself, and joins what the rest may not repeat.
      rw [or_iff_right fun h ↦ hseen h.2.2.1]
      refine exists_congr fun before ↦ exists_congr fun x ↦ exists_congr fun after ↦
        and_congr_right fun _ ↦ ?_
      simp only [List.mem_cons, List.mem_append, not_or, List.nodup_cons, forall_eq_or_imp,
        List.cons_append]
      grind

theorem Tracking.of_eq_error_iff {d : Datatype} {bound : List (Property × Category)}
    (henum : d.propertyEnum.isSome = true) : Tracking.of d bound = .error e ↔
      ∃ c, duplicateConstant? [] (requiredOf bound) = some c ∧
        e = .datatype d.source.name (.duplicateConstant c) := by
  obtain ⟨enum, henum⟩ := Option.isSome_iff_exists.mp henum
  rw [Tracking.of, henum]
  cases hrequired : requiredOf bound with
  | nil => simp [duplicateConstant?]
  | cons t ts =>
    simp only
    cases duplicateConstant? [] (t :: ts) <;> simp [eq_comm]

/-- The standard chain makes the property required. -/
def isRequired (f : Features) (d : Declaration) : Bool :=
  match Chain.standard.select f d with
  | .ok (.required _) => true
  | _ => false

/-- The constants of the properties that the standard chain makes required, in order. -/
def requiredConstants (f : Features) (ds : List Declaration) : List String :=
  (ds.filter (isRequired f)).map (·.property.constant)

theorem isRequired_of_select {s : Strategy} (h : Chain.standard.select f d = .ok s) :
    isRequired f d = decide (s.category = .required) := by
  rw [isRequired, h]
  cases s <;> rfl

theorem map_constant_requiredOf {ss : List Strategy}
    (h : List.Forall₂ (fun d s ↦ Chain.standard.select f d = .ok s) ds ss) :
    (Tracking.requiredOf (boundOf ss)).map (·.constant) = requiredConstants f ds := by
  induction h with
  | nil => rfl
  | @cons d s ds ss hselect _ ih =>
    rw [requiredConstants, List.filter_cons, isRequired_of_select hselect]
    rw [Tracking.requiredOf, boundOf, List.map_cons, List.filter_cons]
    by_cases hcategory : s.category = .required
    · rw [if_pos (decide_eq_true hcategory), if_pos (decide_eq_true hcategory), List.map_cons,
        List.map_cons, List.map_cons, ← requiredConstants, ← ih,
        (Chain.fits_of_select hselect).property_eq]
      rfl
    · rw [if_neg (by simpa using hcategory), if_neg (by simpa using hcategory)]
      exact ih

/-! ## Outcomes -/

/-- Names differ, and every type can be that of a field. -/
structure AreSound (ds : List Declaration) : Prop where
  names : (ds.map (·.property.name)).Nodup
  typed : ∀ d ∈ ds, d.IsTyped

/-- Why a descriptor has no builder. -/
inductive Fails (f : Features) (d : Descriptor) : Error → Prop where
  /-- A property repeats the name of an earlier one, and nothing is wrong before it. -/
  | duplicate {before after : List Declaration} {x : Declaration} :
    d.properties = before ++ x :: after → AreSound before →
    x.property.name ∈ before.map (·.property.name) → Fails f d (.property x.property.name .duplicate)
  /-- The type of a property cannot be that of a field. Its name is new, and nothing is wrong before
  it. -/
  | untyped {before after : List Declaration} {x : Declaration} :
    d.properties = before ++ x :: after → AreSound before →
    x.property.name ∉ before.map (·.property.name) → ¬x.IsTyped →
    Fails f d (.unresolved x.property.name x.property.type)
  /-- A required property repeats the constant of an earlier one, and nothing else is wrong. -/
  | constant {before after : List String} {c : String} :
    AreSound d.properties → requiredConstants f d.properties = before ++ c :: after →
    before.Nodup → c ∈ before → Fails f d (.datatype d.type (.duplicateConstant c))

theorem exists_bind_iff (hds : ∀ x ∈ ds, x.IsDecoded) :
    (∃ ss, Chain.standard.bind f ds = .ok ss) ↔ AreSound ds := by
  have hchecks : ∀ x ∈ ds, x.property.check = .ok () := fun x hx ↦ (hds x hx).property.check
  have hselect : ∀ x ∈ ds, (∃ s, Chain.standard.select f x = .ok s) ↔ x.IsTyped :=
    fun x hx ↦ Chain.exists_select_standard_iff (hds x hx).property.type
  simp only [Chain.bind, Chain.bindFrom_eq_ok_iff, exists_and_left, exists_forall₂_iff]
  constructor
  · rintro ⟨-, -, hnames, hall⟩
    exact ⟨hnames, fun x hx ↦ (hselect x hx).mp (hall x hx)⟩
  · rintro ⟨hnames, htyped⟩
    exact ⟨hchecks, by simp, hnames, fun x hx ↦ (hselect x hx).mpr (htyped x hx)⟩

/-- Choosing strategies fails for the first property that is not sound. -/
theorem bind_eq_error_iff (hds : ∀ x ∈ ds, x.IsDecoded) :
    Chain.standard.bind f ds = .error e ↔ ∃ before x after, ds = before ++ x :: after ∧
      AreSound before ∧
        ((x.property.name ∈ before.map (·.property.name) ∧
            e = .property x.property.name .duplicate) ∨
          (x.property.name ∉ before.map (·.property.name) ∧ ¬x.IsTyped ∧
            e = .unresolved x.property.name x.property.type)) := by
  rw [Chain.bind, Chain.bindFrom_eq_error_iff_stopsAt fun x hx ↦ (hds x hx).property.check]
  refine exists_congr fun before ↦ exists_congr fun x ↦ exists_congr fun after ↦
    and_congr_right fun hsplit ↦ ?_
  subst hsplit
  have hbefore : ∀ y ∈ before, y.IsDecoded := fun y hy ↦ hds y (List.mem_append_left _ hy)
  have hx : x.IsDecoded := hds x (List.mem_append_right _ List.mem_cons_self)
  rw [Chain.StopsAt, List.nil_append, Chain.select_standard_eq_error_iff hx.property.type]
  exact and_congr_left fun _ ↦ exists_bind_iff hbefore

theorem of_eq_error_iff_constants {d : Datatype} {ss : List Strategy}
    (henum : d.propertyEnum.isSome = true)
    (h : List.Forall₂ (fun d s ↦ Chain.standard.select f d = .ok s) ds ss) :
    Tracking.of d (boundOf ss) = .error e ↔ ∃ before c after,
      requiredConstants f ds = before ++ c :: after ∧ before.Nodup ∧ c ∈ before ∧
        e = .datatype d.source.name (.duplicateConstant c) := by
  simp only [Tracking.of_eq_error_iff henum, duplicateConstant?_eq_some_iff,
    map_constant_requiredOf h, List.nil_append, List.not_mem_nil, not_false_eq_true, implies_true,
    true_and]
  constructor
  · rintro ⟨c, ⟨before, c, after, hsplit, hnodup, hmem, rfl⟩, he⟩
    exact ⟨before, c, after, hsplit, hnodup, hmem, he⟩
  · rintro ⟨before, c, after, hsplit, hnodup, hmem, he⟩
    exact ⟨c, ⟨before, c, after, hsplit, hnodup, hmem, rfl⟩, he⟩

theorem generate_eq (config : Config) (d : Descriptor) :
    generate config d = generateWith .standard config d.conventional d.properties := by
  rw [generate, d.datatype_eq]
  rfl

theorem generate_eq_error_iff {config : Config} {d : Descriptor} (hd : d.IsDecoded) :
    generate config d = .error e ↔ Fails config.features d e := by
  have hplan : generate config d = .error e ↔
      Chain.standard.bind config.features d.properties = .error e ∨
        ∃ ss, Chain.standard.bind config.features d.properties = .ok ss ∧
          Tracking.of d.conventional (boundOf ss) = .error e := by
    simp [generate_eq, generateWith, plan, d.check_conventional, bind_eq_error, boundOf, pure,
      Except.pure]
  rw [hplan, bind_eq_error_iff hd.properties]
  constructor
  · rintro (⟨before, x, after, hsplit, hbefore, ⟨hmem, rfl⟩ | ⟨hmem, htyped, rfl⟩⟩ | ⟨ss, hss, htracking⟩)
    · exact .duplicate hsplit hbefore hmem
    · exact .untyped hsplit hbefore hmem htyped
    · have hselects := (Chain.bindFrom_eq_ok_iff.mp hss).2.2.2
      obtain ⟨before, c, after, hsplit, hnodup, hmem, rfl⟩ :=
        (of_eq_error_iff_constants d.isSome_propertyEnum hselects).mp htracking
      rw [d.source_conventional]
      exact .constant ((exists_bind_iff hd.properties).mp ⟨ss, hss⟩) hsplit hnodup hmem
  · rintro (⟨hsplit, hbefore, hmem⟩ | ⟨hsplit, hbefore, hmem, htyped⟩ | ⟨hsound, hsplit, hnodup, hmem⟩)
    · exact .inl ⟨_, _, _, hsplit, hbefore, .inl ⟨hmem, rfl⟩⟩
    · exact .inl ⟨_, _, _, hsplit, hbefore, .inr ⟨hmem, htyped, rfl⟩⟩
    · obtain ⟨ss, hss⟩ := (exists_bind_iff (f := config.features) hd.properties).mpr hsound
      have hselects := (Chain.bindFrom_eq_ok_iff.mp hss).2.2.2
      exact .inr ⟨ss, hss, (of_eq_error_iff_constants d.isSome_propertyEnum hselects).mpr
        ⟨_, _, _, hsplit, hnodup, hmem, by rw [d.source_conventional]⟩⟩

/-- There is a builder where the properties are sound and required constants differ. -/
theorem exists_generate_iff {config : Config} {d : Descriptor} (hd : d.IsDecoded) :
    (∃ g, generate config d = .ok g) ↔
      AreSound d.properties ∧ (requiredConstants config.features d.properties).Nodup := by
  simp only [generate_eq, generateWith_eq_ok_iff]
  constructor
  · rintro ⟨g, ctx, ss, hplan, -⟩
    have hbind : Chain.standard.bind config.features d.properties = .ok ss :=
      Chain.bindFrom_eq_ok_iff.mpr ⟨hplan.checks, by simp, hplan.names, hplan.selects⟩
    refine ⟨(exists_bind_iff hd.properties).mp ⟨ss, hbind⟩, ?_⟩
    rw [← map_constant_requiredOf hplan.selects]
    rcases hplan.tracking with ⟨hnone, -⟩ | ⟨t, -, ht⟩
    · rw [hnone]
      exact .nil
    · rw [← ht.tracked]
      exact ht.constants
  · rintro ⟨hsound, hnodup⟩
    obtain ⟨ss, hss⟩ := (exists_bind_iff (f := config.features) hd.properties).mpr hsound
    obtain ⟨hchecks, -, hnames, hselects⟩ := Chain.bindFrom_eq_ok_iff.mp hss
    -- Tracking could fail only for a repeated constant, since a descriptor always has an enum.
    cases htracking : Tracking.of d.conventional (boundOf ss) with
    | error e =>
      obtain ⟨before, c, after, hsplit, -, hmem, -⟩ :=
        (of_eq_error_iff_constants d.isSome_propertyEnum hselects).mp htracking
      rw [hsplit] at hnodup
      exact absurd hmem fun h ↦ List.disjoint_of_nodup_append hnodup h List.mem_cons_self
    | ok tracking =>
      exact ⟨_, ⟨d.conventional, config.features, tracking⟩, ss,
        ⟨rfl, rfl, d.check_conventional, hchecks, hnames, hselects,
          Tracking.of_eq_ok_iff.mp htracking⟩, rfl⟩

/-- **When a decoded descriptor has a builder, and why it has none otherwise.** Neither the datatype nor
any property is refused. What is left is a property that repeats a name or has a type no field can have,
or else two required properties with one constant. -/
theorem generate_succeeds_or_fails {text : String} {d : Descriptor}
    (h : Descriptor.ofText text = .ok d) (config : Config) :
    d.datatype = .ok d.conventional ∧ d.conventional.check = .ok () ∧
      (∀ x ∈ d.properties, x.property.check = .ok ()) ∧
      ((∃ g, generate config d = .ok g) ↔
        AreSound d.properties ∧ (requiredConstants config.features d.properties).Nodup) ∧
      ∀ e, generate config d = .error e ↔ Fails config.features d e := by
  have hd := Descriptor.isDecoded_of_ofText h
  exact ⟨d.datatype_eq, d.check_conventional, fun x hx ↦ (hd.properties x hx).property.check,
    exists_generate_iff hd, fun e ↦ generate_eq_error_iff hd⟩

/-- A property that repeats a name, and has no type besides, is refused for its name. -/
theorem generate_fails_repeatedName :
    ∃ d, Descriptor.ofText ("\x7b\"type\":\"a.B\",\"properties\":[\x7b\"name\":\"x\",\"type\":\"int\"\x7d," ++
        "\x7b\"name\":\"x\",\"type\":\"no type\"\x7d]\x7d") = .ok d ∧
      generate ⟨⟨.java8, false⟩, true, false, ⟨.two, .lf⟩⟩ d =
        .error (.property "x" .duplicate) := by
  let x := Declaration.plain (.of "x" (.primitive .int))
  let y := Declaration.plain (.of "x" (.unresolved "no type"))
  have h : Descriptor.ofText ("\x7b\"type\":\"a.B\",\"properties\":[\x7b\"name\":\"x\",\"type\":\"int\"\x7d," ++
      "\x7b\"name\":\"x\",\"type\":\"no type\"\x7d]\x7d") =
      .ok ⟨.top ["a"] "B", [], false, some .constructor, false, true,
        [.plain (.of "x" (.primitive .int)), .plain (.of "x" (.unresolved "no type"))]⟩ := by
    decide +kernel
  have hx : AreSound [x] :=
    ⟨List.nodup_singleton _, List.forall_mem_singleton.mpr ⟨rfl, nofun, nofun⟩⟩
  refine ⟨_, h, ((generate_succeeds_or_fails h _).2.2.2.2 _).mpr ?_⟩
  exact @Fails.duplicate _ _ [x] [] y rfl hx List.mem_cons_self

end Builder

end JavaBuilder
