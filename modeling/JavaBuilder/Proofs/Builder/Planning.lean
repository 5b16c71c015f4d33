import Mathlib.Data.List.Nodup
import JavaBuilder.Builder.Assembly
import JavaBuilder.Proofs.Builder.Factories
import JavaBuilder.Proofs.Outcome

/-!
# What a plan says

A plan exists only where nothing is wrong with the datatype and its properties. So a plan itself is
evidence: that every property is faultless and has a strategy that fits it, that no two properties
share a name, and that tracking is about exactly the required ones, under constants that differ. Each
of the functions involved is described once, by what it means for it to succeed.
-/

namespace JavaBuilder.Builder

open Java Model

/-! ## Strategies -/

namespace Strategy

variable {f : Features} {d : Declaration} {s : Strategy}

/-- The strategy has been made for the declaration, and the features it is built on are there. -/
inductive Fits (f : Features) (d : Declaration) : Strategy → Prop where
  | nullable : d.property.type.isResolved = true → Fits f d (.nullable ⟨d.property, d.nullMarkers⟩)
  | collection {kind : CollectionKind} {element : TypeRef} :
    d.property.type.element? = some element → Fits f d (.collection ⟨d.property, kind, element⟩)
  | map {key value : TypeRef} :
    d.property.type.entry? = some (key, value) → Fits f d (.map ⟨d.property, key, value⟩)
  | multiset {element : TypeRef} : f.guava = true →
    d.property.type.element? = some element → Fits f d (.multiset ⟨d.property, element⟩)
  | optional {kind : OptionalKind} {element : TypeRef} :
    d.property.type.isClass kind.type.text = true →
    d.property.type.element? = some element → Fits f d (.optional ⟨d.property, kind, element⟩)
  | nested {b : Buildable} : d.buildable = some b → d.property.type.isResolved = true →
    b.builder.isResolved = true → Fits f d (.nested ⟨d.property, b⟩)
  | defaulted {source : DefaultSource} : d.default = some source →
    isFieldType d.property.type = true → Fits f d (.defaulted ⟨d.property, source⟩)
  | required : isFieldType d.property.type = true → Fits f d (.required ⟨d.property⟩)

theorem Fits.property_eq (h : s.Fits f d) : s.property = d.property := by
  cases h <;> rfl

/-- No factory makes a strategy for text that is not a type. -/
theorem Fits.type_ne_unresolved (h : s.Fits f d) (x : String) : d.property.type ≠ .unresolved x := by
  intro hx
  cases h with
  | nullable h | nested _ h _ =>
    rw [hx] at h
    cases h
  | collection h | multiset _ h | optional _ h | map h =>
    rw [hx] at h
    cases h
  | defaulted _ h | required h =>
    rw [hx] at h
    cases h

end Strategy

theorem Factory.fits_of_create? {factory : Factory} {f : Features} {d : Declaration} {s : Strategy}
    (h : factory.create? f d = some s) : s.Fits f d := by
  cases factory <;> obtain ⟨x, hx, rfl⟩ := Option.map_eq_some_iff.mp h
  case nullable =>
    obtain ⟨⟨-, -, hresolved, -⟩, rfl⟩ := Nullable.of?_eq_some_iff.mp hx
    exact .nullable hresolved
  case collection =>
    obtain ⟨kind, element, -, helement, rfl⟩ := Collection.of?_eq_some_iff.mp hx
    exact .collection helement
  case map =>
    obtain ⟨-, key, value, hentry, rfl⟩ := MapProperty.of?_eq_some_iff.mp hx
    exact .map hentry
  case multiset =>
    obtain ⟨⟨hguava, -⟩, element, helement, rfl⟩ := MultisetProperty.of?_eq_some_iff.mp hx
    exact .multiset hguava helement
  case optional =>
    obtain ⟨kind, element, ⟨hclass, -⟩, helement, rfl⟩ := OptionalProperty.of?_eq_some_iff.mp hx
    exact .optional hclass helement
  case nested =>
    obtain ⟨b, hb, ⟨-, hresolved⟩, hbuilder, rfl⟩ := NestedBuilder.of?_eq_some_iff.mp hx
    exact .nested hb hresolved hbuilder
  case defaulted =>
    obtain ⟨source, hsource, htype, rfl⟩ := Defaulted.of?_eq_some_iff.mp hx
    exact .defaulted hsource htype
  case required =>
    obtain ⟨htype, rfl⟩ := Required.of?_eq_some_iff.mp hx
    exact .required htype

/-- Names that are new behind one more name are new, and it is not among them. -/
theorem forall_notMem_cons_iff {α β : Type} {f : α → β} {x : β} {seen : List β} {ys : List α} :
    (∀ y ∈ ys, f y ∉ x :: seen) ↔ x ∉ ys.map f ∧ ∀ y ∈ ys, f y ∉ seen := by
  simp only [List.mem_cons, not_or, forall_and, List.mem_map, not_exists, not_and]

namespace Chain

variable {chain : Chain} {f : Features}

theorem fits_of_select {d : Declaration} {s : Strategy} (h : chain.select f d = .ok s) :
    s.Fits f d := by
  obtain ⟨factory, -, hcreate⟩ :=
    List.exists_of_findSome?_eq_some (select_eq_ok_iff_findSome.mp h)
  exact Factory.fits_of_create? hcreate

/-- Binding succeeds when the properties are faultless, none repeats a name and a factory accepts each
of them. -/
theorem bindFrom_eq_ok_iff {seen : List String} {ds : List Declaration} {ss : List Strategy} :
    chain.bindFrom f seen ds = .ok ss ↔
      (∀ d ∈ ds, d.property.check = .ok ()) ∧ (∀ d ∈ ds, d.property.name ∉ seen) ∧
        (ds.map (·.property.name)).Nodup ∧ List.Forall₂ (fun d s ↦ chain.select f d = .ok s) ds ss := by
  induction ds generalizing seen ss with
  | nil => simp [bindFrom, eq_comm]
  | cons d ds ih =>
    rw [bindFrom, bind_eq_ok]
    by_cases hseen : d.property.name ∈ seen
    · simp [hseen, bind_eq_ok, throw, throwThe, MonadExceptOf.throw]
    · simp only [hseen, bind_eq_ok, if_false, List.forall_mem_cons, List.map_cons, List.nodup_cons]
      constructor
      · rintro ⟨⟨⟩, hcheck, s, hselect, rest, hrest, hss⟩
        obtain rfl := Except.ok.inj hss
        obtain ⟨hchecks, hnames, hnodup, hall⟩ := ih.mp hrest
        obtain ⟨hname, hnames⟩ := forall_notMem_cons_iff.mp hnames
        exact ⟨⟨hcheck, hchecks⟩, ⟨not_false, hnames⟩, ⟨hname, hnodup⟩, .cons hselect hall⟩
      · rintro ⟨⟨hcheck, hchecks⟩, ⟨-, hnames⟩, ⟨hname, hnodup⟩, hall⟩
        cases hall with
        | cons hselect hall =>
          have hrest := ih.mpr ⟨hchecks, forall_notMem_cons_iff.mpr ⟨hname, hnames⟩, hnodup, hall⟩
          exact ⟨(), hcheck, _, hselect, _, hrest, rfl⟩

end Chain

/-! ## Tracking -/

theorem duplicateConstant?_eq_none_iff (seen : List String) (ts : List Tracked) :
    duplicateConstant? seen ts = none ↔
      (∀ t ∈ ts, t.constant ∉ seen) ∧ (ts.map (·.constant)).Nodup := by
  induction ts generalizing seen with
  | nil => simp [duplicateConstant?]
  | cons t ts ih =>
    rw [duplicateConstant?, List.forall_mem_cons, List.map_cons, List.nodup_cons]
    by_cases hseen : t.constant ∈ seen
    · simp [hseen]
    · rw [if_neg hseen, ih, forall_notMem_cons_iff]
      constructor
      · rintro ⟨⟨hconstant, hconstants⟩, hnodup⟩
        exact ⟨⟨hseen, hconstants⟩, hconstant, hnodup⟩
      · rintro ⟨⟨-, hconstants⟩, hconstant, hnodup⟩
        exact ⟨⟨hconstant, hconstants⟩, hnodup⟩

/-- Tracking is there exactly for the required properties, in an enum of the datatype. -/
structure Tracking.IsOf (d : Datatype) (bound : List (Property × Category)) (t : Tracking) :
    Prop where
  nonempty : requiredOf bound ≠ []
  enum : d.propertyEnum = some t.enum
  tracked : t.tracked = requiredOf bound
  constants : (t.tracked.map (·.constant)).Nodup

theorem Tracking.of_eq_ok_iff {d : Datatype} {bound : List (Property × Category)}
    {tracking : Option Tracking} :
    Tracking.of d bound = .ok tracking ↔
      (requiredOf bound = [] ∧ tracking = none) ∨ ∃ t, tracking = some t ∧ t.IsOf d bound := by
  unfold Tracking.of
  cases hrequired : requiredOf bound with
  | nil =>
    refine ⟨fun h ↦ .inl ⟨rfl, (Except.ok.inj h).symm⟩, ?_⟩
    rintro (⟨-, rfl⟩ | ⟨t, -, ht⟩)
    · rfl
    · exact absurd hrequired ht.nonempty
  | cons t ts =>
    have hnone := duplicateConstant?_eq_none_iff [] (t :: ts)
    simp only [List.not_mem_nil, not_false_eq_true, implies_true, true_and] at hnone
    -- A missing enum and a repeated constant are refused, and the right side excludes both.
    cases henum : d.propertyEnum with
    | none =>
      refine ⟨(nomatch ·), ?_⟩
      rintro (⟨h, -⟩ | ⟨u, -, hu⟩)
      · cases h
      · have huenum := hu.enum
        rw [henum] at huenum
        cases huenum
    | some enum =>
      cases hduplicate : duplicateConstant? [] (t :: ts) with
      | some c =>
        simp only [hduplicate]
        refine ⟨(nomatch ·), ?_⟩
        rintro (⟨h, -⟩ | ⟨u, -, hu⟩)
        · cases h
        · have huconstants := hu.constants
          rw [hu.tracked, hrequired, ← hnone, hduplicate] at huconstants
          cases huconstants
      | none =>
        have hof : (⟨enum, t :: ts⟩ : Tracking).IsOf d bound :=
          ⟨by simp [hrequired], henum, hrequired.symm, hnone.mp hduplicate⟩
        simp only [hduplicate]
        refine ⟨fun h ↦ .inr ⟨_, (Except.ok.inj h).symm, hof⟩, ?_⟩
        rintro (⟨h, -⟩ | ⟨u, rfl, hu⟩)
        · cases h
        · have huenum := hu.enum.symm.trans henum
          have htracked := hu.tracked.trans hrequired
          obtain ⟨uenum, utracked⟩ := u
          obtain rfl := Option.some.inj huenum
          simp [htracked.symm]

/-! ## Plans -/

/-- The properties of strategies and the parts they take in tracking. -/
def boundOf (strategies : List Strategy) : List (Property × Category) :=
  strategies.map fun s ↦ (s.property, s.category)

/-- A plan for a datatype and properties. -/
structure IsPlan (chain : Chain) (f : Features) (d : Datatype) (ds : List Declaration)
    (ctx : Context) (strategies : List Strategy) : Prop where
  datatype : ctx.datatype = d
  features : ctx.features = f
  check : d.check = .ok ()
  checks : ∀ x ∈ ds, x.property.check = .ok ()
  names : (ds.map (·.property.name)).Nodup
  selects : List.Forall₂ (fun x s ↦ chain.select f x = .ok s) ds strategies
  tracking : (Tracking.requiredOf (boundOf strategies) = [] ∧ ctx.tracking = none) ∨
    ∃ t, ctx.tracking = some t ∧ t.IsOf d (boundOf strategies)

variable {chain : Chain} {f : Features} {d : Datatype} {ds : List Declaration} {ctx : Context}
  {strategies : List Strategy}

theorem plan_eq_ok_iff :
    plan chain f d ds = .ok (ctx, strategies) ↔ IsPlan chain f d ds ctx strategies := by
  simp only [plan, bind_eq_ok, Chain.bind, Chain.bindFrom_eq_ok_iff, Tracking.of_eq_ok_iff]
  constructor
  · rintro ⟨⟨⟩, hcheck, ss, ⟨hchecks, -, hnames, hselects⟩, tracking, htracking, hplan⟩
    obtain ⟨rfl, rfl⟩ := Prod.mk.inj (Except.ok.inj hplan)
    exact ⟨rfl, rfl, hcheck, hchecks, hnames, hselects, htracking⟩
  · rintro ⟨rfl, rfl, hcheck, hchecks, hnames, hselects, htracking⟩
    exact ⟨(), hcheck, strategies, ⟨hchecks, by simp, hnames, hselects⟩, ctx.tracking, htracking, rfl⟩

namespace IsPlan

variable (h : IsPlan chain f d ds ctx strategies)

include h

/-- Every strategy has been made for one of the properties. -/
theorem exists_fits {s : Strategy} (hs : s ∈ strategies) :
    ∃ x ∈ ds, s.Fits ctx.features x ∧ x.property.check = .ok () := by
  rw [h.features]
  have hselects := h.selects
  have hchecks := h.checks
  clear h
  induction hselects with
  | nil => cases hs
  | cons hselect _ ih =>
    rcases List.mem_cons.mp hs with rfl | hs
    · exact ⟨_, List.mem_cons_self, Chain.fits_of_select hselect, hchecks _ List.mem_cons_self⟩
    · obtain ⟨x, hx, hfits⟩ := ih hs fun y hy ↦ hchecks y (List.mem_cons_of_mem _ hy)
      exact ⟨x, List.mem_cons_of_mem _ hx, hfits⟩

theorem map_property : strategies.map (·.property) = ds.map (·.property) := by
  have hselects := h.selects
  clear h
  induction hselects with
  | nil => rfl
  | cons hselect _ ih =>
    rw [List.map_cons, List.map_cons, ih, (Chain.fits_of_select hselect).property_eq]

theorem nodup_names : (strategies.map (·.property.name)).Nodup := by
  have hnames := congrArg (List.map (·.name)) h.map_property
  rw [List.map_map, List.map_map] at hnames
  exact hnames ▸ h.names

theorem isOf {t : Tracking} (ht : ctx.tracking = some t) : t.IsOf d (boundOf strategies) := by
  rcases h.tracking with ⟨-, hnone⟩ | ⟨u, hu, hof⟩
  · rw [ht] at hnone
    cases hnone
  · obtain rfl := Option.some.inj (ht.symm.trans hu)
    exact hof

theorem exists_of_mem_tracked {t : Tracking} (ht : ctx.tracking = some t) {k : Tracked}
    (hk : k ∈ t.tracked) :
    ∃ s ∈ strategies, s.category = .required ∧ k = ⟨s.property.name, s.property.constant⟩ := by
  rw [(h.isOf ht).tracked] at hk
  obtain ⟨b, hb, rfl⟩ := List.mem_map.mp hk
  obtain ⟨hb, hcategory⟩ := List.mem_filter.mp hb
  obtain ⟨s, hs, rfl⟩ := List.mem_map.mp hb
  exact ⟨s, hs, by simpa using hcategory, rfl⟩

end IsPlan

/-! ## Generating -/

/-- The file that is generated for a datatype. -/
def unitOf (d : Datatype) : CompilationUnit := ⟨d.generated.name, d.visible, some headerComment⟩

theorem generateWith_eq_ok_iff {config : Config} {g : Generated} :
    generateWith chain config d ds = .ok g ↔
      ∃ ctx strategies, IsPlan chain config.features d ds ctx strategies ∧
        g = ⟨(unitOf d).render config.style
            ((builderClass ctx strategies config.annotate).code config.docs),
          d.generated.name, strategies.map fun s ↦ (s.property.name, s.name)⟩ := by
  simp only [generateWith, bind_eq_ok, Prod.exists, plan_eq_ok_iff]
  constructor
  · rintro ⟨ctx, strategies, hplan, hg⟩
    exact ⟨ctx, strategies, hplan, (Except.ok.inj hg).symm⟩
  · rintro ⟨ctx, strategies, hplan, rfl⟩
    exact ⟨ctx, strategies, hplan, rfl⟩

end JavaBuilder.Builder
