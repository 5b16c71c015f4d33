import JavaBuilder.Proofs.Builder.FieldTypes

/-!
# Which factory takes a property

The first factory of a chain that takes a property makes its strategy, so what a chain chooses depends on
the order of its factories. Three facts about the factories say how much.

Four of them, the *containers*, ask for a class by name, and no two of them for the same one. Two of the
containers look at the features, and take more where more is available. And whatever a container, the
factory of nested builders or the factory of defaults takes has the type of a field, so that the factory
of required properties takes it too.
-/

namespace JavaBuilder

open Java Model

namespace Builder

variable {f g : Features} {d : Declaration} {s t : Strategy}

/-! ## What a factory takes -/

namespace Factory

variable {a b : Factory}

/-- The factories that ask for a class by name. -/
def containers : List Factory := [collection, map, multiset, optional]

/-- The classes one of which a container asks for. -/
def classes : Factory → List String
  | collection => ["java.util.List", "java.util.Set"]
  | map => ["java.util.Map"]
  | multiset => ["com.google.common.collect.Multiset"]
  | optional => ["java.util.Optional", "com.google.common.base.Optional"]
  | _ => []

theorem eq_of_mem_classes {c : String} (ha : c ∈ a.classes) (hb : c ∈ b.classes) : a = b := by
  cases a <;> simp only [classes, List.mem_cons, List.not_mem_nil, or_false] at ha <;>
    cases b <;> grind [classes]

theorem exists_isClass_of_create? (ha : a ∈ containers) (h : a.create? f d = some s) :
    ∃ c ∈ a.classes, d.property.type.isClass c = true := by
  cases a <;> try exact absurd ha (by decide)
  all_goals obtain ⟨x, hx, rfl⟩ := Option.map_eq_some_iff.mp h
  case collection =>
    obtain ⟨kind, -, hclass, -⟩ := Collection.of?_eq_some_iff.mp hx
    exact ⟨_, by cases kind <;> decide, hclass⟩
  case map =>
    exact ⟨_, by simp [classes], (MapProperty.of?_eq_some_iff.mp hx).1⟩
  case multiset =>
    exact ⟨_, by simp [classes], (MultisetProperty.of?_eq_some_iff.mp hx).1.2⟩
  case optional =>
    obtain ⟨kind, -, ⟨hclass, -⟩, -⟩ := OptionalProperty.of?_eq_some_iff.mp hx
    exact ⟨_, by cases kind <;> decide, hclass⟩

theorem eq_of_create? (ha : a ∈ containers) (hb : b ∈ containers) (has : a.create? f d = some s)
    (hbt : b.create? f d = some t) : a = b := by
  obtain ⟨c, hca, hc⟩ := exists_isClass_of_create? ha has
  obtain ⟨c', hcb, hc'⟩ := exists_isClass_of_create? hb hbt
  obtain rfl := TypeRef.eq_of_isClass hc hc'
  exact eq_of_mem_classes hca hcb

/-- What any other factory than that of nullable properties takes can be required as well. -/
theorem isSome_required_of_create? (hd : d.property.type.IsOfText) (ha : a ≠ nullable)
    (h : a.create? f d = some s) : (required.create? f d).isSome = true := by
  -- The factory of required properties asks for the type of a field and for nothing else.
  suffices ht : isFieldType d.property.type = true by simp [create?, Required.of?, ht]
  have hfits := fits_of_create? h
  cases a with
  | nullable => exact absurd rfl ha
  | nested =>
    obtain ⟨x, hx, -⟩ := Option.map_eq_some_iff.mp h
    obtain ⟨b, -, ⟨herasure, hresolved⟩, -⟩ := NestedBuilder.of?_eq_some_iff.mp hx
    exact isFieldType_of_erasure? herasure hresolved
  | collection | multiset | optional =>
    obtain ⟨x, -, rfl⟩ := Option.map_eq_some_iff.mp h
    cases hfits
    exact (isFieldType_of_element? hd ‹_›).2
  | map =>
    obtain ⟨x, -, rfl⟩ := Option.map_eq_some_iff.mp h
    cases hfits with
    | map hentry => exact isFieldType_of_mem_args hd (TypeRef.mem_args_of_entry? hentry).1
  | defaulted | required =>
    obtain ⟨x, -, rfl⟩ := Option.map_eq_some_iff.mp h
    cases hfits
    assumption

/-! ### More features -/

/-- The factories that look at the features. -/
def gated : List Factory := [multiset, optional]

/-- The factories that a property of an unavailable class is left to. -/
def fallbacks : List Factory := [nested, defaulted, required]

theorem create?_of_notMem_gated (ha : a ∉ gated) : a.create? f d = a.create? g d := by
  cases a <;> first | rfl | exact absurd (by decide) ha

theorem factory_of_create? (h : a.create? f d = some s) : s.factory = a := by
  cases a <;> obtain ⟨x, -, rfl⟩ := Option.map_eq_some_iff.mp h <;> rfl

end Factory

theorem hasLambdas_of_le (h : f ≤ g) (hf : f.hasLambdas = true) : g.hasLambdas = true := by
  simp only [Features.hasLambdas, decide_eq_true_eq] at hf ⊢
  exact Nat.le_trans hf h.1

theorem OptionalKind.isAvailable_of_le {kind : OptionalKind} (h : f ≤ g)
    (hkind : kind.isAvailable f = true) : kind.isAvailable g = true := by
  cases kind with
  | java => exact hasLambdas_of_le h hkind
  | guava => exact h.2 hkind

theorem Factory.create?_of_le {a : Factory} (h : f ≤ g) (hs : a.create? f d = some s) :
    a.create? g d = some s := by
  by_cases ha : a ∈ gated
  · cases a <;> try exact absurd ha (by decide)
    all_goals
      obtain ⟨x, hx, rfl⟩ := Option.map_eq_some_iff.mp hs
      refine Option.map_eq_some_iff.mpr ⟨x, ?_, rfl⟩
    case multiset =>
      obtain ⟨⟨hguava, hclass⟩, helement⟩ := MultisetProperty.of?_eq_some_iff.mp hx
      exact MultisetProperty.of?_eq_some_iff.mpr ⟨⟨h.2 hguava, hclass⟩, helement⟩
    case optional =>
      obtain ⟨kind, element, ⟨hclass, hkind⟩, helement⟩ := OptionalProperty.of?_eq_some_iff.mp hx
      exact OptionalProperty.of?_eq_some_iff.mpr
        ⟨kind, element, ⟨hclass, kind.isAvailable_of_le h hkind⟩, helement⟩
  · exact create?_of_notMem_gated ha ▸ hs

/-! ## The factory that decides -/

namespace Chain

variable {chain : Chain} {a b : Factory}

/-- A factory takes the property, and all that are asked before it refuse. -/
def TakenBy (chain : Chain) (f : Features) (d : Declaration) (a : Factory) (s : Strategy) : Prop :=
  ∃ before after, chain = before ++ a :: after ∧ (∀ b ∈ before, b.create? f d = none) ∧
    a.create? f d = some s

theorem select_eq_ok_iff : chain.select f d = .ok s ↔ ∃ a, chain.TakenBy f d a s := by
  rw [select_eq_ok_iff_findSome, List.findSome?_eq_some_iff]
  constructor
  · rintro ⟨before, a, after, hsplit, hs, hbefore⟩
    exact ⟨a, before, after, hsplit, hbefore, hs⟩
  · rintro ⟨a, before, after, hsplit, hbefore, hs⟩
    exact ⟨before, a, after, hsplit, hs, hbefore⟩

theorem exists_select_iff :
    (∃ s, chain.select f d = .ok s) ↔ ∃ a ∈ chain, (a.create? f d).isSome = true := by
  constructor
  · rintro ⟨s, hs⟩
    obtain ⟨a, before, after, rfl, -, hs⟩ := select_eq_ok_iff.mp hs
    exact ⟨a, by simp, by simp [hs]⟩
  · rintro ⟨a, ha, hsome⟩
    cases hselect : chain.select f d with
    | ok s => exact ⟨s, rfl⟩
    | error e =>
      rw [(select_eq_error_iff.mp hselect).1 a ha] at hsome
      cases hsome

/-- What stands before an element that occurs once is before the place where it is found. -/
theorem mem_of_pair_sublist {α : Type} {a b : α} {before after : List α}
    (hnodup : (before ++ a :: after).Nodup) (hsub : List.Sublist [b, a] (before ++ a :: after)) :
    b ∈ before := by
  induction before with
  | nil =>
    have hmem : a ∈ after := by
      cases hsub with
      | cons _ hsub => exact hsub.subset (by simp)
      | cons_cons _ hsub => exact hsub.subset (by simp)
    exact absurd hmem (List.nodup_cons.mp hnodup).1
  | cons c before ih =>
    cases hsub with
    | cons _ hsub => exact List.mem_cons_of_mem _ (ih (List.nodup_cons.mp hnodup).2 hsub)
    | cons_cons _ hsub => exact List.mem_cons_self

namespace TakenBy

variable (h : chain.TakenBy f d a s)

include h

theorem mem : a ∈ chain := by
  obtain ⟨before, after, rfl, -, -⟩ := h
  simp

theorem create? : a.create? f d = some s := by
  obtain ⟨before, after, -, -, hs⟩ := h
  exact hs

/-- Another factory that would take the property is asked later. -/
theorem sublist (hb : b ∈ chain) (hne : b ≠ a) (ht : b.create? f d = some t) :
    List.Sublist [a, b] chain := by
  obtain ⟨before, after, rfl, hbefore, -⟩ := h
  rcases List.mem_append.mp hb with hb | hb
  · rw [hbefore b hb] at ht
    cases ht
  · have hb := (List.mem_cons.mp hb).resolve_left hne
    exact ((List.singleton_sublist.mpr hb).cons_cons a).trans (List.sublist_append_right _ _)

theorem create?_eq_none (hnodup : chain.Nodup) (hsub : List.Sublist [b, a] chain) :
    b.create? f d = none := by
  obtain ⟨before, after, rfl, hbefore, -⟩ := h
  exact hbefore b (mem_of_pair_sublist hnodup hsub)

end TakenBy

end Chain

/-! ## More features -/

/-- A strategy stays, or gives way to that of a class that has become available. -/
def Strategy.YieldsTo (s t : Strategy) : Prop :=
  t = s ∨ t.factory ∈ Factory.gated ∧ s.factory ∈ Factory.fallbacks

theorem Strategy.factory_of_required (h : t.category = .required) : t.factory = .required := by
  cases t <;> first | rfl | cases h

/-- Nothing gives way to a required property. -/
theorem Strategy.YieldsTo.eq_of_required (h : s.YieldsTo t) (hrequired : t.category = .required) :
    t = s := by
  rcases h with heq | ⟨hgated, -⟩
  · exact heq
  · rw [factory_of_required hrequired] at hgated
    exact absurd hgated (by decide)

namespace Chain

variable {a b : Factory}

/-- Behind a factory that looks at the features stand another one and the fallbacks. -/
theorem mem_fallbacks_of_sublist (hb : b ∈ Factory.gated) (hsub : List.Sublist [b, a] standard)
    (ha : a ∉ Factory.containers) : a ∈ Factory.fallbacks := by
  revert hb hsub ha
  cases a <;> cases b <;> decide

theorem select_standard_of_le (h : f ≤ g) (hs : standard.select f d = .ok s) :
    ∃ t, standard.select g d = .ok t ∧ s.YieldsTo t := by
  obtain ⟨a, ha⟩ := select_eq_ok_iff.mp hs
  have hga := Factory.create?_of_le h ha.create?
  obtain ⟨t, ht⟩ := exists_select_iff.mpr ⟨a, ha.mem, Option.isSome_iff_exists.mpr ⟨s, hga⟩⟩
  obtain ⟨b, hb⟩ := select_eq_ok_iff.mp ht
  refine ⟨t, ht, ?_⟩
  by_cases heq : a = b
  · subst heq
    exact .inl (Option.some.inj (hb.create?.symm.trans hga))
  · -- The new taker stands before the old one, and refused as long as less was available.
    have hsub := hb.sublist ha.mem heq hga
    have hrefused := ha.create?_eq_none (by decide) hsub
    have hgated : b ∈ Factory.gated := by
      by_contra hnot
      rw [Factory.create?_of_notMem_gated (g := g) hnot, hb.create?] at hrefused
      cases hrefused
    have hcontainer : b ∈ Factory.containers := List.Sublist.subset (by decide) hgated
    have hnot : a ∉ Factory.containers := fun hmem ↦
      heq (Factory.eq_of_create? hmem hcontainer hga hb.create?)
    rw [Strategy.YieldsTo, Factory.factory_of_create? hb.create?, Factory.factory_of_create? hga]
    exact .inr ⟨hgated, mem_fallbacks_of_sublist hgated hsub hnot⟩

/-- What is required where more is available has been required all along. -/
theorem select_standard_of_required (h : f ≤ g) (ht : standard.select g d = .ok t)
    (hrequired : t.category = .required) : standard.select f d = .ok t := by
  obtain ⟨a, ha⟩ := select_eq_ok_iff.mp ht
  have hnot : a ∉ Factory.gated := by
    rw [← Factory.factory_of_create? ha.create?, Strategy.factory_of_required hrequired]
    decide
  have hsome : (a.create? f d).isSome = true := by
    rw [Factory.create?_of_notMem_gated (g := g) hnot, ha.create?, Option.isSome_some]
  obtain ⟨s, hs⟩ := exists_select_iff.mpr ⟨a, ha.mem, hsome⟩
  obtain ⟨t', ht', hyields⟩ := select_standard_of_le h hs
  obtain rfl := Except.ok.inj (ht.symm.trans ht')
  rwa [hyields.eq_of_required hrequired]

theorem bind_standard_of_le {ds : List Declaration} {ss : List Strategy} (h : f ≤ g)
    (hbind : standard.bind f ds = .ok ss) :
    ∃ ts, standard.bind g ds = .ok ts ∧ List.Forall₂ Strategy.YieldsTo ss ts := by
  obtain ⟨hchecks, hseen, hnodup, hselects⟩ := bindFrom_eq_ok_iff.mp hbind
  suffices ∃ ts, List.Forall₂ (fun d t ↦ standard.select g d = .ok t) ds ts ∧
      List.Forall₂ Strategy.YieldsTo ss ts by
    obtain ⟨ts, hts, hyields⟩ := this
    exact ⟨ts, bindFrom_eq_ok_iff.mpr ⟨hchecks, hseen, hnodup, hts⟩, hyields⟩
  clear hbind hchecks hseen hnodup
  induction hselects with
  | nil => exact ⟨[], .nil, .nil⟩
  | cons hs _ ih =>
    obtain ⟨t, ht, hyield⟩ := select_standard_of_le h hs
    obtain ⟨ts, hts, hyields⟩ := ih
    exact ⟨t :: ts, .cons ht hts, .cons hyield hyields⟩

/-- **More features never hurt.** Where the standard chain chooses a strategy, it chooses one where more is
available: the same, or instead of one that is nested, defaulted or required that of a multiset or an
optional value. So all properties have strategies where they have had them with less, and what is required
then has been required before. -/
theorem selects_with_more_features (h : f ≤ g) :
    (∀ d s, standard.select f d = .ok s → ∃ t, standard.select g d = .ok t ∧
      (t = s ∨ t.factory ∈ [.multiset, .optional] ∧
        s.factory ∈ [.nested, .defaulted, .required])) ∧
    (∀ ds ss, standard.bind f ds = .ok ss → ∃ ts, standard.bind g ds = .ok ts ∧
      List.Forall₂ (fun s t ↦ s.YieldsTo t ∧ (t.category = .required → t = s)) ss ts) ∧
    ∀ d t, standard.select g d = .ok t → t.category = .required → standard.select f d = .ok t := by
  refine ⟨fun _ _ ↦ select_standard_of_le h, fun ds ss hbind ↦ ?_,
    fun _ _ ↦ select_standard_of_required h⟩
  obtain ⟨ts, hts, hyields⟩ := bind_standard_of_le h hbind
  exact ⟨ts, hts, hyields.imp fun s t hst ↦ ⟨hst, hst.eq_of_required⟩⟩

/-- An optional name, required where neither lambdas nor Guava are available. -/
theorem selects_with_more_features_optional :
    let d : Declaration := .plain (.of "name" (.ofText "java.util.Optional<java.lang.String>"))
    (∃ s, standard.select ⟨.java6, false⟩ d = .ok s ∧ s.factory = .required) ∧
      ∃ t, standard.select ⟨.java8, true⟩ d = .ok t ∧ t.factory = .optional := by
  intro d
  obtain ⟨s, hs, hfactory⟩ :
      ∃ s, standard.select ⟨.java6, false⟩ d = .ok s ∧ s.factory = .required := ⟨_, rfl, rfl⟩
  have hle : (⟨.java6, false⟩ : Features) ≤ ⟨.java8, true⟩ := ⟨by decide, by decide⟩
  obtain ⟨t, ht, hyields⟩ := (selects_with_more_features hle).1 d s hs
  refine ⟨⟨s, hs, hfactory⟩, t, ht, ?_⟩
  obtain ⟨t', ht', hfactory'⟩ :
      ∃ t, standard.select ⟨.java8, true⟩ d = .ok t ∧ t.factory = .optional := ⟨_, rfl, rfl⟩
  obtain rfl := Except.ok.inj (ht.symm.trans ht')
  exact hfactory'

/-! ## Order -/

variable {chain chain' : Chain}

/-- The same factories in an order that differs at most between containers. -/
structure Reorders (chain chain' : Chain) : Prop where
  perm : chain.Perm chain'
  keeps : ∀ a b, ¬(a ∈ Factory.containers ∧ b ∈ Factory.containers) →
    List.Sublist [a, b] chain → List.Sublist [a, b] chain'

/-- Two factories that take the same property are not both containers, so the first stays the first. -/
theorem TakenBy.reorder (h : chain.TakenBy f d a s) (hnodup : chain.Nodup)
    (horder : chain.Reorders chain') : chain'.select f d = .ok s := by
  have ha := horder.perm.subset h.mem
  obtain ⟨t, ht⟩ := exists_select_iff.mpr ⟨a, ha, Option.isSome_iff_exists.mpr ⟨s, h.create?⟩⟩
  obtain ⟨b, hb⟩ := select_eq_ok_iff.mp ht
  by_cases heq : b = a
  · subst heq
    obtain rfl := Option.some.inj (hb.create?.symm.trans h.create?)
    exact ht
  · -- Another taker would be asked later in both orders, and in the new one it has been asked first.
    have hsub := h.sublist (horder.perm.mem_iff.mpr hb.mem) heq hb.create?
    have hsub := horder.keeps a b (fun hboth ↦
      heq (Factory.eq_of_create? hboth.2 hboth.1 hb.create? h.create?)) hsub
    have hrefused := hb.create?_eq_none (horder.perm.nodup_iff.mp hnodup) hsub
    rw [h.create?] at hrefused
    cases hrefused

theorem select_of_reorders (hnodup : chain.Nodup) (horder : chain.Reorders chain') :
    chain'.select f d = chain.select f d := by
  cases hselect : chain.select f d with
  | ok s =>
    obtain ⟨a, ha⟩ := select_eq_ok_iff.mp hselect
    exact ha.reorder hnodup horder
  | error e =>
    rw [select_eq_error_iff] at hselect ⊢
    exact ⟨fun a ha ↦ hselect.1 a (horder.perm.mem_iff.mpr ha), hselect.2⟩

/-- With the factory of required properties in it, a chain takes what that one takes. -/
theorem exists_select_iff_required (hd : d.property.type.IsOfText) (hrequired : .required ∈ chain)
    (hnullable : .nullable ∉ chain) :
    (∃ s, chain.select f d = .ok s) ↔ (Factory.required.create? f d).isSome = true := by
  rw [exists_select_iff]
  refine ⟨?_, fun h ↦ ⟨.required, hrequired, h⟩⟩
  rintro ⟨a, ha, hsome⟩
  obtain ⟨s, hs⟩ := Option.isSome_iff_exists.mp hsome
  exact Factory.isSome_required_of_create? hd (fun heq ↦ hnullable (heq ▸ ha)) hs

/-- **The order of containers does not matter.** No two of them take the same property, and what one of
them takes, or the factory of nested builders or that of defaults, can be required as well. So a chain
chooses the same strategies after a change of order among the containers, and the factory of required
properties decides what a chain without that of nullable ones leaves over. -/
theorem containers_exclude_each_other :
    (∀ d : Declaration, d.property.type.IsOfText → ∀ f,
      (∀ a b, a ∈ Factory.containers → b ∈ Factory.containers →
        (a.create? f d).isSome = true → (b.create? f d).isSome = true → a = b) ∧
      ∀ a, a ∈ Factory.containers ∨ a = .nested ∨ a = .defaulted →
        (a.create? f d).isSome = true → (Factory.required.create? f d).isSome = true) ∧
    (∀ chain chain' : Chain, chain.Nodup → chain.Reorders chain' →
      ∀ f d, chain'.select f d = chain.select f d) ∧
    ∀ chain : Chain, .required ∈ chain → .nullable ∉ chain →
      ∀ f (d : Declaration), d.property.type.IsOfText →
        ((∃ s, chain.select f d = .ok s) ↔ (Factory.required.create? f d).isSome = true) := by
  refine ⟨fun d hd f ↦ ⟨fun a b ha hb has hbt ↦ ?_, fun a ha has ↦ ?_⟩,
    fun _ _ hnodup horder _ _ ↦ select_of_reorders hnodup horder,
    fun _ hrequired hnullable _ _ hd ↦ exists_select_iff_required hd hrequired hnullable⟩
  · obtain ⟨s, hs⟩ := Option.isSome_iff_exists.mp has
    obtain ⟨t, ht⟩ := Option.isSome_iff_exists.mp hbt
    exact Factory.eq_of_create? ha hb hs ht
  · obtain ⟨s, hs⟩ := Option.isSome_iff_exists.mp has
    refine Factory.isSome_required_of_create? hd ?_ hs
    rintro rfl
    revert ha
    decide

/-- A chain from which nullable properties are left out, and the same with two containers exchanged. -/
theorem containers_exclude_each_other_optional :
    let d : Declaration := .plain (.of "name" (.ofText "java.util.Optional<java.lang.String>"))
    let chain : Chain := [.collection, .optional, .nested, .required]
    Chain.select [.optional, .collection, .nested, .required] .standard d = chain.select .standard d ∧
      ∃ s, chain.select .standard d = .ok s := by
  intro d chain
  obtain ⟨-, horder, hrequired⟩ := containers_exclude_each_other
  refine ⟨horder chain [.optional, .collection, .nested, .required] (by decide)
    ⟨by decide, ?_⟩ .standard d, (hrequired chain (by decide) (by decide) .standard d
      ⟨"java.util.Optional<java.lang.String>", rfl⟩).mpr rfl⟩
  intro a b
  cases a <;> cases b <;> decide

end Chain

end Builder

end JavaBuilder
