import JavaBuilder.Proofs.Builder.ClassParts

/-!
# What the generated class is made of

The class puts the code of its properties together and adds nothing but fixed words, the names of the
datatype, and the names of the properties. So a class whose properties are made of what is allowed is
made of it as well.
-/

namespace JavaBuilder.Builder

open Java Model

variable {ok : Allowed} {ctx : Context}

namespace Assembly

variable {codes : List PropertyCode}

section

variable (hf : AllowsFixed ok ctx.features) (hc : AllowsContext ok ctx) (hd : AllowsClasses ok ctx)
  (hh : AllowsHelpers ok ctx)

include hf hc in
theorem uses_freshBuilder? (diamond : Bool) :
    ∀ e ∈ ctx.freshBuilder? diamond, e.Uses ok := by
  intro e he
  obtain ⟨factory, -, rfl⟩ := Option.map_eq_some_iff.mp he
  have hparams : TypeRef.UsesAll ok (ctx.datatype.source.params.map .typeVar) := hc.source.2
  cases factory with
  | constructor => simpa [hc.builder] using fun _ ↦ hf.diamond
  | method => simp +decide [uses_sourceName hc, hparams, hf.method]

/-- A default builder is declared only where one can be had. -/
theorem exists_of_mem_defaultsDecl {needed : Bool} {s : Stmt} (h : s ∈ defaultsDecl ctx needed) :
    needed = true ∧ ctx.datatype.factory.isSome = true ∧
      ∃ e ∈ ctx.freshBuilder? true, s = .declare ctx.generatedType defaultsVar e := by
  unfold defaultsDecl at h
  split at h
  · next hneeded =>
    obtain ⟨e, he, rfl⟩ := Option.map_eq_some_iff.mp h
    obtain ⟨factory, hfactory, -⟩ := Option.map_eq_some_iff.mp he
    exact ⟨hneeded, by rw [hfactory, Option.isSome_some], e, he, rfl⟩
  · cases h

include hf hc hh in
theorem uses_defaultsDecl (needed : Bool) : ∀ s ∈ defaultsDecl ctx needed, s.Uses ok := by
  intro s hs
  obtain ⟨-, hfactory, e, he, rfl⟩ := exists_of_mem_defaultsDecl hs
  exact ⟨hc.generated, hh.defaults hfactory, uses_freshBuilder? hf hc true e he⟩

include hh in
theorem name_of_mem_defaultsOf {needed : Bool} :
    ∀ x ∈ defaultsOf (defaultsDecl ctx needed), ok.name x := by
  intro x hx
  obtain ⟨s, hs, rfl⟩ := Option.map_eq_some_iff.mp hx
  exact hh.defaults (exists_of_mem_defaultsDecl hs).2.1

include hf hh in
theorem uses_joinerDecl (hguava : ctx.features.guava = true) : joinerDecl.Uses ok :=
  ⟨by simp [joinerDecl], by simp +decide [joinerDecl, hf.guava hguava], hh.joiner hguava,
    by simp +decide [joinerDecl, hf.guava hguava, hf.method, hf.string]⟩

/-- Only Guava has the joiner. -/
theorem guava_of_needsJoiner {f : Features} {fields : List StoredField}
    (h : needsJoiner f fields = true) : f.guava = true := by
  rw [needsJoiner, Bool.and_eq_true, Bool.and_eq_true] at h
  exact h.1.1

include hf hh in
theorem uses_staticFields : ∀ f ∈ staticFields ctx codes, f.Uses ok := by
  have hserial : serialVersion.Uses ok :=
    ⟨by simp [serialVersion], trivial, hf.name (by decide),
      by simp +decide [serialVersion, hf.literal]⟩
  rw [staticFields, List.forall_mem_append]
  constructor
  · split <;> simp [hserial]
  · split
    · next hneeded => simp [uses_joinerDecl hf hh (guava_of_needsJoiner hneeded)]
    · simp

include hf hc hd in
theorem uses_fromMethod? : ∀ m ∈ fromMethod? ctx, m.Uses ok := by
  intro m hm
  unfold fromMethod? at hm
  split at hm
  · obtain ⟨e, he, rfl⟩ := Option.map_eq_some_iff.mp hm
    have hfresh := uses_freshBuilder? hf hc false e he
    have hbase : (Method.documented
        [.line ["Creates a new builder using ", .code "value", " as a template."]]
        ctx.builderType "from" [.of ctx.sourceType "value"]
        [.ret (.invoke e "mergeFrom" [.var "value"])]).Uses ok := by
      simp +decide [Doc.Uses, hc.builder, hc.source, hfresh, hf.comment, hf.name, hf.method]
    exact { hbase with typeParams := hd.typeParams }
  · cases hm

/-! ## Methods of the builder -/

include hf hc hh in
theorem uses_defaultsDecls (needed : Bool) :
    Stmt.UsesAll ok (defaultsDecl ctx needed).toList :=
  (Stmt.usesAll_iff ok).mpr fun st hst ↦ uses_defaultsDecl hf hc hh needed st (Option.mem_toList.mp hst)

variable (hp : ∀ c ∈ codes, AllowsProperty ok c.property) (hu : ∀ c ∈ codes, c.Uses ok)

include hf hc hd hh hu in
theorem uses_mergeFromValue : (mergeFromValue ctx codes).Uses ok := by
  have hdecls := uses_defaultsDecls hf hc hh (codes.any (·.mergesAgainstDefaults))
  have hmerge : Stmt.UsesAll ok (codes.flatMap (·.mergeFromValue "value"
      (defaultsOf (defaultsDecl ctx (codes.any (·.mergesAgainstDefaults)))))) :=
    Stmt.usesAll_flatMap fun c hc ↦
      (hu c hc).mergeFromValue _ _ (hf.name (by decide)) (name_of_mem_defaultsOf hh)
  have hreturn := uses_returnThis hc
  simp +decide [mergeFromValue, Doc.Uses, hd.sourceName.1, hc.builder, hc.source, Stmt.usesAll_append,
    hdecls, hmerge, hreturn, hf.comment, hf.name, hf.method]

include hf hc hh hu in
theorem uses_mergeFromBuilder : (mergeFromBuilder ctx codes).Uses ok := by
  have hdecls := uses_defaultsDecls hf hc hh (codes.any (·.mergesAgainstDefaults))
  have hmerge : Stmt.UsesAll ok (codes.flatMap (·.mergeFromBuilder "template"
      (defaultsOf (defaultsDecl ctx (codes.any (·.mergesAgainstDefaults)))))) :=
    Stmt.usesAll_flatMap fun c hc ↦
      (hu c hc).mergeFromBuilder _ _ (hf.name (by decide)) (name_of_mem_defaultsOf hh)
  have hreturn := uses_returnThis hc
  have hupcast : Stmt.UsesAll ok (if ctx.tracking.isSome then
      [.remark "Upcast to access private fields",
        .declare ctx.generatedType baseVar (.var "template")] else []) := by
    split
    · next htracking => simp +decide [hc.generated, hh.base htracking, hf.comment, hf.name]
    · trivial
  simp only [mergeFromBuilder, Method.uses_documented_iff, Stmt.usesAll_append]
  simp +decide [Doc.Uses, hc.builder, hdecls, hmerge, hreturn, hupcast, hf.comment, hf.name,
    hf.method]

include hf in
theorem uses_testingFlags : ∀ n ∈ testingFlags ctx, ok.type n := by
  unfold testingFlags
  split
  · next hguava => simp +decide [hf.guava hguava]
  · simp

include hf hd in
theorem uses_restoreUnset (hunset : ctx.tracking.isSome = true → ok.name unsetField)
    {template : Option String} (h : ∀ x ∈ template, ok.name x) :
    Stmt.UsesAll ok (restoreUnset ctx template) := by
  unfold restoreUnset
  cases ht : ctx.tracking with
  | none => trivial
  | some t => exact Tracking.uses_restore hf (hunset (by rw [ht, Option.isSome_some])) (hd.enum t ht) h

include hf hc hd hh hu in
theorem uses_clearMethod? : ∀ m ∈ clearMethod? ctx codes, m.Uses ok := by
  intro m hm
  have hreturn := uses_returnThis hc
  unfold clearMethod? at hm
  split at hm
  · next hfactory =>
    obtain rfl := Option.some.inj hm
    have hdecls := uses_defaultsDecls hf hc hh (codes.any (·.clearsFromTemplate))
    have hclear : Stmt.UsesAll ok (codes.map (·.clear defaultsVar)) :=
      Stmt.usesAll_map fun c hc ↦ (hu c hc).clear _ (hh.defaults hfactory)
    have hrestore : Stmt.UsesAll ok (restoreUnset ctx
        (defaultsOf (defaultsDecl ctx (codes.any (·.clearsFromTemplate))))) :=
      uses_restoreUnset hf hd hh.unset (name_of_mem_defaultsOf hh)
    simp +decide [Doc.Uses, hc.builder, Stmt.usesAll_append, hdecls, hclear, hrestore, hreturn,
      hf.comment, hf.method]
  · split at hm
    · obtain rfl := Option.some.inj hm
      have hclear : Stmt.UsesAll ok (codes.map (·.partialClear)) :=
        Stmt.usesAll_map fun c hc ↦ (hu c hc).partialClear
      have hrestore : Stmt.UsesAll ok (restoreUnset ctx none) := uses_restoreUnset hf hd hh.unset (by simp)
      refine Method.Uses.withFlags ?_ (uses_testingFlags hf)
      simp +decide [Doc.Uses, hc.builder, Stmt.usesAll_append, hclear, hrestore, hreturn, hf.comment,
        hf.method]
    · cases hm

include hf in
theorem uses_instantiate {type : GenericClass} (ht : type.Uses ok) :
    (instantiate ctx type).Uses ok := by
  simpa [instantiate, uses_type_of_class ht] using hf.diamond

include hf hc hd hh in
theorem uses_buildMethod : (buildMethod ctx).Uses ok := by
  have hcheck : Stmt.UsesAll ok (if ctx.tracking.isSome then Tracking.buildCheck ctx.features else []) := by
    split
    · next htracking => exact Tracking.uses_buildCheck hf (hh.unset htracking)
    · trivial
  have hinstantiate : (instantiate ctx ctx.datatype.value).Uses ok := uses_instantiate hf hd.value
  have hname := uses_sourceName hc
  simp only [buildMethod, Method.uses_documented_iff, Stmt.usesAll_append]
  refine ⟨?_, hc.source, hf.method (by decide), by simp, hcheck, by simp [hinstantiate]⟩
  split <;> simp +decide [Doc.Uses, hname, hf.comment]

include hf hc in
theorem uses_buildPartialMethod {type : GenericClass} (ht : type.Uses ok) :
    (buildPartialMethod ctx type).Uses ok := by
  have hinstantiate : (instantiate ctx type).Uses ok := uses_instantiate hf ht
  have hname := uses_sourceName hc
  refine Method.Uses.withFlags ?_ (uses_testingFlags hf)
  simp +decide [Doc.Uses, hc.source, hname, hinstantiate, hf.comment, hf.method, hf.type]

/-! ## Nested classes -/

include hp hu in
theorem uses_storedGetter {c : PropertyCode} (hmem : c ∈ codes) {before : List Stmt}
    (h : Stmt.UsesAll ok before) : (storedGetter c before).Uses ok := by
  have hread : (c.read (.own c.property.name)).Uses ok := (hu c hmem).read _ (hp c hmem).name
  rw [storedGetter, Method.uses_overriding_iff, Stmt.usesAll_append]
  exact ⟨(hu c hmem).markers, (hp c hmem).type, (hp c hmem).getter, by simp, h, hread, trivial⟩

include hp hu in
theorem uses_valueField {c : PropertyCode} (hmem : c ∈ codes) :
    (c.valueField c.property.name).Uses ok := by
  have hbase : (Field.constant c.valueType c.property.name none).Uses ok := by
    simp [(hu c hmem).valueType, (hp c hmem).name]
  exact { hbase with markers := (hu c hmem).markers }

include hp in
theorem uses_storeField {c : PropertyCode} (hmem : c ∈ codes) {e : Expr} (h : e.Uses ok) :
    (storeField c e).Uses ok := by
  simp [storeField, (hp c hmem).name, h]

include hf hc in
theorem uses_builderParam : (builderParam ctx).Uses ok := by
  simp +decide [builderParam, hc.generated, hf.name]

include hp in
theorem uses_valueFields : ∀ s ∈ valueFields codes, s.Uses ok := by
  intro s hs
  obtain ⟨c, hc, rfl⟩ := List.mem_map.mp hs
  exact ⟨(hp c hc).name, (hp c hc).string, by simp⟩

include hd hh in
theorem uses_constants {x : String} :
    ∀ c ∈ ctx.constant? x, ok.name unsetField ∧ c.Uses ok := fun c hc ↦
  ⟨hh.unset (isSome_tracking_of_constant? hc), uses_constant? hd c hc⟩

include hd hh hp in
theorem uses_partialFields : ∀ s ∈ partialFields ctx codes, s.Uses ok := by
  intro s hs
  obtain ⟨c, hc, rfl⟩ := List.mem_map.mp hs
  split
  · exact ⟨(hp c hc).name, (hp c hc).string, uses_constants hd hh⟩
  · exact ⟨(hp c hc).name, (hp c hc).string, by simp⟩

theorem uses_methodGroups {ms : List Method} (h : ∀ m ∈ ms, m.Uses ok) :
    ∀ g ∈ methodGroups ms, ∀ m ∈ g, m.Uses ok := by
  intro g hg m hm
  obtain ⟨n, hn, rfl⟩ := List.mem_map.mp hg
  obtain rfl := List.mem_singleton.mp hm
  exact h n hn

include hf hc hd hh hp hu in
theorem uses_valueClass : (valueClass ctx codes).Uses ok where
  type := hd.value
  parent := hc.source
  groups := by
    have hbuilder : ok.name "builder" := hf.name (by decide)
    have hstore : Stmt.UsesAll ok (codes.map fun c ↦ storeField c (c.stored (.var "builder"))) :=
      Stmt.usesAll_map fun c hmem ↦ uses_storeField hp hmem ((hu c hmem).stored _ hbuilder)
    have hfields := uses_valueFields hp
    simp only [valueClass, List.forall_mem_cons]
    refine ⟨fun m hm ↦ ?_, uses_methodGroups ?_⟩
    · obtain ⟨c, hmem, rfl⟩ := List.mem_map.mp hm
      exact uses_valueField hp hu hmem
    · simp only [List.forall_mem_cons, List.forall_mem_append]
      refine ⟨?_, fun m hm ↦ ?_, ?_, ?_, ?_, by simp⟩
      · simp [hd.value.simpleName, uses_builderParam hf hc, hstore]
      · obtain ⟨c, hmem, rfl⟩ := List.mem_map.mp hm
        exact uses_storedGetter hp hu hmem trivial
      · exact uses_equalsMethod hf (absurd · Bool.false_ne_true) hd.value.name hfields
      · exact uses_hashCodeMethod hf (absurd · Bool.false_ne_true) hfields
      · exact uses_valueToString hf hd.sourceName.2 (fun h ↦ hh.joiner (guava_of_needsJoiner h)) hfields

include hf hd hh in
theorem uses_partialGuard {c : PropertyCode} (hc : ok.string c.property.name) :
    Stmt.UsesAll ok (partialGuard ctx c) := by
  have hnotSet : ok.string (c.property.name ++ " not set") :=
    hf.append hc (hf.string (by decide))
  refine Stmt.usesAll_map fun e he ↦ ?_
  obtain ⟨hname, hconstant⟩ := uses_constants hd hh e (Option.mem_toList.mp he)
  have hunset : (isUnset e).Uses ok := uses_isUnset hf hname hconstant
  simp +decide [requirePresent, notSet, hunset, hnotSet, hf.type]

include hf hc hd hh hp hu in
theorem uses_partialClass {type : GenericClass} (ht : type.Uses ok) :
    (partialClass ctx codes type).Uses ok where
  type := ht
  parent := hc.source
  groups := by
    have hbuilder : ok.name "builder" := hf.name (by decide)
    have hstore : Stmt.UsesAll ok
        (codes.map fun c ↦ storeField c (c.storedPartial (.var "builder"))) :=
      Stmt.usesAll_map fun c hmem ↦ uses_storeField hp hmem ((hu c hmem).storedPartial _ hbuilder)
    have htracked {t : Tracking} (h : t ∈ ctx.tracking.toList) : ok.name unsetField :=
      hh.unset (Option.isSome_iff_exists.mpr ⟨t, Option.mem_toList.mp h⟩)
    have hassign : Stmt.UsesAll ok
        (ctx.tracking.toList.map fun _ ↦ Tracking.partialAssignment "builder") :=
      Stmt.usesAll_map fun _ h ↦ Tracking.uses_partialAssignment hf (htracked h) hbuilder
    have hfields := uses_partialFields hd hh hp
    simp only [partialClass, List.forall_mem_cons]
    refine ⟨?_, uses_methodGroups ?_⟩
    · rw [List.forall_mem_append]
      refine ⟨fun m hm ↦ ?_, fun m hm ↦ ?_⟩
      · obtain ⟨c, hmem, rfl⟩ := List.mem_map.mp hm
        exact uses_valueField hp hu hmem
      · obtain ⟨t, hmem, rfl⟩ := List.mem_map.mp hm
        exact (Tracking.uses_fields hf (htracked hmem) (hd.enum t (Option.mem_toList.mp hmem))).2
    · simp only [List.forall_mem_cons, List.forall_mem_append]
      refine ⟨?_, fun m hm ↦ ?_, ?_, ?_, ?_, by simp⟩
      · refine Method.uses_constructor_iff.mpr ⟨ht.simpleName, ?_, ?_⟩
        · simpa using uses_builderParam hf hc
        · rw [Stmt.usesAll_append]
          exact ⟨hstore, hassign⟩
      · obtain ⟨c, hmem, rfl⟩ := List.mem_map.mp hm
        exact uses_storedGetter hp hu hmem (uses_partialGuard hf hd hh (hp c hmem).string)
      · exact uses_equalsMethod hf hh.unset ht.name hfields
      · exact uses_hashCodeMethod hf hh.unset hfields
      · exact uses_partialToString hf hd.sourceName.2 hfields

/-! ## The class -/

include hf hd hh hu in
theorem uses_builderFields : ∀ f ∈ builderFields ctx codes, f.Uses ok := by
  rw [builderFields, List.forall_mem_append]
  refine ⟨fun f hf' ↦ ?_, fun f hf' ↦ ?_⟩
  · obtain ⟨c, hmem, rfl⟩ := List.mem_map.mp hf'
    exact (hu c hmem).builderField
  · obtain ⟨t, hmem, rfl⟩ := List.mem_map.mp hf'
    have htracking := Option.mem_toList.mp hmem
    exact (Tracking.uses_fields hf (hh.unset (Option.isSome_iff_exists.mpr ⟨t, htracking⟩))
      (hd.enum t htracking)).1

include hf hc hd hh hu in
theorem uses_builderMethods : ∀ m ∈ builderMethods ctx codes, m.Uses ok := by
  simp only [builderMethods, List.forall_mem_append, List.forall_mem_cons]
  refine ⟨⟨⟨⟨fun m hm ↦ ?_, ?_, ?_, by simp⟩, fun m hm ↦ ?_⟩, ?_, by simp⟩, fun m hm ↦ ?_⟩
  · obtain ⟨c, hmem, hm⟩ := List.mem_flatMap.mp hm
    exact (hu c hmem).accessors m hm
  · exact uses_mergeFromValue hf hc hd hh hu
  · exact uses_mergeFromBuilder hf hc hh hu
  · exact uses_clearMethod? hf hc hd hh hu m (Option.mem_toList.mp hm)
  · exact uses_buildMethod hf hc hd hh
  · obtain ⟨p, hp, rfl⟩ := Option.map_eq_some_iff.mp (Option.mem_toList.mp hm)
    exact uses_buildPartialMethod hf hc (hd.partialType p hp)

theorem uses_group {α : Type} {f : α → Item} {xs : List α} (h : ∀ x ∈ xs, (f x).Uses ok) :
    ∀ g ∈ xs.map (fun x ↦ [f x]), ∀ i ∈ g, i.Uses ok := by
  intro g hg i hi
  obtain ⟨x, hx, rfl⟩ := List.mem_map.mp hg
  obtain rfl := List.mem_singleton.mp hi
  exact h x hx

include hf hc hd hh hp hu in
/-- **The generated class is made of what is allowed.** -/
theorem uses_topClass (he : AllowsEnum ok ctx) (annotate : Bool) : (topClass ctx codes annotate).Uses ok where
  doc := by
    have hbuilder : ok.type ctx.datatype.builder.name := hc.builder.1
    have hname := uses_sourceName hc
    simp +decide [topClass, Doc.Uses, hbuilder, hname, hf.comment]
  annotations := by
    cases annotate <;> simp +decide [topClass, hf.type, hf.string]
  type := hd.generated
  implements := by
    simp only [topClass]
    split <;> simp +decide [hf.type]
  groups := by
    simp only [topClass, List.forall_mem_append, List.forall_mem_singleton]
    refine ⟨⟨⟨⟨⟨⟨?_, ?_⟩, ?_⟩, ?_⟩, ?_⟩, ?_⟩, ?_⟩
    · exact List.forall_mem_map.mpr (uses_staticFields hf hh)
    · exact uses_group fun m hm ↦ uses_fromMethod? hf hc hd m (Option.mem_toList.mp hm)
    · refine uses_group fun t ht ↦ ?_
      obtain ⟨hname, hmethod⟩ := he.name t (Option.mem_toList.mp ht)
      exact Tracking.uses_enumDecl hf hname hmethod (he.constants t (Option.mem_toList.mp ht))
    · exact List.forall_mem_map.mpr (uses_builderFields hf hd hh hu)
    · exact uses_group (uses_builderMethods hf hc hd hh hu)
    · exact uses_valueClass hf hc hd hh hp hu
    · exact uses_group fun p hpartial ↦
        uses_partialClass hf hc hd hh hp hu (hd.partialType p (Option.mem_toList.mp hpartial))

end

end Assembly

end JavaBuilder.Builder
