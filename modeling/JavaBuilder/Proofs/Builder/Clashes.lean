import JavaBuilder.Proofs.Builder.PlanUses
import JavaBuilder.Proofs.Builder.Signatures

/-!
# When members clash

Properties are told apart by their names, but the members that are generated for them by more than that.
Accessors are named by the capitalized name, which two properties can share, and by verbs of which one may
continue another; and some fields and methods of the builder have names of their own. Nothing checks any
of this. `KeepsMembersApart` says for which properties it goes well, and a class that is generated has
clashing members exactly where it does not hold.
-/

namespace JavaBuilder.Builder

open Java Model Name Unicode Assembly

variable {bound : String → String} {f : Features} {ctx : Context} {strategies : List Strategy}

theorem Collection.erased_iterableOf (a : TypeRef) :
    (iterableOf a).erased bound = "java.lang.Iterable" := rfl

namespace Strategy

variable {s t : Strategy} {v : Shape} {ts : List TypeRef}

/-! ## Accessors of a property -/

theorem length_of_mem_shapes (h : (v, ts) ∈ s.shapes f) : ts.length = v.arity := by
  have hall : ∀ x ∈ s.shapes f, x.2.length = x.1.arity := by
    cases s <;> simp only [shapes]
    case collection | optional | nested | defaulted | required => split <;> simp [Shape.arity]
    all_goals simp [Shape.arity]
  exact hall _ h

theorem set_mem_shapes_iff : (.set, ts) ∈ s.shapes f ↔ ∃ a ∈ s.setterTypes, ts = [a] := by
  cases s <;> simp [shapes, setterTypes]

theorem get_mem_shapes_iff : (.get, ts) ∈ s.shapes f ↔ s.isNested = false ∧ ts = [] := by
  cases s <;> simp [shapes, isNested]

theorem getBuilder_mem_shapes_iff : (.getBuilder, ts) ∈ s.shapes f ↔ s.isNested = true ∧ ts = [] := by
  cases s <;> simp [shapes, isNested]

theorem setNullable_mem_shapes_iff :
    (.setNullable, ts) ∈ s.shapes f ↔ ∃ o, s = .optional o ∧ ts = [o.element] := by
  cases s <;> simp [shapes]

theorem add_mem_shapes_iff : (.add, ts) ∈ s.shapes f ↔ ∃ a, s.added? = some a ∧ ts = [a] := by
  cases s <;> simp [shapes, added?]

theorem addAll_mem_shapes_iff :
    (.addAll, ts) ∈ s.shapes f ↔ ∃ a, s.added? = some a ∧ ts = [Collection.iterableOf a] := by
  cases s <;> simp [shapes, added?]

/-- All accessors but setters say whether the property is edited through a builder. -/
theorem isNested_of_mem_shapes (h : (v, ts) ∈ s.shapes f) (hv : v ≠ .set) :
    s.isNested = decide (v = .getBuilder ∨ v = .mutate) := by
  have hall : ∀ x ∈ s.shapes f, x.1 ≠ .set →
      s.isNested = decide (x.1 = .getBuilder ∨ x.1 = .mutate) := by
    cases s <;> simp only [shapes]
    case collection | optional | nested | defaulted | required => split <;> simp [isNested]
    all_goals simp [isNested]
  exact hall _ h hv

/-- The signatures of the accessors of a property. -/
def signatures (bound : String → String) (f : Features) (s : Strategy) : List (String × List String) :=
  (s.shapes f).map fun x ↦ (x.1.name s.property.capitalized, x.2.map (·.erased bound))

theorem signatures_code (ctx : Context) (s : Strategy) :
    (s.code ctx).accessors.map (·.signature bound) = s.signatures bound ctx.features := by
  have h := congrArg (List.map (Prod.map id (List.map (·.erased bound)))) (accessors_code ctx s)
  simpa [signatures, Method.signature, Function.comp_def] using h

/-- **When the accessors of one property clash.** Only the setters of a property share a name. -/
theorem nodup_signatures_iff :
    (s.signatures bound f).Nodup ↔ (s.setterTypes.map (·.erased bound)).Nodup := by
  have hshapes : (s.signatures bound f).Nodup ↔
      ((s.shapes f).map fun x ↦ (x.1, x.2.map (·.erased bound))).Nodup := by
    simp only [signatures, List.Nodup, List.pairwise_map]
    refine List.Pairwise.iff_of_mem fun {x y} hx hy ↦ not_congr ?_
    simp only [Prod.mk.injEq]
    refine and_congr_left fun htypes ↦ ⟨fun hname ↦ ?_, fun h ↦ by rw [h]⟩
    refine Shape.eq_of_name_eq ?_ hname
    rw [← length_of_mem_shapes hx, ← length_of_mem_shapes hy]
    simpa using congrArg List.length htypes
  rw [hshapes]
  cases s <;> simp only [shapes, setterTypes]
  case collection | optional | nested | defaulted | required => split <;> simp
  all_goals simp

/-! ## Accessors of two properties -/

/-- Accessors of two properties clash. Unless their capitalized names are the same, that of the first
property looks like a part of an accessor of the second one. -/
inductive Clashes (bound : String → String) (s t : Strategy) : Prop where
  | accessor : s.property.capitalized = t.property.capitalized → s.isNested = t.isNested → Clashes bound s t
  | setter {a b : TypeRef} : s.property.capitalized = t.property.capitalized → a ∈ s.setterTypes →
    b ∈ t.setterTypes → a.erased bound = b.erased bound → Clashes bound s t
  | getter : s.property.capitalized = t.property.capitalized ++ "Builder" → s.isNested = false →
    t.isNested = true → Clashes bound s t
  | nullable {a : TypeRef} {o : OptionalProperty} :
    s.property.capitalized = "Nullable" ++ t.property.capitalized → a ∈ s.setterTypes →
    t = .optional o → a.erased bound = o.element.erased bound → Clashes bound s t
  | addAll {a b : TypeRef} : s.property.capitalized = "All" ++ t.property.capitalized →
    s.added? = some a → t.added? = some b → a.erased bound = "java.lang.Iterable" → Clashes bound s t

theorem Clashes.exists_overlap (h : s.Clashes bound t) :
    ∃ v w ts us, (v, ts) ∈ s.shapes f ∧ (w, us) ∈ t.shapes f ∧
      Shape.Overlap v s.property.capitalized w t.property.capitalized ∧
      ts.map (·.erased bound) = us.map (·.erased bound) := by
  rcases h with ⟨hname, hnested⟩ | ⟨hname, ha, hb, heq⟩ | ⟨hname, hs, ht⟩ | ⟨hname, ha, rfl, heq⟩ |
    ⟨hname, ha, hb, heq⟩
  · cases hs : s.isNested with
    | false => exact ⟨.get, .get, [], [], get_mem_shapes_iff.mpr ⟨hs, rfl⟩,
        get_mem_shapes_iff.mpr ⟨hnested ▸ hs, rfl⟩, hname ▸ .same .get _, rfl⟩
    | true => exact ⟨.getBuilder, .getBuilder, [], [], getBuilder_mem_shapes_iff.mpr ⟨hs, rfl⟩,
        getBuilder_mem_shapes_iff.mpr ⟨hnested ▸ hs, rfl⟩, hname ▸ .same .getBuilder _, rfl⟩
  · exact ⟨.set, .set, _, _, set_mem_shapes_iff.mpr ⟨_, ha, rfl⟩, set_mem_shapes_iff.mpr ⟨_, hb, rfl⟩,
      hname ▸ .same .set _, by simp [heq]⟩
  · exact ⟨.get, .getBuilder, [], [], get_mem_shapes_iff.mpr ⟨hs, rfl⟩,
      getBuilder_mem_shapes_iff.mpr ⟨ht, rfl⟩, hname ▸ .getBuilder _, rfl⟩
  · exact ⟨.set, .setNullable, _, _, set_mem_shapes_iff.mpr ⟨_, ha, rfl⟩,
      setNullable_mem_shapes_iff.mpr ⟨_, rfl, rfl⟩, hname ▸ .setNullable _, by simp [heq]⟩
  · exact ⟨.add, .addAll, _, _, add_mem_shapes_iff.mpr ⟨_, ha, rfl⟩,
      addAll_mem_shapes_iff.mpr ⟨_, hb, rfl⟩, hname ▸ .addAll _,
      by simp [heq, Collection.erased_iterableOf]⟩

theorem clashes_of_overlap {w : Shape} {us : List TypeRef} (hs : (v, ts) ∈ s.shapes f)
    (ht : (w, us) ∈ t.shapes f)
    (hoverlap : Shape.Overlap v s.property.capitalized w t.property.capitalized)
    (htypes : ts.map (·.erased bound) = us.map (·.erased bound)) : s.Clashes bound t := by
  generalize hc : s.property.capitalized = c at hoverlap
  generalize hd : t.property.capitalized = d at hoverlap
  cases hoverlap with
  | same =>
    -- Setters clash by their types. All other accessors of one verb belong to properties of one sort,
    -- and these have clashing getters in any case.
    have hname := hc.trans hd.symm
    by_cases hv : v = .set
    · subst hv
      obtain ⟨a, ha, rfl⟩ := set_mem_shapes_iff.mp hs
      obtain ⟨b, hb, rfl⟩ := set_mem_shapes_iff.mp ht
      exact .setter hname ha hb (by simpa using htypes)
    · exact .accessor hname ((isNested_of_mem_shapes hs hv).trans (isNested_of_mem_shapes ht hv).symm)
  | setNullable =>
    obtain ⟨a, ha, rfl⟩ := set_mem_shapes_iff.mp hs
    obtain ⟨o, rfl, rfl⟩ := setNullable_mem_shapes_iff.mp ht
    exact .nullable (by rw [hc, hd]) ha rfl (by simpa using htypes)
  | addAll =>
    obtain ⟨a, ha, rfl⟩ := add_mem_shapes_iff.mp hs
    obtain ⟨b, hb, rfl⟩ := addAll_mem_shapes_iff.mp ht
    exact .addAll (by rw [hc, hd]) ha hb (by simpa [Collection.erased_iterableOf] using htypes)
  | getBuilder =>
    exact .getter (by rw [hc, hd]) (get_mem_shapes_iff.mp hs).1 (getBuilder_mem_shapes_iff.mp ht).1

theorem Clashes.exists_mem_signatures (h : s.Clashes bound t) :
    ∃ x ∈ s.signatures bound f, x ∈ t.signatures bound f := by
  obtain ⟨v, w, ts, us, hv, hw, hoverlap, htypes⟩ := h.exists_overlap (f := f)
  exact ⟨_, List.mem_map_of_mem hv,
    List.mem_map.mpr ⟨_, hw, Prod.ext hoverlap.name_eq.symm htypes.symm⟩⟩

theorem exists_mem_signatures_iff :
    (∃ x ∈ s.signatures bound f, x ∈ t.signatures bound f) ↔ s.Clashes bound t ∨ t.Clashes bound s := by
  constructor
  · rintro ⟨x, hs, ht⟩
    obtain ⟨⟨v, ts⟩, hv, rfl⟩ := List.mem_map.mp hs
    obtain ⟨⟨w, us⟩, hw, heq⟩ := List.mem_map.mp ht
    obtain ⟨hname, htypes⟩ := Prod.mk.inj heq
    have harity : w.arity = v.arity := by
      rw [← length_of_mem_shapes hv, ← length_of_mem_shapes hw]
      simpa using congrArg List.length htypes
    rcases (Shape.name_eq_iff harity).mp hname with hoverlap | hoverlap
    · exact .inr (clashes_of_overlap hw hv hoverlap htypes)
    · exact .inl (clashes_of_overlap hv hw hoverlap htypes.symm)
  · rintro (h | h)
    · exact h.exists_mem_signatures
    · obtain ⟨x, ht, hs⟩ := h.exists_mem_signatures (f := f)
      exact ⟨x, hs, ht⟩

/-- **When the accessors of two properties clash.** -/
theorem disjoint_signatures_iff :
    (s.signatures bound f).Disjoint (t.signatures bound f) ↔ ¬s.Clashes bound t ∧ ¬t.Clashes bound s := by
  rw [← not_or, ← exists_mem_signatures_iff (f := f), List.disjoint_left]
  simp only [not_exists, not_and]

theorem nodup_flatMap_signatures_iff :
    (strategies.flatMap (·.signatures bound f)).Nodup ↔
      (∀ s ∈ strategies, (s.setterTypes.map (·.erased bound)).Nodup) ∧
        strategies.Pairwise fun s t ↦ ¬s.Clashes bound t ∧ ¬t.Clashes bound s := by
  rw [List.nodup_flatMap]
  refine and_congr (forall₂_congr fun s _ ↦ nodup_signatures_iff) ?_
  exact List.Pairwise.iff fun {s t} ↦ disjoint_signatures_iff

end Strategy

/-! ## Methods of the class -/

section

variable {codes : List PropertyCode} {annotate : Bool}

/-- The methods that do not belong to one property. -/
def fixedMethods (ctx : Context) (codes : List PropertyCode) : List Method :=
  (fromMethod? ctx).toList ++ ([mergeFromValue ctx codes, mergeFromBuilder ctx codes] ++
    (clearMethod? ctx codes).toList ++ [buildMethod ctx] ++
    (ctx.datatype.partialType.map (buildPartialMethod ctx)).toList)

theorem methods_topClass :
    (topClass ctx codes annotate).methods = (fromMethod? ctx).toList ++ builderMethods ctx codes := by
  simp [TopClass.methods, items_topClass, List.filterMap_append, List.filterMap_map, Function.comp_def]

theorem fields_topClass :
    (topClass ctx codes annotate).fields = staticFields ctx codes ++ builderFields ctx codes := by
  simp [TopClass.fields, items_topClass, List.filterMap_append, List.filterMap_map, Function.comp_def]

theorem perm_methods_topClass :
    ((topClass ctx codes annotate).methods).Perm (codes.flatMap (·.accessors) ++ fixedMethods ctx codes) := by
  rw [methods_topClass, builderMethods, fixedMethods]
  simp only [List.append_assoc]
  exact List.perm_append_comm_assoc _ _ _

theorem signature_fromMethod? : (fromMethod? ctx).toList.map (·.signature bound) =
    if (fromMethod? ctx).isSome then [("from", [ctx.sourceName.text])] else [] := by
  unfold fromMethod?
  split
  · cases ctx.freshBuilder? false <;> rfl
  · rfl

theorem signature_clearMethod? : (clearMethod? ctx codes).toList.map (·.signature bound) =
    if (clearMethod? ctx codes).isSome then [("clear", [])] else [] := by
  unfold clearMethod?
  split
  · rfl
  · split <;> rfl

theorem signature_buildPartialMethod :
    (ctx.datatype.partialType.map (buildPartialMethod ctx)).toList.map (·.signature bound) =
      if ctx.datatype.partialType.isSome then [("buildPartial", [])] else [] := by
  cases ctx.datatype.partialType <;> rfl

theorem signature_fixedMethods : (fixedMethods ctx codes).map (·.signature bound) =
    (if (fromMethod? ctx).isSome then [("from", [ctx.sourceName.text])] else []) ++
      ([("mergeFrom", [ctx.sourceName.text]), ("mergeFrom", [ctx.datatype.builder.name.text])] ++
      (if (clearMethod? ctx codes).isSome then [("clear", [])] else []) ++ [("build", [])] ++
      if ctx.datatype.partialType.isSome then [("buildPartial", [])] else []) := by
  simp only [fixedMethods, List.map_append, signature_fromMethod?, signature_clearMethod?,
    signature_buildPartialMethod]
  rfl

/-- Only the two methods that merge share a name. -/
theorem nodup_fixedMethods_iff : ((fixedMethods ctx codes).map (·.signature bound)).Nodup ↔
    ctx.sourceName.text ≠ ctx.datatype.builder.name.text := by
  rw [signature_fixedMethods]
  split_ifs <;> simp

theorem name_mem_fixedNames {x : String × List String}
    (h : x ∈ (fixedMethods ctx codes).map (·.signature bound)) : x.1 ∈ Shape.fixedNames := by
  have hall : ∀ x ∈ (fixedMethods ctx codes).map (·.signature bound), x.1 ∈ Shape.fixedNames := by
    rw [signature_fixedMethods]
    split_ifs <;> simp [Shape.fixedNames]
  exact hall x h

/-! ## Fields of the class -/

/-- The names of the fields that do not belong to one property. -/
def fixedFields (ctx : Context) (codes : List PropertyCode) : List String :=
  (if ctx.datatype.serializable then ["serialVersionUID"] else []) ++
    (if needsJoiner ctx.features (valueFields codes) then [joinerField] else []) ++
    if ctx.tracking.isSome then [unsetField] else []

theorem nodup_fixedFields : (fixedFields ctx codes).Nodup := by
  unfold fixedFields
  split_ifs <;> decide

end

theorem name_builderField (s : Strategy) : (s.code ctx).builderField.name = s.property.name := by
  cases s <;> rfl

theorem perm_fields_builderClass (annotate : Bool) :
    ((builderClass ctx strategies annotate).fields.map (·.name)).Perm
      (strategies.map (·.property.name) ++ fixedFields ctx (strategies.map (·.code ctx))) := by
  have hstatic : (staticFields ctx (strategies.map (·.code ctx))).map (·.name) =
      (if ctx.datatype.serializable then ["serialVersionUID"] else []) ++
        if needsJoiner ctx.features (valueFields (strategies.map (·.code ctx))) then [joinerField]
        else [] := by
    unfold staticFields
    split_ifs <;> rfl
  have htracking : ctx.tracking.toList.map (·.builderField.name) =
      if ctx.tracking.isSome then [unsetField] else [] := by
    cases ctx.tracking <;> rfl
  rw [builderClass, fields_topClass, builderFields, List.map_append, hstatic]
  simp only [List.map_append, List.map_map, Function.comp_def, name_builderField, htracking, fixedFields]
  exact List.perm_append_comm_assoc _ _ _

/-! ## Properties that keep their members apart -/

/-- The members that are generated for the properties do not clash, neither with one another nor with what
the builder has besides. -/
structure KeepsMembersApart (bound : String → String) (ctx : Context) (strategies : List Strategy) :
    Prop where
  alone : ∀ s ∈ strategies, (s.setterTypes.map (·.erased bound)).Nodup
  together : strategies.Pairwise fun s t ↦ ¬s.Clashes bound t ∧ ¬t.Clashes bound s
  merging : ctx.sourceName.text ≠ ctx.datatype.builder.name.text
  fields : ∀ s ∈ strategies, s.property.name ∉ fixedFields ctx (strategies.map (·.code ctx))

theorem capitalized_ne_empty {p : Property} (h : p.IsChecked) : p.capitalized ≠ "" := by
  rw [h.capitalized, capitalize]
  split
  · next hname =>
    have hidentifier := h.name
    rw [isIdentifier, hname] at hidentifier
    cases hidentifier
  · next c cs _ =>
    intro hempty
    have hlist := String.toList_inj.mpr hempty
    rw [String.toList_ofList] at hlist
    exact upper_ne_nil c (List.append_eq_nil_iff.mp hlist).1

namespace IsPlan

variable {chain : Chain} {d : Datatype} {ds : List Declaration}
  (h : IsPlan chain f d ds ctx strategies)

include h

theorem isChecked {s : Strategy} (hs : s ∈ strategies) : s.property.IsChecked := by
  obtain ⟨x, -, hfits, hcheck⟩ := h.exists_fits hs
  exact hfits.property_eq ▸ Property.isChecked_of_check hcheck

theorem nodup_signatures_iff (annotate : Bool) :
    ((builderClass ctx strategies annotate).methods.map (·.signature bound)).Nodup ↔
      ((∀ s ∈ strategies, (s.setterTypes.map (·.erased bound)).Nodup) ∧
        strategies.Pairwise fun s t ↦ ¬s.Clashes bound t ∧ ¬t.Clashes bound s) ∧
        ctx.sourceName.text ≠ ctx.datatype.builder.name.text := by
  have haccessors : ((strategies.map (·.code ctx)).flatMap (·.accessors)).map (·.signature bound) =
      strategies.flatMap (·.signatures bound ctx.features) := by
    simp only [List.flatMap_map, List.map_flatMap, Strategy.signatures_code]
  rw [builderClass, (perm_methods_topClass.map _).nodup_iff, List.map_append, haccessors, List.nodup_append,
    Strategy.nodup_flatMap_signatures_iff, nodup_fixedMethods_iff, ← and_assoc, and_iff_left]
  -- No accessor is named like one of the other methods.
  intro x hx y hy hxy
  obtain ⟨s, hs, hmem⟩ := List.mem_flatMap.mp hx
  obtain ⟨z, -, rfl⟩ := List.mem_map.mp hmem
  have hname := Shape.name_not_mem_fixedNames (v := z.1) (capitalized_ne_empty (h.isChecked hs))
  subst hxy
  exact hname (name_mem_fixedNames hy)

theorem nodup_fields_iff (annotate : Bool) :
    ((builderClass ctx strategies annotate).fields.map (·.name)).Nodup ↔
      ∀ s ∈ strategies, s.property.name ∉ fixedFields ctx (strategies.map (·.code ctx)) := by
  rw [(perm_fields_builderClass annotate).nodup_iff, List.nodup_append]
  constructor
  · rintro ⟨-, -, hdistinct⟩ s hs hmem
    exact hdistinct _ (List.mem_map_of_mem hs) _ hmem rfl
  · refine fun hfields ↦ ⟨h.nodup_names, nodup_fixedFields, fun x hx y hy hxy ↦ ?_⟩
    obtain ⟨s, hs, rfl⟩ := List.mem_map.mp hx
    exact hfields s hs (hxy ▸ hy)

/-- **Members of a planned class clash** exactly where its properties do not keep them apart. -/
theorem hasNoClashes_iff (annotate : Bool) :
    (builderClass ctx strategies annotate).HasNoClashes bound ↔ KeepsMembersApart bound ctx strategies := by
  constructor
  · rintro ⟨hmethods, hfields⟩
    obtain ⟨⟨halone, htogether⟩, hmerging⟩ := (h.nodup_signatures_iff annotate).mp hmethods
    exact ⟨halone, htogether, hmerging, (h.nodup_fields_iff annotate).mp hfields⟩
  · rintro ⟨halone, htogether, hmerging, hfields⟩
    exact ⟨(h.nodup_signatures_iff annotate).mpr ⟨⟨halone, htogether⟩, hmerging⟩,
      (h.nodup_fields_iff annotate).mpr hfields⟩

end IsPlan

/-- **Members of a generated class clash** exactly where its properties do not keep them apart. -/
theorem generateWith_hasNoClashes_iff {chain : Chain} {config : Config} {d : Datatype}
    {ds : List Declaration} {g : Generated} (h : generateWith chain config d ds = .ok g) :
    ∃ ctx strategies, plan chain config.features d ds = .ok (ctx, strategies) ∧
      strategies.map (·.property) = ds.map (·.property) ∧
      g.text = (unitOf d).render config.style
        ((builderClass ctx strategies config.annotate).code config.docs) ∧
      ∀ bound, (builderClass ctx strategies config.annotate).HasNoClashes bound ↔
        KeepsMembersApart bound ctx strategies := by
  obtain ⟨ctx, strategies, hplan, hg⟩ := generateWith_eq_ok_iff.mp h
  exact ⟨ctx, strategies, plan_eq_ok_iff.mpr hplan, hplan.map_property, by rw [hg],
    fun _ ↦ hplan.hasNoClashes_iff config.annotate⟩

/-- The class that type variables without a bound erase to. -/
def unbounded (_ : String) : String := "java.lang.Object"

/-- An optional `name` beside a `nullableName` of another type: both have a method `setNullableName`, but
not for the same argument. -/
theorem generateWith_hasNoClashes_iff_nullableName :
    let d := Datatype.standard ⟨.top ["com", "example"] "Person", []⟩
    let ds : List Declaration :=
      [.plain (.of "name" (.ofText "java.util.Optional<java.lang.String>")),
        .plain (.of "nullableName" (.ofText "int"))]
    ∃ g, generateWith .standard ⟨⟨.java8, false⟩, true, false, ⟨.four, .lf⟩⟩ d ds = .ok g ∧
      ∃ ctx strategies, plan .standard ⟨.java8, false⟩ d ds = .ok (ctx, strategies) ∧
        (builderClass ctx strategies false).HasNoClashes unbounded := by
  intro d ds
  obtain ⟨g, hg⟩ : ∃ g,
      generateWith .standard ⟨⟨.java8, false⟩, true, false, ⟨.four, .lf⟩⟩ d ds = .ok g := ⟨_, rfl⟩
  obtain ⟨ctx, strategies, hplan, -, -, hiff⟩ := generateWith_hasNoClashes_iff hg
  refine ⟨g, hg, ctx, strategies, hplan, (hiff unbounded).mpr ?_⟩
  have hvalue : plan .standard ⟨.java8, false⟩ d ds = .ok
      (⟨d, ⟨.java8, false⟩, some ⟨d.generated.name.nested "Property", [⟨"nullableName", "NULLABLE_NAME"⟩]⟩⟩,
        [.optional ⟨.of "name" (.ofText "java.util.Optional<java.lang.String>"), .java,
            .declared (javaLang "String") []⟩,
          .required ⟨.of "nullableName" (.primitive .int)⟩]) := rfl
  obtain ⟨rfl, rfl⟩ := Prod.mk.inj (Except.ok.inj (hplan.symm.trans hvalue))
  refine ⟨?_, ?_, by decide +kernel, by decide +kernel⟩
  · decide +kernel
  · rw [List.pairwise_pair, ← Strategy.disjoint_signatures_iff (f := ⟨.java8, false⟩), List.disjoint_left]
    decide +kernel

def listOfStrings (name : String) : Property := .of name (.ofText "java.util.List<java.lang.String>")

/-- Two lists whose names differ only in their first letter have the same accessors. -/
theorem not_hasNoClashes :
    ¬∀ (config : Config) (d : Datatype) (ds : List Declaration) (g : Generated),
      generateWith .standard config d ds = .ok g →
      ∀ ctx strategies, plan .standard config.features d ds = .ok (ctx, strategies) →
        (builderClass ctx strategies config.annotate).HasNoClashes unbounded := by
  intro hall
  have hvalue : plan .standard ⟨.java8, false⟩ (.standard ⟨.top ["a"] "B", []⟩)
        [.plain (listOfStrings "name"), .plain (listOfStrings "Name")] = .ok
      (⟨.standard ⟨.top ["a"] "B", []⟩, ⟨.java8, false⟩, none⟩,
        [.collection ⟨listOfStrings "name", .list, .declared (javaLang "String") []⟩,
          .collection ⟨listOfStrings "Name", .list, .declared (javaLang "String") []⟩]) := rfl
  have hplan := plan_eq_ok_iff.mp hvalue
  have hclashes := hall ⟨⟨.java8, false⟩, true, false, ⟨.four, .lf⟩⟩ _ _ _
    (generateWith_eq_ok_iff.mpr ⟨_, _, hplan, rfl⟩) _ _ hvalue
  have htogether := ((hplan.hasNoClashes_iff false).mp hclashes).together
  exact (List.pairwise_pair.mp htogether).1 (.accessor (by decide +kernel) rfl)

end JavaBuilder.Builder
