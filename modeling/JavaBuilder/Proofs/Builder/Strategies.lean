import JavaBuilder.Builder.Selection
import JavaBuilder.Proofs.Builder.Vocabulary

/-!
# What the code of properties is made of

One lemma for each strategy: its code takes its names from the fixed vocabulary, the datatype, the
property, and the types and markers that the strategy has found on the property.
-/

namespace JavaBuilder.Builder

open Java Model

variable {ok : Allowed} {ctx : Context}

/-! ## Nullable properties -/

namespace Nullable

variable {n : Nullable} (hf : AllowsFixed ok ctx.features) (hc : AllowsContext ok ctx)
  (hp : AllowsProperty ok n.property) (hm : ∀ m ∈ n.markers, ok.type m)

include hf hp in
theorem uses_merge {value : Expr} {d : Option String} (hvalue : value.Uses ok)
    (hd : ∀ y ∈ d, ok.name y) : Stmt.UsesAll ok (n.merge ctx value d) := by
  have hcall := uses_callSetter hp hvalue
  cases d with
  | none => simp [merge, hvalue, hcall]
  | some y =>
    have hdiffers := uses_differs hf .nullable hvalue (uses_readBuilder hp (hd y rfl))
    simp [merge, hdiffers, hcall]

include hf hc hp hm in
theorem uses_accessors : ∀ m ∈ n.accessors ctx, m.Uses ok := by
  have hset : ok.method n.property.setter := hp.method (by decide)
  have hparam : Param.Uses ok ⟨n.markers, n.property.type, n.property.name⟩ :=
    ⟨hm, hp.type, hp.name⟩
  have hget : (builderGetter ctx n.property [.ret (.own n.property.name)]).Uses ok :=
    uses_builderGetter hf hc hp (by simp [hp.name])
  simp only [accessors, List.forall_mem_cons, Method.uses_documented_iff]
  refine ⟨?_, { hget with markers := hm }, by simp⟩
  simp [uses_setterDoc hf hc hp, hc.builder, hset, hparam, hp.name, uses_returnThis hc]

include hf hc hp hm in
theorem uses_code : (n.code ctx).Uses ok where
  markers := hm
  valueType := hp.type
  builderField := ⟨hm, hp.type, hp.name, by simp [code, Field.hidden]⟩
  accessors := uses_accessors hf hc hp hm
  stored _ hb := ⟨hb, hp.name⟩
  storedPartial _ hb := ⟨hb, hp.name⟩
  read _ he := he
  mergeFromValue _ _ hx hd := uses_merge hf hp (uses_readValue hp hx) hd
  mergeFromBuilder _ _ hx hd := uses_merge hf hp (uses_readBuilder hp hx) hd
  partialClear := by simp [code, hp.name]
  clear _ hx := uses_copyField hp hx

end Nullable

/-! ## Properties with a default -/

namespace Defaulted

variable {v : Defaulted} (hf : AllowsFixed ok ctx.features) (hc : AllowsContext ok ctx)
  (hp : AllowsProperty ok v.property)

include hf hp in
theorem uses_merge {value : Expr} {d : Option String} (hvalue : value.Uses ok)
    (hd : ∀ y ∈ d, ok.name y) : Stmt.UsesAll ok (v.merge ctx value d) := by
  have hcall := uses_callSetter hp hvalue
  cases d with
  | none => simp [merge, hcall]
  | some y =>
    have hdiffers := uses_differs hf v.kind hvalue (uses_readBuilder hp (hd y rfl))
    simp [merge, hdiffers, hcall]

include hf hc hp in
theorem uses_accessors : ∀ m ∈ v.accessors ctx, m.Uses ok := by
  have hset : (checkedSetter ctx v.property []).Uses ok := uses_checkedSetter hf hc hp (by simp)
  have hget : (builderGetter ctx v.property [.ret (.own v.property.name)]).Uses ok :=
    uses_builderGetter hf hc hp (by simp [hp.name])
  simp only [accessors, List.mem_append, List.mem_singleton]
  rintro m ((rfl | hm) | rfl)
  · exact hset
  · split at hm
    · next hlambdas =>
      obtain rfl := List.mem_singleton.mp hm
      exact uses_mapMethod hf hc hp hlambdas (by simp [hp.name]) false
    · cases hm
  · exact hget

theorem usesValue_initializer (hinit : ∀ x, v.source = .initializer x → ok.verbatim x) :
    ∀ e ∈ v.initializer?, e.UsesValue ok := by
  intro e he
  unfold initializer? at he
  split at he
  · cases he
  · next x hx =>
    obtain rfl := Option.some.inj he
    exact .inr ⟨x, rfl, hinit x hx⟩

include hf hc hp in
theorem uses_code (hinit : ∀ x, v.source = .initializer x → ok.verbatim x) :
    (v.code ctx).Uses ok where
  markers := by simp [code]
  valueType := hp.type
  builderField := by simpa [code, hp.type, hp.name] using usesValue_initializer hinit
  accessors := uses_accessors hf hc hp
  stored _ hb := ⟨hb, hp.name⟩
  storedPartial _ hb := ⟨hb, hp.name⟩
  read _ he := he
  mergeFromValue _ _ hx hd := uses_merge hf hp (uses_readValue hp hx) hd
  mergeFromBuilder _ _ hx hd := uses_merge hf hp (uses_readBuilder hp hx) hd
  partialClear := by
    refine ⟨hp.name, ?_⟩
    cases he : v.initializer? with
    | none => exact .inl (uses_zeroOf hf v.property.type)
    | some e => exact usesValue_initializer hinit e he
  clear _ hx := uses_copyField hp hx

end Defaulted

/-! ## Required properties -/

namespace Required

variable {r : Required} (hf : AllowsFixed ok ctx.features) (hc : AllowsContext ok ctx)
  (hp : AllowsProperty ok r.property) (hconstant : ∀ c ∈ ctx.constant? r.property.name,
    ok.name unsetField ∧ ok.name baseVar ∧ c.Uses ok)

include hf in
theorem uses_requireSet (hunset : ok.name unsetField) {x : String} {c : Expr} (hx : ok.string x)
    (h : c.Uses ok) : (requireSet ctx.features x c).Uses ok := by
  have hnotSet : ok.string (x ++ " not set") := hf.append hx (hf.string (by decide))
  unfold requireSet
  split
  · next hguava =>
    simp +decide [isUnset, notSet, h, hunset, hnotSet, hf.guava hguava, hf.method]
  · simp +decide [isUnset, notSet, h, hunset, hnotSet, hf.type, hf.method]

include hf hc hp hconstant in
theorem uses_accessors : ∀ m ∈ r.accessors ctx, m.Uses ok := by
  have hget : ok.method r.property.builderGetter := hp.method (by decide)
  have hremove : ok.method "remove" := hf.method (by decide)
  have hafter : Stmt.UsesAll ok ((ctx.constant? r.property.name).toList.map
      fun c ↦ .eval (.invoke (.own unsetField) "remove" [c])) := by
    refine Stmt.usesAll_map fun c hc ↦ ?_
    obtain ⟨hunset, -, huses⟩ := hconstant c (Option.mem_toList.mp hc)
    simp [hunset, hremove, huses]
  have hset := uses_checkedSetter hf hc hp hafter
  have hguard : Stmt.UsesAll ok ((ctx.constant? r.property.name).toList.map
      (requireSet ctx.features r.property.name)) := by
    refine Stmt.usesAll_map fun c hc ↦ ?_
    obtain ⟨hunset, -, huses⟩ := hconstant c (Option.mem_toList.mp hc)
    exact uses_requireSet hf hunset hp.string huses
  have hlink := uses_getterLink hc hp
  simp only [accessors, List.mem_append, List.mem_singleton]
  rintro m ((rfl | hm) | rfl)
  · exact hset
  · split at hm
    · next hlambdas =>
      obtain rfl := List.mem_singleton.mp hm
      exact uses_mapMethod hf hc hp hlambdas (by simp [hget]) true
    · cases hm
  · simp +decide [Doc.Uses, hlink, hp.type, hget, Stmt.usesAll_append, hguard, hp.name, hf.comment]

include hf in
theorem uses_unsetOn (hunset : ok.name unsetField) {x : String} {c : Expr} (hx : ok.name x)
    (h : c.Uses ok) : (unsetOn x c).Uses ok := by
  simp +decide [unsetOn, hx, h, hunset, hf.method]

include hf hp in
theorem uses_differsFrom {x : String} {value : Expr} (hx : ok.name x) (h : value.Uses ok) :
    (r.differsFrom ctx x value).Uses ok :=
  uses_differs hf _ h (uses_readBuilder hp hx)

include hf hp hconstant in
theorem uses_mergeFromValue {x : String} {d : Option String} (hx : ok.name x)
    (hd : ∀ y ∈ d, ok.name y) : Stmt.UsesAll ok (r.mergeFromValue ctx x d) := by
  have hvalue := uses_readValue hp hx
  have hcall := uses_callSetter hp hvalue
  unfold mergeFromValue
  split
  · next y c hy =>
    obtain ⟨hunset, -, huses⟩ := hconstant c hy
    have hunsetOn := uses_unsetOn hf hunset (hd y rfl) huses
    have hdiffers : (r.differsFrom ctx y (readValue r.property x)).Uses ok :=
      uses_differsFrom hf hp (hd y rfl) hvalue
    simp [hunsetOn, hdiffers, hcall]
  · simp [hcall]

include hf hp hconstant in
theorem uses_mergeFromBuilder {x : String} {d : Option String} (hx : ok.name x)
    (hd : ∀ y ∈ d, ok.name y) : Stmt.UsesAll ok (r.mergeFromBuilder ctx x d) := by
  have hvalue := uses_readBuilder hp hx
  have hcall := uses_callSetter hp hvalue
  simp only [mergeFromBuilder]
  split
  · simp [hcall]
  · next c hconst =>
    obtain ⟨hunset, hbase, huses⟩ := hconstant c hconst
    have hisSet := uses_unsetOn hf hunset hbase huses
    split
    · next y =>
      have hunsetOn := uses_unsetOn hf hunset (hd y rfl) huses
      have hdiffers : (r.differsFrom ctx y (readBuilder r.property x)).Uses ok :=
        uses_differsFrom hf hp (hd y rfl) hvalue
      simp [hisSet, hunsetOn, hdiffers, hcall]
    · simp [hisSet, hcall]

include hf hc hp hconstant in
theorem uses_code : (r.code ctx).Uses ok where
  markers := by simp [code]
  valueType := hp.type
  builderField := by simp [code, hp.type, hp.name]
  accessors := uses_accessors hf hc hp hconstant
  stored _ hb := ⟨hb, hp.name⟩
  storedPartial _ hb := ⟨hb, hp.name⟩
  read _ he := he
  mergeFromValue _ _ := uses_mergeFromValue hf hp hconstant
  mergeFromBuilder _ _ := uses_mergeFromBuilder hf hp hconstant
  partialClear := ⟨hp.name, .inl (uses_zeroOf hf _)⟩
  clear _ hx := uses_copyField hp hx

end Required

/-! ## Optional properties -/

namespace OptionalProperty

variable {o : OptionalProperty} (hf : AllowsFixed ok ctx.features) (hc : AllowsContext ok ctx)
  (hp : AllowsProperty ok o.property) (hkind : ok.type o.kind.type) (he : o.element.Uses ok)

include hf in
theorem uses_kind (k : OptionalKind) : ok.method k.ofNullable ∧ ok.method k.absent := by
  cases k <;> exact ⟨hf.method (by decide), hf.method (by decide)⟩

include hp in
theorem uses_setOrClear {test value : Expr} (ht : test.Uses ok) (hv : value.Uses ok) :
    (o.setOrClear test value).Uses ok := by
  have hset : ok.method o.property.setter := hp.method (by decide)
  have hclear : ok.method o.clearName := hp.method (by decide)
  simp [setOrClear, ht, hv, hset, hclear]

include hf hc hp hkind he in
theorem uses_accessors : ∀ m ∈ o.accessors ctx, m.Uses ok := by
  have hset : ok.method o.property.setter := hp.method (by decide)
  have hnullable : ok.method (o.property.method "setNullable") := hp.method (by decide)
  have hmap : ok.method (o.property.method "map") := hp.method (by decide)
  have hclear : ok.method o.clearName := hp.method (by decide)
  have hdoc := uses_setterDoc hf hc hp
  have hlink := uses_getterLink hc hp
  have hreturns := uses_returnsBuilder hf
  have hreturn := uses_returnThis hc
  obtain ⟨hof, habsent⟩ := uses_kind hf o.kind
  have hlabel : ok.comment ("Optional." ++ o.kind.absent ++ "()") := by
    cases o.kind <;> exact hf.comment (by decide)
  have hget : (builderGetter ctx o.property [.ret (.invokeStatic o.kind.type o.kind.ofNullable
      [.own o.property.name])]).Uses ok :=
    uses_builderGetter hf hc hp (by simp [hkind, hof, hp.name])
  have hcheck : (ctx.nullCheck (.var "mapper")).Uses ok :=
    uses_nullCheck hf (hf.name (by decide))
  simp only [accessors, List.forall_mem_append, List.forall_mem_cons]
  refine ⟨⟨⟨?_, ?_, ?_, by simp⟩, ?_⟩, ?_, ?_, by simp⟩
  · have hassign : Stmt.UsesAll ok
        (ctx.checkedAssignment (.field .this o.property.name) (.var o.property.name)) :=
      uses_checkedAssignment hf (by simp [hp.name]) (by simp [hp.name])
    simp [setMethod, hdoc, hc.builder, hset, he, hp.name, Stmt.usesAll_append, hassign, hreturn]
  · have hbody : (o.setOrClear (.invoke (.var o.property.name) "isPresent" [])
        (.invoke (.var o.property.name) "get" [])).Uses ok :=
      uses_setOrClear hp (by simp +decide [hp.name, hf.method])
        (by simp +decide [hp.name, hf.method])
    simp [setOptionalMethod, hdoc, hc.builder, hset, he, hkind, hp.name, hbody]
  · have hbody : (o.setOrClear (.ne (.var o.property.name) .null) (.var o.property.name)).Uses ok :=
      uses_setOrClear hp (by simp [hp.name]) (by simp [hp.name])
    simp [setNullableMethod, hdoc, hc.builder, hnullable, he, hp.name, hbody]
  · split
    · next hlambdas =>
      simp +decide [mapMethod, Doc.Uses, hlink, hreturns, hc.builder, hmap, hcheck, he, hset,
        hp.name, hreturn, uses_unaryOperator hf hlambdas he, hf.comment, hf.name, hf.method]
    · simp
  · simp +decide [clearMethod, Doc.Uses, hlink, hreturns, hc.builder, hclear, hkind, habsent, hlabel,
      hp.name, hreturn, hf.comment]
  · exact { hget with result := by simp [getMethod, hkind, he] }

include hf hp in
theorem uses_merge {value : Expr} {d : Option String} (hvalue : value.Uses ok)
    (hd : ∀ y ∈ d, ok.name y) : Stmt.UsesAll ok (o.merge ctx value d) := by
  have hcall := uses_callSetter hp hvalue
  cases d with
  | none => simp +decide [merge, hvalue, hcall, hf.method]
  | some y =>
    have hdiffers := uses_differs hf .nonNull hvalue (uses_readBuilder hp (hd y rfl))
    simp [merge, hdiffers, hcall]

include hf hc hp hkind he in
theorem uses_code : (o.code ctx).Uses ok where
  markers := by simp [code]
  valueType := he
  builderField := by simp [code, he, hp.name]
  accessors := uses_accessors hf hc hp hkind he
  stored _ hb := ⟨hb, hp.name⟩
  storedPartial _ hb := ⟨hb, hp.name⟩
  read e h := by
    simp [code, h, hkind, (uses_kind hf o.kind).1]
  mergeFromValue _ _ hx hd := uses_merge hf hp (uses_readValue hp hx) hd
  mergeFromBuilder _ _ hx hd := uses_merge hf hp (uses_readBuilder hp hx) hd
  partialClear := by simp [code, hp.name]
  clear _ hx := uses_copyField hp hx

end OptionalProperty

/-! ## Properties with a builder of their own -/

namespace NestedBuilder

variable {b : NestedBuilder} (hf : AllowsFixed ok ctx.features) (hc : AllowsContext ok ctx)
  (hp : AllowsProperty ok b.property) (hb : b.builderType.Uses ok)

include hf hp hb in
theorem uses_fresh : b.fresh.Uses ok := by
  unfold fresh
  split
  · next name _ hname =>
    have htype := hp.type
    cases ht : b.property.type with
    | declared n args =>
      rw [ht] at hname htype
      obtain rfl := Option.some.inj hname
      simp +decide [htype.1, htype.2, TypeRef.args, hf.method]
    | _ =>
      rw [ht] at hname
      cases hname
  · simp [hb]

include hf hc hp hb in
theorem uses_accessors : ∀ m ∈ b.accessors ctx, m.Uses ok := by
  have hset : ok.method b.property.setter := hp.method (by decide)
  have hget : ok.method b.getter := hp.builder
  have hlink := uses_getterLink hc hp
  have hreturns := uses_returnsBuilder hf
  have hreturn := uses_returnThis hc
  have hthrows : ∀ {x : String}, ok.comment x → (throwsOnNull x).Uses ok := uses_throwsOnNull hf
  have hbuilder : (throwsOnNull "builder").Uses ok := hthrows (hf.comment (by decide))
  have hmutator : (throwsOnNull "mutator").Uses ok := hthrows (hf.comment (by decide))
  have hcheck : (ctx.nullCheck (.var b.property.name)).Uses ok := uses_nullCheck hf hp.name
  have hcheckMutator : (ctx.nullCheck (.var "mutator")).Uses ok :=
    uses_nullCheck hf (hf.name (by decide))
  simp only [accessors, List.forall_mem_append, List.forall_mem_cons]
  refine ⟨⟨?_, ?_, ?_, by simp⟩, ?_⟩
  · simp +decide [setMethod, uses_setterDoc hf hc hp, hc.builder, hset, hp.type, hp.name, hcheck,
      target, hreturn, hf.method]
  · simp +decide [setBuilderMethod, Doc.Uses, hlink, hreturns, hbuilder, hc.builder, hset, hb,
      hf.comment, hf.name, hf.method]
  · simp +decide [getMethod, Doc.Uses, hlink, hb, hget, hp.name, hf.comment]
  · split
    · next hlambdas =>
      simp +decide [mutateMethod, Doc.Uses, hlink, hreturns, hmutator, hc.builder, hp.method, hb,
        hcheckMutator, hp.name, hreturn, hf.comment, hf.name, hf.method, hf.functional hlambdas]
    · simp

include hf hp in
theorem uses_merge {x : String} {e : Expr} (h : e.Uses ok) : Stmt.UsesAll ok (b.merge x e) := by
  simp +decide [merge, h, hp.name, hf.method]

include hp in
theorem uses_built {m : String} {e : Expr} (hm : ok.method m) (h : e.Uses ok) :
    (b.built m e).Uses ok := by
  simp [built, h, hm, hp.name]

include hf hc hp hb in
theorem uses_code : (b.code ctx).Uses ok where
  markers := by simp [code]
  valueType := hp.type
  builderField := by simp [code, hb, hp.name, uses_fresh hf hp hb]
  accessors := uses_accessors hf hc hp hb
  stored _ h := uses_built hp (hf.method (by decide)) h
  storedPartial _ h := by
    refine uses_built hp ?_ h
    split <;> exact hf.method (by decide)
  read _ h := h
  mergeFromValue _ _ hx _ := uses_merge hf hp (uses_readValue hp hx)
  mergeFromBuilder _ _ hx _ := by
    have hget : ok.method b.getter := hp.builder
    exact uses_merge hf hp (by simp [hx, hget])
  partialClear := by simp +decide [code, hp.name, hf.method]
  clear _ _ := by simp +decide [code, hp.name, hf.method]

end NestedBuilder

end JavaBuilder.Builder
