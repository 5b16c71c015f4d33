import JavaBuilder.Builder.Selection
import JavaBuilder.Proofs.Builder.Vocabulary

/-!
# What the code of collections is made of

The strategies that build a property up element by element. Their methods are named by a verb and the
property, and their parameters by fixed words.
-/

namespace JavaBuilder.Builder

open Java Model

variable {ok : Allowed} {ctx : Context}

/-! ## Lists and sets -/

namespace Collection

variable {c : Collection} (hf : AllowsFixed ok ctx.features) (hc : AllowsContext ok ctx)
  (hp : AllowsProperty ok c.property) (he : c.element.Uses ok)

include hf in
theorem uses_kind (k : CollectionKind) : ok.type k.implementation ∧
    (ctx.features.guava = true → ok.type k.immutable) ∧
    ok.method k.unmodifiable ∧ ok.comment k.noun := by
  cases k <;>
    exact ⟨hf.type (by decide), fun hguava ↦ hf.guava hguava (by decide), hf.method (by decide),
      hf.comment (by decide)⟩

include hf he in
theorem uses_implementation : c.implementation.Uses ok := by
  simp [implementation, uses_kind hf c.kind, he]

include hf in
theorem uses_iterableOf {t : TypeRef} (ht : t.Uses ok) : (iterableOf t).Uses ok := by
  simp +decide [iterableOf, ht, hf.type]

include hf hc hp he in
theorem uses_accessors : ∀ m ∈ c.accessors ctx, m.Uses ok := by
  have hget : ok.method c.property.builderGetter := hp.method (by decide)
  have hlink := uses_getterLink hc hp
  have hreturns := uses_returnsBuilder hf
  have hreturn := uses_returnThis hc
  obtain ⟨-, -, hview, hnoun⟩ := uses_kind hf c.kind
  have hthrows : (throwsOnNull "element").Uses ok := uses_throwsOnNull hf (hf.comment (by decide))
  have hcheck : (ctx.nullCheck (.var "element")).Uses ok := uses_nullCheck hf (hf.name (by decide))
  have hiterable := uses_iterableOf hf he
  simp only [accessors, List.forall_mem_append, List.forall_mem_cons]
  refine ⟨⟨⟨?_, ?_, by simp⟩, ?_⟩, ?_, ?_, by simp⟩
  · simp +decide [addMethod, Doc.Uses, hlink, hreturns, hthrows, hnoun, hc.builder, hp.method, he, hcheck,
      target, hp.name, hreturn, hf.comment, hf.name, hf.method]
  · simp +decide [addAllMethod, Doc.Uses, hlink, hreturns, hnoun, hc.builder, hp.method, hiterable, he,
      hreturn, hf.comment, hf.name]
  · split
    · simp +decide [removeMethod, Doc.Uses, hlink, hreturns, hthrows, hc.builder, hp.method, he, hcheck,
        target, hp.name, hreturn, hf.comment, hf.name, hf.method]
    · simp
  · simp +decide [clearMethod, Doc.Uses, hlink, hreturns, hnoun, hc.builder, hp.method, target, hp.name,
      hreturn, hf.comment, hf.method]
  · simp +decide [viewMethod, Doc.Uses, hlink, hnoun, hp.type, hget, hview, hp.name, hf.comment,
      hf.type]

include hf hp he in
theorem uses_copy {b : Expr} (hb : b.Uses ok) : (c.copy ctx b).Uses ok := by
  obtain ⟨-, himmutable, hview, -⟩ := uses_kind hf c.kind
  have himplementation := uses_implementation hf he
  unfold copy
  split
  · next hguava => simp +decide [himmutable hguava, hb, hp.name, hf.method]
  · simp +decide [hview, himplementation, hb, hp.name, hf.type]

include hp in
theorem uses_addAll {e : Expr} (h : e.Uses ok) : Stmt.UsesAll ok (c.addAll e) := by
  have hadd : ok.method (c.property.method "addAll") := hp.method (by decide)
  simp [addAll, hadd, h]

include hf hc hp he in
theorem uses_code : (c.code ctx).Uses ok where
  markers := by simp [code]
  valueType := hp.type
  builderField := by simpa [code, uses_implementation hf he, hp.name] using hf.diamond
  accessors := uses_accessors hf hc hp he
  stored _ hb := uses_copy hf hp he hb
  storedPartial _ hb := uses_copy hf hp he hb
  read _ he := he
  mergeFromValue _ _ hx _ := uses_addAll hp (uses_readValue hp hx)
  mergeFromBuilder _ _ hx _ := uses_addAll hp (uses_readBuilder hp hx)
  partialClear := by simp +decide [code, hp.name, hf.method]
  clear _ _ := by simp +decide [code, hp.name, hf.method]

end Collection

/-! ## Maps -/

namespace MapProperty

variable {m : MapProperty} (hf : AllowsFixed ok ctx.features) (hc : AllowsContext ok ctx)
  (hp : AllowsProperty ok m.property) (hk : m.key.Uses ok) (hv : m.value.Uses ok)

include hf hk hv in
theorem uses_implementation : m.implementation.Uses ok := by
  simp +decide [implementation, hk, hv, hf.type]

include hk hv in
theorem uses_sourceArgs : TypeRef.UsesAll ok m.sourceArgs := by
  simp [sourceArgs, hk, hv]

include hf hc hp hk hv in
theorem uses_accessors : ∀ n ∈ m.accessors ctx, n.Uses ok := by
  have hget : ok.method m.property.builderGetter := hp.method (by decide)
  have hlink := uses_getterLink hc hp
  have hreturns := uses_returnsBuilder hf
  have hreturn := uses_returnThis hc
  have hsource : TypeRef.UsesAll ok m.sourceArgs := uses_sourceArgs hk hv
  have hthrows : (throwsOnNull "key").Uses ok := uses_throwsOnNull hf (hf.comment (by decide))
  have hkey : (ctx.nullCheck (.var "key")).Uses ok := uses_nullCheck hf (hf.name (by decide))
  have hvalue : (ctx.nullCheck (.var "value")).Uses ok := uses_nullCheck hf (hf.name (by decide))
  simp only [accessors, List.forall_mem_cons]
  refine ⟨?_, ?_, ?_, ?_, ?_, by simp⟩
  · simp +decide [putMethod, Doc.Uses, hlink, hreturns, hc.builder, hp.method, hk, hv, hkey, hvalue,
      target, hp.name, hreturn, hf.comment, hf.name, hf.method]
  · simp +decide [putAllMethod, Doc.Uses, hlink, hreturns, hc.builder, hp.method, hsource, hreturn,
      hf.comment, hf.name, hf.method, hf.type]
  · simp +decide [removeMethod, Doc.Uses, hlink, hreturns, hthrows, hc.builder, hp.method, hk, hkey,
      target, hp.name, hreturn, hf.comment, hf.name, hf.method]
  · simp +decide [clearMethod, Doc.Uses, hlink, hreturns, hc.builder, hp.method, target, hp.name, hreturn,
      hf.comment, hf.method]
  · simp +decide [viewMethod, Doc.Uses, hlink, hp.type, hget, hp.name, hf.comment, hf.type, hf.method]

include hf hp hk hv in
theorem uses_copy {b : Expr} (hb : b.Uses ok) : (m.copy ctx b).Uses ok := by
  have himplementation := uses_implementation hf hk hv
  unfold copy
  split
  · next hguava => simp +decide [hb, hp.name, hf.guava hguava, hf.method]
  · simp +decide [himplementation, hb, hp.name, hf.type, hf.method]

include hp in
theorem uses_putAll {e : Expr} (h : e.Uses ok) : Stmt.UsesAll ok (m.putAll e) := by
  have hput : ok.method (m.property.method "putAll") := hp.method (by decide)
  simp [putAll, hput, h]

include hf hc hp hk hv in
theorem uses_code : (m.code ctx).Uses ok where
  markers := by simp [code]
  valueType := hp.type
  builderField := by simpa [code, uses_implementation hf hk hv, hp.name] using hf.diamond
  accessors := uses_accessors hf hc hp hk hv
  stored _ hb := uses_copy hf hp hk hv hb
  storedPartial _ hb := uses_copy hf hp hk hv hb
  read _ he := he
  mergeFromValue _ _ hx _ := uses_putAll hp (uses_readValue hp hx)
  mergeFromBuilder _ _ hx _ := uses_putAll hp (uses_readBuilder hp hx)
  partialClear := by simp +decide [code, hp.name, hf.method]
  clear _ _ := by simp +decide [code, hp.name, hf.method]

end MapProperty

/-! ## Multisets -/

namespace MultisetProperty

variable {m : MultisetProperty} (hf : AllowsFixed ok ctx.features) (hc : AllowsContext ok ctx)
  (hp : AllowsProperty ok m.property) (he : m.element.Uses ok)
  (hguava : ctx.features.guava = true)

include hf hguava in
theorem uses_checkedElement : checkedElement.Uses ok := by
  simp +decide [checkedElement, hf.guava hguava, hf.method, hf.name]

include hf in
theorem uses_throwsOnNegative : throwsOnNegative.Uses ok := by
  simp +decide [throwsOnNegative, hf.comment]

include hf hc hp he hguava in
theorem uses_accessors : ∀ n ∈ m.accessors ctx, n.Uses ok := by
  have hget : ok.method m.property.builderGetter := hp.method (by decide)
  have hlink := uses_getterLink hc hp
  have hreturns := uses_returnsBuilder hf
  have hreturn := uses_returnThis hc
  have hthrows : (throwsOnNull "element").Uses ok := uses_throwsOnNull hf (hf.comment (by decide))
  have hnegative := uses_throwsOnNegative hf
  have hiterable := Collection.uses_iterableOf hf he
  have hchecked := uses_checkedElement hf hguava
  have hone : ok.literal "1" ∧ ok.literal "0" := ⟨hf.literal (by decide), hf.literal (by decide)⟩
  simp only [accessors, List.forall_mem_cons]
  refine ⟨?_, ?_, ?_, ?_, ?_, ?_, by simp⟩
  · simp +decide [addMethod, Doc.Uses, hlink, hreturns, hthrows, hc.builder, hp.method, he, hone,
      hf.comment, hf.name]
  · simp +decide [addCopiesMethod, Doc.Uses, hlink, hreturns, hthrows, hnegative, hc.builder, hp.method,
      he, hp.name, hchecked, hreturn, hf.comment, hf.name, hf.method]
  · simp +decide [addAllMethod, Doc.Uses, hlink, hreturns, hc.builder, hp.method, hiterable, he, hone,
      hreturn, hf.comment, hf.name]
  · simp +decide [setCountMethod, Doc.Uses, hlink, hreturns, hthrows, hnegative, hc.builder, hp.method, he,
      hchecked, hone, target, hp.name, hreturn, hf.comment, hf.name, hf.method, hf.guava hguava,
      hf.string]
  · simp +decide [clearMethod, Doc.Uses, hlink, hreturns, hc.builder, hp.method, target, hp.name, hreturn,
      hf.comment, hf.method]
  · simp +decide [viewMethod, Doc.Uses, hlink, hp.type, hget, hp.name, hf.comment, hf.guava hguava,
      hf.method]

include hp in
theorem uses_addAll {e : Expr} (h : e.Uses ok) : Stmt.UsesAll ok (m.addAll e) := by
  have hadd : ok.method (m.property.method "addAll") := hp.method (by decide)
  simp [addAll, hadd, h]

include hf hc hp he hguava in
theorem uses_code : (m.code ctx).Uses ok where
  markers := by simp [code]
  valueType := hp.type
  builderField := by simp +decide [code, he, hp.name, hf.guava hguava, hf.method]
  accessors := uses_accessors hf hc hp he hguava
  stored _ hb := by simp +decide [code, hb, hp.name, hf.guava hguava, hf.method]
  storedPartial _ hb := by simp +decide [code, hb, hp.name, hf.guava hguava, hf.method]
  read _ he := he
  mergeFromValue _ _ hx _ := uses_addAll hp (uses_readValue hp hx)
  mergeFromBuilder _ _ hx _ := uses_addAll hp (uses_readBuilder hp hx)
  partialClear := by simp +decide [code, hp.name, hf.method]
  clear _ _ := by simp +decide [code, hp.name, hf.method]

end MultisetProperty

end JavaBuilder.Builder
