import Mathlib.Tactic.SplitIfs
import Mathlib.Tactic.Tauto
import JavaBuilder.Proofs.Builder.Planning
import JavaBuilder.Proofs.Java.Parts

/-!
# Fields and the variables that hide them

In a method a bare name means a parameter or a local variable of that name before it means a field. So a
method has to qualify a field whose name is that of one of its variables, and since a property may have
any name, the code of properties does so almost everywhere: it refers to the field by `this`, or it leaves
the bare name to methods without variables.

Five places are left. The rest of this module finds them: for each strategy, the methods in which the name
of the property is *captured*.
-/

namespace JavaBuilder.Java

namespace Method

variable (m : Method) (x : String)

/-- The method refers to a field by its bare name, which is that of one of its variables. -/
def Captures : Prop := x ∈ m.locals ∧ .own x ∈ Stmt.allParts m.body

theorem captures_documented_iff {doc : Doc} {result : TypeRef} {name x : String}
    {params : List Param} {body : List Stmt} :
    (documented doc result name params body).Captures x ↔
      (x ∈ params.map (·.name) ∨ x ∈ Stmt.allDeclared body) ∧ .own x ∈ Stmt.allParts body := by
  simp [Captures, locals, documented]

end Method

/-- A field is written by its bare name where none of the variables has its name. -/
@[simp] theorem Expr.own_eq_ownField_iff {x y : String} {locals : List String} :
    .own x = ownField y locals ↔ x = y ∧ y ∉ locals := by
  unfold ownField
  split <;> simp_all

@[simp] theorem Expr.own_not_mem_inner_ownField {x y : String} {locals : List String} :
    .own x ∉ (ownField y locals).inner := by
  unfold ownField
  split <;> simp

end JavaBuilder.Java

namespace JavaBuilder.Builder

open Java Model

variable {ctx : Context} {x y : String}

/-! ## Shared statements -/

section

variable {e l r target : Expr} {p : Property}

@[simp] theorem own_mem_parts_nullCheck_iff : .own x ∈ (ctx.nullCheck e).parts ↔ .own x ∈ e.parts := by
  unfold Context.nullCheck
  split_ifs <;> simp [Expr.invokeStatic, Expr.eq]

@[simp] theorem declared_nullCheck : (ctx.nullCheck e).declared = [] := by
  unfold Context.nullCheck
  split_ifs <;> simp

@[simp] theorem own_mem_allParts_checkedAssignment_iff :
    .own x ∈ Stmt.allParts (ctx.checkedAssignment target e) ↔
      .own x ∈ target.parts ∨ .own x ∈ e.parts := by
  unfold Context.checkedAssignment
  split_ifs <;> simp [Expr.invokeStatic] <;> tauto

@[simp] theorem allDeclared_checkedAssignment :
    Stmt.allDeclared (ctx.checkedAssignment target e) = [] := by
  unfold Context.checkedAssignment
  split_ifs <;> simp

@[simp] theorem own_mem_parts_returnThis : .own x ∉ ctx.returnThis.parts := by
  simp [Context.returnThis]

@[simp] theorem declared_returnThis : ctx.returnThis.declared = [] := rfl

/-- A comparison refers to no more than what it compares. -/
theorem own_not_mem_parts_differs {f : Features} {k : FieldKind} (hl : .own x ∉ l.parts)
    (hr : .own x ∉ r.parts) : .own x ∉ (k.differs f l r).parts := by
  have hbits (p : Primitive) {e : Expr} (he : .own x ∉ e.parts) :
      .own x ∉ (FieldKind.bits p e).parts := by
    cases p <;> simpa [FieldKind.bits, Expr.invokeStatic] using he
  cases k with
  | primitive p =>
    have hleft := hbits p hl
    have hright := hbits p hr
    simp_all [FieldKind.differs, Expr.ne]
  | _ =>
    unfold FieldKind.differs
    split_ifs <;> simp_all [FieldKind.objectsEqual, Expr.invokeStatic, Expr.invoke, Expr.ne, Expr.eq]

theorem own_not_mem_parts_readBuilder : .own x ∉ (readBuilder p y).parts := by
  simp [readBuilder, Expr.invoke]

theorem own_not_mem_parts_readValue : .own x ∉ (readValue p y).parts := by
  simp [readValue, Expr.invoke]

theorem own_not_mem_parts_constant? {c : Expr} (hc : ctx.constant? y = some c) : .own x ∉ c.parts := by
  obtain ⟨t, -, ht⟩ := Option.bind_eq_some_iff.mp hc
  obtain ⟨k, -, rfl⟩ := Option.map_eq_some_iff.mp ht
  simp

end

/-! ## Accessors -/

section

variable {p : Property}

theorem not_captures_of_params_nil {doc : Doc} {result : TypeRef} {name : String} {body : List Stmt}
    (h : Stmt.allDeclared body = []) : ¬(Method.documented doc result name [] body).Captures x := by
  simp [Method.captures_documented_iff, h]

/-- A setter qualifies the field, so only what is added to it can be captured. -/
theorem captures_checkedSetter_iff {after : List Stmt} (hafter : Stmt.allDeclared after = []) :
    (checkedSetter ctx p after).Captures p.name ↔ .own p.name ∈ Stmt.allParts after := by
  rw [checkedSetter, Method.captures_documented_iff]
  split_ifs <;> simp [Param.of, hafter]

theorem not_captures_mapMethod {current : Expr} {mayBeUnset : Bool}
    (h : x ∈ mapLocals → .own x ∉ current.parts) :
    ¬(mapMethod ctx p current mayBeUnset).Captures x := by
  rw [mapMethod, Method.captures_documented_iff]
  simp only [mapLocals] at h
  simp [Param.of, Expr.invoke] at h ⊢
  tauto

end

theorem Nullable.not_captures {n : Nullable} {m : Method} (hm : m ∈ n.accessors ctx) :
    ¬m.Captures n.property.name := by
  simp only [accessors, List.mem_cons, List.not_mem_nil, or_false] at hm
  rcases hm with rfl | rfl
  · simp [Method.captures_documented_iff]
  · simp [Method.Captures, Method.locals, builderGetter, Method.documented]

theorem Defaulted.not_captures {v : Defaulted} {m : Method} (hm : m ∈ v.accessors ctx) :
    ¬m.Captures v.property.name := by
  simp only [accessors, List.mem_append, List.mem_singleton] at hm
  rcases hm with (rfl | hm) | rfl
  · rw [captures_checkedSetter_iff rfl]
    exact List.not_mem_nil
  · split_ifs at hm
    · obtain rfl := List.mem_singleton.mp hm
      exact not_captures_mapMethod (by simp +contextual)
    · cases hm
  · exact not_captures_of_params_nil (by simp)

theorem Collection.not_captures {c : Collection} {m : Method} (hm : m ∈ c.accessors ctx) :
    ¬m.Captures c.property.name := by
  simp only [accessors, List.mem_append, List.mem_cons, List.not_mem_nil, or_false] at hm
  rcases hm with ((rfl | rfl) | hm) | rfl | rfl
  · simp [addMethod, Method.captures_documented_iff, target, Expr.invoke]
  · simp [addAllMethod, Method.captures_documented_iff]
  · split_ifs at hm
    · obtain rfl := List.mem_singleton.mp hm
      simp [removeMethod, Method.captures_documented_iff, target, Expr.invoke]
    · cases hm
  · exact not_captures_of_params_nil (by simp)
  · exact not_captures_of_params_nil (by simp)

theorem MapProperty.not_captures {p : MapProperty} {m : Method} (hm : m ∈ p.accessors ctx) :
    ¬m.Captures p.property.name := by
  simp only [accessors, List.mem_cons, List.not_mem_nil, or_false] at hm
  rcases hm with rfl | rfl | rfl | rfl | rfl
  · simp [putMethod, Method.captures_documented_iff, target, Expr.invoke]
  · simp [putAllMethod, Method.captures_documented_iff, Expr.invoke]
  · simp [removeMethod, Method.captures_documented_iff, target, Expr.invoke]
  · exact not_captures_of_params_nil (by simp)
  · exact not_captures_of_params_nil (by simp)

theorem OptionalProperty.not_captures {o : OptionalProperty} {m : Method}
    (hm : m ∈ o.accessors ctx) : ¬m.Captures o.property.name := by
  simp only [accessors, List.mem_append, List.mem_cons, List.not_mem_nil, or_false] at hm
  rcases hm with ((rfl | rfl | rfl) | hm) | rfl | rfl
  · simp [setMethod, Method.captures_documented_iff]
  · simp [setOptionalMethod, setOrClear, Method.captures_documented_iff, Expr.invoke]
  · simp [setNullableMethod, setOrClear, Method.captures_documented_iff, Expr.ne]
  · split_ifs at hm
    · obtain rfl := List.mem_singleton.mp hm
      simp [mapMethod, Method.captures_documented_iff, Expr.invoke, Expr.ne, mapLocals, Param.of]
      tauto
    · cases hm
  · exact not_captures_of_params_nil (by simp)
  · simp [getMethod, Method.Captures, Method.locals, builderGetter, Method.documented]

/-- Adding copies of an element asks for their number by the bare name of the field. -/
theorem MultisetProperty.captures_iff {p : MultisetProperty} :
    (∃ m ∈ p.accessors ctx, m.Captures p.property.name) ↔
      p.property.name = "element" ∨ p.property.name = "occurrences" := by
  simp [accessors, addMethod, addCopiesMethod, addAllMethod, setCountMethod, clearMethod, viewMethod,
    Method.captures_documented_iff, target, checkedElement, Expr.invoke, Expr.invokeStatic, Param.of]

/-- Mutating hands over the nested builder by the bare name of the field. -/
theorem NestedBuilder.captures_iff {b : NestedBuilder} :
    (∃ m ∈ b.accessors ctx, m.Captures b.property.name) ↔
      ctx.features.hasLambdas = true ∧ b.property.name = "mutator" := by
  unfold accessors
  split_ifs with hlambdas <;>
    simp [hlambdas, setMethod, setBuilderMethod, getMethod, mutateMethod,
      Method.captures_documented_iff, target, Expr.invoke, Param.of]

/-- The setter of a tracked property refers to the set of unset properties by its bare name. -/
theorem Required.captures_iff {r : Required} :
    (∃ m ∈ r.accessors ctx, m.Captures r.property.name) ↔
      (ctx.constant? r.property.name).isSome = true ∧ r.property.name = unsetField := by
  have hmap : ¬(mapMethod ctx r.property (.ownCall r.property.builderGetter []) true).Captures
      r.property.name := not_captures_mapMethod (by simp)
  unfold accessors
  cases hconstant : ctx.constant? r.property.name with
  | none =>
    have hset : ¬(checkedSetter ctx r.property []).Captures r.property.name := by
      rw [captures_checkedSetter_iff rfl]
      exact List.not_mem_nil
    split_ifs <;> simp [hconstant, hset, hmap, not_captures_of_params_nil]
  | some c =>
    have hremove : (checkedSetter ctx r.property
        [.eval (.invoke (.own unsetField) "remove" [c])]).Captures r.property.name ↔
          r.property.name = unsetField := by
      have hc := own_not_mem_parts_constant? (x := r.property.name) hconstant
      rw [captures_checkedSetter_iff rfl]
      simp_all [Expr.invoke]
    have hguard : (requireSet ctx.features r.property.name c).declared = [] := by
      unfold requireSet
      split_ifs <;> rfl
    split_ifs <;> simp [hconstant, hremove, hmap, hguard, not_captures_of_params_nil]

/-! ## Merging -/

namespace Strategy

variable {s : Strategy} {d : Option String}

/-- Merging declares no variables. -/
theorem allDeclared_mergeFromValue : Stmt.allDeclared ((s.code ctx).mergeFromValue x d) = [] := by
  cases s with
  | required r =>
    change Stmt.allDeclared (r.mergeFromValue ctx x d) = []
    unfold Required.mergeFromValue
    split <;> simp [callSetter]
  | defaulted v => cases d <;> rfl
  | _ => rfl

theorem allDeclared_mergeFromBuilder :
    Stmt.allDeclared ((s.code ctx).mergeFromBuilder x d) = [] := by
  cases s with
  | required r =>
    change Stmt.allDeclared (r.mergeFromBuilder ctx x d) = []
    unfold Required.mergeFromBuilder
    split
    · simp [callSetter]
    · cases d <;> simp [callSetter]
  | defaulted v => cases d <;> rfl
  | _ => rfl

end Strategy

section

variable {value : Expr} {d : Option String}

theorem own_not_mem_parts_callSetter {p : Property} (h : .own x ∉ value.parts) :
    .own x ∉ (callSetter p value).parts := by
  simpa [callSetter] using h

theorem Nullable.own_not_mem_merge {n : Nullable} (h : .own x ∉ value.parts) :
    .own x ∉ Stmt.allParts (n.merge ctx value d) := by
  have hcall := own_not_mem_parts_callSetter (p := n.property) h
  cases d with
  | none => simp_all [merge, Expr.ne]
  | some y =>
    have hdiffers := own_not_mem_parts_differs (f := ctx.features) (k := .nullable) h
      (own_not_mem_parts_readBuilder (p := n.property) (y := y))
    simp_all [merge]

theorem OptionalProperty.own_not_mem_merge {o : OptionalProperty} (h : .own x ∉ value.parts) :
    .own x ∉ Stmt.allParts (o.merge ctx value d) := by
  have hcall := own_not_mem_parts_callSetter (p := o.property) h
  cases d with
  | none => simp_all [merge, Expr.invoke]
  | some y =>
    have hdiffers := own_not_mem_parts_differs (f := ctx.features) (k := .nonNull) h
      (own_not_mem_parts_readBuilder (p := o.property) (y := y))
    simp_all [merge]

theorem Defaulted.own_not_mem_merge {v : Defaulted} (h : .own x ∉ value.parts) :
    .own x ∉ Stmt.allParts (v.merge ctx value d) := by
  have hcall := own_not_mem_parts_callSetter (p := v.property) h
  cases d with
  | none => simp_all [merge]
  | some y =>
    have hdiffers := own_not_mem_parts_differs (f := ctx.features) (k := v.kind) h
      (own_not_mem_parts_readBuilder (p := v.property) (y := y))
    simp_all [merge]

/-- A nested builder is merged into by the bare name of its field, unless the source has this name. -/
theorem NestedBuilder.own_mem_merge_iff {b : NestedBuilder} (h : .own x ∉ value.parts) :
    .own x ∈ Stmt.allParts (b.merge y value) ↔ x = b.property.name ∧ x ≠ y := by
  simp only [Expr.parts, List.mem_cons, not_or] at h
  simp only [merge, Expr.invoke, Stmt.allParts, Stmt.parts, Expr.parts, Expr.inner, Expr.allParts,
    List.mem_append, List.mem_cons, Expr.own_eq_ownField_iff, Expr.own_not_mem_inner_ownField, h,
    reduceCtorEq, List.not_mem_nil, or_false, false_or]
  exact and_congr_right fun hx ↦ by rw [hx]

end

namespace Required

variable {r : Required} {c value : Expr} {d : Option String}

theorem own_not_mem_parts_unsetOn (hc : .own x ∉ c.parts) : .own x ∉ (unsetOn y c).parts := by
  simp_all [unsetOn, Expr.invoke]

theorem own_not_mem_parts_differsFrom (h : .own x ∉ value.parts) :
    .own x ∉ (r.differsFrom ctx y value).parts :=
  own_not_mem_parts_differs h own_not_mem_parts_readBuilder

theorem own_not_mem_mergeFromValue : .own x ∉ Stmt.allParts (r.mergeFromValue ctx y d) := by
  have hvalue : .own x ∉ (readValue r.property y).parts := own_not_mem_parts_readValue
  have hcall := own_not_mem_parts_callSetter (p := r.property) hvalue
  unfold mergeFromValue
  split
  · next z c hconstant =>
    have hunset := own_not_mem_parts_unsetOn (y := z) (own_not_mem_parts_constant? (x := x) hconstant)
    have hdiffers : .own x ∉ (r.differsFrom ctx z (readValue r.property y)).parts :=
      own_not_mem_parts_differsFrom hvalue
    simp_all
  · simp_all

theorem own_not_mem_mergeFromBuilder : .own x ∉ Stmt.allParts (r.mergeFromBuilder ctx y d) := by
  have hvalue : .own x ∉ (readBuilder r.property y).parts := own_not_mem_parts_readBuilder
  have hcall := own_not_mem_parts_callSetter (p := r.property) hvalue
  unfold mergeFromBuilder
  split
  · simp_all
  · next c hconstant =>
    have hunset (z : String) := own_not_mem_parts_unsetOn (y := z)
      (own_not_mem_parts_constant? (x := x) hconstant)
    have hbase := hunset baseVar
    cases d with
    | none => simp_all
    | some z =>
      have hdefaults := hunset z
      have hdiffers : .own x ∉ (r.differsFrom ctx z (readBuilder r.property y)).parts :=
        own_not_mem_parts_differsFrom hvalue
      simp_all

end Required

namespace Strategy

variable {s : Strategy} {d : Option String}

/-- Only a nested builder is merged into by the bare name of the field. -/
theorem own_mem_mergeFromValue_iff : .own x ∈ Stmt.allParts ((s.code ctx).mergeFromValue y d) ↔
    ∃ b, s = .nested b ∧ x = b.property.name ∧ x ≠ y := by
  cases s with
  | nested b =>
    refine (NestedBuilder.own_mem_merge_iff own_not_mem_parts_readValue).trans ?_
    simp
  | nullable n =>
    exact iff_of_false (Nullable.own_not_mem_merge own_not_mem_parts_readValue) (by simp)
  | optional o =>
    exact iff_of_false (OptionalProperty.own_not_mem_merge own_not_mem_parts_readValue) (by simp)
  | defaulted v =>
    exact iff_of_false (Defaulted.own_not_mem_merge own_not_mem_parts_readValue) (by simp)
  | required r => exact iff_of_false Required.own_not_mem_mergeFromValue (by simp)
  | collection c => simp [code, Collection.code, Collection.addAll, readValue, Expr.invoke]
  | map m => simp [code, MapProperty.code, MapProperty.putAll, readValue, Expr.invoke]
  | multiset m => simp [code, MultisetProperty.code, MultisetProperty.addAll, readValue, Expr.invoke]

theorem own_mem_mergeFromBuilder_iff :
    .own x ∈ Stmt.allParts ((s.code ctx).mergeFromBuilder y d) ↔
      ∃ b, s = .nested b ∧ x = b.property.name ∧ x ≠ y := by
  cases s with
  | nested b =>
    refine (NestedBuilder.own_mem_merge_iff (by simp [Expr.invoke])).trans ?_
    simp
  | nullable n =>
    exact iff_of_false (Nullable.own_not_mem_merge own_not_mem_parts_readBuilder) (by simp)
  | optional o =>
    exact iff_of_false (OptionalProperty.own_not_mem_merge own_not_mem_parts_readBuilder) (by simp)
  | defaulted v =>
    exact iff_of_false (Defaulted.own_not_mem_merge own_not_mem_parts_readBuilder) (by simp)
  | required r => exact iff_of_false Required.own_not_mem_mergeFromBuilder (by simp)
  | collection c => simp [code, Collection.code, Collection.addAll, readBuilder, Expr.invoke]
  | map m => simp [code, MapProperty.code, MapProperty.putAll, readBuilder, Expr.invoke]
  | multiset m =>
    simp [code, MultisetProperty.code, MultisetProperty.addAll, readBuilder, Expr.invoke]

end Strategy

/-! ## The methods that merge -/

section

variable {strategies : List Strategy} {needed : Bool}

theorem own_not_mem_defaultsDecl : .own x ∉ Stmt.allParts (defaultsDecl ctx needed).toList := by
  cases needed <;> cases hfactory : ctx.datatype.factory with
  | none => simp [defaultsDecl, Context.freshBuilder?, hfactory]
  | some factory => cases factory <;> simp [defaultsDecl, Context.freshBuilder?, hfactory]

/-- The variable of a default builder is declared in the methods that merge. -/
def DeclaresDefaults (ctx : Context) (strategies : List Strategy) : Prop :=
  (∃ s ∈ strategies, (s.code ctx).mergesAgainstDefaults = true) ∧ ctx.datatype.factory.isSome = true

theorem mem_allDeclared_defaultsDecl_iff :
    x ∈ Stmt.allDeclared
        (defaultsDecl ctx ((strategies.map (·.code ctx)).any (·.mergesAgainstDefaults))).toList ↔
      x = defaultsVar ∧ DeclaresDefaults ctx strategies := by
  have hneeded : (strategies.map (·.code ctx)).any (·.mergesAgainstDefaults) = true ↔
      ∃ s ∈ strategies, (s.code ctx).mergesAgainstDefaults = true := by simp
  unfold defaultsDecl
  rw [DeclaresDefaults, ← hneeded]
  split_ifs with h <;> cases hfactory : ctx.datatype.factory <;>
    simp [h, hfactory, Context.freshBuilder?]

theorem exists_nested_iff : (∃ s ∈ strategies, ∃ b, s = .nested b ∧ x = b.property.name ∧ x ≠ y) ↔
    x ≠ y ∧ ∃ b, .nested b ∈ strategies ∧ b.property.name = x := by
  constructor
  · rintro ⟨_, hs, b, rfl, rfl, hne⟩
    exact ⟨hne, b, hs, rfl⟩
  · rintro ⟨hne, b, hs, rfl⟩
    exact ⟨_, hs, b, rfl, rfl, hne⟩

theorem mem_locals_mergeFromValue_iff :
    x ∈ (Assembly.mergeFromValue ctx (strategies.map (·.code ctx))).locals ↔
      x = "value" ∨ x = defaultsVar ∧ DeclaresDefaults ctx strategies := by
  simp only [Method.locals, Assembly.mergeFromValue, Method.documented, Stmt.allDeclared_append,
    List.mem_append, mem_allDeclared_defaultsDecl_iff, Stmt.mem_allDeclared_flatMap]
  simp [Param.of, Strategy.allDeclared_mergeFromValue]

theorem own_mem_body_mergeFromValue_iff :
    .own x ∈ Stmt.allParts (Assembly.mergeFromValue ctx (strategies.map (·.code ctx))).body ↔
      x ≠ "value" ∧ ∃ b, .nested b ∈ strategies ∧ b.property.name = x := by
  simp only [Assembly.mergeFromValue, Method.documented, Stmt.allParts_append, List.mem_append,
    own_not_mem_defaultsDecl, Stmt.mem_allParts_flatMap, List.mem_map, false_or]
  simp only [exists_exists_and_eq_and, Strategy.own_mem_mergeFromValue_iff, Stmt.allParts,
    List.append_nil, own_mem_parts_returnThis, or_false]
  exact exists_nested_iff

/-- Merging from a value captures the fields of nested builders named like the default builder. -/
theorem captures_mergeFromValue_iff :
    (Assembly.mergeFromValue ctx (strategies.map (·.code ctx))).Captures x ↔
      (x = defaultsVar ∧ DeclaresDefaults ctx strategies) ∧
        ∃ b, .nested b ∈ strategies ∧ b.property.name = x := by
  have hdefaults : defaultsVar ≠ "value" := by decide
  rw [Method.Captures, mem_locals_mergeFromValue_iff, own_mem_body_mergeFromValue_iff]
  constructor
  · rintro ⟨hlocal, hne, hnested⟩
    exact ⟨hlocal.resolve_left hne, hnested⟩
  · rintro ⟨⟨rfl, hdeclares⟩, hnested⟩
    exact ⟨.inr ⟨rfl, hdeclares⟩, hdefaults, hnested⟩

theorem mem_locals_mergeFromBuilder_iff :
    x ∈ (Assembly.mergeFromBuilder ctx (strategies.map (·.code ctx))).locals ↔
      x = "template" ∨ x = baseVar ∧ ctx.tracking.isSome = true ∨
        x = defaultsVar ∧ DeclaresDefaults ctx strategies := by
  have hupcast : x ∈ Stmt.allDeclared (if ctx.tracking.isSome then
      [.remark "Upcast to access private fields",
        .declare ctx.generatedType baseVar (.var "template")] else []) ↔
      x = baseVar ∧ ctx.tracking.isSome = true := by
    split_ifs with htracking <;> simp [htracking]
  simp only [Method.locals, Assembly.mergeFromBuilder, Method.documented, Stmt.allDeclared_append,
    List.mem_append, mem_allDeclared_defaultsDecl_iff, Stmt.mem_allDeclared_flatMap, hupcast]
  simp [Param.of, Strategy.allDeclared_mergeFromBuilder]

theorem own_mem_body_mergeFromBuilder_iff :
    .own x ∈ Stmt.allParts (Assembly.mergeFromBuilder ctx (strategies.map (·.code ctx))).body ↔
      x ≠ "template" ∧ ∃ b, .nested b ∈ strategies ∧ b.property.name = x := by
  have hupcast : .own x ∉ Stmt.allParts (if ctx.tracking.isSome then
      [.remark "Upcast to access private fields",
        .declare ctx.generatedType baseVar (.var "template")] else []) := by
    split_ifs <;> simp
  simp only [Assembly.mergeFromBuilder, Method.documented, Stmt.allParts_append, List.mem_append,
    own_not_mem_defaultsDecl, Stmt.mem_allParts_flatMap, List.mem_map, hupcast, false_or]
  simp only [exists_exists_and_eq_and, Strategy.own_mem_mergeFromBuilder_iff, Stmt.allParts,
    List.append_nil, own_mem_parts_returnThis, or_false]
  exact exists_nested_iff

/-- Merging from a builder also captures the fields of nested builders named like the upcast source. -/
theorem captures_mergeFromBuilder_iff :
    (Assembly.mergeFromBuilder ctx (strategies.map (·.code ctx))).Captures x ↔
      (x = baseVar ∧ ctx.tracking.isSome = true ∨ x = defaultsVar ∧ DeclaresDefaults ctx strategies) ∧
        ∃ b, .nested b ∈ strategies ∧ b.property.name = x := by
  have hbase : baseVar ≠ "template" := by decide
  have hdefaults : defaultsVar ≠ "template" := by decide
  rw [Method.Captures, mem_locals_mergeFromBuilder_iff, own_mem_body_mergeFromBuilder_iff]
  constructor
  · rintro ⟨hlocal, hne, hnested⟩
    exact ⟨hlocal.resolve_left hne, hnested⟩
  · rintro ⟨hlocal, hnested⟩
    refine ⟨.inr hlocal, ?_, hnested⟩
    rcases hlocal with ⟨rfl, -⟩ | ⟨rfl, -⟩
    · exact hbase
    · exact hdefaults

end

/-! ## Captured fields -/

/-- The name of a property is captured somewhere in the code that is made for it. -/
inductive IsCaptured (ctx : Context) (strategies : List Strategy) : Strategy → Prop where
  /-- A multiset asks for a count among the parameters `element` and `occurrences`. -/
  | count {m : MultisetProperty} : m.property.name = "element" ∨ m.property.name = "occurrences" →
    IsCaptured ctx strategies (.multiset m)
  /-- A nested builder is handed to the parameter `mutator`. -/
  | mutator {b : NestedBuilder} : ctx.features.hasLambdas = true → b.property.name = "mutator" →
    IsCaptured ctx strategies (.nested b)
  /-- A nested builder is merged into beside the upcast source. -/
  | base {b : NestedBuilder} : b.property.name = baseVar → ctx.tracking.isSome = true →
    IsCaptured ctx strategies (.nested b)
  /-- A nested builder is merged into beside a default builder. -/
  | defaults {b : NestedBuilder} : b.property.name = defaultsVar → DeclaresDefaults ctx strategies →
    IsCaptured ctx strategies (.nested b)
  /-- A tracked property has the name of the set of unset properties. -/
  | unset {r : Required} : (ctx.constant? r.property.name).isSome = true →
    r.property.name = unsetField → IsCaptured ctx strategies (.required r)

/-- The code that is made for a property qualifies its field wherever a variable has its name. -/
structure Qualifies (ctx : Context) (strategies : List Strategy) (s : Strategy) : Prop where
  accessors : ∀ m ∈ (s.code ctx).accessors, ¬m.Captures s.property.name
  mergeFromValue :
    ¬(Assembly.mergeFromValue ctx (strategies.map (·.code ctx))).Captures s.property.name
  mergeFromBuilder :
    ¬(Assembly.mergeFromBuilder ctx (strategies.map (·.code ctx))).Captures s.property.name

section

variable {strategies : List Strategy} {s : Strategy}

/-- The accessors of a property qualify its field unless it is captured among their variables. -/
theorem exists_captures_accessors_iff :
    (∃ m ∈ (s.code ctx).accessors, m.Captures s.property.name) ↔
      (∃ m, s = .multiset m ∧ (m.property.name = "element" ∨ m.property.name = "occurrences")) ∨
        (∃ b, s = .nested b ∧ ctx.features.hasLambdas = true ∧ b.property.name = "mutator") ∨
          ∃ r, s = .required r ∧ (ctx.constant? r.property.name).isSome = true ∧
            r.property.name = unsetField := by
  cases s with
  | multiset m => exact MultisetProperty.captures_iff.trans (by simp)
  | nested b => exact NestedBuilder.captures_iff.trans (by simp)
  | required r => exact Required.captures_iff.trans (by simp)
  | nullable n => exact iff_of_false (fun ⟨_, hm, h⟩ ↦ Nullable.not_captures hm h) (by simp)
  | collection c => exact iff_of_false (fun ⟨_, hm, h⟩ ↦ Collection.not_captures hm h) (by simp)
  | map p => exact iff_of_false (fun ⟨_, hm, h⟩ ↦ MapProperty.not_captures hm h) (by simp)
  | optional o => exact iff_of_false (fun ⟨_, hm, h⟩ ↦ OptionalProperty.not_captures hm h) (by simp)
  | defaulted v => exact iff_of_false (fun ⟨_, hm, h⟩ ↦ Defaulted.not_captures hm h) (by simp)

/-- **Where the name of a field is captured.** Of properties with different names, all have code that
qualifies their fields, but for the five kinds of `IsCaptured`. -/
theorem qualifies_iff_not_isCaptured (hnames : (strategies.map (·.property.name)).Nodup)
    (hs : s ∈ strategies) : Qualifies ctx strategies s ↔ ¬IsCaptured ctx strategies s := by
  -- A nested builder that is captured under the name of the property is that of the property.
  have hsame {b : NestedBuilder} (hb : .nested b ∈ strategies)
      (hname : b.property.name = s.property.name) : s = .nested b :=
    List.inj_on_of_nodup_map hnames hs hb hname.symm
  constructor
  · rintro ⟨haccessors, hvalue, hbuilder⟩ hcaptured
    have hnone : ¬∃ m ∈ (s.code ctx).accessors, m.Captures s.property.name :=
      fun ⟨m, hm, h⟩ ↦ haccessors m hm h
    rw [exists_captures_accessors_iff] at hnone
    cases hcaptured with
    | @count m hname => exact hnone (.inl ⟨m, rfl, hname⟩)
    | @mutator b hlambdas hname => exact hnone (.inr (.inl ⟨b, rfl, hlambdas, hname⟩))
    | @unset r htracked hname => exact hnone (.inr (.inr ⟨r, rfl, htracked, hname⟩))
    | @base b hname htracking =>
      exact hbuilder (captures_mergeFromBuilder_iff.mpr ⟨.inl ⟨hname, htracking⟩, b, hs, rfl⟩)
    | @defaults b hname hdeclares =>
      exact hvalue (captures_mergeFromValue_iff.mpr ⟨⟨hname, hdeclares⟩, b, hs, rfl⟩)
  · refine fun hnot ↦ ⟨fun m hm h ↦ hnot ?_, fun h ↦ hnot ?_, fun h ↦ hnot ?_⟩
    · rcases exists_captures_accessors_iff.mp ⟨m, hm, h⟩ with
        ⟨m, rfl, hname⟩ | ⟨b, rfl, hlambdas, hname⟩ | ⟨r, rfl, htracked, hname⟩
      · exact .count hname
      · exact .mutator hlambdas hname
      · exact .unset htracked hname
    · obtain ⟨⟨hlocal, hdeclares⟩, b, hb, hname⟩ := captures_mergeFromValue_iff.mp h
      obtain rfl := hsame hb hname
      exact .defaults hlocal hdeclares
    · obtain ⟨hlocal, b, hb, hname⟩ := captures_mergeFromBuilder_iff.mp h
      obtain rfl := hsame hb hname
      rcases hlocal with ⟨hlocal, htracking⟩ | ⟨hlocal, hdeclares⟩
      · exact .base hlocal htracking
      · exact .defaults hlocal hdeclares

end

/-- A map and a nested builder whose names are those of variables, and are not captured. -/
theorem qualifies_mapAndTemplate :
    let p := Property.of "entry" (.declared (javaUtil "Map") [.typeVar "K", .typeVar "V"])
    let q := Property.of "template" (.declared (.top ["a"] "B") [])
    let strategies : List Strategy := [.map ⟨p, .typeVar "K", .typeVar "V"⟩,
      .nested ⟨q, ⟨.declared (.top ["a"] "C") [], .constructor, false⟩⟩]
    let ctx : Context := ⟨.standard ⟨.top ["a"] "A", []⟩, ⟨.java8, true⟩, none⟩
    ∀ s ∈ strategies, Qualifies ctx strategies s := by
  intro p q strategies ctx s hs
  refine (qualifies_iff_not_isCaptured (by decide) hs).mpr fun h ↦ ?_
  simp only [strategies, List.mem_cons, List.not_mem_nil, or_false] at hs
  rcases hs with rfl | rfl
  · cases h
  · cases h with
    | mutator _ hname | base hname _ | defaults hname _ => exact absurd hname (by decide)

/-- A multiset of strings called `element`. -/
def elementMultiset : MultisetProperty where
  property := .of "element" (.declared (guavaCollect "Multiset") [.declared (javaLang "String") []])
  element := .declared (javaLang "String") []

theorem plan_elementMultiset :
    plan .standard ⟨.java8, true⟩ (.standard ⟨.top ["a"] "A", []⟩) [.plain elementMultiset.property] =
      .ok (⟨.standard ⟨.top ["a"] "A", []⟩, ⟨.java8, true⟩, none⟩, [.multiset elementMultiset]) :=
  plan_eq_ok_iff.mpr {
    datatype := rfl
    features := rfl
    check := by decide +kernel
    checks := by decide +kernel
    names := by decide
    selects := .cons (by decide +kernel) .nil
    tracking := .inl ⟨rfl, rfl⟩ }

/-- **A multiset called `element` is captured** by a parameter of the method that adds copies. -/
theorem not_qualifies_element : ¬∀ (chain : Chain) (f : Features) (d : Datatype)
    (ds : List Declaration) (ctx : Context) (strategies : List Strategy),
    plan chain f d ds = .ok (ctx, strategies) → ∀ s ∈ strategies, Qualifies ctx strategies s := by
  intro h
  have hqualifies := h _ _ _ _ _ _ plan_elementMultiset _ List.mem_cons_self
  have hname : elementMultiset.property.name = "element" := rfl
  obtain ⟨m, hm, hcaptures⟩ := MultisetProperty.captures_iff.mpr (.inl hname)
  exact hqualifies.accessors m hm hcaptures

end JavaBuilder.Builder
