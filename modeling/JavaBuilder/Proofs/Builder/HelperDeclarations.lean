import JavaBuilder.Proofs.Builder.Capture
import JavaBuilder.Proofs.Builder.HelperUses
import JavaBuilder.Proofs.Builder.PlanUses
import JavaBuilder.Proofs.Builder.RequiredTracking

/-!
# Helpers are declared for use

Whether a helper is declared is decided for the class as a whole: by flags of the strategies, by
whether anything is tracked, and by the kinds of the stored fields. Its uses are written by the
strategies one by one, and by the methods of the nested classes. `DeclaresHelpers` says that the two
agree.

Where a helper is not declared, the code around it is made of everything but the helper. Where it is,
there is a property or a method that names it.
-/

namespace JavaBuilder.Java

/-- The field or method, if it is one. -/
@[simp] def Item.member? : Item → Option Member
  | member m => some m
  | enum _ | nested _ => none

/-- The fields and methods of the class, those of its nested classes left out. -/
def TopClass.members (c : TopClass) : List Member := c.items.filterMap Item.member?

theorem TopClass.mem_members_iff {c : TopClass} {m : Member} :
    m ∈ c.members ↔ .member m ∈ c.items := by
  rw [members, List.mem_filterMap]
  constructor
  · rintro ⟨i, hi, hmember⟩
    cases i with
    | member n => exact Option.some.inj hmember ▸ hi
    | enum e | nested n => cases hmember
  · exact fun hm ↦ ⟨.member m, hm, rfl⟩

end JavaBuilder.Java

namespace JavaBuilder.Builder

open Java Model Assembly

variable {ctx : Context} {strategies : List Strategy} {x : String}

/-- The value class of a plan. -/
def valueOf (ctx : Context) (strategies : List Strategy) : NestedClass :=
  valueClass ctx (strategies.map (·.code ctx))

/-- `toString` of the value class of a plan. -/
def valueTextOf (ctx : Context) (strategies : List Strategy) : Method :=
  valueToString ctx.features ctx.sourceName (valueFields (strategies.map (·.code ctx)))

/-- The helpers of a generated class are declared exactly where they are used. -/
structure DeclaresHelpers (ctx : Context) (strategies : List Strategy) (c : TopClass) : Prop where
  mergeFromValue : .method (mergeFromValue ctx (strategies.map (·.code ctx))) ∈ c.members ∧
    (mergeFromValue ctx (strategies.map (·.code ctx))).DeclaresForUse defaultsVar
  mergeFromBuilder : .method (mergeFromBuilder ctx (strategies.map (·.code ctx))) ∈ c.members ∧
    (mergeFromBuilder ctx (strategies.map (·.code ctx))).DeclaresForUse defaultsVar ∧
      (mergeFromBuilder ctx (strategies.map (·.code ctx))).DeclaresForUse baseVar
  clear : ∀ m ∈ clearMethod? ctx (strategies.map (·.code ctx)),
    .method m ∈ c.members ∧ m.DeclaresForUse defaultsVar
  unset : DeclaresFieldForUse unsetField c.members
  partialUnset : ∀ type ∈ ctx.datatype.partialType, .nested (partialOf ctx strategies type) ∈ c.items ∧
    DeclaresFieldForUse unsetField (partialOf ctx strategies type).members
  joiner : .nested (valueOf ctx strategies) ∈ c.items ∧
    .method (valueTextOf ctx strategies) ∈ (valueOf ctx strategies).members ∧
    ((∃ f, .field f ∈ c.members ∧ f.name = joinerField ∧ .isStatic ∈ f.modifiers) ↔
      ∃ e ∈ Stmt.allParts (valueTextOf ctx strategies).body, e.Names joinerField)
  /-- Where no default builder can be had, nothing mentions its variable. -/
  noDefaults : ctx.datatype.factory = none → ∀ i ∈ c.items, ¬i.Mentions defaultsVar

/-! ## Variables -/

/-- Where a default builder can be had, its variable is left out only where nothing needs it. -/
theorem eq_false_of_defaultsDecl_eq_none {needed : Bool} (h : defaultsDecl ctx needed = none)
    (hfactory : ctx.datatype.factory.isSome = true) : needed = false := by
  obtain ⟨factory, hfactory⟩ := Option.isSome_iff_exists.mp hfactory
  cases needed with
  | false => rfl
  | true => simp [defaultsDecl, Context.freshBuilder?, hfactory] at h

/-- A method that is given the variable of the default builder declares it for use, if the rest of its
body uses the variable exactly where it is needed. -/
theorem declaresForUse_defaults (ctx : Context) {m : Method} (needed : Bool) (first : List Stmt)
    (rest : Option String → List Stmt)
    (hbody : m.body = first ++
      ((defaultsDecl ctx needed).toList ++ rest (defaultsOf (defaultsDecl ctx needed))))
    (hparam : defaultsVar ∉ m.params.map (·.name))
    (hfirst : Stmt.UsesAll (avoidingWord defaultsVar) first)
    (hunneeded : defaultsDecl ctx needed = none →
      Stmt.UsesAll (avoidingWord defaultsVar) (rest none))
    (hdeclared : defaultsVar ∉ Stmt.allDeclared (rest (some defaultsVar)))
    (hneeded : needed = true → .var defaultsVar ∈ Stmt.allParts (rest (some defaultsVar))) :
    m.DeclaresForUse defaultsVar := by
  have hok := forbids_avoidingWord defaultsVar
  cases hdecl : defaultsDecl ctx needed with
  | none =>
    rw [hdecl] at hbody
    refine Method.declaresForUse_of_uses hok hparam ?_
    rw [hbody, Stmt.usesAll_append]
    exact ⟨hfirst, hunneeded hdecl⟩
  | some decl =>
    rw [hdecl] at hbody
    obtain ⟨hneed, -, e, he, rfl⟩ := exists_of_mem_defaultsDecl hdecl
    have huses : e.Uses (avoidingWord defaultsVar) :=
      uses_freshBuilder? (allowsFixed_avoidingWord (by decide) _) allowsContext_avoidingWord true e he
    exact Method.declaresForUse_of_declares hok hbody hparam hfirst huses hdeclared
      ⟨_, hneeded hneed, rfl⟩

/-- The statements that declare the upcast source. -/
def upcast (ctx : Context) : List Stmt :=
  if ctx.tracking.isSome then
    [.remark "Upcast to access private fields", .declare ctx.generatedType baseVar (.var "template")]
  else []

theorem body_mergeFromBuilder {codes : List PropertyCode} : (mergeFromBuilder ctx codes).body =
    upcast ctx ++ ((defaultsDecl ctx (codes.any (·.mergesAgainstDefaults))).toList ++
      (codes.flatMap (·.mergeFromBuilder "template"
          (defaultsOf (defaultsDecl ctx (codes.any (·.mergesAgainstDefaults))))) ++
        [ctx.returnThis])) := by
  simp only [mergeFromBuilder, Method.documented, upcast, List.append_assoc]

namespace IsPlan

variable {chain : Chain} {f : Features} {d : Datatype} {ds : List Declaration} {s : Strategy}
  (h : IsPlan chain f d ds ctx strategies) (hds : ∀ x ∈ ds, AvoidsHelpers x)

include h

theorem isSome_constant? (hs : s ∈ strategies) (hcategory : s.category = .required) :
    (ctx.constant? s.property.name).isSome = true := by
  have hmem : s ∈ requiredOnly strategies := List.mem_filter.mpr ⟨hs, by simpa using hcategory⟩
  obtain ⟨t, ht, -⟩ := h.exists_tracking (List.ne_nil_of_mem hmem)
  rw [h.constant?_of_required ht hs hcategory, Option.isSome_some]

theorem exists_required (htracking : ctx.tracking.isSome = true) :
    ∃ s ∈ strategies, s.category = .required := by
  obtain ⟨s, hs⟩ := List.exists_mem_of_ne_nil (requiredOnly strategies) fun hnil ↦ by
    simp [h.requiredOnly_eq_nil_iff.mp hnil] at htracking
  obtain ⟨hs, hcategory⟩ := List.mem_filter.mp hs
  exact ⟨s, hs, by simpa using hcategory⟩

include hds

theorem uses_codes (hx : x ∈ helperNames)
    (htracking : ctx.tracking.isSome = true → x ≠ unsetField ∧ x ≠ baseVar) :
    ∀ c ∈ strategies.map (·.code ctx), c.Uses (avoidingWord x) := by
  rw [List.forall_mem_map]
  intro s hs
  obtain ⟨y, hy, hfits, -⟩ := h.exists_fits hs
  exact hfits.avoidsHelper (hds y hy) hx htracking

/-- A method that merges all properties, each by its own code, declares the variable of the default
builder for use. -/
theorem declaresForUse_merging {m : Method} (first : List Stmt)
    (merge : PropertyCode → Option String → List Stmt)
    (hbody : m.body = first ++
      ((defaultsDecl ctx ((strategies.map (·.code ctx)).any (·.mergesAgainstDefaults))).toList ++
        ((strategies.map (·.code ctx)).flatMap (merge · (defaultsOf
            (defaultsDecl ctx ((strategies.map (·.code ctx)).any (·.mergesAgainstDefaults))))) ++
          [ctx.returnThis])))
    (hparam : defaultsVar ∉ m.params.map (·.name))
    (hfirst : Stmt.UsesAll (avoidingWord defaultsVar) first)
    (huses : ∀ {c : PropertyCode}, c.Uses (avoidingWord defaultsVar) →
      Stmt.UsesAll (avoidingWord defaultsVar) (merge c none))
    (hdeclared : ∀ s ∈ strategies, Stmt.allDeclared (merge (s.code ctx) (some defaultsVar)) = [])
    (hmerges : ∀ s ∈ strategies, (s.code ctx).mergesAgainstDefaults = true →
      .var defaultsVar ∈ Stmt.allParts (merge (s.code ctx) (some defaultsVar))) :
    m.DeclaresForUse defaultsVar := by
  -- Without a default builder no code mentions the variable. With one, no property declares it
  -- again, and a property that merges against it uses it.
  refine declaresForUse_defaults ctx _ first
    (fun d ↦ (strategies.map (·.code ctx)).flatMap (merge · d) ++ [ctx.returnThis])
    hbody hparam hfirst (fun _ ↦ ?_) ?_ fun hneeded ↦ ?_
  · rw [Stmt.usesAll_append]
    refine ⟨Stmt.usesAll_flatMap fun c hc ↦ huses ?_, uses_returnThis allowsContext_avoidingWord,
      trivial⟩
    exact h.uses_codes hds (by decide) (fun _ ↦ by decide) c hc
  · rw [Stmt.allDeclared_append, List.mem_append, Stmt.mem_allDeclared_flatMap]
    rintro (⟨c, hc, hx⟩ | hx)
    · obtain ⟨s, hs, rfl⟩ := List.mem_map.mp hc
      rw [hdeclared s hs] at hx
      cases hx
    · simp at hx
  · obtain ⟨_, hmem, hneeded⟩ := List.any_eq_true.mp hneeded
    obtain ⟨s, hs, rfl⟩ := List.mem_map.mp hmem
    rw [Stmt.allParts_append]
    exact List.mem_append_left _ (Stmt.mem_allParts_flatMap.mpr ⟨_, hmem, hmerges s hs hneeded⟩)

theorem declaresForUse_mergeFromValue :
    (mergeFromValue ctx (strategies.map (·.code ctx))).DeclaresForUse defaultsVar := by
  have hvalue : (avoidingWord defaultsVar).name "value" := by simp [avoidingWord, defaultsVar]
  refine h.declaresForUse_merging hds [] (·.mergeFromValue "value" ·) (List.append_assoc _ _ _)
    (by simp [mergeFromValue, Method.documented, Param.of, defaultsVar]) trivial
    (fun huses ↦ huses.mergeFromValue "value" none hvalue (by simp))
    (fun s _ ↦ Strategy.allDeclared_mergeFromValue) fun s hs hmerges ↦ ?_
  exact (Strategy.var_mem_merge hmerges (h.isSome_constant? hs)).1

theorem declaresForUse_mergeFromBuilder :
    (mergeFromBuilder ctx (strategies.map (·.code ctx))).DeclaresForUse defaultsVar := by
  have htemplate : (avoidingWord defaultsVar).name "template" := by simp [avoidingWord, defaultsVar]
  refine h.declaresForUse_merging hds (upcast ctx) (·.mergeFromBuilder "template" ·) ?_
    (by simp [mergeFromBuilder, Method.documented, Param.of, defaultsVar]) ?_
    (fun huses ↦ huses.mergeFromBuilder "template" none htemplate (by simp))
    (fun s _ ↦ Strategy.allDeclared_mergeFromBuilder) fun s hs hmerges ↦ ?_
  · rw [body_mergeFromBuilder]
  · unfold upcast
    split
    · have hbase : (avoidingWord defaultsVar).name baseVar := by
        simp [avoidingWord, baseVar, defaultsVar]
      exact ⟨trivial, ⟨allowsContext_avoidingWord.generated, hbase, htemplate⟩, trivial⟩
    · trivial
  · exact (Strategy.var_mem_merge hmerges (h.isSome_constant? hs)).2

theorem declaresForUse_base :
    (mergeFromBuilder ctx (strategies.map (·.code ctx))).DeclaresForUse baseVar := by
  have hok := forbids_avoidingWord baseVar
  by_cases htracking : ctx.tracking.isSome = true
  · have hbody : (mergeFromBuilder ctx (strategies.map (·.code ctx))).body = _ := body_mergeFromBuilder
    rw [upcast, if_pos htracking, List.cons_append, List.singleton_append] at hbody
    have hdeclares : (mergeFromBuilder ctx (strategies.map (·.code ctx))).body =
        [.remark "Upcast to access private fields"] ++
          .declare ctx.generatedType baseVar (.var "template") :: _ := hbody
    have hremark : Stmt.UsesAll (avoidingWord baseVar) [.remark "Upcast to access private fields"] :=
      ⟨trivial, trivial⟩
    have htemplate : (Expr.var "template").Uses (avoidingWord baseVar) := by
      simp [avoidingWord, baseVar]
    refine Method.declaresForUse_of_declares hok hdeclares
      (by simp [mergeFromBuilder, Method.documented, Param.of, baseVar]) hremark htemplate ?_ ?_
    · rw [Stmt.allDeclared_append, Stmt.allDeclared_append, List.mem_append, List.mem_append,
        mem_allDeclared_defaultsDecl_iff, Stmt.mem_allDeclared_flatMap]
      simp [baseVar, defaultsVar, Strategy.allDeclared_mergeFromBuilder]
    · obtain ⟨s, hs, hcategory⟩ := h.exists_required htracking
      refine ⟨.var baseVar, ?_, rfl⟩
      rw [Stmt.allParts_append, Stmt.allParts_append]
      refine List.mem_append_right _ (List.mem_append_left _ (Stmt.mem_allParts_flatMap.mpr
        ⟨s.code ctx, List.mem_map_of_mem hs, ?_⟩))
      exact Strategy.base_mem_mergeFromBuilder hcategory (h.isSome_constant? hs hcategory)
  · -- Nothing is tracked, so no code can name the upcast source.
    have hhelpers : AllowsHelpers (avoidingWord baseVar) ctx :=
      allowsHelpers_avoidingWord (fun _ ↦ by decide) (absurd · htracking) fun _ ↦ by decide
    have hcodes : ∀ c ∈ strategies.map (·.code ctx), c.Uses (avoidingWord baseVar) :=
      h.uses_codes hds (by decide) (absurd · htracking)
    exact (uses_mergeFromBuilder (allowsFixed_avoidingWord (by decide) _) allowsContext_avoidingWord
      hhelpers hcodes).declaresForUse hok

/-- If no property is cleared by the default builder, clearing leaves its variable alone. -/
theorem usesAll_clear (hneeded : (strategies.map (·.code ctx)).any (·.clearsFromTemplate) = false) :
    Stmt.UsesAll (avoidingWord defaultsVar)
      ((strategies.map (·.code ctx)).map (·.clear defaultsVar)) := by
  refine Stmt.usesAll_map fun c hc ↦ ?_
  have hcode : c.Uses (avoidingWord defaultsVar) :=
    h.uses_codes hds (by decide) (fun _ ↦ by decide) c hc
  -- The name is passed on all the same, and all codes leave it alone.
  have hclears := List.any_eq_false.mp hneeded c hc
  obtain ⟨s, hs, rfl⟩ := List.mem_map.mp hc
  rw [Strategy.clear_eq_partialClear ((Bool.not_eq_true _).mp hclears)]
  exact hcode.partialClear

theorem declaresForUse_clear :
    ∀ m ∈ clearMethod? ctx (strategies.map (·.code ctx)), m.DeclaresForUse defaultsVar := by
  intro m hm
  have hf : AllowsFixed (avoidingWord defaultsVar) ctx.features :=
    allowsFixed_avoidingWord (by decide) _
  by_cases hfactory : ctx.datatype.factory.isSome = true
  · rw [clearMethod?, if_pos hfactory] at hm
    obtain rfl := Option.some.inj hm
    refine declaresForUse_defaults ctx ((strategies.map (·.code ctx)).any (·.clearsFromTemplate)) []
      (fun d ↦ (strategies.map (·.code ctx)).map (·.clear defaultsVar) ++ (restoreUnset ctx d ++
        [ctx.returnThis])) ?_ List.not_mem_nil trivial (fun hnone ↦ ?_) ?_ fun hneeded ↦ ?_
    · simp only [Method.documented, List.append_assoc, List.nil_append]
    · have hunset : unsetField ≠ defaultsVar := by decide
      have hrestore : Stmt.UsesAll (avoidingWord defaultsVar) (restoreUnset ctx none) :=
        uses_restoreUnset hf allowsClasses_avoidingWord (fun _ ↦ hunset) (by simp)
      rw [Stmt.usesAll_append, Stmt.usesAll_append]
      exact ⟨h.usesAll_clear hds (eq_false_of_defaultsDecl_eq_none hnone hfactory), hrestore,
        uses_returnThis allowsContext_avoidingWord, trivial⟩
    · rw [Stmt.allDeclared_append, Stmt.allDeclared_append, Strategy.allDeclared_map_clear,
        allDeclared_restoreUnset]
      simp
    · obtain ⟨_, hmem, hneeded⟩ := List.any_eq_true.mp hneeded
      obtain ⟨s, hs, rfl⟩ := List.mem_map.mp hmem
      rw [Stmt.allParts_append]
      exact List.mem_append_left _ (Stmt.mem_allParts_iff.mpr
        ⟨_, List.mem_map_of_mem hmem, Strategy.var_mem_clear hneeded⟩)
  · -- Without a default builder the method is the one for tests, if there is any.
    have hhelpers : AllowsHelpers (avoidingWord defaultsVar) ctx :=
      allowsHelpers_avoidingWord (absurd · hfactory) (fun _ ↦ by decide) fun _ ↦ by decide
    have hcodes : ∀ c ∈ strategies.map (·.code ctx), c.Uses (avoidingWord defaultsVar) :=
      h.uses_codes hds (by decide) fun _ ↦ by decide
    exact (uses_clearMethod? hf allowsContext_avoidingWord allowsClasses_avoidingWord hhelpers hcodes m
      hm).declaresForUse (forbids_avoidingWord defaultsVar)

end IsPlan

/-! ## Fields -/

theorem field_mem_members_iff {codes : List PropertyCode} {annotate : Bool} {f : Field} :
    .field f ∈ (topClass ctx codes annotate).members ↔
      f ∈ staticFields ctx codes ∨ f ∈ builderFields ctx codes := by
  rw [TopClass.mem_members_iff, items_topClass]
  simp

theorem ne_joinerField_of_mem_staticFields {codes : List PropertyCode}
    (h : ¬needsJoiner ctx.features (valueFields codes) = true) :
    ∀ f ∈ staticFields ctx codes, f.name ≠ joinerField := by
  rw [staticFields, if_neg h, List.append_nil]
  split
  · simp [serialVersion, joinerField]
  · simp

theorem valueText_mem_members :
    .method (valueTextOf ctx strategies) ∈ (valueOf ctx strategies).members := by
  refine List.mem_flatten.mpr ⟨_, List.mem_cons_of_mem _ (List.mem_map.mpr ⟨_, ?_, rfl⟩),
    List.mem_singleton_self _⟩
  exact List.mem_cons_of_mem _ (List.mem_append_right _ (by simp [valueTextOf]))

namespace IsPlan

variable {chain : Chain} {f : Features} {d : Datatype} {ds : List Declaration}
  (h : IsPlan chain f d ds ctx strategies) (hds : ∀ x ∈ ds, AvoidsHelpers x)

include h hds

theorem allowsProperty_avoidingWord (hx : x ∈ helperNames) :
    ∀ c ∈ strategies.map (·.code ctx), AllowsProperty (avoidingWord x) c.property := by
  rw [List.forall_mem_map]
  intro s hs
  obtain ⟨y, hy, hfits, -⟩ := h.exists_fits hs
  rw [Strategy.property_code]
  exact allowsProperty_of_isLax (isLax_avoidingWord x) (hfits.name_ne (hds y hy) hx)

/-- **A helper that the context cannot have is not mentioned** anywhere in the class. -/
theorem not_mentions_of_mem_items (hx : x ∈ helperNames)
    (hh : AllowsHelpers (avoidingWord x) ctx) (annotate : Bool) :
    ∀ i ∈ (builderClass ctx strategies annotate).items, ¬i.Mentions x := by
  have hok := forbids_avoidingWord x
  have hf : AllowsFixed (avoidingWord x) ctx.features := allowsFixed_avoidingWord hx _
  have hc : AllowsContext (avoidingWord x) ctx := allowsContext_avoidingWord
  have hd : AllowsClasses (avoidingWord x) ctx := allowsClasses_avoidingWord
  have hp := h.allowsProperty_avoidingWord hds hx
  have hu := h.uses_codes hds hx fun htracking ↦ ⟨(hh.unset htracking).symm, (hh.base htracking).symm⟩
  simp only [builderClass, items_topClass, List.forall_mem_append, List.forall_mem_map,
    List.forall_mem_singleton]
  refine ⟨⟨⟨⟨⟨⟨?_, ?_⟩, ?_⟩, ?_⟩, ?_⟩, ?_⟩, ?_⟩
  · exact fun f hmem ↦ Member.Uses.not_mentions hok (uses_staticFields hf hh f hmem)
  · exact fun m hmem ↦
      Member.Uses.not_mentions hok (uses_fromMethod? hf hc hd m (Option.mem_toList.mp hmem))
  · exact fun t _ ↦ not_mentions_enumDecl hx
  · exact fun f hmem ↦ Member.Uses.not_mentions hok (uses_builderFields hf hd hh hu f hmem)
  · exact fun m hmem ↦ Member.Uses.not_mentions hok (uses_builderMethods hf hc hd hh hu m hmem)
  · exact NestedClass.Uses.not_mentions hok (uses_valueClass hf hc hd hh hp hu)
  · exact fun p hmem ↦ NestedClass.Uses.not_mentions hok
      (uses_partialClass hf hc hd hh hp hu (hd.partialType p (Option.mem_toList.mp hmem)))

theorem declaresFieldForUse_builder (annotate : Bool) :
    DeclaresFieldForUse unsetField (builderClass ctx strategies annotate).members := by
  cases htracking : ctx.tracking with
  | none =>
    have hnone := h.not_mentions_of_mem_items hds (by decide) (allowsHelpers_unset htracking) annotate
    exact declaresFieldForUse_of_not_mentions fun m hm ↦ hnone _ (TopClass.mem_members_iff.mp hm)
  | some t =>
    -- Building asks whether the set is empty.
    have hfield : t.builderField ∈ builderFields ctx (strategies.map (·.code ctx)) := by
      simp [builderFields, htracking]
    have hbuild : buildMethod ctx ∈ builderMethods ctx (strategies.map (·.code ctx)) := by
      simp [builderMethods]
    refine declaresFieldForUse_of_usesField (field_mem_members_iff.mpr (.inr hfield)) rfl
      (TopClass.mem_members_iff.mpr (method_mem_items hbuild)) (.inl ?_)
    simp only [buildMethod, Method.documented, htracking, Option.isSome_some, if_true,
      Stmt.allParts_append]
    exact List.mem_append_left _ own_mem_buildCheck

theorem declaresFieldForUse_partial {type : GenericClass} (htype : type ∈ ctx.datatype.partialType) :
    DeclaresFieldForUse unsetField (partialOf ctx strategies type).members := by
  cases htracking : ctx.tracking with
  | none =>
    have hnone := h.not_mentions_of_mem_items hds (by decide) (allowsHelpers_unset htracking) false
    refine declaresFieldForUse_of_not_mentions fun m hm hmentions ↦ ?_
    obtain ⟨g, hg, hm⟩ := List.mem_flatten.mp hm
    exact hnone _ (nested_mem_items htype) ⟨g, hg, m, hm, hmentions⟩
  | some t =>
    -- The constructor copies the set of the builder.
    have hfield : .field t.partialField ∈ (partialOf ctx strategies type).members := by
      refine List.mem_flatten.mpr ⟨_, List.mem_cons_self, List.mem_append_right _ ?_⟩
      rw [htracking]
      exact List.mem_cons_self
    refine declaresFieldForUse_of_usesField hfield rfl (List.mem_flatten.mpr
      ⟨_, List.mem_cons_of_mem _ List.mem_cons_self, List.mem_cons_self⟩) (.inr ?_)
    simp [Method.constructor, htracking, Tracking.partialAssignment]

/-- The joiner is declared exactly if `toString` of the value class uses it. -/
theorem joiner_declared_iff (annotate : Bool) :
    (∃ f, .field f ∈ (builderClass ctx strategies annotate).members ∧ f.name = joinerField ∧
        .isStatic ∈ f.modifiers) ↔
      ∃ e ∈ Stmt.allParts (valueTextOf ctx strategies).body, e.Names joinerField := by
  have hok := forbids_avoidingWord joinerField
  by_cases hneeded : needsJoiner ctx.features (valueFields (strategies.map (·.code ctx))) = true
  · refine iff_of_true ⟨joinerDecl, field_mem_members_iff.mpr (.inl ?_), rfl, by simp [joinerDecl]⟩
      ⟨.enclosing joinerField, enclosing_mem_valueToString hneeded, rfl⟩
    simp [staticFields, hneeded]
  · refine iff_of_false ?_ ?_
    · rintro ⟨f, hf, hname, -⟩
      rcases field_mem_members_iff.mp hf with hf | hf
      · exact ne_joinerField_of_mem_staticFields hneeded f hf hname
      · rcases List.mem_append.mp hf with hf | hf
        · obtain ⟨c, hc, rfl⟩ := List.mem_map.mp hf
          exact (h.uses_codes hds (by decide) (fun _ ↦ by decide) c hc).builderField.name hname
        · obtain ⟨t, -, rfl⟩ := List.mem_map.mp hf
          have hunset : unsetField ≠ joinerField := by decide
          exact hunset hname
    · rintro ⟨e, he, hnames⟩
      have hproperties := h.allowsProperty_avoidingWord hds (x := joinerField) (by decide)
      have hfields := uses_valueFields hproperties
      have huses : (valueTextOf ctx strategies).Uses (avoidingWord joinerField) :=
        uses_valueToString (allowsFixed_avoidingWord (by decide) _) trivial (absurd · hneeded) hfields
      exact Stmt.not_refersTo_of_usesAll hok huses.body he (.inl hnames)

/-- **Helpers are declared for use** in the class of a plan. -/
theorem declaresHelpers (annotate : Bool) :
    DeclaresHelpers ctx strategies (builderClass ctx strategies annotate) where
  mergeFromValue := by
    refine ⟨TopClass.mem_members_iff.mpr (method_mem_items ?_), h.declaresForUse_mergeFromValue hds⟩
    simp [builderMethods]
  mergeFromBuilder := by
    refine ⟨TopClass.mem_members_iff.mpr (method_mem_items ?_),
      h.declaresForUse_mergeFromBuilder hds, h.declaresForUse_base hds⟩
    simp [builderMethods]
  clear m hm := by
    refine ⟨TopClass.mem_members_iff.mpr (method_mem_items ?_), h.declaresForUse_clear hds m hm⟩
    simp [builderMethods, Option.mem_def.mp hm]
  unset := h.declaresFieldForUse_builder hds annotate
  partialUnset type htype := ⟨nested_mem_items htype, h.declaresFieldForUse_partial hds htype⟩
  joiner := by
    refine ⟨?_, valueText_mem_members, h.joiner_declared_iff hds annotate⟩
    rw [builderClass, items_topClass]
    simp [valueOf]
  noDefaults hfactory := by
    have hhelpers : AllowsHelpers (avoidingWord defaultsVar) ctx :=
      allowsHelpers_avoidingWord (by simp [hfactory]) (fun _ ↦ by decide) fun _ ↦ by decide
    exact h.not_mentions_of_mem_items hds (by decide) hhelpers annotate

end IsPlan

/-- **Helpers are declared for use** in every generated class. -/
theorem generateWith_declaresHelpers {chain : Chain} {config : Config} {d : Datatype}
    {ds : List Declaration} {g : Generated} (hds : ∀ x ∈ ds, AvoidsHelpers x)
    (h : generateWith chain config d ds = .ok g) :
    ∃ ctx strategies, plan chain config.features d ds = .ok (ctx, strategies) ∧
      g.text = (unitOf d).render config.style
        ((builderClass ctx strategies config.annotate).code config.docs) ∧
      DeclaresHelpers ctx strategies (builderClass ctx strategies config.annotate) := by
  obtain ⟨ctx, strategies, hplan, hg⟩ := generateWith_eq_ok_iff.mp h
  exact ⟨ctx, strategies, plan_eq_ok_iff.mpr hplan, by rw [hg],
    hplan.declaresHelpers hds config.annotate⟩

/-- A required property, one that may be null, and one with a default in which `base` is part of a
longer word. -/
theorem generateWith_declaresHelpers_account :
    let d := Datatype.standard ⟨.top ["com", "example"] "Account", []⟩
    let ds : List Declaration :=
      [.plain (.of "owner" (.ofText "java.lang.String")),
        ⟨.of "alias" (.ofText "java.lang.String"), [.marker (.top ["a"] "Nullable")], none, none⟩,
        ⟨.of "store" (.ofText "int"), [], none, some (.initializer "database()")⟩]
    (∀ x ∈ ds, AvoidsHelpers x) ∧
      ∃ g, generateWith .standard ⟨⟨.java6, true⟩, true, false, ⟨.four, .lf⟩⟩ d ds = .ok g ∧
        ∃ ctx strategies, plan .standard ⟨.java6, true⟩ d ds = .ok (ctx, strategies) ∧
          DeclaresHelpers ctx strategies (builderClass ctx strategies false) := by
  intro d ds
  have hwords : ∀ x ∈ helperNames, ¬HasWord x "database()" := by decide +kernel
  have hds : ∀ x ∈ ds, AvoidsHelpers x := by
    simp only [ds, List.forall_mem_cons]
    refine ⟨⟨by decide, fun _ hx ↦ (nomatch hx)⟩, ⟨by decide, fun _ hx ↦ (nomatch hx)⟩,
      ⟨by decide, fun text htext ↦ ?_⟩, by simp⟩
    obtain rfl := DefaultSource.initializer.inj (Option.some.inj htext)
    exact hwords
  obtain ⟨g, hg⟩ : ∃ g,
      generateWith .standard ⟨⟨.java6, true⟩, true, false, ⟨.four, .lf⟩⟩ d ds = .ok g := ⟨_, rfl⟩
  obtain ⟨ctx, strategies, hplan, -, hhelpers⟩ := generateWith_declaresHelpers hds hg
  exact ⟨hds, g, hg, ctx, strategies, hplan, hhelpers⟩

end JavaBuilder.Builder
