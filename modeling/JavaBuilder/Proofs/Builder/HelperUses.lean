import Mathlib.Tactic.SplitIfs
import JavaBuilder.Proofs.Builder.Avoidance
import JavaBuilder.Proofs.Java.Mentions

/-!
# What uses a helper

Generated code has four helpers that it declares only where it needs them: the variables of the default
builder and of the upcast source, the set of unset properties, and the joiner. This module is about who
uses them. The code of a property leaves all of them alone, except that a required property uses those
of tracking, and that merging and clearing use the default builder where the strategy says that they do.

So flags and code agree, one strategy at a time: code without the flag is made of everything but the
variable, and in code with the flag there is an expression that names it.
-/

namespace JavaBuilder.Java

/-- Everything but a field or variable, and source text that has its name as a word. -/
def avoidingWord (x : String) : Allowed :=
  { anything with name := (· ≠ x), verbatim := fun text ↦ ¬HasWord x text }

theorem isLax_avoidingWord (x : String) : (avoidingWord x).IsLax :=
  ⟨fun _ ↦ trivial, fun _ ↦ trivial, fun _ ↦ trivial, fun _ ↦ trivial, fun _ ↦ trivial,
    fun _ ↦ trivial, fun _ ↦ trivial, trivial⟩

theorem forbids_avoidingWord (x : String) : (avoidingWord x).Forbids x := ⟨fun h ↦ h rfl, id⟩

end JavaBuilder.Java

namespace JavaBuilder.Builder

open Java Model

variable {ctx : Context} {x : String}

/-- The property neither has the name of a helper nor mentions one in source text. -/
structure AvoidsHelpers (d : Declaration) : Prop where
  name : d.property.name ∉ helperNames
  initializer : ∀ text, d.default = some (.initializer text) → ∀ x ∈ helperNames, ¬HasWord x text

/-! ## What does not need a helper -/

theorem allowsFixed_avoidingWord (hx : x ∈ helperNames) (f : Features) :
    AllowsFixed (avoidingWord x) f :=
  allowsFixed_of_isLax (isLax_avoidingWord x) fun h ↦ ne_of_isFixedName h hx

theorem allowsContext_avoidingWord : AllowsContext (avoidingWord x) ctx :=
  allowsContext_of_isLax (isLax_avoidingWord x)

/-- The context can have the helper only if a default builder can be had, if something is tracked, or if
Guava is there. -/
theorem allowsHelpers_avoidingWord
    (hdefaults : ctx.datatype.factory.isSome = true → x ≠ defaultsVar)
    (htracking : ctx.tracking.isSome = true → x ≠ unsetField ∧ x ≠ baseVar)
    (hguava : ctx.features.guava = true → x ≠ joinerField) : AllowsHelpers (avoidingWord x) ctx :=
  ⟨fun h ↦ (hdefaults h).symm, fun h ↦ (htracking h).2.symm, fun h ↦ (htracking h).1.symm,
    fun h ↦ (hguava h).symm⟩

theorem allowsHelpers_unset (h : ctx.tracking = none) : AllowsHelpers (avoidingWord unsetField) ctx :=
  allowsHelpers_avoidingWord (fun _ ↦ by decide) (by simp [h]) fun _ ↦ by decide

theorem allowsClasses_avoidingWord : AllowsClasses (avoidingWord x) ctx where
  sourceName := ⟨trivial, trivial⟩
  typeParams _ _ := trivial
  generated := ⟨trivial, trivial, fun _ _ ↦ trivial⟩
  value := ⟨trivial, trivial, fun _ _ ↦ trivial⟩
  partialType _ _ := ⟨trivial, trivial, fun _ _ ↦ trivial⟩
  enum _ _ := trivial
  constants _ _ _ _ := trivial

theorem Strategy.Fits.name_ne {s : Strategy} {d : Declaration} (h : s.Fits ctx.features d)
    (hd : AvoidsHelpers d) (hx : x ∈ helperNames) : s.property.name ≠ x := by
  rintro rfl
  exact hd.name (h.property_eq ▸ hx)

/-- **The code of a property names no helper**, unless it is one of tracking. -/
theorem Strategy.Fits.avoidsHelper {s : Strategy} {d : Declaration} (h : s.Fits ctx.features d)
    (hd : AvoidsHelpers d) (hx : x ∈ helperNames)
    (htracking : ctx.tracking.isSome = true → x ≠ unsetField ∧ x ≠ baseVar) :
    (s.code ctx).Uses (avoidingWord x) := by
  have hlax := isLax_avoidingWord x
  refine Strategy.uses_code (allowsFixed_avoidingWord hx _) allowsContext_avoidingWord
    (allowsProperty_of_isLax hlax (h.name_ne hd hx)) ?_
  refine h.allows (allowsDeclaration_of_isLax hlax fun text htext ↦ hd.initializer text htext x hx)
    fun _ c hc ↦ ?_
  -- Only a required property with a constant may use the helpers of tracking.
  obtain ⟨hunset, hbase⟩ := htracking (isSome_tracking_of_constant? hc)
  exact ⟨hunset.symm, hbase.symm, uses_constant? allowsClasses_avoidingWord c hc⟩

/-- The enum of the required properties mentions no helper. -/
theorem not_mentions_enumDecl (hx : x ∈ helperNames) {t : Tracking} :
    ¬(Item.enum t.enumDecl).Mentions x := by
  have hok := forbids_avoidingWord x
  rintro (⟨c, hc, arg, harg, part, hpart, hrefers⟩ | ⟨g, hg, m, hm, hmentions⟩)
  · obtain ⟨k, -, rfl⟩ := List.mem_map.mp hc
    obtain rfl := List.mem_singleton.mp harg
    have huses : part.Uses (avoidingWord x) :=
      Expr.uses_of_mem_parts (.string k.property) trivial hpart
    exact Expr.UsesValue.not_refersTo hok (.inl huses) hrefers
  · have hf := allowsFixed_avoidingWord hx ⟨.java6, false⟩
    have huses := Tracking.uses_of_mem_groups_enumDecl hf trivial g hg m hm
    exact Member.Uses.not_mentions hok huses hmentions

/-! ## What needs a helper -/

section

variable {e l r : Expr} {y : String}

theorem mem_parts_differs_right {f : Features} {k : FieldKind} (h : e ∈ r.parts) :
    e ∈ (k.differs f l r).parts := by
  cases k with
  | primitive p =>
    have hbits : e ∈ (FieldKind.bits p r).parts := by
      cases p <;> simp_all [FieldKind.bits, Expr.invokeStatic]
    exact List.mem_cons_of_mem _ (List.mem_append_right _ hbits)
  | nonNull | nullable =>
    rw [Expr.parts, List.mem_cons] at h
    simp only [FieldKind.differs]
    split_ifs <;> simp [FieldKind.objectsEqual, Expr.invokeStatic, Expr.invoke, Expr.ne, h]

theorem var_mem_parts_readBuilder {p : Property} : .var y ∈ (readBuilder p y).parts := by
  simp [readBuilder, Expr.invoke]

/-- Comparing with a default builder names its variable. -/
theorem var_mem_parts_differs {f : Features} {k : FieldKind} {p : Property} :
    .var y ∈ (k.differs f l (readBuilder p y)).parts :=
  mem_parts_differs_right var_mem_parts_readBuilder

end

namespace Strategy

variable {s : Strategy} {y : String}

/-- **A property that is merged against the default builder names its variable**, provided that a
required one is tracked. -/
theorem var_mem_merge (hmerges : (s.code ctx).mergesAgainstDefaults = true)
    (hconstant : s.category = .required → (ctx.constant? s.property.name).isSome = true) :
    .var y ∈ Stmt.allParts ((s.code ctx).mergeFromValue x (some y)) ∧
      .var y ∈ Stmt.allParts ((s.code ctx).mergeFromBuilder x (some y)) := by
  cases s with
  | nullable n | optional o | defaulted v =>
    constructor <;>
      exact List.mem_append_left _ (List.mem_append_left _ var_mem_parts_differs)
  | required r =>
    obtain ⟨c, hc⟩ : ∃ c, ctx.constant? r.property.name = some c :=
      Option.isSome_iff_exists.mp (hconstant rfl)
    constructor
    · change _ ∈ Stmt.allParts (r.mergeFromValue ctx x (some y))
      simp [Required.mergeFromValue, hc, Required.unsetOn, Expr.invoke]
    · change _ ∈ Stmt.allParts (r.mergeFromBuilder ctx x (some y))
      simp [Required.mergeFromBuilder, hc, Required.unsetOn, Expr.invoke]
  | collection c | map m | multiset m | nested b => cases hmerges

/-- A tracked property asks the upcast source whether it is set. -/
theorem base_mem_mergeFromBuilder {d : Option String} (hcategory : s.category = .required)
    (hconstant : (ctx.constant? s.property.name).isSome = true) :
    .var baseVar ∈ Stmt.allParts ((s.code ctx).mergeFromBuilder x d) := by
  cases s with
  | required r =>
    obtain ⟨c, hc⟩ : ∃ c, ctx.constant? r.property.name = some c :=
      Option.isSome_iff_exists.mp hconstant
    change _ ∈ Stmt.allParts (r.mergeFromBuilder ctx x d)
    cases d <;> simp [Required.mergeFromBuilder, hc, Required.unsetOn, Expr.invoke]
  | _ => cases hcategory

theorem var_mem_clear (h : (s.code ctx).clearsFromTemplate = true) :
    .var y ∈ ((s.code ctx).clear y).parts := by
  cases s with
  | nullable n | optional o | defaulted v | required r =>
    exact List.mem_append_right _ (List.mem_cons_of_mem _ List.mem_cons_self)
  | collection c | map m | multiset m | nested b => cases h

theorem clear_eq_partialClear (h : (s.code ctx).clearsFromTemplate = false) :
    (s.code ctx).clear y = (s.code ctx).partialClear := by
  cases s with
  | nullable n | optional o | defaulted v | required r => cases h
  | collection c | map m | multiset m | nested b => rfl

theorem declared_clear : ((s.code ctx).clear y).declared = [] := by
  cases s <;> rfl

theorem allDeclared_map_clear (strategies : List Strategy) :
    Stmt.allDeclared ((strategies.map (·.code ctx)).map (·.clear y)) = [] := by
  induction strategies with
  | nil => rfl
  | cons s ss ih => simp only [List.map_cons, Stmt.allDeclared, declared_clear, ih, List.append_nil]

end Strategy

theorem allDeclared_restoreUnset {d : Option String} :
    Stmt.allDeclared (Assembly.restoreUnset ctx d) = [] := by
  unfold Assembly.restoreUnset
  cases ctx.tracking <;> rfl

theorem own_mem_buildCheck {f : Features} :
    .own unsetField ∈ Stmt.allParts (Tracking.buildCheck f) := by
  unfold Tracking.buildCheck
  split <;> simp [Expr.invokeStatic, Expr.invoke]

/-- The text of a value names the joiner where it is needed. -/
theorem enclosing_mem_valueToString {f : Features} {source : ClassName} {fields : List StoredField}
    (h : needsJoiner f fields = true) :
    .enclosing joinerField ∈ Stmt.allParts (valueToString f source fields).body := by
  have hnullable : fields.any (·.kind.isNullable) = true := by
    rw [needsJoiner, Bool.and_eq_true] at h
    exact h.2
  simp [valueToString, toStringMethod, Method.overriding, hnullable, h, joinedText, plusNext]

end JavaBuilder.Builder
