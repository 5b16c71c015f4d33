import JavaBuilder.Proofs.Builder.Avoidance
import JavaBuilder.Proofs.Java.Parts

/-!
# The tracking of required properties

Five places of the generated class look the constant of a required property up by themselves: the
enum, the setter, the getter of the builder, the getter of the partial class and its `toString`. They
agree because all of them look it up by the name of the property, names are distinct, and no two
constants of the enum are the same. `TracksRequired` is this agreement, for all properties at once.
-/

namespace JavaBuilder.Java

/-! ## Guards -/

namespace Stmt

/-- The statement throws unless the condition holds. -/
inductive Requires : Expr → Stmt → Prop where
  | checkState {test : Expr} {layout : ArgLayout} {args : List Expr} : Requires test
    (.eval (.staticCall (guavaBase "Preconditions") [] "checkState" layout (test :: args)))
  | throwUnless {test : Expr} {type : ClassName} {args : List Expr} :
    Requires test (.ifThen (.not test) [.throwNew type args])
  | throwIf {test : Expr} {type : ClassName} {args : List Expr} :
    Requires (.not test) (.ifThen test [.throwNew type args])

/-- The statement refers to a field of the current object. -/
def ReadsOwn (x : String) (s : Stmt) : Prop := .own x ∈ s.parts ∨ .field .this x ∈ s.parts

end Stmt

/-- The expression refers to a field of the current object. -/
def Expr.ReadsOwn (x : String) (e : Expr) : Prop := .own x ∈ e.parts ∨ .field .this x ∈ e.parts

def TopClass.items (c : TopClass) : List Item := c.groups.flatten

@[simp] def Item.enum? : Item → Option EnumDecl
  | enum e => some e
  | member _ | nested _ => none

def TopClass.enums (c : TopClass) : List EnumDecl := c.items.filterMap Item.enum?

def NestedClass.members (c : NestedClass) : List Member := c.groups.flatten

end JavaBuilder.Java

namespace JavaBuilder.Builder

open Java Model Assembly

variable {ctx : Context} {strategies : List Strategy}

/-- Taking a constant out of the set of unset properties. -/
def removal (constant : Expr) : Expr := .invoke (.own unsetField) "remove" [constant]

/-- The set of unset properties is empty. -/
def noneUnset : Expr := .invoke (.own unsetField) "isEmpty" []

/-- The strategies of required properties, in order. -/
def requiredOnly (strategies : List Strategy) : List Strategy :=
  strategies.filter (·.category = .required)

/-- The partial class of a plan. -/
def partialOf (ctx : Context) (strategies : List Strategy) (type : GenericClass) : NestedClass :=
  partialClass ctx (strategies.map (·.code ctx)) type

/-! ## What tracking is -/

/-- A required property is guarded by its constant wherever it is read, and its setter is the only
accessor to take the constant out of the set of unset properties. -/
structure IsGuarded (ctx : Context) (strategies : List Strategy) (s : Strategy) (constant : Expr) :
    Prop where
  setter : ∃ m ∈ (s.code ctx).accessors, m.name = s.property.setter ∧
    .eval (removal constant) ∈ m.body
  onlySetter : ∀ r ∈ strategies, r.property.name ≠ s.property.name →
    ∀ m ∈ (r.code ctx).accessors, removal constant ∉ Stmt.allParts m.body
  getter : ∃ m ∈ (s.code ctx).accessors, m.name = s.property.builderGetter ∧
    ∃ guard, m.body = [guard, .ret (.own s.property.name)] ∧
      Stmt.Requires (.not (isUnset constant)) guard
  partialGetter : ∀ type ∈ ctx.datatype.partialType,
    ∃ m, .method m ∈ (partialOf ctx strategies type).members ∧ m.name = s.property.getter ∧
      ∃ guard, m.body = [guard, .ret ((s.code ctx).read (.own s.property.name))] ∧
        Stmt.Requires (.not (isUnset constant)) guard
  partialText : ∀ type ∈ ctx.datatype.partialType,
    ∃ m, .method m ∈ (partialOf ctx strategies type).members ∧ m.name = "toString" ∧
      (∃ st ∈ m.body, st.ReadsOwn s.property.name) ∧
      ∀ st ∈ m.body, st.ReadsOwn s.property.name →
        ∃ append, st = .ifThen (.not (isUnset constant)) append

/-- A property leaves the set of unset properties alone, and nothing guards it in the partial class. -/
structure IsUnguarded (ctx : Context) (strategies : List Strategy) (s : Strategy) : Prop where
  code : (s.code ctx).Uses (avoidingName unsetField)
  partialGetter : ∀ type ∈ ctx.datatype.partialType,
    ∃ m, .method m ∈ (partialOf ctx strategies type).members ∧ m.name = s.property.getter ∧
      m.body = [.ret ((s.code ctx).read (.own s.property.name))]
  partialText : ∀ type ∈ ctx.datatype.partialType,
    ∃ m, .method m ∈ (partialOf ctx strategies type).members ∧ m.name = "toString" ∧
      ∀ st ∈ m.body, st.ReadsOwn s.property.name → st.Uses (avoidingName unsetField)

/-- Required properties are tracked in a class. -/
structure TracksRequired (ctx : Context) (strategies : List Strategy) (c : TopClass) : Prop where
  accessors : ∀ s ∈ strategies, ∀ m ∈ (s.code ctx).accessors, .member (.method m) ∈ c.items
  partialClass : ∀ type ∈ ctx.datatype.partialType,
    .nested (partialOf ctx strategies type) ∈ c.items
  noEnum : requiredOnly strategies = [] → c.enums = []
  enum : requiredOnly strategies ≠ [] → ∃ name e, ctx.datatype.propertyEnum = some name ∧
    c.enums = [e] ∧ e.name = name.simpleName ∧
    e.constants = (requiredOnly strategies).map
      (fun s ↦ (s.property.constant, [.string s.property.name])) ∧
    (e.constants.map (·.1)).Nodup
  required : ∀ s ∈ strategies, s.category = .required → ∃ name,
    ctx.datatype.propertyEnum = some name ∧
      IsGuarded ctx strategies s (.static name s.property.constant)
  notRequired : ∀ s ∈ strategies, s.category ≠ .required → IsUnguarded ctx strategies s
  build : ∃ m, .member (.method m) ∈ c.items ∧ m.name = "build" ∧ m.params = [] ∧
    (requiredOnly strategies ≠ [] → ∃ check e, m.body = [check, .ret e] ∧
      Stmt.Requires noneUnset check) ∧
    (requiredOnly strategies = [] → ∃ e, m.body = [.ret e])

/-! ## The parts of the class -/

section

variable {codes : List PropertyCode} {annotate : Bool}

theorem items_topClass : (topClass ctx codes annotate).items =
    (staticFields ctx codes).map (fun f ↦ .member (.field f)) ++
      (fromMethod? ctx).toList.map (fun m ↦ .member (.method m)) ++
      ctx.tracking.toList.map (fun t ↦ .enum t.enumDecl) ++
      (builderFields ctx codes).map (fun f ↦ .member (.field f)) ++
      (builderMethods ctx codes).map (fun m ↦ .member (.method m)) ++
      [.nested (valueClass ctx codes)] ++
      ctx.datatype.partialType.toList.map (fun p ↦ .nested (partialClass ctx codes p)) := by
  simp only [TopClass.items, topClass, List.flatten_append, List.flatten_cons, List.flatten_nil,
    List.append_nil, ← List.flatMap_def, ← List.map_eq_flatMap]

theorem enums_topClass : (topClass ctx codes annotate).enums =
    ctx.tracking.toList.map (·.enumDecl) := by
  simp [TopClass.enums, items_topClass, List.filterMap_append, List.filterMap_map,
    Function.comp_def]

theorem method_mem_items {m : Method} (h : m ∈ builderMethods ctx codes) :
    .member (.method m) ∈ (topClass ctx codes annotate).items := by
  simp [items_topClass, h]

theorem nested_mem_items {type : GenericClass} (h : type ∈ ctx.datatype.partialType) :
    .nested (partialClass ctx codes type) ∈ (topClass ctx codes annotate).items := by
  rw [items_topClass]
  exact List.mem_append_right _ (List.mem_map.mpr ⟨type, Option.mem_toList.mpr h, rfl⟩)

theorem storedGetter_mem_members {type : GenericClass} {c : PropertyCode} (h : c ∈ codes) :
    .method (storedGetter c (partialGuard ctx c)) ∈
      (partialClass ctx codes type).members := by
  refine List.mem_flatten.mpr ⟨_, List.mem_cons_of_mem _ (List.mem_map.mpr ⟨_, ?_, rfl⟩),
    List.mem_singleton_self _⟩
  exact List.mem_cons_of_mem _ (List.mem_append_left _ (List.mem_map.mpr ⟨c, h, rfl⟩))

theorem toString_mem_members {type : GenericClass} :
    .method (partialToString ctx.sourceName (partialFields ctx codes)) ∈
      (partialClass ctx codes type).members := by
  refine List.mem_flatten.mpr ⟨_, List.mem_cons_of_mem _ (List.mem_map.mpr ⟨_, ?_, rfl⟩),
    List.mem_singleton_self _⟩
  exact List.mem_cons_of_mem _ (List.mem_append_right _ (by simp))

end

/-! ## Guards of the class -/

theorem requires_requireSet (f : Features) (x : String) (c : Expr) :
    Stmt.Requires (.not (isUnset c)) (requireSet f x c) := by
  unfold requireSet
  split
  · exact .checkState
  · exact .throwIf

theorem exists_buildCheck (f : Features) :
    ∃ check, Tracking.buildCheck f = [check] ∧ Stmt.Requires noneUnset check := by
  unfold Tracking.buildCheck
  split
  · exact ⟨_, rfl, .checkState⟩
  · exact ⟨_, rfl, .throwUnless⟩

theorem Required.exists_setter {r : Required} {c : Expr}
    (h : ctx.constant? r.property.name = some c) :
    ∃ m ∈ r.accessors ctx, m.name = r.property.setter ∧ .eval (removal c) ∈ m.body := by
  refine ⟨checkedSetter ctx r.property [.eval (removal c)], ?_, rfl, ?_⟩
  · simp [Required.accessors, h, removal]
  · simp [checkedSetter, Method.documented]

theorem Required.exists_getter {r : Required} {c : Expr}
    (h : ctx.constant? r.property.name = some c) :
    ∃ m ∈ r.accessors ctx, m.name = r.property.builderGetter ∧
      ∃ guard, m.body = [guard, .ret (.own r.property.name)] ∧
        Stmt.Requires (.not (isUnset c)) guard := by
  refine ⟨_, List.mem_append_right _ (List.mem_singleton_self _), rfl,
    requireSet ctx.features r.property.name c, ?_, requires_requireSet _ _ _⟩
  simp [h, Method.documented]

/-! ## Text of the partial class -/

section

variable {x y : String} {condition : StoredField → Option Expr} {s : StoredField} {st : Stmt}

/-- Append a field to the text so far. -/
def appendCall (label field : String) : Stmt :=
  .eval (.invoke (.invoke (.invoke (.var "result") "append" [.var "separator"]) "append"
    [.string (label ++ "=")]) "append" [.ownField field builderLocals])

/-- Separate what is appended next. -/
def separate : Stmt := .assign (.var "separator") (.string ", ")

theorem appendField_eq (condition : StoredField → Option Expr) (s : StoredField) :
    appendField condition s = match condition s with
      | some test => [.ifThen test [appendCall s.label s.field, separate]]
      | none => [appendCall s.label s.field, separate] := rfl

theorem readsOwn_appendCall_iff (label : String) : (appendCall label y).ReadsOwn x ↔ x = y := by
  unfold appendCall Expr.ownField
  split <;> simp [Stmt.ReadsOwn, Expr.invoke]

theorem not_readsOwn_separate : ¬separate.ReadsOwn x := by simp [separate, Stmt.ReadsOwn]

theorem readsOwn_ifThen_iff {test : Expr} {label : String} :
    (Stmt.ifThen test [appendCall label y, separate]).ReadsOwn x ↔ test.ReadsOwn x ∨ x = y := by
  rw [← readsOwn_appendCall_iff label]
  have hseparate := not_readsOwn_separate (x := x)
  simp only [Stmt.ReadsOwn, Expr.ReadsOwn, not_or] at hseparate ⊢
  simp only [Stmt.parts, List.mem_append, Stmt.mem_allParts_iff, List.exists_mem_cons_iff, hseparate]
  simp only [List.not_mem_nil, false_and, exists_false, or_false]
  tauto

/-- What appends a field reads no other. -/
theorem eq_of_readsOwn_appendField (hst : st ∈ appendField condition s) (h : st.ReadsOwn x)
    (hcondition : ∀ test ∈ condition s, test.ReadsOwn x → x = s.field) : x = s.field := by
  rw [appendField_eq] at hst
  split at hst
  · next test htest =>
    obtain rfl := List.mem_singleton.mp hst
    exact (readsOwn_ifThen_iff.mp h).elim (hcondition test htest) id
  · rcases List.mem_pair.mp hst with rfl | rfl
    · exact (readsOwn_appendCall_iff _).mp h
    · exact absurd h not_readsOwn_separate

/-- A text that is built step by step reads a field only where it appends it. -/
theorem exists_of_readsOwn_stepwiseText {opening : String} {fields : List StoredField}
    (hst : st ∈ stepwiseText opening condition fields) (h : st.ReadsOwn x)
    (hcondition : ∀ s ∈ fields, ∀ test ∈ condition s, test.ReadsOwn x → x = s.field) :
    ∃ s ∈ fields, x = s.field ∧ st ∈ appendField condition s := by
  simp only [stepwiseText, List.mem_cons, List.mem_append, List.not_mem_nil, or_false,
    List.mem_flatMap] at hst
  rcases hst with rfl | rfl | ⟨s, hs, hst⟩ | rfl
  · simp [Stmt.ReadsOwn] at h
  · simp [Stmt.ReadsOwn] at h
  · exact ⟨s, hs, eq_of_readsOwn_appendField hst h (hcondition s hs), hst⟩
  · simp [Stmt.ReadsOwn, Expr.invoke] at h

theorem eq_of_readsOwn_partialCheck (hconstant : ∀ c ∈ s.constant, ∃ owner k, c = .static owner k)
    (hx : x ≠ unsetField) : ∀ test ∈ partialCheck s, test.ReadsOwn x → x = s.field := by
  intro test htest h
  unfold partialCheck at htest
  split at htest
  · next c hc =>
    obtain ⟨owner, k, rfl⟩ := hconstant c hc
    obtain rfl := Option.some.inj htest
    simp [Expr.ReadsOwn, isUnset, Expr.invoke, hx] at h
  · unfold presentCheck Expr.ownField at htest
    split at htest
    · obtain rfl := Option.some.inj htest
      split at h <;> simpa [Expr.ReadsOwn, Expr.ne] using h
    · cases htest

end

/-! ## Plans -/

/-- The stored field of a property in the partial class. -/
def partialField (ctx : Context) (s : Strategy) : StoredField :=
  if s.category = .required then
    ⟨s.property.name, s.property.name, (s.code ctx).kind.inPartial, ctx.constant? s.property.name⟩
  else ⟨s.property.name, s.property.name, (s.code ctx).kind, none⟩

theorem partialFields_map_code :
    partialFields ctx (strategies.map (·.code ctx)) = strategies.map (partialField ctx) := by
  simp [partialFields, partialField, Function.comp_def]

@[simp] theorem field_partialField (s : Strategy) : (partialField ctx s).field = s.property.name := by
  unfold partialField
  split <;> rfl

theorem constant_partialField (s : Strategy) :
    ∀ c ∈ (partialField ctx s).constant, ∃ owner k, c = .static owner k := by
  intro c hc
  unfold partialField at hc
  split at hc
  · obtain ⟨t, -, hc⟩ := Option.bind_eq_some_iff.mp hc
    obtain ⟨k, -, rfl⟩ := Option.map_eq_some_iff.mp hc
    exact ⟨t.enum, k.constant, rfl⟩
  · cases hc

/-- `toString` of the partial class of a plan. -/
def partialTextOf (ctx : Context) (strategies : List Strategy) : Method :=
  partialToString ctx.sourceName (partialFields ctx (strategies.map (·.code ctx)))

theorem requiredOf_boundOf : Tracking.requiredOf (boundOf strategies) =
    (requiredOnly strategies).map fun s ↦ ⟨s.property.name, s.property.constant⟩ := by
  simp [Tracking.requiredOf, boundOf, requiredOnly, List.filter_map, Function.comp_def]

namespace IsPlan

variable {chain : Chain} {f : Features} {d : Datatype} {ds : List Declaration}
  (h : IsPlan chain f d ds ctx strategies) {s : Strategy} {st : Stmt}

include h

/-- `toString` of the partial class reads a property only where it appends it. -/
theorem mem_appendField (hs : s ∈ strategies) (hname : s.property.name ≠ unsetField)
    (hst : st ∈ (partialTextOf ctx strategies).body) (hread : st.ReadsOwn s.property.name) :
    st ∈ appendField partialCheck (partialField ctx s) := by
  simp only [partialTextOf, partialToString, toStringMethod, Method.overriding] at hst
  rw [partialFields_map_code] at hst
  split at hst
  · obtain rfl := List.mem_singleton.mp hst
    simp [Stmt.ReadsOwn] at hread
  · obtain ⟨field, hfield, hx, hst⟩ := exists_of_readsOwn_stepwiseText hst hread
      fun field hfield ↦ by
        obtain ⟨r, -, rfl⟩ := List.mem_map.mp hfield
        exact eq_of_readsOwn_partialCheck (constant_partialField r) hname
    obtain ⟨r, hr, rfl⟩ := List.mem_map.mp hfield
    rw [field_partialField] at hx
    rwa [List.inj_on_of_nodup_map h.nodup_names hs hr hx]

theorem requiredOnly_eq_nil_iff : requiredOnly strategies = [] ↔ ctx.tracking = none := by
  have htracking := h.tracking
  rw [requiredOf_boundOf, List.map_eq_nil_iff] at htracking
  rcases htracking with ⟨hrequired, hnone⟩ | ⟨t, ht, hof⟩
  · exact iff_of_true hrequired hnone
  · refine iff_of_false (fun hrequired ↦ hof.nonempty ?_) (by simp [ht])
    rw [requiredOf_boundOf, hrequired, List.map_nil]

omit h in
theorem mem_partialTextOf (hs : s ∈ strategies)
    (hst : st ∈ appendField partialCheck (partialField ctx s)) :
    st ∈ (partialTextOf ctx strategies).body := by
  simp only [partialTextOf, partialToString, toStringMethod, Method.overriding]
  rw [partialFields_map_code, if_neg (by simpa using List.ne_nil_of_mem hs)]
  refine List.mem_cons_of_mem _ (List.mem_cons_of_mem _ (List.mem_append_left _ ?_))
  exact List.mem_flatMap.mpr ⟨partialField ctx s, List.mem_map_of_mem hs, hst⟩

/-- **A required property is guarded by its constant.** -/
theorem isGuarded {t : Tracking} (ht : ctx.tracking = some t) (hs : s ∈ strategies)
    (hcategory : s.category = .required) (hname : s.property.name ≠ unsetField) :
    IsGuarded ctx strategies s (.static t.enum s.property.constant) := by
  have hconstant := h.constant?_of_required ht hs hcategory
  have hcode : s.code ctx ∈ strategies.map (·.code ctx) := List.mem_map_of_mem hs
  have happend : appendField partialCheck (partialField ctx s) =
      [.ifThen (.not (isUnset (.static t.enum s.property.constant)))
        [appendCall s.property.name s.property.name, separate]] := by
    simp [appendField_eq, partialCheck, partialField, hcategory, hconstant]
  -- The setter, the accessors of the others, the getter, and the two that the partial class has.
  refine ⟨?_, fun r hr hne m hm hmem ↦ ?_, ?_, fun type _ ↦ ?_, fun type _ ↦ ?_⟩
  · cases s with
    | required r => exact Required.exists_setter hconstant
    | _ => cases hcategory
  · have huses := (h.avoidsStatic ht hs hcategory hr hne).accessors m hm
    rcases Stmt.usesValue_of_mem_allParts m.body huses.body hmem with hremoval | ⟨x, hverbatim, -⟩
    · exact hremoval.2.2.1 ⟨rfl, rfl⟩
    · cases hverbatim
  · cases s with
    | required r => exact Required.exists_getter hconstant
    | _ => cases hcategory
  · refine ⟨_, storedGetter_mem_members hcode, ?_, requirePresent s.property.name _, ?_, .throwIf⟩
    · simp [storedGetter, Method.overriding]
    · simp [storedGetter, Method.overriding, partialGuard, hconstant]
  · refine ⟨partialTextOf ctx strategies, toString_mem_members, rfl, ⟨_, mem_partialTextOf hs
      (happend ▸ List.mem_singleton_self _), readsOwn_ifThen_iff.mpr (.inr rfl)⟩, fun st hst hread ↦ ?_⟩
    have hmem := h.mem_appendField hs hname hst hread
    rw [happend, List.mem_singleton] at hmem
    exact ⟨_, hmem⟩

/-- **Any other property is not guarded.** -/
theorem isUnguarded (hds : ∀ x ∈ ds, AvoidsUnset x) (hs : s ∈ strategies)
    (hcategory : s.category ≠ .required) : IsUnguarded ctx strategies s := by
  obtain ⟨x, hx, hfits, -⟩ := h.exists_fits hs
  have hname : s.property.name ≠ unsetField := hfits.property_eq ▸ (hds x hx).name
  have hconstant := h.constant?_of_not_required hs hcategory
  have hcode : s.code ctx ∈ strategies.map (·.code ctx) := List.mem_map_of_mem hs
  refine ⟨hfits.avoidsUnset (hds x hx) hcategory, fun type _ ↦ ?_, fun type _ ↦ ?_⟩
  · refine ⟨_, storedGetter_mem_members hcode, ?_, ?_⟩
    · simp [storedGetter, Method.overriding]
    · simp [storedGetter, Method.overriding, partialGuard, hconstant]
  · refine ⟨partialTextOf ctx strategies, toString_mem_members, rfl, fun st hst hread ↦ ?_⟩
    have hfield : (partialField ctx s).constant = none := by simp [partialField, hcategory]
    have huses : (partialField ctx s).Uses (avoidingName unsetField) :=
      ⟨by rw [field_partialField]; exact hname, trivial, by simp [hfield]⟩
    have hmem := h.mem_appendField hs hname hst hread
    have hfixed := allowsFixed_avoidingUnset ctx.features
    refine (Stmt.usesAll_iff _).mp (uses_appendField hfixed huses ?_) st hmem
    rw [partialCheck, hfield]
    exact uses_presentCheck huses

theorem exists_tracking (hrequired : requiredOnly strategies ≠ []) :
    ∃ t, ctx.tracking = some t ∧ d.propertyEnum = some t.enum ∧
      t.tracked = (requiredOnly strategies).map (fun s ↦ ⟨s.property.name, s.property.constant⟩) ∧
      (t.tracked.map (·.constant)).Nodup := by
  obtain ⟨t, ht⟩ := Option.ne_none_iff_exists'.mp fun hnone ↦
    hrequired (h.requiredOnly_eq_nil_iff.mpr hnone)
  have hof := h.isOf ht
  exact ⟨t, ht, hof.enum, hof.tracked.trans requiredOf_boundOf, hof.constants⟩

/-- **Required properties are tracked** in the class of a plan. -/
theorem tracksRequired (hds : ∀ x ∈ ds, AvoidsUnset x) (annotate : Bool) :
    TracksRequired ctx strategies (builderClass ctx strategies annotate) where
  accessors s hs m hm := by
    refine method_mem_items ?_
    simp only [builderMethods, List.mem_append]
    exact .inl (.inl (.inl (.inl
      (List.mem_flatMap.mpr ⟨s.code ctx, List.mem_map_of_mem hs, hm⟩))))
  partialClass type htype := nested_mem_items htype
  noEnum hnone := by
    rw [builderClass, enums_topClass, h.requiredOnly_eq_nil_iff.mp hnone]
    rfl
  enum hrequired := by
    obtain ⟨t, ht, henum, htracked, hnodup⟩ := h.exists_tracking hrequired
    refine ⟨t.enum, t.enumDecl, h.datatype ▸ henum, ?_, rfl, ?_, ?_⟩
    · rw [builderClass, enums_topClass, ht]
      rfl
    · simp [Tracking.enumDecl, htracked]
    · simpa [Tracking.enumDecl, Function.comp_def] using hnodup
  required s hs hcategory := by
    have hmem : s ∈ requiredOnly strategies := List.mem_filter.mpr ⟨hs, by simpa using hcategory⟩
    obtain ⟨t, ht, henum, -⟩ := h.exists_tracking (List.ne_nil_of_mem hmem)
    obtain ⟨x, hx, hfits, -⟩ := h.exists_fits hs
    exact ⟨t.enum, h.datatype ▸ henum,
      h.isGuarded ht hs hcategory (hfits.property_eq ▸ (hds x hx).name)⟩
  notRequired s hs hcategory := h.isUnguarded hds hs hcategory
  build := by
    refine ⟨buildMethod ctx, method_mem_items ?_, rfl, rfl, fun hrequired ↦ ?_, fun hnone ↦ ?_⟩
    · simp [builderMethods]
    · obtain ⟨t, ht, -⟩ := h.exists_tracking hrequired
      obtain ⟨check, hbuild, hcheck⟩ := exists_buildCheck ctx.features
      refine ⟨check, .create ctx.datatype.value.type ctx.features.hasDiamond [.this], ?_, hcheck⟩
      simp [buildMethod, Method.documented, ht, hbuild, instantiate]
    · refine ⟨.create ctx.datatype.value.type ctx.features.hasDiamond [.this], ?_⟩
      simp [buildMethod, Method.documented, h.requiredOnly_eq_nil_iff.mp hnone, instantiate]

end IsPlan

/-- **Required properties are tracked** in every generated class. -/
theorem generateWith_tracksRequired {chain : Chain} {config : Config} {d : Datatype}
    {ds : List Declaration} {g : Generated} (hds : ∀ x ∈ ds, AvoidsUnset x)
    (h : generateWith chain config d ds = .ok g) :
    ∃ ctx strategies, plan chain config.features d ds = .ok (ctx, strategies) ∧
      strategies.map (·.property) = ds.map (·.property) ∧
      g.text = (unitOf d).render config.style
        ((builderClass ctx strategies config.annotate).code config.docs) ∧
      TracksRequired ctx strategies (builderClass ctx strategies config.annotate) := by
  obtain ⟨ctx, strategies, hplan, hg⟩ := generateWith_eq_ok_iff.mp h
  exact ⟨ctx, strategies, plan_eq_ok_iff.mpr hplan, hplan.map_property, by rw [hg],
    hplan.tracksRequired hds config.annotate⟩

/-- Two required properties around one with a default, for Guava. -/
theorem generateWith_tracksRequired_person :
    let d := Datatype.standard ⟨.top ["com", "example"] "Person", []⟩
    let ds : List Declaration :=
      [.plain (.of "firstName" (.ofText "java.lang.String")),
        ⟨.of "age" (.ofText "int"), [], none, some (.initializer "18")⟩,
        .plain (.of "lastName" (.ofText "java.lang.String"))]
    ∃ g, generateWith .standard ⟨⟨.java6, true⟩, true, false, ⟨.four, .lf⟩⟩ d ds = .ok g ∧
      ∃ ctx strategies, plan .standard ⟨.java6, true⟩ d ds = .ok (ctx, strategies) ∧
        TracksRequired ctx strategies (builderClass ctx strategies false) := by
  intro d ds
  have hds : ∀ x ∈ ds, AvoidsUnset x := by
    simp only [ds, List.forall_mem_cons]
    refine ⟨⟨by decide, fun _ hx ↦ (nomatch hx)⟩, ⟨by decide, fun x hx ↦ ?_⟩,
      ⟨by decide, fun _ hx ↦ (nomatch hx)⟩, by simp⟩
    obtain rfl := DefaultSource.initializer.inj (Option.some.inj hx)
    decide
  obtain ⟨g, hg⟩ : ∃ g,
      generateWith .standard ⟨⟨.java6, true⟩, true, false, ⟨.four, .lf⟩⟩ d ds = .ok g := ⟨_, rfl⟩
  obtain ⟨ctx, strategies, hplan, -, -, htracks⟩ := generateWith_tracksRequired hds hg
  exact ⟨g, hg, ctx, strategies, hplan, htracks⟩

end JavaBuilder.Builder
