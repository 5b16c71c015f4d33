import JavaBuilder.Builder.PropertyCode
import JavaBuilder.Builder.ValueMethods
import JavaBuilder.Proofs.Java.Uses
import JavaBuilder.Proofs.Text.Diamond

/-!
# The vocabulary of generated code

Generated code takes its names from three places: from a fixed vocabulary of words and library
classes, from the datatype, and from the property. `AllowsFixed`, `AllowsContext` and
`AllowsProperty` say that all names of one place are allowed; what the strategies have in common is
allowed wherever these are.

The fixed vocabulary is that of some features: there are classes of a library that it has only where
the language level is high enough or Guava is there, and so it is with the diamond. The variables and
fields that generated code declares only where it needs them are no part of it.
-/

namespace JavaBuilder.Builder

open Java Model Text

/-- A word of generated code: letters and underscores of ASCII, a letter first. -/
def isWord (x : String) : Bool :=
  match x.toList with
  | [] => false
  | c :: cs => c.isAlpha && cs.all fun d ↦ d.isAlpha || d == '_'

/-- The variables and fields that generated code declares only where it needs them. -/
def helperNames : List String := [defaultsVar, baseVar, unsetField, joinerField]

/-- A fixed name of a variable or a field. -/
def isFixedName (x : String) : Bool := isWord x && !helperNames.contains x

theorem isFixedName_iff {x : String} : isFixedName x = true ↔ isWord x = true ∧ x ∉ helperNames := by
  simp [isFixedName]

/-- A class of a library: all segments of its name are words. -/
def isLibrary (c : ClassName) : Bool := (c.package ++ c.simpleNames).all isWord

def isGuava (c : ClassName) : Bool :=
  ["com", "google", "common"].isPrefixOf (c.package ++ c.simpleNames)

/-- A class of `java.util.function`. -/
def isFunctional (c : ClassName) : Bool :=
  ["java", "util", "function"].isPrefixOf (c.package ++ c.simpleNames)

/-- A class of a library that generated code may use whatever the features are. -/
def isBasic (c : ClassName) : Bool :=
  isLibrary c && !isGuava c && !isFunctional c &&
    !decide (c.package ++ c.simpleNames ∈ [["java", "util", "Objects"], ["java", "util", "Optional"]])

theorem isLibrary_of_isBasic {c : ClassName} (h : isBasic c = true) : isLibrary c = true := by
  simp only [isBasic, Bool.and_eq_true] at h
  exact h.1.1.1

/-- A fixed text of comments and strings: on one line, and without a diamond. -/
def isPhrase (x : String) : Bool := !x.toList.contains '\n' && isSolid x.toList

theorem isPhrase_iff {x : String} : isPhrase x = true ↔ '\n' ∉ x.toList ∧ IsSolid x.toList := by
  rw [isPhrase, Bool.and_eq_true, isSolid_iff]
  simp

/-- The literals that stand in generated code as they are. -/
def fixedLiterals : List String := ["true", "false", "1L", "1", "0"] ++ Primitive.all.map (·.zero)

/-- The fixed parts of generated code are allowed, as far as the features have them. -/
structure AllowsFixed (ok : Allowed) (f : Features) : Prop where
  name : ∀ {x}, isFixedName x = true → ok.name x
  method : ∀ {x}, isWord x = true → ok.method x
  literal : ∀ {x}, x ∈ fixedLiterals → ok.literal x
  type : ∀ {c}, isBasic c = true → ok.type c
  objects : f.hasObjects = true → ok.type (javaUtil "Objects")
  functional : f.hasLambdas = true → ∀ {c}, (isLibrary c && isFunctional c) = true → ok.type c
  guava : f.guava = true → ∀ {c}, (isLibrary c && isGuava c) = true → ok.type c
  diamond : f.hasDiamond = true → ok.diamond
  comment : ∀ {x}, isPhrase x = true → ok.comment x
  string : ∀ {x}, isPhrase x = true → ok.string x
  append : ∀ {x y}, ok.string x → ok.string y → ok.string (x ++ y)

/-- The names of a property are allowed. -/
structure AllowsProperty (ok : Allowed) (p : Property) : Prop where
  name : ok.name p.name
  comment : ok.comment p.name
  string : ok.string p.name
  method : ∀ {x}, isWord x = true → ok.method (p.method x)
  getter : ok.method p.getter
  builder : ok.method (p.builderGetter ++ "Builder")
  type : p.type.Uses ok
  boxedType : p.boxedType.Uses ok

/-- The names of the datatype are allowed. -/
structure AllowsContext (ok : Allowed) (ctx : Context) : Prop where
  builder : ctx.builderType.Uses ok
  generated : ctx.generatedType.Uses ok
  source : ctx.sourceType.Uses ok

/-- The code of a property is made of what is allowed. -/
structure PropertyCode.Uses (ok : Allowed) (c : PropertyCode) : Prop where
  markers : ∀ m ∈ c.markers, ok.type m
  valueType : c.valueType.Uses ok
  builderField : c.builderField.Uses ok
  accessors : ∀ m ∈ c.accessors, m.Uses ok
  stored : ∀ b : Expr, b.Uses ok → (c.stored b).Uses ok
  storedPartial : ∀ b : Expr, b.Uses ok → (c.storedPartial b).Uses ok
  read : ∀ e : Expr, e.Uses ok → (c.read e).Uses ok
  mergeFromValue : ∀ x d, ok.name x → (∀ y ∈ d, ok.name y) → Stmt.UsesAll ok (c.mergeFromValue x d)
  mergeFromBuilder : ∀ x d, ok.name x → (∀ y ∈ d, ok.name y) →
    Stmt.UsesAll ok (c.mergeFromBuilder x d)
  partialClear : c.partialClear.Uses ok
  clear : ∀ x, ok.name x → (c.clear x).Uses ok

variable {ok : Allowed} {f : Features} {ctx : Context} {p : Property}

/-! ## Shared code -/

section

variable (hc : AllowsContext ok ctx)

include hc

theorem uses_sourceName : ok.type ctx.sourceName := hc.source.1

theorem uses_returnThis : ctx.returnThis.Uses ok := by
  simp [Context.returnThis, hc.builder]

theorem uses_getterLink (hp : AllowsProperty ok p) : (ctx.getterLink p).Uses ok :=
  ⟨uses_sourceName hc, hp.getter⟩

end

section

variable (hp : AllowsProperty ok p)

include hp

theorem uses_readValue {x : String} (hx : ok.name x) : (readValue p x).Uses ok := by
  simp [readValue, hx, hp.getter]

theorem uses_readBuilder {x : String} (hx : ok.name x) : (readBuilder p x).Uses ok := by
  have hget : ok.method p.builderGetter := hp.method (by decide)
  simp [readBuilder, hx, hget]

theorem uses_callSetter {e : Expr} (he : e.Uses ok) : (callSetter p e).Uses ok := by
  have hset : ok.method p.setter := hp.method (by decide)
  simp [callSetter, he, hset]

theorem uses_copyField {x : String} (hx : ok.name x) : (copyField p x).Uses ok := by
  simp [copyField, hx, hp.name]

end

section

variable (hf : AllowsFixed ok f)

include hf

theorem uses_unaryOperator (hlambdas : f.hasLambdas = true) {t : TypeRef} (ht : t.Uses ok) :
    (unaryOperator t).Uses ok := by
  simp +decide [unaryOperator, ht, hf.functional hlambdas]

theorem uses_zeroOf (t : TypeRef) : (zeroOf t).Uses ok := by
  unfold zeroOf
  cases hprimitive : t.primitive? with
  | none => simp
  | some q =>
    have hmem : q.zero ∈ fixedLiterals :=
      List.mem_append_right _ (List.mem_map_of_mem (Primitive.mem_all q))
    exact hf.literal hmem

theorem uses_bits (q : Primitive) {e : Expr} (he : e.Uses ok) : (FieldKind.bits q e).Uses ok := by
  cases q <;> simp +decide [FieldKind.bits, he, hf.type, hf.method]

theorem uses_objectsEqual (hobjects : f.hasObjects = true) {l r : Expr} (hl : l.Uses ok)
    (hr : r.Uses ok) : (FieldKind.objectsEqual l r).Uses ok := by
  simp +decide [FieldKind.objectsEqual, hl, hr, hf.objects hobjects, hf.method]

theorem uses_differs (k : FieldKind) {l r : Expr} (hl : l.Uses ok) (hr : r.Uses ok) :
    (k.differs f l r).Uses ok := by
  cases k with
  | primitive q => exact ⟨uses_bits hf q hl, uses_bits hf q hr⟩
  | nonNull =>
    rw [FieldKind.differs]
    split
    · next hobjects => exact uses_objectsEqual hf hobjects hl hr
    · simp +decide [hl, hr, hf.method]
  | nullable =>
    rw [FieldKind.differs]
    split
    · next hobjects => exact uses_objectsEqual hf hobjects hl hr
    · simp +decide [hl, hr, hf.method]

theorem uses_same (hobjects : f.hasObjects = true) (k : FieldKind) {l r : Expr} (hl : l.Uses ok)
    (hr : r.Uses ok) : (k.same l r).Uses ok := by
  cases k with
  | primitive q => exact ⟨uses_bits hf q hl, uses_bits hf q hr⟩
  | nonNull | nullable => exact uses_objectsEqual hf hobjects hl hr

theorem uses_returnsBuilder : returnsBuilder.Uses ok := by
  simp +decide [returnsBuilder, hf.comment]

theorem uses_throwsOnNull {x : String} (hx : ok.comment x) : (throwsOnNull x).Uses ok := by
  simp +decide [throwsOnNull, hx, hf.comment]

end

section

variable (hf : AllowsFixed ok ctx.features)

include hf

theorem uses_nullCheck {e : Expr} (he : e.Uses ok) : (ctx.nullCheck e).Uses ok := by
  unfold Context.nullCheck
  split
  · next hguava => simp +decide [he, hf.guava hguava, hf.method]
  · split
    · next hobjects => simp +decide [he, hf.objects hobjects, hf.method]
    · simp +decide [he, hf.type]

theorem uses_checkedAssignment {target e : Expr} (ht : target.Uses ok) (he : e.Uses ok) :
    Stmt.UsesAll ok (ctx.checkedAssignment target e) := by
  have hcheck : (ctx.nullCheck e).Uses ok := uses_nullCheck hf he
  unfold Context.checkedAssignment
  split
  · next hguava => simp +decide [ht, he, hf.guava hguava, hf.method]
  · split
    · next hobjects => simp +decide [ht, he, hf.objects hobjects, hf.method]
    · simp [ht, he, hcheck]

end

/-! ## Shared accessors -/

section

variable (hf : AllowsFixed ok ctx.features) (hc : AllowsContext ok ctx)
  (hp : AllowsProperty ok p)

include hf hc hp

theorem uses_setterDoc (nullChecked : Bool) : Doc.Uses ok (setterDoc ctx p nullChecked) := by
  have hlink := uses_getterLink hc hp
  have hreturns := uses_returnsBuilder hf
  have hthrows := uses_throwsOnNull hf hp.comment
  cases nullChecked <;>
    simp +decide [setterDoc, Doc.Uses, hlink, hreturns, hthrows, hf.comment]

theorem uses_checkedSetter {after : List Stmt} (ha : Stmt.UsesAll ok after) :
    (checkedSetter ctx p after).Uses ok := by
  have hdoc := fun checked ↦ uses_setterDoc hf hc hp checked
  have hset : ok.method p.setter := hp.method (by decide)
  have hassign : Stmt.UsesAll ok (ctx.checkedAssignment (.field .this p.name) (.var p.name)) :=
    uses_checkedAssignment hf (by simp [hp.name]) (by simp [hp.name])
  have hreturn := uses_returnThis hc
  simp only [checkedSetter, Method.uses_documented_iff]
  refine ⟨hdoc _, hc.builder, hset, by simp [hp.type, hp.name], ?_⟩
  rw [Stmt.usesAll_append, Stmt.usesAll_append]
  refine ⟨⟨?_, ha⟩, by simp [hreturn]⟩
  split
  · exact hassign
  · simp [hp.name]

theorem uses_mapMethod (hlambdas : ctx.features.hasLambdas = true) {current : Expr}
    (h : current.Uses ok) (mayBeUnset : Bool) : (mapMethod ctx p current mayBeUnset).Uses ok := by
  have hlink := uses_getterLink hc hp
  have hreturns := uses_returnsBuilder hf
  have hreturn := uses_returnThis hc
  have hmap : ok.method (p.method "map") := hp.method (by decide)
  have hset : ok.method p.setter := hp.method (by decide)
  have hoperator := uses_unaryOperator hf hlambdas hp.boxedType
  have hmapper : ok.name "mapper" := hf.name (by decide)
  have hcheck : (ctx.nullCheck (.var "mapper")).Uses ok := uses_nullCheck hf hmapper
  cases mayBeUnset <;>
    simp +decide [mapMethod, Doc.Uses, hlink, hreturns, hc.builder, hmap, hset, hoperator, hcheck,
      hmapper, hp.type, h, hreturn, hf.comment, hf.name, hf.method]

theorem uses_builderGetter {body : List Stmt} (h : Stmt.UsesAll ok body) :
    (builderGetter ctx p body).Uses ok := by
  have hlink := uses_getterLink hc hp
  have hget : ok.method p.builderGetter := hp.method (by decide)
  simp +decide [builderGetter, Doc.Uses, hlink, hget, hp.type, h, hf.comment]

end

end JavaBuilder.Builder
