import JavaBuilder.Builder.Strategy.Required

/-!
# Properties with a default

A property of any field type for which the builder has a default, either an expression that
initializes its field or something the constructor of the user's builder does.
-/

namespace JavaBuilder.Builder

open Java Model

/-- A property that need not be set. -/
structure Defaulted where
  property : Property
  /-- Where its default comes from. -/
  source : DefaultSource
deriving DecidableEq, Repr

namespace Defaulted

/-- Any property of a field type with a default. -/
def of? (d : Declaration) : Option Defaulted :=
  match d.default with
  | none => none
  | some source => if isFieldType d.property.type then some ⟨d.property, source⟩ else none

variable (ctx : Context) (v : Defaulted)

/-- How its values are compared. -/
def kind : FieldKind := .of v.property.type false

/-- The expression that initializes its field. -/
def initializer? : Option Expr :=
  match v.source with
  | .constructor => none
  | .initializer code => some (.verbatim code)

/-- Setter, mapping method and getter. -/
def accessors : List Method :=
  let p := v.property
  [checkedSetter ctx p []] ++
    (if ctx.features.hasLambdas then [mapMethod ctx p (.ownField p.name mapLocals) false] else []) ++
    [builderGetter ctx p [.ret (.own p.name)]]

/-- Set the property, unless the default builder has the same value. -/
def merge (value : Expr) (defaults : Option String) : List Stmt :=
  match defaults with
  | none => [callSetter v.property value]
  | some d =>
    [.ifThen (v.kind.differs ctx.features value (readBuilder v.property d))
      [callSetter v.property value]]

def code : PropertyCode where
  property := v.property
  category := .hasDefault
  kind := v.kind
  builderField := .hidden v.property.type v.property.name v.initializer?
  accessors := v.accessors ctx
  mergesAgainstDefaults := true
  mergeFromValue := fun x ↦ v.merge ctx (readValue v.property x)
  mergeFromBuilder := fun x ↦ v.merge ctx (readBuilder v.property x)
  clearsFromTemplate := true
  clear := copyField v.property
  partialClear :=
    .assign (.own v.property.name) (v.initializer?.getD (zeroOf v.property.type))

end Defaulted

end JavaBuilder.Builder
