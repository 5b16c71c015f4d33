import JavaBuilder.Builder.PropertyCode

/-!
# Required properties

The fallback: any type that a field can have. The builder's getter refuses to answer until the
property is set, so merging asks the set of unset properties before it calls a getter, on the source
builder as well as on the default builder.
-/

namespace JavaBuilder.Builder

open Java Model

/-- A type that a field can have. -/
def isFieldType (t : TypeRef) : Bool := t != .void && !t.isWildcard && t.isResolved

/-- A property that must be set. -/
structure Required where
  property : Property
deriving DecidableEq, Repr

namespace Required

/-- Any property of a field type can be required. -/
def of? (d : Declaration) : Option Required :=
  if isFieldType d.property.type then some ⟨d.property⟩ else none

variable (ctx : Context) (r : Required)

/-- How its values are compared. -/
def kind : FieldKind := .of r.property.type false

/-- Its constant is in the set of unset properties that a variable's builder has. -/
def unsetOn (x : String) (constant : Expr) : Expr :=
  .invoke (.field (.var x) unsetField) "contains" [constant]

/-- The value differs from that of the default builder. -/
def differsFrom (defaults : String) (value : Expr) : Expr :=
  r.kind.differs ctx.features value (readBuilder r.property defaults)

/-- Setter, mapping method and getter. -/
def accessors : List Method :=
  let p := r.property
  let constant := ctx.constant? p.name
  let remove (c : Expr) : Stmt := .eval (.invoke (.own unsetField) "remove" [c])
  [checkedSetter ctx p (constant.toList.map remove)] ++
    (if ctx.features.hasLambdas then [mapMethod ctx p (.ownCall p.builderGetter []) true] else []) ++
    [.documented
      [.line ["Returns the value that will be returned by ", ctx.getterLink p, "."],
        .blank,
        .line ["@throws IllegalStateException if the field has not been set"]]
      p.type p.builderGetter []
      (constant.toList.map (requireSet ctx.features p.name) ++ [.ret (.own p.name)])]

/-- Set the property, unless the default builder has the same value. -/
def mergeFromValue (x : String) (defaults : Option String) : List Stmt :=
  let value := readValue r.property x
  match defaults, ctx.constant? r.property.name with
  | some d, some c =>
    [.ifThen (.binary .or (.next 4) (unsetOn d c) (r.differsFrom ctx d value))
      [callSetter r.property value]]
  | _, _ => [callSetter r.property value]

/-- Set the property if it is set on the source, unless the default builder has the same value. -/
def mergeFromBuilder (x : String) (defaults : Option String) : List Stmt :=
  let value := readBuilder r.property x
  match ctx.constant? r.property.name with
  | none => [callSetter r.property value]
  | some c =>
    let isSet := Expr.not (unsetOn baseVar c)
    match defaults with
    | some d =>
      [.ifThen
        (.binary .and (.next 4) isSet
          (.paren (.binary .or (.next 8) (unsetOn d c) (r.differsFrom ctx d value))))
        [callSetter r.property value]]
    | none => [.ifThen isSet [callSetter r.property value]]

def code : PropertyCode where
  property := r.property
  category := .required
  kind := r.kind
  builderField := .hidden r.property.type r.property.name none
  accessors := r.accessors ctx
  mergesAgainstDefaults := true
  mergeFromValue := r.mergeFromValue ctx
  mergeFromBuilder := r.mergeFromBuilder ctx
  clearsFromTemplate := true
  clear := copyField r.property
  partialClear := .assign (.own r.property.name) (zeroOf r.property.type)

end Required

end JavaBuilder.Builder
