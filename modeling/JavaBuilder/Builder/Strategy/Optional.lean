import JavaBuilder.Builder.PropertyCode

/-!
# Optional properties

A property of type `Optional`, of `java.util` or of Guava, each where it is available. Builder and
value store the element itself, null standing for absent, and wrap it when it is read.
-/

namespace JavaBuilder.Builder

open Java Model

/-- The two classes of optional values. -/
inductive OptionalKind where
  | java
  | guava
deriving DecidableEq, Repr

namespace OptionalKind

/-- The kind of a type, where it is available. -/
def of? (f : Features) (t : TypeRef) : Option OptionalKind :=
  if t.isClass "java.util.Optional" && f.hasLambdas then some java
  else if t.isClass "com.google.common.base.Optional" && f.guava then some guava
  else none

def type : OptionalKind → ClassName
  | java => javaUtil "Optional"
  | guava => guavaBase "Optional"

/-- The method that wraps a reference, null for absent. -/
def ofNullable : OptionalKind → String
  | java => "ofNullable"
  | guava => "fromNullable"

/-- The method that makes the absent value. -/
def absent : OptionalKind → String
  | java => "empty"
  | guava => "absent"

end OptionalKind

/-- A property that may be absent. -/
structure OptionalProperty where
  property : Property
  kind : OptionalKind
  /-- The type of the value when it is present. -/
  element : TypeRef
deriving DecidableEq, Repr

namespace OptionalProperty

/-- Optional values of a plain element type, where their class is available. -/
def of? (f : Features) (d : Declaration) : Option OptionalProperty := do
  let kind ← OptionalKind.of? f d.property.type
  let element ← d.property.type.element?
  return ⟨d.property, kind, element⟩

variable (ctx : Context) (o : OptionalProperty)

/-- The method that makes the property absent. -/
def clearName : String := o.property.method "clear"

/-- Set to a value, or clear. -/
def setOrClear (test value : Expr) : Stmt :=
  .ifElse test [.ret (.ownCall o.property.setter [value])] [.ret (.ownCall o.clearName [])]

def setMethod : Method :=
  let p := o.property
  .documented (setterDoc ctx p true) ctx.builderType p.setter [.of o.element p.name]
    (ctx.checkedAssignment (.field .this p.name) (.var p.name) ++ [ctx.returnThis])

def setOptionalMethod : Method :=
  let p := o.property
  .documented (setterDoc ctx p true) ctx.builderType p.setter
    [.of (.declared o.kind.type [.extending o.element]) p.name]
    [o.setOrClear (.invoke (.var p.name) "isPresent" []) (.invoke (.var p.name) "get" [])]

/-- Set to a reference, null for absent. -/
def setNullableMethod : Method :=
  let p := o.property
  .documented (setterDoc ctx p false) ctx.builderType (p.method "setNullable")
    [.of o.element p.name]
    [o.setOrClear (.ne (.var p.name) .null) (.var p.name)]

/-- Apply an operator to the value if it is present. -/
def mapMethod : Method :=
  let p := o.property
  let current := Expr.ownField p.name mapLocals
  .documented
    [.line ["If the value to be returned by ", ctx.getterLink p, " is present,"],
      .line ["replaces it by applying ", .code "mapper", " to it and using the result."],
      .blank,
      returnsBuilder,
      .line ["@throws NullPointerException if ", .code "mapper", " is null or returns null"]]
    ctx.builderType (p.method "map") [.of (unaryOperator o.element) "mapper"]
    [ctx.nullCheck (.var "mapper"),
      .ifThen (.ne current .null)
        [.declare o.element "result" (.invoke (.var "mapper") "apply" [current]),
          .eval (.invoke .this p.setter [.var "result"])],
      ctx.returnThis]

/-- Make the property absent. -/
def clearMethod : Method :=
  .documented
    [.line ["Sets the value to be returned by ", ctx.getterLink o.property],
      .line ["to ", .linkAs o.kind.type o.kind.absent ("Optional." ++ o.kind.absent ++ "()"), "."],
      .blank,
      returnsBuilder]
    ctx.builderType o.clearName []
    [.assign (.field .this o.property.name) .null, ctx.returnThis]

/-- Read the property. -/
def getMethod : Method :=
  { builderGetter ctx o.property
      [.ret (.invokeStatic o.kind.type o.kind.ofNullable [.own o.property.name])] with
    result := some (.declared o.kind.type [o.element]) }

def accessors : List Method :=
  [o.setMethod ctx, o.setOptionalMethod ctx, o.setNullableMethod ctx] ++
    (if ctx.features.hasLambdas then [o.mapMethod ctx] else []) ++
    [o.clearMethod ctx, o.getMethod ctx]

/-- Set the property to a value that differs from the default. -/
def merge (value : Expr) (defaults : Option String) : List Stmt :=
  [.ifThen
    (match defaults with
      | some d => FieldKind.nonNull.differs ctx.features value (readBuilder o.property d)
      | none => .invoke value "isPresent" [])
    [callSetter o.property value]]

def code : PropertyCode where
  property := o.property
  category := .optional
  kind := .nullable
  valueType := o.element
  builderField := .hidden o.element o.property.name (some .null)
  accessors := o.accessors ctx
  read := fun field ↦ .invokeStatic o.kind.type o.kind.ofNullable [field]
  mergesAgainstDefaults := true
  mergeFromValue := fun x ↦ o.merge ctx (readValue o.property x)
  mergeFromBuilder := fun x ↦ o.merge ctx (readBuilder o.property x)
  clearsFromTemplate := true
  clear := copyField o.property
  partialClear := .assign (.own o.property.name) .null

end OptionalProperty

end JavaBuilder.Builder
