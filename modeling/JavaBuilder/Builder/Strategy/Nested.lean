import JavaBuilder.Builder.PropertyCode

/-!
# Properties with a builder of their own

A property whose type has a builder is edited in place: the field of the builder holds a nested
builder for its whole life, and setting the property merges into it.
-/

namespace JavaBuilder.Builder

open Java Model

/-- A property edited through a nested builder. -/
structure NestedBuilder where
  property : Property
  buildable : Buildable
deriving DecidableEq, Repr

namespace NestedBuilder

/-- Resolved class types that come with a resolved builder type. -/
def of? (d : Declaration) : Option NestedBuilder :=
  match d.buildable with
  | none => none
  | some b =>
    let t := d.property.type
    if t.erasure?.isSome && t.isResolved && b.builder.isResolved then some ⟨d.property, b⟩ else none

variable (ctx : Context) (b : NestedBuilder)

def builderType : TypeRef := b.buildable.builder

def getter : String := b.property.builderGetter ++ "Builder"

def fresh : Expr :=
  match b.buildable.factory, b.property.type.erasure? with
  | .method, some name => .staticCall name b.property.type.args "builder" .inline []
  | _, _ => .create b.builderType false []

/-- The builder's field. -/
def target : Expr := .field .this b.property.name

def setMethod : Method :=
  let p := b.property
  .documented (setterDoc ctx p true) ctx.builderType p.setter [.of p.type p.name]
    [ctx.nullCheck (.var p.name),
      .eval (.invoke b.target "clear" []),
      .eval (.invoke b.target "mergeFrom" [.var p.name]),
      ctx.returnThis]

/-- Set to what another builder builds. -/
def setBuilderMethod : Method :=
  let p := b.property
  .documented
    [.line ["Sets the value to be returned by ", ctx.getterLink p, "."],
      .blank,
      returnsBuilder,
      throwsOnNull "builder"]
    ctx.builderType p.setter [.of b.builderType "builder"]
    [.ret (.ownCall p.setter [.invoke (.var "builder") "build" []])]

/-- Hand out the nested builder. -/
def getMethod : Method :=
  .documented
    [.line ["Returns a builder for the value that will be returned by ",
      ctx.getterLink b.property, "."]]
    b.builderType b.getter [] [.ret (.own b.property.name)]

/-- Apply a function to the nested builder. -/
def mutateMethod : Method :=
  .documented
    [.line ["Applies ", .code "mutator", " to the builder for the value that will be"],
      .line ["returned by ", ctx.getterLink b.property, "."],
      .blank,
      returnsBuilder,
      throwsOnNull "mutator"]
    ctx.builderType (b.property.method "mutate")
    [.of (.declared (javaFunction "Consumer") [b.builderType]) "mutator"]
    [ctx.nullCheck (.var "mutator"),
      .eval (.invoke (.var "mutator") "accept" [.own b.property.name]),
      ctx.returnThis]

def accessors : List Method :=
  [b.setMethod ctx, b.setBuilderMethod ctx, b.getMethod ctx] ++
    if ctx.features.hasLambdas then [b.mutateMethod ctx] else []

/-- Merge an expression into the nested builder, inside a method with a parameter. -/
def merge (param : String) (e : Expr) : List Stmt :=
  [.eval (.invoke (.ownField b.property.name [param]) "mergeFrom" [e])]

def built (method : String) (builder : Expr) : Expr :=
  .invoke (.field builder b.property.name) method []

/-- The code of a property with a builder of its own. -/
def code : PropertyCode where
  property := b.property
  category := .hasDefault
  kind := .nonNull
  builderField := .constant b.builderType b.property.name (some b.fresh)
  accessors := b.accessors ctx
  stored := b.built "build"
  storedPartial := b.built (if b.buildable.supportsPartial then "buildPartial" else "build")
  mergeFromValue := fun x _ ↦ b.merge x (readValue b.property x)
  mergeFromBuilder := fun x _ ↦ b.merge x (.invoke (.var x) b.getter [])
  partialClear := .eval (.invoke (.own b.property.name) "clear" [])

end NestedBuilder

end JavaBuilder.Builder
