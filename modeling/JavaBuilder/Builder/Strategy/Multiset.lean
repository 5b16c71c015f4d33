import JavaBuilder.Builder.Strategy.Collection

/-!
# Multisets

A property of Guava's type `Multiset` is built up by element counts. Its code uses Guava throughout,
so it is chosen only where Guava is available.
-/

namespace JavaBuilder.Builder

open Java Model

structure MultisetProperty where
  property : Property
  /-- The type of its elements. -/
  element : TypeRef
deriving DecidableEq, Repr

namespace MultisetProperty

/-- Multisets of a plain element type, where Guava is available. -/
def of? (f : Features) (d : Declaration) : Option MultisetProperty :=
  if f.guava && d.property.type.isClass "com.google.common.collect.Multiset" then
    d.property.type.element?.map fun e ↦ ⟨d.property, e⟩
  else none

variable (ctx : Context) (m : MultisetProperty)

/-- The builder's field. -/
def target : Expr := .field .this m.property.name

/-- An element that is refused if it is null. -/
def checkedElement : Expr :=
  .invokeStatic (guavaBase "Preconditions") "checkNotNull" [.var "element"]

/-- The complaint about a negative count. -/
def throwsOnNegative : DocLine :=
  .line ["@throws IllegalArgumentException if ", .code "occurrences", " is negative"]

def addMethod : Method :=
  .documented
    [.line ["Adds ", .code "element", " to the multiset to be returned from ",
        ctx.getterLink m.property, "."],
      .blank,
      returnsBuilder,
      throwsOnNull "element"]
    ctx.builderType (m.property.method "add") [.of m.element "element"]
    [.ret (.ownCall (m.property.method "addCopiesTo") [.var "element", .literal "1"])]

def addCopiesMethod : Method :=
  .documented
    [.line ["Adds a number of occurrences of ", .code "element", " to the multiset to be"],
      .line ["returned from ", ctx.getterLink m.property, "."],
      .blank,
      returnsBuilder,
      throwsOnNull "element",
      throwsOnNegative]
    ctx.builderType (m.property.method "addCopiesTo")
    [.of m.element "element", .of (.primitive .int) "occurrences"]
    [.eval (.ownCall (m.property.method "setCountOf")
        [.var "element",
          .binary .plus .same (.invoke (.own m.property.name) "count" [checkedElement])
            (.var "occurrences")]),
      ctx.returnThis]

/-- Add one occurrence of several elements. -/
def addAllMethod : Method :=
  .documented
    [.line ["Adds each element of ", .code "elements", " to the multiset to be returned from"],
      .line [ctx.getterLink m.property, "."],
      .blank,
      returnsBuilder,
      .line ["@throws NullPointerException if ", .code "elements", " is null or contains a"],
      .line ["    null element"]]
    ctx.builderType (m.property.method "addAll") [.of (Collection.iterableOf m.element) "elements"]
    [.forEach m.element "element" (.var "elements")
        [.eval (.ownCall (m.property.method "addCopiesTo") [.var "element", .literal "1"])],
      ctx.returnThis]

/-- Set the number of occurrences. -/
def setCountMethod : Method :=
  .documented
    [.line ["Adds or removes the necessary occurrences of ", .code "element", " to/from the"],
      .line ["multiset to be returned from ", ctx.getterLink m.property,
        ", such that it attains the"],
      .line ["desired count."],
      .blank,
      returnsBuilder,
      throwsOnNull "element",
      throwsOnNegative]
    ctx.builderType (m.property.method "setCountOf")
    [.of m.element "element", .of (.primitive .int) "occurrences"]
    [.eval checkedElement,
      .eval (.invokeStatic (guavaBase "Preconditions") "checkArgument"
        [.binary .atLeast .same (.var "occurrences") (.literal "0"),
          .string "occurrences cannot be negative: %s", .var "occurrences"]),
      .eval (.invoke m.target "setCount" [.var "element", .var "occurrences"]),
      ctx.returnThis]

/-- Remove all elements. -/
def clearMethod : Method :=
  .documented
    [.line ["Clears the multiset to be returned from ", ctx.getterLink m.property, "."],
      .blank,
      returnsBuilder]
    ctx.builderType (m.property.method "clear") []
    [.eval (.invoke m.target "clear" []), ctx.returnThis]

def viewMethod : Method :=
  .documented
    [.line ["Returns an unmodifiable view of the multiset that will be returned by"],
      .line [ctx.getterLink m.property, "."],
      .line ["Changes to this builder will be reflected in the view."]]
    m.property.type m.property.builderGetter []
    [.ret (.invokeStatic (guavaCollect "Multisets") "unmodifiableMultiset" [.own m.property.name])]

def accessors : List Method :=
  [m.addMethod ctx, m.addCopiesMethod ctx, m.addAllMethod ctx, m.setCountMethod ctx,
    m.clearMethod ctx, m.viewMethod ctx]

def addAll (elements : Expr) : List Stmt :=
  [.eval (.ownCall (m.property.method "addAll") [elements])]

def code : PropertyCode where
  property := m.property
  category := .hasDefault
  kind := .nonNull
  builderField := .constant (.declared (guavaCollect "LinkedHashMultiset") [m.element])
    m.property.name (some (.invokeStatic (guavaCollect "LinkedHashMultiset") "create" []))
  accessors := m.accessors ctx
  stored := fun builder ↦
    .invokeStatic (guavaCollect "ImmutableMultiset") "copyOf" [.field builder m.property.name]
  mergeFromValue := fun x _ ↦ m.addAll (readValue m.property x)
  mergeFromBuilder := fun x _ ↦ m.addAll (readBuilder m.property x)
  partialClear := .eval (.invoke (.own m.property.name) "clear" [])

end MultisetProperty

end JavaBuilder.Builder
