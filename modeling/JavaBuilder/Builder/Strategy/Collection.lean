import JavaBuilder.Builder.PropertyCode

/-!
# Lists and sets

A property of type `List` or `Set` is built up element by element. The builder owns a mutable
collection and hands out unmodifiable views of it; values store a copy.
-/

namespace JavaBuilder.Builder

open Java Model

/-- The collections with methods of their own. -/
inductive CollectionKind where
  | list
  | set
deriving DecidableEq, Repr

namespace CollectionKind

def of? (t : TypeRef) : Option CollectionKind :=
  if t.isClass "java.util.List" then some list
  else if t.isClass "java.util.Set" then some set
  else none

/-- The mutable class of the builder's field. -/
def implementation : CollectionKind → ClassName
  | list => javaUtil "ArrayList"
  | set => javaUtil "LinkedHashSet"

/-- The method of `Collections` that makes an unmodifiable view. -/
def unmodifiable : CollectionKind → String
  | list => "unmodifiableList"
  | set => "unmodifiableSet"

def immutable : CollectionKind → ClassName
  | list => guavaCollect "ImmutableList"
  | set => guavaCollect "ImmutableSet"

/-- The word in documentation. -/
def noun : CollectionKind → String
  | list => "list"
  | set => "set"

end CollectionKind

/-- A property that is a list or a set. -/
structure Collection where
  property : Property
  kind : CollectionKind
  /-- The type of its elements. -/
  element : TypeRef
deriving DecidableEq, Repr

namespace Collection

/-- Lists and sets of a plain element type. -/
def of? (d : Declaration) : Option Collection := do
  let kind ← CollectionKind.of? d.property.type
  let element ← d.property.type.element?
  return ⟨d.property, kind, element⟩

variable (ctx : Context) (c : Collection)

/-- The type of the builder's field. -/
def implementation : TypeRef := .declared c.kind.implementation [c.element]

/-- The builder's field. -/
def target : Expr := .field .this c.property.name

/-- Anything that can be iterated over for elements. -/
def iterableOf (element : TypeRef) : TypeRef :=
  .declared (javaLang "Iterable") [.extending element]

def addMethod : Method :=
  .documented
    [.line ["Adds ", .code "element", " to the ", c.kind.noun, " to be returned from ",
        ctx.getterLink c.property, "."],
      .blank,
      returnsBuilder,
      throwsOnNull "element"]
    ctx.builderType (c.property.method "add") [.of c.element "element"]
    [ctx.nullCheck (.var "element"),
      .eval (.invoke c.target "add" [.var "element"]),
      ctx.returnThis]

def addAllMethod : Method :=
  .documented
    [.line ["Adds each element of ", .code "elements", " to the ", c.kind.noun,
        " to be returned from"],
      .line [ctx.getterLink c.property, "."],
      .blank,
      returnsBuilder,
      .line ["@throws NullPointerException if ", .code "elements", " is null or contains a"],
      .line ["    null element"]]
    ctx.builderType (c.property.method "addAll") [.of (iterableOf c.element) "elements"]
    [.forEach c.element "element" (.var "elements")
        [.eval (.ownCall (c.property.method "add") [.var "element"])],
      ctx.returnThis]

def removeMethod : Method :=
  .documented
    [.line ["Removes ", .code "element", " from the set to be returned from ",
        ctx.getterLink c.property, "."],
      .line ["Does nothing if ", .code "element", " is not in the set."],
      .blank,
      returnsBuilder,
      throwsOnNull "element"]
    ctx.builderType (c.property.method "remove") [.of c.element "element"]
    [ctx.nullCheck (.var "element"),
      .eval (.invoke c.target "remove" [.var "element"]),
      ctx.returnThis]

/-- Remove all elements. -/
def clearMethod : Method :=
  .documented
    [.line ["Clears the ", c.kind.noun, " to be returned from ", ctx.getterLink c.property, "."],
      .blank,
      returnsBuilder]
    ctx.builderType (c.property.method "clear") []
    [.eval (.invoke c.target "clear" []), ctx.returnThis]

def viewMethod : Method :=
  .documented
    [.line ["Returns an unmodifiable view of the ", c.kind.noun, " that will be returned by"],
      .line [ctx.getterLink c.property, "."],
      .line ["Changes to this builder will be reflected in the view."]]
    c.property.type c.property.builderGetter []
    [.ret (.invokeStatic (javaUtil "Collections") c.kind.unmodifiable [.own c.property.name])]

/-- The methods of the builder. Only a set can remove single elements. -/
def accessors : List Method :=
  [c.addMethod ctx, c.addAllMethod ctx] ++
    (if c.kind = .set then [c.removeMethod ctx] else []) ++ [c.clearMethod ctx, c.viewMethod ctx]

/-- An immutable copy of the builder's collection. -/
def copy (builder : Expr) : Expr :=
  let field := Expr.field builder c.property.name
  if ctx.features.guava then .invokeStatic c.kind.immutable "copyOf" [field]
  else
    .invokeStatic (javaUtil "Collections") c.kind.unmodifiable
      [.create c.implementation false [field]]

def addAll (elements : Expr) : List Stmt :=
  [.eval (.ownCall (c.property.method "addAll") [elements])]

/-- The code of a list or set. -/
def code : PropertyCode where
  property := c.property
  category := .hasDefault
  kind := .nonNull
  builderField := .constant c.implementation c.property.name
    (some (.create c.implementation ctx.features.hasDiamond []))
  accessors := c.accessors ctx
  stored := c.copy ctx
  mergeFromValue := fun x _ ↦ c.addAll (readValue c.property x)
  mergeFromBuilder := fun x _ ↦ c.addAll (readBuilder c.property x)
  partialClear := .eval (.invoke (.own c.property.name) "clear" [])

end Collection

end JavaBuilder.Builder
