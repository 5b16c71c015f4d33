import JavaBuilder.Builder.PropertyCode

/-!
# Maps

A property of type `Map` is built up entry by entry and keeps its entries in the order in which they
were put.
-/

namespace JavaBuilder.Builder

open Java Model

structure MapProperty where
  property : Property
  key : TypeRef
  value : TypeRef
deriving DecidableEq, Repr

namespace MapProperty

/-- Maps of plain key and value types. -/
def of? (d : Declaration) : Option MapProperty :=
  if d.property.type.isClass "java.util.Map" then
    d.property.type.entry?.map fun e ↦ ⟨d.property, e.1, e.2⟩
  else none

variable (ctx : Context) (m : MapProperty)

/-- The type of the builder's field. -/
def implementation : TypeRef := .declared (javaUtil "LinkedHashMap") [m.key, m.value]

/-- The builder's field. -/
def target : Expr := .field .this m.property.name

/-- The type arguments of anything to read entries from. -/
def sourceArgs : List TypeRef := [.extending m.key, .extending m.value]

def putMethod : Method :=
  .documented
    [.line ["Associates ", .code "key", " with ", .code "value",
        " in the map to be returned from"],
      .line [ctx.getterLink m.property, "."],
      .line ["If the map previously contained a mapping for the key,"],
      .line ["the old value is replaced by the specified value."],
      .blank,
      returnsBuilder,
      .line ["@throws NullPointerException if either ", .code "key", " or ", .code "value",
        " are null"]]
    ctx.builderType (m.property.method "put") [.of m.key "key", .of m.value "value"]
    [ctx.nullCheck (.var "key"),
      ctx.nullCheck (.var "value"),
      .eval (.invoke m.target "put" [.var "key", .var "value"]),
      ctx.returnThis]

def putAllMethod : Method :=
  .documented
    [.line ["Copies all of the mappings from ", .code "map", " to the map to be returned from"],
      .line [ctx.getterLink m.property, "."],
      .blank,
      returnsBuilder,
      .line ["@throws NullPointerException if ", .code "map", " is null or contains a"],
      .line ["    null key or value"]]
    ctx.builderType (m.property.method "putAll") [.of (.declared (javaUtil "Map") m.sourceArgs) "map"]
    [.forEach (.declared ((javaUtil "Map").nested "Entry") m.sourceArgs) "entry"
        (.invoke (.var "map") "entrySet" [])
        [.eval (.ownCall (m.property.method "put")
          [.invoke (.var "entry") "getKey" [], .invoke (.var "entry") "getValue" []])],
      ctx.returnThis]

/-- Remove the entry of a key. -/
def removeMethod : Method :=
  .documented
    [.line ["Removes the mapping for ", .code "key", " from the map to be returned from"],
      .line [ctx.getterLink m.property, ", if one is present."],
      .blank,
      returnsBuilder,
      throwsOnNull "key"]
    ctx.builderType (m.property.method "remove") [.of m.key "key"]
    [ctx.nullCheck (.var "key"),
      .eval (.invoke m.target "remove" [.var "key"]),
      ctx.returnThis]

/-- Remove all entries. -/
def clearMethod : Method :=
  .documented
    [.line ["Removes all of the mappings from the map to be returned from"],
      .line [ctx.getterLink m.property, "."],
      .blank,
      returnsBuilder]
    ctx.builderType (m.property.method "clear") []
    [.eval (.invoke m.target "clear" []), ctx.returnThis]

def viewMethod : Method :=
  .documented
    [.line ["Returns an unmodifiable view of the map that will be returned by"],
      .line [ctx.getterLink m.property, "."],
      .line ["Changes to this builder will be reflected in the view."]]
    m.property.type m.property.builderGetter []
    [.ret (.invokeStatic (javaUtil "Collections") "unmodifiableMap" [.own m.property.name])]

def accessors : List Method :=
  [m.putMethod ctx, m.putAllMethod ctx, m.removeMethod ctx, m.clearMethod ctx, m.viewMethod ctx]

/-- An immutable copy of the builder's map. -/
def copy (builder : Expr) : Expr :=
  let field := Expr.field builder m.property.name
  if ctx.features.guava then .invokeStatic (guavaCollect "ImmutableMap") "copyOf" [field]
  else
    .invokeStatic (javaUtil "Collections") "unmodifiableMap"
      [.create m.implementation false [field]]

def putAll (entries : Expr) : List Stmt :=
  [.eval (.ownCall (m.property.method "putAll") [entries])]

def code : PropertyCode where
  property := m.property
  category := .hasDefault
  kind := .nonNull
  builderField := .constant m.implementation m.property.name
    (some (.create m.implementation ctx.features.hasDiamond []))
  accessors := m.accessors ctx
  stored := m.copy ctx
  mergeFromValue := fun x _ ↦ m.putAll (readValue m.property x)
  mergeFromBuilder := fun x _ ↦ m.putAll (readBuilder m.property x)
  partialClear := .eval (.invoke (.own m.property.name) "clear" [])

end MapProperty

end JavaBuilder.Builder
