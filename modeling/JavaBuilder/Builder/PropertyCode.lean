import JavaBuilder.Builder.Comparison
import JavaBuilder.Builder.Context

/-!
# The code of a property

A property contributes to every part of the generated class: a field and accessors of the builder,
a field of the value class, and statements of the methods that run over all properties.
`PropertyCode` collects these contributions, each as declarations or statements of the part it goes
to. The class is assembled from the contributions of all properties without knowing how any of them
was made.
-/

namespace JavaBuilder.Builder

open Java Model

/-- What a property contributes to the generated class. -/
structure PropertyCode where
  property : Property
  /-- The part the property takes in tracking. -/
  category : Category
  /-- How stored values are compared. -/
  kind : FieldKind
  /-- Marker annotations of fields and getters. -/
  markers : List ClassName := []
  /-- The type of the stored field. -/
  valueType : TypeRef := property.type
  /-- The field of the builder. -/
  builderField : Field
  /-- The accessors of the builder. -/
  accessors : List Method
  /-- What the value class stores, given the builder. -/
  stored : Expr → Expr := fun builder ↦ .field builder property.name
  /-- What the partial class stores, given the builder. -/
  storedPartial : Expr → Expr := stored
  /-- What the getter of the value class returns, given the stored field. -/
  read : Expr → Expr := id
  /-- Merging compares with a default builder. -/
  mergesAgainstDefaults : Bool := false
  /-- Merge from the value in a variable, given the variable of a default builder. -/
  mergeFromValue : String → Option String → List Stmt
  /-- Merge from the builder in a variable, given the variable of a default builder. -/
  mergeFromBuilder : String → Option String → List Stmt
  /-- Clearing needs a default builder. -/
  clearsFromTemplate : Bool := false
  /-- Clear without a default builder. -/
  partialClear : Stmt
  /-- Clear, given the variable of a default builder. -/
  clear : String → Stmt := fun _ ↦ partialClear

/-- The field of the value and partial classes. -/
def PropertyCode.valueField (c : PropertyCode) (name : String) : Field :=
  { Field.constant c.valueType name none with markers := c.markers }

/-! ## Shared accessors -/

/-- The operators that map a property's value to a new one. -/
def unaryOperator (t : TypeRef) : TypeRef := .declared (javaFunction "UnaryOperator") [t]

/-- The variables of a mapping method. -/
def mapLocals : List String := ["mapper", "result"]

/-- What every builder method returns. -/
def returnsBuilder : DocLine := .line ["@return this ", .code "Builder", " object"]

/-- Null is refused for a parameter. -/
def throwsOnNull (param : String) : DocLine :=
  .line ["@throws NullPointerException if ", .code param, " is null"]

def setterDoc (ctx : Context) (p : Property) (nullChecked : Bool) : Doc :=
  [.line ["Sets the value to be returned by ", ctx.getterLink p, "."], .blank, returnsBuilder] ++
    if nullChecked then [throwsOnNull p.name] else []

/-- A setter that refuses null. Statements can be added after the assignment. -/
def checkedSetter (ctx : Context) (p : Property) (after : List Stmt) : Method :=
  let target := Expr.field .this p.name
  let checked := !p.type.isPrimitive
  .documented (setterDoc ctx p checked) ctx.builderType p.setter [.of p.type p.name]
    ((if checked then ctx.checkedAssignment target (.var p.name)
      else [.assign target (.var p.name)]) ++ after ++ [ctx.returnThis])

/-- A method that applies an operator to the current value. -/
def mapMethod (ctx : Context) (p : Property) (current : Expr) (mayBeUnset : Bool) : Method :=
  .documented
    ([.line ["Replaces the value to be returned by ", ctx.getterLink p],
      .line ["by applying ", .code "mapper", " to it and using the result."],
      .blank,
      returnsBuilder,
      .line ["@throws NullPointerException if ", .code "mapper", " is null or returns null"]] ++
      if mayBeUnset then
        [.line ["@throws IllegalStateException if the field has not been set"]]
      else [])
    ctx.builderType (p.method "map") [.of (unaryOperator p.boxedType) "mapper"]
    [ctx.nullCheck (.var "mapper"),
      .declare p.type "result" (.invoke (.var "mapper") "apply" [current]),
      .eval (.invoke .this p.setter [.var "result"]),
      ctx.returnThis]

def builderGetter (ctx : Context) (p : Property) (body : List Stmt) : Method :=
  .documented [.line ["Returns the value that will be returned by ", ctx.getterLink p, "."]]
    p.type p.builderGetter [] body

/-! ## Shared statements -/

/-- The source's accessor of a property, on a variable. -/
def readValue (p : Property) (x : String) : Expr := .invoke (.var x) p.getter []

/-- The builder's getter of a property, on a variable. -/
def readBuilder (p : Property) (x : String) : Expr := .invoke (.var x) p.builderGetter []

def callSetter (p : Property) (e : Expr) : Stmt := .eval (.ownCall p.setter [e])

/-- Take a field over from a default builder. -/
def copyField (p : Property) (template : String) : Stmt :=
  .assign (.own p.name) (.field (.var template) p.name)

/-- The value a field starts with when nothing else is said. -/
def zeroOf (t : TypeRef) : Expr := t.primitive?.elim .null fun p ↦ .literal p.zero

end JavaBuilder.Builder
