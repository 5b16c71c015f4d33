import JavaBuilder.Builder.Tracking

/-!
# The setting of generated code

What the code of a property depends on besides the property: the datatype, the features, and the
tracking of required properties. With it come the statements whose spelling depends on the
features.
-/

namespace JavaBuilder.Builder

open Java Model

/-- The local variable that holds a default builder. -/
def defaultsVar : String := "_defaults"

/-- The local variable that holds the source builder as the generated class. -/
def baseVar : String := "base"

/-- What generated code depends on besides a property. -/
structure Context where
  datatype : Datatype
  features : Features
  tracking : Option Tracking
deriving Repr

namespace Context

variable (ctx : Context)

/-- The builder users see, as a type. -/
def builderType : TypeRef := ctx.datatype.builder.type

def generatedType : TypeRef := ctx.datatype.generated.type

/-- The class of the source type. -/
def sourceName : ClassName := ctx.datatype.source.name

/-- The source type applied to its type parameters. -/
def sourceType : TypeRef := ctx.datatype.source.type

def constant? (property : String) : Option Expr := ctx.tracking.bind (·.constant? property)

/-- Return the builder, as the class users see. -/
def returnThis : Stmt := .ret (.cast ctx.builderType .this)

/-- A link to the accessor of a property. -/
def getterLink (p : Property) : DocPiece := .linkMethod ctx.sourceName p.getter

/-- Throw if an expression is null. -/
def nullCheck (e : Expr) : Stmt :=
  if ctx.features.guava then
    .eval (.invokeStatic (guavaBase "Preconditions") "checkNotNull" [e])
  else if ctx.features.hasObjects then
    .eval (.invokeStatic (javaUtil "Objects") "requireNonNull" [e])
  else .ifThen (.eq e .null) [.throwNew (javaLang "NullPointerException") []]

/-- Assign an expression, or throw if it is null. -/
def checkedAssignment (target e : Expr) : List Stmt :=
  if ctx.features.guava then
    [.assign target (.invokeStatic (guavaBase "Preconditions") "checkNotNull" [e])]
  else if ctx.features.hasObjects then
    [.assign target (.invokeStatic (javaUtil "Objects") "requireNonNull" [e])]
  else [ctx.nullCheck e, .assign target e]

/-- A fresh builder, if the datatype says how to obtain one. The diamond stands for its type
arguments where the language level has it. -/
def freshBuilder? (diamond : Bool) : Option Expr :=
  ctx.datatype.factory.map fun
    | .constructor => .create ctx.builderType (diamond && ctx.features.hasDiamond) []
    | .method =>
      .staticCall ctx.sourceName (ctx.datatype.source.params.map .typeVar) "builder" .inline []

end Context

end JavaBuilder.Builder
