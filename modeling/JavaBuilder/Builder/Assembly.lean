import JavaBuilder.Builder.Selection
import JavaBuilder.Builder.ValueMethods
import JavaBuilder.Java.Unit
import JavaBuilder.Model.Descriptor

/-!
# The generated class

The builder class of a datatype is put together from the contributions of its properties: fields and
accessors, the methods that run over all properties, and the nested value and partial classes.
`Emitter.generate` checks the datatype, chooses a strategy for each property, and prints the class as
a file.
-/

namespace JavaBuilder.Builder

open Java Model

/-- Options of generated code. -/
structure Config where
  features : Features
  /-- Write documentation comments. -/
  docs : Bool
  /-- Mark the builder as generated. -/
  annotate : Bool
  style : LayoutStyle
deriving DecidableEq, Repr

/-- The comment at the top of every file. -/
def headerComment : String := "Autogenerated code. Do not modify."

/-- What the annotation of generated classes names. -/
def generatorName : String := "buildergen"

/-- The variable is declared with a default builder, if one is needed and can be had. -/
def defaultsDecl (ctx : Context) (needed : Bool) : Option Stmt :=
  if needed then
    (ctx.freshBuilder? true).map fun e ↦ .declare ctx.generatedType defaultsVar e
  else none

namespace Assembly

variable (ctx : Context) (codes : List PropertyCode)

/-! ## Static members -/

def valueFields : List StoredField :=
  codes.map fun c ↦ ⟨c.property.name, c.property.name, c.kind, none⟩

/-- The fields stored by the partial class. Required properties may be unset there. -/
def partialFields : List StoredField :=
  codes.map fun c ↦
    if c.category = .required then
      ⟨c.property.name, c.property.name, c.kind.inPartial, ctx.constant? c.property.name⟩
    else ⟨c.property.name, c.property.name, c.kind, none⟩

/-- The serial version of a serializable builder. -/
def serialVersion : Field where
  markers := []
  modifiers := [.isPrivate, .isStatic, .isFinal]
  type := .primitive .long
  name := "serialVersionUID"
  value := some (.literal "1L")
  wrap := .same

def staticFields : List Field :=
  (if ctx.datatype.serializable then [serialVersion] else []) ++
    if needsJoiner ctx.features (valueFields codes) then [joinerDecl] else []

/-- The method that turns a value into a builder, for extensible types. -/
def fromMethod? : Option Method :=
  if ctx.datatype.extensible then
    (ctx.freshBuilder? false).map fun e ↦
      { Method.documented
          [.line ["Creates a new builder using ", .code "value", " as a template."]]
          ctx.builderType "from" [.of ctx.sourceType "value"]
          [.ret (.invoke e "mergeFrom" [.var "value"])] with
        modifiers := [.isPublic, .isStatic]
        typeParams := ctx.datatype.source.params }
  else none

/-! ## Methods of the builder -/

/-- The variable of the default builder, if the statement that declares it is there. -/
def defaultsOf (decl : Option Stmt) : Option String := decl.map fun _ ↦ defaultsVar

/-- Copy all properties of a value. -/
def mergeFromValue : Method :=
  let decl := defaultsDecl ctx (codes.any (·.mergesAgainstDefaults))
  .documented
    [.line ["Sets all property values using the given ", .code ctx.sourceName.simpleName,
      " as a template."]]
    ctx.builderType "mergeFrom" [.of ctx.sourceType "value"]
    (decl.toList ++ codes.flatMap (·.mergeFromValue "value" (defaultsOf decl)) ++ [ctx.returnThis])

/-- Copy the properties that are set on another builder. -/
def mergeFromBuilder : Method :=
  let decl := defaultsDecl ctx (codes.any (·.mergesAgainstDefaults))
  let upcast : List Stmt :=
    if ctx.tracking.isSome then
      [.remark "Upcast to access private fields",
        .declare ctx.generatedType baseVar (.var "template")]
    else []
  .documented
    [.line ["Copies values from the given ", .code "Builder", "."],
      .line ["Does not affect any properties not set on the input."]]
    ctx.builderType "mergeFrom" [.of ctx.builderType "template"]
    (upcast ++ decl.toList ++ codes.flatMap (·.mergeFromBuilder "template" (defaultsOf decl)) ++
      [ctx.returnThis])

/-- The annotation of members that are visible only for tests. -/
def testingFlags : List ClassName :=
  if ctx.features.guava then
    [.top ["com", "google", "common", "annotations"] "VisibleForTesting"]
  else []

/-- Reset the unset properties, if there are any to track. -/
def restoreUnset (template : Option String) : List Stmt :=
  ctx.tracking.elim [] (·.restore template)

/-- Reset all properties. Where no builder can be obtained, only tests of an extensible type can. -/
def clearMethod? : Option Method :=
  if ctx.datatype.factory.isSome then
    let decl := defaultsDecl ctx (codes.any (·.clearsFromTemplate))
    some (.documented
      [.line ["Resets the state of this builder."]]
      ctx.builderType "clear" []
      (decl.toList ++ codes.map (·.clear defaultsVar) ++ restoreUnset ctx (defaultsOf decl) ++
        [ctx.returnThis]))
  else if ctx.datatype.extensible then
    some { Method.documented
        [.line ["Resets the state of this builder."],
          .blank,
          .line ["<p>Only available to tests, as the builder has no public constructor."]]
        ctx.builderType "clear" []
        (codes.map (·.partialClear) ++ restoreUnset ctx none ++ [ctx.returnThis]) with
      flags := testingFlags ctx }
  else none

/-- Instantiate a nested class with this builder. -/
def instantiate (type : GenericClass) : Stmt :=
  .ret (.create type.type ctx.features.hasDiamond [.this])

def buildMethod : Method :=
  .documented
    ([.line ["Returns a newly-created ", .link ctx.sourceName, " based on the contents of the ",
        .code "Builder", "."]] ++
      if ctx.tracking.isSome then
        [.blank, .line ["@throws IllegalStateException if any field has not been set"]]
      else [])
    ctx.sourceType "build" []
    ((if ctx.tracking.isSome then Tracking.buildCheck ctx.features else []) ++
      [instantiate ctx ctx.datatype.value])

/-- Build a value in which properties may be unset. -/
def buildPartialMethod (type : GenericClass) : Method :=
  { Method.documented
      [.line ["Returns a newly-created partial ", .link ctx.sourceName],
        .line ["for use in unit tests. State checking will not be performed."],
        .line ["Unset properties will throw an ",
          .link (javaLang "UnsupportedOperationException")],
        .line ["when accessed via the partial object."],
        .blank,
        .line ["<p>Partials should only ever be used in tests. They permit writing robust"],
        .line ["test cases that won't fail if this type gains more application-level"],
        .line ["constraints (e.g. new required fields) in future. If you require partially"],
        .line ["complete values in production code, consider using a Builder."]]
      ctx.sourceType "buildPartial" [] [instantiate ctx type] with
    flags := testingFlags ctx }

/-! ## Nested classes -/

/-- The getter of a property in a class that stores it. -/
def storedGetter (c : PropertyCode) (before : List Stmt) : Method :=
  .overriding c.markers c.property.type c.property.getter []
    (before ++ [.ret (c.read (.own c.property.name))])

/-- The parameter of the constructors of nested classes. -/
def builderParam : Param := .of ctx.generatedType "builder"

def storeField (c : PropertyCode) (e : Expr) : Stmt := .assign (.field .this c.property.name) e

/-- Methods, each in a group of its own. -/
def methodGroups (ms : List Method) : List (List Member) := ms.map fun m ↦ [.method m]

/-- The implementation of the source type. -/
def valueClass : NestedClass :=
  let type := ctx.datatype.value
  let fields := valueFields codes
  { type
    implements := ctx.datatype.interface
    parent := ctx.sourceType
    groups :=
      codes.map (fun c ↦ .field (c.valueField c.property.name)) ::
        methodGroups
          (.constructor [.isPrivate] type.name.simpleName [builderParam ctx]
              (codes.map fun c ↦ storeField c (c.stored (.var "builder"))) ::
            (codes.map (fun c ↦ storedGetter c []) ++
              [equalsMethod ctx.features type fields false,
                hashCodeMethod ctx.features fields false,
                valueToString ctx.features ctx.sourceName fields])) }

/-- The guard of a getter in the partial class. -/
def partialGuard (c : PropertyCode) : List Stmt :=
  (ctx.constant? c.property.name).toList.map (requirePresent c.property.name)

/-- The implementation in which properties may be unset. -/
def partialClass (type : GenericClass) : NestedClass :=
  let fields := partialFields ctx codes
  let tracked := ctx.tracking.isSome
  { type
    implements := ctx.datatype.interface
    parent := ctx.sourceType
    groups :=
      (codes.map (fun c ↦ .field (c.valueField c.property.name)) ++
          ctx.tracking.toList.map fun t ↦ .field t.partialField) ::
        methodGroups
          (.constructor [] type.name.simpleName [builderParam ctx]
              (codes.map (fun c ↦ storeField c (c.storedPartial (.var "builder"))) ++
                ctx.tracking.toList.map fun _ ↦ Tracking.partialAssignment "builder") ::
            (codes.map (fun c ↦ storedGetter c (partialGuard ctx c)) ++
              [equalsMethod ctx.features type fields tracked,
                hashCodeMethod ctx.features fields tracked,
                partialToString ctx.sourceName fields])) }

/-! ## The class -/

def builderFields : List Field :=
  codes.map (·.builderField) ++ ctx.tracking.toList.map (·.builderField)

def builderMethods : List Method :=
  codes.flatMap (·.accessors) ++ [mergeFromValue ctx codes, mergeFromBuilder ctx codes] ++
    (clearMethod? ctx codes).toList ++ [buildMethod ctx] ++
    (ctx.datatype.partialType.map (buildPartialMethod ctx)).toList

/-- The generated builder class. -/
def topClass (annotate : Bool) : TopClass where
  doc :=
    [.line ["Auto-generated superclass of ", .link ctx.datatype.builder.name, ","],
      .line ["derived from the API of ", .link ctx.sourceName, "."]]
  annotations :=
    if annotate then [(.top ["javax", "annotation"] "Generated", generatorName)] else []
  type := ctx.datatype.generated
  implements :=
    if ctx.datatype.serializable then some (.top ["java", "io"] "Serializable") else none
  groups :=
    [(staticFields ctx codes).map fun f ↦ .member (.field f)] ++
      (fromMethod? ctx).toList.map (fun m ↦ [.member (.method m)]) ++
      ctx.tracking.toList.map (fun t ↦ [.enum t.enumDecl]) ++
      [(builderFields ctx codes).map fun f ↦ .member (.field f)] ++
      (builderMethods ctx codes).map (fun m ↦ [.member (.method m)]) ++
      [[.nested (valueClass ctx codes)]] ++
      ctx.datatype.partialType.toList.map fun p ↦ [.nested (partialClass ctx codes p)]

end Assembly

/-! ## Generating -/

/-- A generated file. -/
structure Generated where
  /-- The text of the file. -/
  text : String
  /-- The class it declares. -/
  type : ClassName
  /-- The name of each property and of its strategy. -/
  strategies : List (String × String)
deriving DecidableEq, Repr

namespace Generated

def fileName (type : ClassName) : String := type.simpleName ++ ".java"

/-- The path of the file of a class below a source root. -/
def path (type : ClassName) : List String :=
  type.package.filter (· ≠ "") ++ [fileName type]

end Generated

/-- The strategies of properties and what generating their class depends on. -/
def plan (chain : Chain) (f : Features) (d : Datatype) (ds : List Declaration) :
    Except Error (Context × List Strategy) := do
  d.check
  let strategies ← chain.bind f ds
  let tracking ← Tracking.of d (strategies.map fun s ↦ (s.property, s.category))
  return (⟨d, f, tracking⟩, strategies)

/-- The generated class of a datatype and its properties. -/
def builderClass (ctx : Context) (strategies : List Strategy) (annotate : Bool) : TopClass :=
  Assembly.topClass ctx (strategies.map (·.code ctx)) annotate

/-- Generate the builder of a datatype with a chain of factories. -/
def generateWith (chain : Chain) (config : Config) (d : Datatype) (ds : List Declaration) :
    Except Error Generated := do
  let (ctx, strategies) ← plan chain config.features d ds
  let unit : CompilationUnit := ⟨d.generated.name, d.visible, some headerComment⟩
  return {
    text := unit.render config.style ((builderClass ctx strategies config.annotate).code config.docs)
    type := d.generated.name
    strategies := strategies.map fun s ↦ (s.property.name, s.name) }

def generate (config : Config) (d : Descriptor) : Except Error Generated := do
  generateWith .standard config (← d.datatype) d.properties

end JavaBuilder.Builder
