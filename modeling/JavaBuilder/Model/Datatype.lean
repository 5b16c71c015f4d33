import JavaBuilder.Model.Property

/-!
# Datatypes

A datatype names the source type and every class that is generated for it. The names follow a
convention: for the source type `Outer.Person` the user's builder is `Outer.Person.Builder` and its
generated superclass is the top-level class `Outer_Person_Builder`, in which the value class, the
partial class and the tracking enum are nested.
-/

namespace JavaBuilder.Model

open Java Text

/-- A source type and the classes generated for it. -/
structure Datatype where
  /-- The abstract source type. -/
  source : GenericClass
  /-- The source type is an interface. -/
  interface : Bool
  /-- The builder users see. -/
  builder : GenericClass
  /-- The generated superclass of the builder. -/
  generated : GenericClass
  /-- The implementation of the source type. -/
  value : GenericClass
  /-- The implementation for tests, in which properties may be unset. -/
  partialType : Option GenericClass
  /-- The enum of required properties. -/
  propertyEnum : Option ClassName
  /-- How a fresh builder is obtained, if it can be. -/
  factory : Option BuilderFactory
  /-- The builder is serializable. -/
  serializable : Bool
  /-- The builder may be subclassed, and partial values built. -/
  extensible : Bool
  /-- Nested classes in scope inside the generated class, sorted. -/
  visible : List ClassName
deriving DecidableEq, Repr

namespace Datatype

/-- The simple name of the generated builder of a source type. -/
def generatedName (source : ClassName) : String := join '_' source.simpleNames ++ "_Builder"

/-- The datatype of a source type, named by convention. -/
def standard (source : GenericClass) : Datatype :=
  let generated := ClassName.top source.name.package (generatedName source.name)
  let builder := source.name.nested "Builder"
  let value := generated.nested "Value"
  let partialName := generated.nested "Partial"
  let propertyEnum := generated.nested "Property"
  { source
    interface := false
    builder := source.sibling builder
    generated := source.sibling generated
    value := source.sibling value
    partialType := some (source.sibling partialName)
    propertyEnum := some propertyEnum
    factory := some .constructor
    serializable := false
    extensible := true
    visible := sortedSet [builder, value, partialName, propertyEnum] }

variable (d : Datatype)

/-- Set whether the source type is an interface. -/
def withInterface (interface : Bool) : Datatype := { d with interface }

/-- Set how a fresh builder is obtained. -/
def withFactory (factory : Option BuilderFactory) : Datatype := { d with factory }

/-- Set whether the builder is serializable. -/
def withSerializable (serializable : Bool) : Datatype := { d with serializable }

/-- Bring a class into scope. -/
def reveal (name : ClassName) : Datatype := { d with visible := insertSorted name d.visible }

/-- Take a class out of scope. -/
def hide (name : ClassName) : Datatype := { d with visible := d.visible.filter (· ≠ name) }

/-- Set whether the type is extensible. Exactly the extensible types have a partial class. -/
def withExtensible (extensible : Bool) : Datatype :=
  match extensible, d.partialType with
  | false, some p => { d.hide p.name with extensible := false, partialType := none }
  | true, none =>
    let p := d.generated.sibling (d.generated.name.nested "Partial")
    { d.reveal p.name with extensible := true, partialType := some p }
  | _, _ => { d with extensible }

/-- Remove the enum of required properties. -/
def withoutEnum : Datatype :=
  match d.propertyEnum with
  | some name => { d.hide name with propertyEnum := none }
  | none => d

def packageText : String := d.generated.name.packageText

/-- The classes to be nested in the generated builder. -/
def nestedNames : List ClassName :=
  d.value.name :: ((d.partialType.map (·.name)).toList ++ d.propertyEnum.toList)

/-- The first class that is not nested directly in `outer` or repeats a simple name of `seen` or of
an earlier class. -/
def nestedFault? (outer : ClassName) : List String → List ClassName → Option DatatypeFault
  | _, [] => none
  | seen, name :: names =>
    if name.enclosing? ≠ some outer then some (.notNested name)
    else if name.simpleName ∈ seen then some (.duplicateNested name.simpleName)
    else nestedFault? outer (name.simpleName :: seen) names

/-- The first fault in the datatype, if it has one. -/
def fault? : Option DatatypeFault :=
  if d.extensible && d.partialType.isNone then some .partialMissing
  else if !d.extensible && d.partialType.isSome then some .partialUnwanted
  else if !d.generated.name.isTopLevel then some .builderNested
  else nestedFault? d.generated.name [] d.nestedNames

/-- Accept a datatype without faults. -/
def check : Except Error Unit :=
  match d.fault? with
  | some fault => .error (.datatype d.source.name fault)
  | none => .ok ()

end Datatype

end JavaBuilder.Model
