import JavaBuilder.Java.TypeText
import JavaBuilder.Model.Annotation
import JavaBuilder.Model.Error
import JavaBuilder.Name.Casing

/-!
# Properties

A property is one abstract accessor of the source type. All its name forms follow from a single
identifier, so builder methods, fields and tracking constants always agree; `check` recomputes them,
since a property may have been edited by hand. A *declaration* is a property together with what is
known about its accessor.
-/

namespace JavaBuilder.Model

open Java Name

/-- One property of the source type. -/
structure Property where
  /-- The identifier, also the name of the field (`firstName`). -/
  name : String
  /-- The form in method names (`FirstName`). -/
  capitalized : String
  /-- The form of the enum constant (`FIRST_NAME`). -/
  constant : String
  /-- The accessor of the source type (`getFirstName`). -/
  getter : String
  /-- The declared type. -/
  type : TypeRef
  /-- The wrapper of a primitive type. -/
  boxed : Option TypeRef
  /-- A cast from `Object` to the declared type is checked in full at run time. -/
  fullyChecked : Bool
  /-- The accessor is named `getX` or `isX`. -/
  bean : Bool
deriving DecidableEq, Repr

/-- A type that loses nothing by erasure: its type arguments are unbounded wildcards. -/
def isFullyChecked : TypeRef → Bool
  | .primitive _ => true
  | .declared _ args => args.all (· == .wildcard)
  | .array component => isFullyChecked component
  | _ => false

/-- The accessor of a bean: `is` for `boolean` and `get` for all other types. -/
def beanGetter (capitalized : String) (type : TypeRef) : String :=
  (if type = .primitive .boolean then "is" else "get") ++ capitalized

/-- The wrapper of a primitive type. -/
def wrapper? (type : TypeRef) : Option TypeRef := if type.isPrimitive then some type.boxed else none

namespace Property

/-- The property of a name and a type, following the bean convention. -/
def of (name : String) (type : TypeRef) : Property where
  name := name
  capitalized := capitalize name
  constant := constantName name
  getter := beanGetter (capitalize name) type
  type := type
  boxed := wrapper? type
  fullyChecked := isFullyChecked type
  bean := true

variable (p : Property)

/-- Name the accessor by the bean convention, or by the property itself. -/
def withBean (bean : Bool) : Property :=
  { p with bean, getter := if bean then beanGetter p.capitalized p.type else p.name }

/-- Name the accessor. -/
def withGetter (getter : String) : Property := { p with getter }

/-- The first fault in the property, if it has one. -/
def fault? : Option PropertyFault :=
  if !isIdentifier p.name then some .name
  else if p.capitalized ≠ capitalize p.name then some (.capitalized p.capitalized)
  else if p.constant ≠ constantName p.name then some (.constant p.constant)
  else if !isIdentifier p.getter then some .getter
  else if p.boxed ≠ wrapper? p.type then some .boxed
  else none

/-- Accept a property without faults. -/
def check : Except Error Unit :=
  match p.fault? with
  | some fault => .error (.property p.name fault)
  | none => .ok ()

/-- The wrapper of a primitive type, and any other type itself. -/
def boxedType : TypeRef := p.boxed.getD p.type

/-- The builder method that starts with a verb. -/
def method (verb : String) : String := verb ++ p.capitalized

def setter : String := p.method "set"

/-- The getter of the builder, which never follows the bean convention of `boolean`. -/
def builderGetter : String := p.method "get"

end Property

/-! ## Declarations -/

/-- How a fresh builder is obtained. -/
inductive BuilderFactory where
  /-- By a constructor without arguments. -/
  | constructor
  /-- By a static method of the built type. -/
  | method
deriving DecidableEq, Repr

/-- A property type that has a builder of its own. -/
structure Buildable where
  /-- The nested builder. -/
  builder : TypeRef
  /-- How a nested builder is obtained. -/
  factory : BuilderFactory
  /-- The nested builder can build partial values. -/
  supportsPartial : Bool
deriving DecidableEq, Repr

/-- Where the builder's default for a property comes from. -/
inductive DefaultSource where
  /-- The user's builder sets it when constructed. -/
  | constructor
  /-- An expression that initializes the field. -/
  | initializer (expression : String)
deriving DecidableEq, Repr

/-- A property and what is known about its accessor. -/
structure Declaration where
  property : Property
  /-- The annotations on the accessor. -/
  annotations : List Annotation
  /-- Set when the type of the property has a builder. -/
  buildable : Option Buildable
  /-- Set when the builder has a default for the property. -/
  default : Option DefaultSource
deriving DecidableEq, Repr

namespace Declaration

/-- A property about which nothing else is known. -/
def plain (property : Property) : Declaration := ⟨property, [], none, none⟩

/-- The markers that make the property nullable. -/
def nullMarkers (d : Declaration) : List ClassName :=
  (d.annotations.filter (·.isNullable)).map (·.name)

end Declaration

end JavaBuilder.Model
