import JavaBuilder.Model.Datatype

/-!
# Type descriptors

The compact form in which a source type is described: its name, a few flags and its properties in
order. The names of the generated classes follow by convention.
-/

namespace JavaBuilder.Model

open Java

/-- A source type and its properties. -/
structure Descriptor where
  /-- The source type. -/
  type : ClassName
  /-- The names of its type parameters. -/
  typeParameters : List String
  /-- The source type is an interface. -/
  interface : Bool
  /-- How a fresh builder is obtained, if it can be. -/
  factory : Option BuilderFactory
  /-- The builder is serializable. -/
  serializable : Bool
  /-- The builder may be subclassed. -/
  extensible : Bool
  /-- The properties in order. -/
  properties : List Declaration
deriving DecidableEq, Repr

namespace Descriptor

variable (d : Descriptor)

/-- The datatype that a descriptor describes, named by convention. -/
def conventional : Datatype :=
  ((((Datatype.standard ⟨d.type, d.typeParameters⟩).withInterface d.interface).withFactory
    d.factory).withSerializable d.serializable).withExtensible d.extensible

/-- The datatype that a descriptor describes, checked. -/
def datatype : Except Error Datatype := do
  d.conventional.check
  return d.conventional

end Descriptor

end JavaBuilder.Model
