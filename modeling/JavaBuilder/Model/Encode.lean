import JavaBuilder.Java.Level
import JavaBuilder.Json.Value
import JavaBuilder.Model.Descriptor

/-!
# Descriptors and datatypes as JSON

Names and types are written as text. Lists that are empty and things that are not there are left
out, with one exception: a descriptor without a builder factory says so by null, since leaving the
factory out means the constructor. Everything that is derived from a property is written with it.
-/

namespace JavaBuilder.Model

open Java Json

/-- A member that is left out of an object if there is nothing to write. -/
def optionalMember (key : String) (v : Option Value) : List (String × Value) :=
  v.toList.map fun v ↦ (key, v)

/-- A member that is left out of an object if the list is empty. -/
def listMember (key : String) (vs : List Value) : List (String × Value) :=
  if vs.isEmpty then [] else [(key, .array vs)]

def nameJson (n : ClassName) : Value := .string n.text

def typeJson (t : TypeRef) : Value := .string t.text

/-- A class with its type parameters as JSON. -/
def classJson (c : GenericClass) : Value :=
  .object (("name", nameJson c.name) :: listMember "params" (c.params.map .string))

def BuilderFactory.name : BuilderFactory → String
  | constructor => "no_args_constructor"
  | method => "builder_method"

def BuilderFactory.json (f : BuilderFactory) : Value := .string f.name

def Annotation.json (a : Annotation) : Value :=
  .object (("name", nameJson a.name) ::
    if a.elements.isEmpty then []
    else [("element_values", .object (a.elements.map fun e ↦ (e.1, .string e.2)))])

def Property.members (p : Property) : List (String × Value) :=
  [("name", .string p.name),
    ("capitalizedName", .string p.capitalized),
    ("allCapsName", .string p.constant),
    ("getterName", .string p.getter),
    ("type", typeJson p.type)] ++
    optionalMember "boxedType" (p.boxed.map typeJson) ++
    [("fullyCheckedCast", .bool p.fullyChecked), ("usingBeanConvention", .bool p.bean)]

def Property.json (p : Property) : Value := .object p.members

/-- A type with a builder as JSON. -/
def Buildable.json (b : Buildable) : Value :=
  .object
    [("builderType", typeJson b.builder),
      ("builderFactory", b.factory.json),
      ("supportsPartial", .bool b.supportsPartial)]

def DefaultSource.json : DefaultSource → Value
  | constructor => .object [("kind", .string "constructor")]
  | initializer e => .object [("kind", .string "initializer"), ("expression", .string e)]

/-- A declaration as JSON. The members of its property come first. -/
def Declaration.json (d : Declaration) : Value :=
  .object (d.property.members ++ listMember "annotations" (d.annotations.map (·.json)) ++
    optionalMember "buildable" (d.buildable.map (·.json)) ++
    optionalMember "default" (d.default.map (·.json)))

def Descriptor.json (d : Descriptor) : Value :=
  .object ([("type", nameJson d.type)] ++
    listMember "typeParameters" (d.typeParameters.map .string) ++
    [("interface", .bool d.interface),
      ("builderFactory", d.factory.elim .null (·.json)),
      ("serializable", .bool d.serializable),
      ("extensible", .bool d.extensible),
      ("properties", .array (d.properties.map (·.json)))])

def Datatype.json (d : Datatype) : Value :=
  .object ([("source_type", classJson d.source),
      ("interface_type", .bool d.interface),
      ("builder", classJson d.builder),
      ("generated_builder", classJson d.generated),
      ("value_type", classJson d.value)] ++
    optionalMember "partial_type" (d.partialType.map classJson) ++
    optionalMember "property_enum" (d.propertyEnum.map nameJson) ++
    optionalMember "builder_factory" (d.factory.map (·.json)) ++
    [("builder_serializable", .bool d.serializable), ("extensible", .bool d.extensible)] ++
    listMember "visible_nested_types" (d.visible.map nameJson))

def featuresJson (f : Features) : Value :=
  .object [("source_level", .string f.level.name), ("guava", .bool f.guava)]

end JavaBuilder.Model
