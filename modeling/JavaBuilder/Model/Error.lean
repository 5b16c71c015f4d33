import JavaBuilder.Java.TypeRef

/-!
# Why a builder cannot be generated

A fault is fatal for the type it is found in: there is no partial output. Each fault is kept as a
cause; `message` is its wording.
-/

namespace JavaBuilder.Model

open Java

/-- What is wrong with a property. -/
inductive PropertyFault where
  /-- The name is no identifier. -/
  | name
  /-- The capitalized form does not belong to the name. -/
  | capitalized (form : String)
  /-- The constant form does not belong to the name. -/
  | constant (form : String)
  /-- The accessor's name is no identifier. -/
  | getter
  /-- The boxed type does not belong to the declared type. -/
  | boxed
  /-- An earlier property has the same name. -/
  | duplicate
deriving DecidableEq, Repr

/-- What is wrong with a datatype. -/
inductive DatatypeFault where
  /-- An extensible type has no partial type. -/
  | partialMissing
  /-- A type that is not extensible has a partial type. -/
  | partialUnwanted
  /-- The generated builder is a nested class. -/
  | builderNested
  /-- A generated class is not nested directly in the generated builder. -/
  | notNested (name : ClassName)
  /-- Two generated classes share a simple name. -/
  | duplicateNested (simple : String)
  /-- A required property has no enum to be tracked in. -/
  | enumMissing (property : String)
  /-- Two required properties share a constant. -/
  | duplicateConstant (constant : String)
deriving DecidableEq, Repr

/-- Why a builder cannot be generated. -/
inductive Error where
  /-- No strategy takes the property. -/
  | unresolved (property : String) (type : TypeRef)
  | datatype (source : ClassName) (fault : DatatypeFault)
  | property (name : String) (fault : PropertyFault)
deriving DecidableEq, Repr

/-- The wording of a fault in a property. -/
def PropertyFault.message : PropertyFault → String
  | name => "name is not a Java identifier"
  | capitalized form => "capitalized name '" ++ form ++ "' does not match"
  | constant form => "constant name '" ++ form ++ "' does not match"
  | getter => "getter name must be a non-empty identifier"
  | boxed => "boxed type does not match the declared type"
  | duplicate => "duplicate property name"

/-- The wording of a fault in a datatype. -/
def DatatypeFault.message : DatatypeFault → String
  | partialMissing => "extensible types need a partial type"
  | partialUnwanted => "a partial type is only generated for extensible types"
  | builderNested => "the generated builder must be a top-level class"
  | notNested name => name.text ++ " is not nested in the generated builder"
  | duplicateNested simple => "duplicate nested type name '" ++ simple ++ "'"
  | enumMissing property => "required property '" ++ property ++ "' needs a property enum"
  | duplicateConstant constant => "duplicate property constant '" ++ constant ++ "'"

def Error.message : Error → String
  | unresolved name type =>
    "No strategy can generate property '" ++ name ++ "' of type " ++ type.text
  | datatype source fault => "Invalid metadata for " ++ source.text ++ ": " ++ fault.message
  | property name fault => "Invalid property '" ++ name ++ "': " ++ fault.message

end JavaBuilder.Model
