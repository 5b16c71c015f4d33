import JavaBuilder.Java.Level
import JavaBuilder.Java.Member
import JavaBuilder.Model.Datatype

/-!
# Required properties

Every required property has a constant in a private enum of the generated builder. The builder keeps
the constants of the properties that have not been set; `build` refuses to run while there are any.
A type without required properties has no enum, no set and no checks.
-/

namespace JavaBuilder.Builder

open Java Model

/-- How a property takes part in tracking. -/
inductive Category where
  /-- Must be set before `build`. -/
  | required
  /-- May be left unset, and then reads as null or absent. -/
  | optional
  /-- Starts with a value. -/
  | hasDefault
deriving DecidableEq, Repr

/-- The name of a category. -/
def Category.name : Category → String
  | required => "required"
  | optional => "optional"
  | hasDefault => "has_default"

/-- The field that holds the constants of unset properties. -/
def unsetField : String := "_unsetProperties"

/-- A required property and its constant. -/
structure Tracked where
  property : String
  constant : String
deriving DecidableEq, Repr

/-- The enum of the required properties of a type that has some. -/
structure Tracking where
  /-- The enum. -/
  enum : ClassName
  /-- The required properties in order of declaration. -/
  tracked : List Tracked
deriving DecidableEq, Repr

/-- The first constant that an earlier property has. -/
def duplicateConstant? : List String → List Tracked → Option String
  | _, [] => none
  | seen, t :: ts =>
    if t.constant ∈ seen then some t.constant else duplicateConstant? (t.constant :: seen) ts

namespace Tracking

/-- The required ones of some properties. -/
def requiredOf (bound : List (Property × Category)) : List Tracked :=
  (bound.filter (·.2 = .required)).map fun b ↦ ⟨b.1.name, b.1.constant⟩

/-- The tracking enum of a datatype, if any of its properties is required. -/
def of (d : Datatype) (bound : List (Property × Category)) : Except Error (Option Tracking) :=
  match requiredOf bound with
  | [] => .ok none
  | t :: ts =>
    match d.propertyEnum with
    | none => .error (.datatype d.source.name (.enumMissing t.property))
    | some enum =>
      match duplicateConstant? [] (t :: ts) with
      | some c => .error (.datatype d.source.name (.duplicateConstant c))
      | none => .ok (some ⟨enum, t :: ts⟩)

variable (t : Tracking)

def constant? (property : String) : Option Expr :=
  (t.tracked.find? (·.property == property)).map fun p ↦ .static t.enum p.constant

def enumDecl : EnumDecl where
  name := t.enum.simpleName
  constants := t.tracked.map fun p ↦ (p.constant, [.string p.property])
  groups :=
    [[.field (.constant (.declared (javaLang "String") []) "name" none)],
      [.method (.constructor [.isPrivate] t.enum.simpleName
        [.of (.declared (javaLang "String") []) "name"]
        [.assign (.field .this "name") (.var "name")])],
      [.method (.overriding [] (.declared (javaLang "String") []) "toString" []
        [.ret (.own "name")])]]

/-- The type of the set of unset properties. -/
def setType : TypeRef := .declared (javaUtil "EnumSet") [.declared t.enum []]

/-- The set of all properties. -/
def allConstants : Expr := .invokeStatic (javaUtil "EnumSet") "allOf" [.classOf t.enum]

/-- The builder's set of unset properties, which starts with all of them. -/
def builderField : Field :=
  ⟨[], [.isPrivate, .isFinal], t.setType, unsetField, some t.allConstants, .next 4⟩

/-- The partial value's set of unset properties. -/
def partialField : Field := .constant t.setType unsetField none

/-- Reset the set to that of a default builder, or to all properties. -/
def restore (template : Option String) : List Stmt :=
  [.eval (.invoke (.own unsetField) "clear" []),
    .eval (.invoke (.own unsetField) "addAll"
      [template.elim t.allConstants fun x ↦ .field (.var x) unsetField])]

/-- Copy the builder's set into a partial value. -/
def partialAssignment (builder : String) : Stmt :=
  .assign (.field .this unsetField) (.invoke (.field (.var builder) unsetField) "clone" [])

/-- Refuse to build while properties are unset. -/
def buildCheck (f : Features) : List Stmt :=
  if f.guava then
    [.eval (.invokeStatic (guavaBase "Preconditions") "checkState"
      [.invoke (.own unsetField) "isEmpty" [], .string "Not set: %s", .own unsetField])]
  else
    [.ifThen (.not (.invoke (.own unsetField) "isEmpty" []))
      [.throwNew (javaLang "IllegalStateException")
        [.binary .plus .same (.string "Not set: ") (.own unsetField)]]]

end Tracking

/-- The property of a constant is unset. -/
def isUnset (constant : Expr) : Expr := .invoke (.own unsetField) "contains" [constant]

/-- The complaint about an unset property. -/
def notSet (property : String) : Expr := .string (property ++ " not set")

/-- Refuse to read a property from a builder while it is unset. -/
def requireSet (f : Features) (property : String) (constant : Expr) : Stmt :=
  if f.guava then
    .eval (.staticCall (guavaBase "Preconditions") [] "checkState" .hanging
      [.not (isUnset constant), notSet property])
  else .ifThen (isUnset constant) [.throwNew (javaLang "IllegalStateException") [notSet property]]

/-- Refuse to read a property from a partial value that lacks it. -/
def requirePresent (property : String) (constant : Expr) : Stmt :=
  .ifThen (isUnset constant)
    [.throwNew (javaLang "UnsupportedOperationException") [notSet property]]

end JavaBuilder.Builder
