import JavaBuilder.Builder.PropertyCode

/-!
# Nullable properties

A reference property with a marker `Nullable`. It starts as null and may be set to null, and the
markers are repeated wherever its type is written.
-/

namespace JavaBuilder.Builder

open Java Model

/-- A property that may be null. -/
structure Nullable where
  property : Property
  /-- The markers that make it nullable. -/
  markers : List ClassName
deriving DecidableEq, Repr

namespace Nullable

/-- Any property of a resolved reference type with a marker is nullable. -/
def of? (d : Declaration) : Option Nullable :=
  let t := d.property.type
  if t.isPrimitive || t == .void || !t.isResolved || d.nullMarkers.isEmpty then none
  else some ⟨d.property, d.nullMarkers⟩

variable (ctx : Context) (n : Nullable)

/-- Setter and getter. -/
def accessors : List Method :=
  let p := n.property
  [.documented (setterDoc ctx p false) ctx.builderType p.setter [⟨n.markers, p.type, p.name⟩]
      [.assign (.field .this p.name) (.var p.name), ctx.returnThis],
    { builderGetter ctx p [.ret (.own p.name)] with markers := n.markers }]

/-- Set the property to a value that differs from the default. -/
def merge (value : Expr) (defaults : Option String) : List Stmt :=
  [.ifThen
    (match defaults with
      | some d => FieldKind.nullable.differs ctx.features value (readBuilder n.property d)
      | none => .ne value .null)
    [callSetter n.property value]]

def code : PropertyCode where
  property := n.property
  category := .optional
  kind := .nullable
  markers := n.markers
  builderField := { Field.hidden n.property.type n.property.name (some .null) with
    markers := n.markers }
  accessors := n.accessors ctx
  mergesAgainstDefaults := true
  mergeFromValue := fun x ↦ n.merge ctx (readValue n.property x)
  mergeFromBuilder := fun x ↦ n.merge ctx (readBuilder n.property x)
  clearsFromTemplate := true
  clear := copyField n.property
  partialClear := .assign (.own n.property.name) .null

end Nullable

end JavaBuilder.Builder
