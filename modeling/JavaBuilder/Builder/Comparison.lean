import JavaBuilder.Java.Expr
import JavaBuilder.Java.Level

/-!
# Comparing stored values

Primitive values are compared by `==`, except that floating-point values are compared by their bits,
and references by `equals`. A reference that may be null needs a comparison that stands null on
either side; where `java.util.Objects` is available it serves all references.
-/

namespace JavaBuilder.Builder

open Java

/-- How a stored value is compared. -/
inductive FieldKind where
  | primitive (p : Primitive)
  /-- A reference that is never null. -/
  | nonNull
  /-- A reference that may be null. -/
  | nullable
deriving DecidableEq, Repr

namespace FieldKind

/-- The kind of a value of a type. -/
def of (type : TypeRef) (mayBeNull : Bool) : FieldKind :=
  match type.primitive? with
  | some p => primitive p
  | none => if mayBeNull then nullable else nonNull

/-- The kind of the same value where references may be unset. -/
def inPartial : FieldKind → FieldKind
  | nonNull => nullable
  | k => k

/-- The value may be null. -/
def isNullable (k : FieldKind) : Bool := k = nullable

def name : FieldKind → String
  | primitive p => p.keyword
  | nonNull => "nonnull"
  | nullable => "nullable"

/-- The bits of a floating-point value, or any other primitive value as it is. -/
def bits (p : Primitive) (e : Expr) : Expr :=
  match p with
  | .float => .invokeStatic (javaLang "Float") "floatToIntBits" [e]
  | .double => .invokeStatic (javaLang "Double") "doubleToLongBits" [e]
  | _ => e

/-- Null-safe equality of references. -/
def objectsEqual (l r : Expr) : Expr := .invokeStatic (javaUtil "Objects") "equals" [l, r]

/-- True when two values of a kind differ. -/
def differs (f : Features) (k : FieldKind) (l r : Expr) : Expr :=
  match k with
  | primitive p => .ne (bits p l) (bits p r)
  | nonNull =>
    if f.hasObjects then .not (objectsEqual l r) else .not (.invoke l "equals" [r])
  | nullable =>
    if f.hasObjects then .not (objectsEqual l r)
    else
      .paren (.binary .and .same (.ne l r)
        (.paren (.binary .or .same (.eq l .null) (.not (.invoke l "equals" [r])))))

/-- True when two values of a kind are equal, where `java.util.Objects` is available. -/
def same (k : FieldKind) (l r : Expr) : Expr :=
  match k with
  | primitive p => .eq (bits p l) (bits p r)
  | nonNull | nullable => objectsEqual l r

end FieldKind

end JavaBuilder.Builder
