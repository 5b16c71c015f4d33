import JavaBuilder.Java.Primitive

/-!
# Type references

A type as it is written in a declaration. Everything the reader of type text does not understand is
kept verbatim as `unresolved`, so a descriptor can be read even when some of its types cannot, and
the fault is reported for the property that uses the type.
-/

namespace JavaBuilder.Java

open Text

/-- A type as written in a declaration. -/
inductive TypeRef where
  | primitive (p : Primitive)
  /-- A class with its type arguments, none for a raw or non-generic class. -/
  | declared (name : ClassName) (args : List TypeRef)
  /-- A type variable. -/
  | typeVar (name : String)
  /-- An unbounded wildcard. -/
  | wildcard
  /-- A wildcard with an upper bound. -/
  | extending (bound : TypeRef)
  | array (component : TypeRef)
  | void
  /-- Text that is not a type. -/
  | unresolved (text : String)
deriving Repr, Inhabited

namespace TypeRef

/-! ## Equality -/

mutual

/-- Equality of type references, by their parts. -/
def beq : TypeRef → TypeRef → Bool
  | primitive p, primitive q => p == q
  | declared m as, declared n bs => m == n && beqList as bs
  | typeVar a, typeVar b => a == b
  | wildcard, wildcard => true
  | extending a, extending b => beq a b
  | array a, array b => beq a b
  | void, void => true
  | unresolved a, unresolved b => a == b
  | _, _ => false

/-- Equality of lists of type references, by their parts. -/
def beqList : List TypeRef → List TypeRef → Bool
  | [], [] => true
  | a :: as, b :: bs => beq a b && beqList as bs
  | _, _ => false

end

mutual

theorem beq_iff : (a b : TypeRef) → (beq a b = true ↔ a = b)
  | primitive p, b => by cases b <;> simp [beq]
  | declared m as, b => by cases b <;> simp [beq, beqList_iff as]
  | typeVar n, b => by cases b <;> simp [beq]
  | wildcard, b => by cases b <;> simp [beq]
  | extending a, b => by cases b <;> simp [beq, beq_iff a]
  | array a, b => by cases b <;> simp [beq, beq_iff a]
  | void, b => by cases b <;> simp [beq]
  | unresolved s, b => by cases b <;> simp [beq]

theorem beqList_iff : (as bs : List TypeRef) → (beqList as bs = true ↔ as = bs)
  | [], bs => by cases bs <;> simp [beqList]
  | a :: as, bs => by cases bs <;> simp [beqList, beq_iff a, beqList_iff as]

end

instance : DecidableEq TypeRef := fun a b ↦ decidable_of_iff _ (beq_iff a b)

/-! ## Views -/

def primitive? : TypeRef → Option Primitive
  | primitive p => some p
  | _ => none

def isPrimitive (t : TypeRef) : Bool := t.primitive?.isSome

/-- The wrapper class of a primitive type; other types as they are. -/
def boxed : TypeRef → TypeRef
  | primitive p => declared p.wrapper []
  | t => t

/-- The class of a declared type. -/
def erasure? : TypeRef → Option ClassName
  | declared name _ => some name
  | _ => none

/-- The type arguments of a declared type. -/
def args : TypeRef → List TypeRef
  | declared _ args => args
  | _ => []

/-- A declared type whose class has this dotted name. -/
def isClass (dotted : String) (t : TypeRef) : Bool := t.erasure?.any (·.text == dotted)

/-- A wildcard, bounded or not. -/
def isWildcard : TypeRef → Bool
  | wildcard | extending _ => true
  | _ => false

mutual

/-- No part of the type is unresolved text. -/
def isResolved : TypeRef → Bool
  | unresolved _ => false
  | declared _ args => allResolved args
  | extending t | array t => t.isResolved
  | _ => true

/-- No part of any of the types is unresolved text. -/
def allResolved : List TypeRef → Bool
  | [] => true
  | t :: ts => t.isResolved && allResolved ts

end

theorem allResolved_iff (ts : List TypeRef) :
    allResolved ts = true ↔ ∀ t ∈ ts, t.isResolved = true := by
  induction ts with
  | nil => simp [allResolved]
  | cons t ts ih => simp [allResolved, ih]

/-- A type that can be used as a type argument where an element type is wanted. -/
def isPlain : TypeRef → Bool
  | declared _ _ | typeVar _ | array _ => true
  | _ => false

/-- The only type argument, if there is one and it is plain. -/
def element? (t : TypeRef) : Option TypeRef :=
  match t.args with
  | [a] => if a.isPlain then some a else none
  | _ => none

/-- The two type arguments, if there are two and both are plain. -/
def entry? (t : TypeRef) : Option (TypeRef × TypeRef) :=
  match t.args with
  | [k, v] => if k.isPlain && v.isPlain then some (k, v) else none
  | _ => none

/-! ## Text -/

mutual

/-- The type as written in source. -/
def text : TypeRef → String
  | primitive p => p.keyword
  | declared name [] => name.text
  | declared name (a :: as) => name.text ++ "<" ++ a.text ++ tailText as ++ ">"
  | typeVar name => name
  | wildcard => "?"
  | extending bound => "? extends " ++ bound.text
  | array component => component.text ++ "[]"
  | void => "void"
  | unresolved s => s

/-- The type arguments after the first one. -/
def tailText : List TypeRef → String
  | [] => ""
  | a :: as => ", " ++ a.text ++ tailText as

end

instance : ToString TypeRef := ⟨text⟩

end TypeRef

/-! ## Generic classes -/

/-- A class with the names of its type parameters. -/
structure GenericClass where
  /-- The class. -/
  name : ClassName
  /-- The names of its type parameters, in order. -/
  params : List String
deriving DecidableEq, Repr, Inhabited

namespace GenericClass

variable (c : GenericClass)

/-- A class with the same type parameters. -/
def sibling (name : ClassName) : GenericClass := { c with name }

/-- The class has type parameters. -/
def isGeneric : Bool := !c.params.isEmpty

/-- The type parameters in angle brackets, or nothing. -/
def paramsText : String :=
  if c.params.isEmpty then "" else "<" ++ ", ".intercalate c.params ++ ">"

/-- The class applied to its own type parameters. -/
def type : TypeRef := .declared c.name (c.params.map .typeVar)

/-- The class applied to unbounded wildcards. -/
def wildcardType : TypeRef := .declared c.name (c.params.map fun _ ↦ .wildcard)

end GenericClass

end JavaBuilder.Java
