import JavaBuilder.Builder.Comparison
import JavaBuilder.Builder.Context

/-!
# Methods of stored values

`equals`, `hashCode` and `toString` of the value class and of the partial class. Both classes store
one field for each property; the partial class also stores which of them are unset.

A method whose body declares variables refers to a field of the same name through `this`.
-/

namespace JavaBuilder.Builder

open Java

/-- The static field that holds the joiner of `toString`. -/
def joinerField : String := "COMMA_JOINER"

/-- A stored field. -/
structure StoredField where
  /-- The name of the field. -/
  field : String
  /-- The label in `toString`. -/
  label : String
  /-- How its values are compared. -/
  kind : FieldKind
  /-- The constant that says whether it is unset, if it is tracked. -/
  constant : Option Expr
deriving Repr

/-- `Value.toString` uses the joiner. It leaves out null fields, and joins at least two. -/
def needsJoiner (f : Features) (fields : List StoredField) : Bool :=
  f.guava && decide (2 ≤ fields.length) && fields.any (·.kind.isNullable)

def joinerDecl : Field where
  markers := []
  modifiers := [.isPrivate, .isStatic, .isFinal]
  type := .declared (guavaBase "Joiner") []
  name := joinerField
  value := some (.invoke (.invokeStatic (guavaBase "Joiner") "on" [.string ", "]) "skipNulls" [])
  wrap := .same

/-! ## Equality -/

def equalsLocals : List String := ["obj", "other"]

/-- Conditions joined by a conjunction, one to a line. -/
def conjunction (e : Expr) (es : List Expr) : Expr :=
  es.foldl (fun acc c ↦ .binary .and (.next 4) acc c) e

/-- The field of this object in `equals`. -/
def StoredField.here (s : StoredField) : Expr := .ownField s.field equalsLocals

/-- The field of the other object in `equals`. -/
def StoredField.there (s : StoredField) : Expr := .field (.var "other") s.field

/-- The comparison at the end of `equals`. -/
def equalsBody (f : Features) (fields : List StoredField) (withUnset : Bool) : List Stmt :=
  let otherUnset := Expr.field (.var "other") unsetField
  if f.hasObjects then
    let clauses := fields.map (fun s ↦ s.kind.same s.here s.there) ++
      if withUnset then [FieldKind.nonNull.same (.own unsetField) otherUnset] else []
    match clauses with
    | [] => [.ret (.literal "true")]
    | c :: cs => [.ret (conjunction c cs)]
  else
    fields.map (fun s ↦ .ifThen (s.kind.differs f s.here s.there) [.ret (.literal "false")]) ++
      [.ret (if withUnset then .invoke (.own unsetField) "equals" [otherUnset] else .literal "true")]

/-- `equals`, over all fields and, if asked for, the unset properties. -/
def equalsMethod (f : Features) (type : GenericClass) (fields : List StoredField)
    (withUnset : Bool) : Method :=
  .overriding [] (.primitive .boolean) "equals" [.of (.declared (javaLang "Object") []) "obj"]
    (.ifThen (.not (.paren (.instanceOf (.var "obj") type.name))) [.ret (.literal "false")] ::
      .declare type.wildcardType "other" (.cast type.wildcardType (.var "obj")) ::
        equalsBody f fields withUnset)

/-- `hashCode`, over all fields and, if asked for, the unset properties. -/
def hashCodeMethod (f : Features) (fields : List StoredField) (withUnset : Bool) : Method :=
  let names := fields.map (fun s ↦ Expr.own s.field) ++ if withUnset then [.own unsetField] else []
  .overriding [] (.primitive .int) "hashCode" []
    [.ret (if f.hasObjects then .invokeStatic (javaUtil "Objects") "hash" names
      else .invokeStatic (javaUtil "Arrays") "hashCode" [.newArray (javaLang "Object") names])]

/-! ## Text -/

/-- The variables of `toString` where it goes step by step. -/
def builderLocals : List String := ["result", "separator"]

/-- A text followed by another. -/
def plus (l r : Expr) : Expr := .binary .plus .same l r

/-- A text followed by another on the next line. -/
def plusNext (l r : Expr) : Expr := .binary .plus (.next 4) l r

/-- The text of fields none of which is left out. -/
def concatText (opening : String) : List StoredField → Expr
  | [] => .string (opening ++ "\x7d")
  | s :: ss =>
    plusNext
      (ss.foldl (fun acc s ↦ plus (plusNext acc (.string (", " ++ s.label ++ "="))) (.own s.field))
        (plus (.string (opening ++ s.label ++ "=")) (.own s.field)))
      (.string "\x7d")

/-- The entry of a field for the joiner, null if the field is left out. -/
def joinerEntry (s : StoredField) : Expr :=
  let entry := plus (.string (s.label ++ "=")) (.own s.field)
  if s.kind.isNullable then .paren (.conditional (.ne (.own s.field) .null) entry .null) else entry

/-- The text of fields joined by the joiner. -/
def joinedText (opening : String) (fields : List StoredField) : Expr :=
  plusNext
    (plusNext (.string opening)
      (.call (.enclosing joinerField) "join" .stacked (fields.map joinerEntry)))
    (.string "\x7d")

/-- Append a field to the text so far, if its condition holds. -/
def appendField (condition : StoredField → Option Expr) (s : StoredField) : List Stmt :=
  let add : List Stmt :=
    [.eval (.invoke (.invoke (.invoke (.var "result") "append" [.var "separator"]) "append"
        [.string (s.label ++ "=")]) "append" [.ownField s.field builderLocals]),
      .assign (.var "separator") (.string ", ")]
  match condition s with
  | some test => [.ifThen test add]
  | none => add

/-- Build a text step by step, each field under its condition. -/
def stepwiseText (opening : String) (condition : StoredField → Option Expr)
    (fields : List StoredField) : List Stmt :=
  let builder := TypeRef.declared (javaLang "StringBuilder") []
  .declare builder "result" (.create builder false [.string opening]) ::
    .declare (.declared (javaLang "String") []) "separator" (.string "") ::
      (fields.flatMap (appendField condition) ++
        [.ret (.invoke (.invoke (.var "result") "append" [.string "\x7d"]) "toString" [])])

def presentCheck (s : StoredField) : Option Expr :=
  if s.kind.isNullable then some (.ne (.ownField s.field builderLocals) .null) else none

/-- The field of a partial value is there: set if it is tracked, and else not null. -/
def partialCheck (s : StoredField) : Option Expr :=
  match s.constant with
  | some c => some (.not (isUnset c))
  | none => presentCheck s

def toStringMethod (body : List Stmt) : Method :=
  .overriding [] (.declared (javaLang "String") []) "toString" [] body

/-- `toString` of the value class: the fields that are not null, under the name of the source
type. -/
def valueToString (f : Features) (source : ClassName) (fields : List StoredField) : Method :=
  let opening := source.simpleName ++ "\x7b"
  toStringMethod
    (if !fields.any (·.kind.isNullable) then [.ret (concatText opening fields)]
    else if needsJoiner f fields then [.ret (joinedText opening fields)]
    else stepwiseText opening presentCheck fields)

/-- `toString` of the partial class: the fields that are set. -/
def partialToString (source : ClassName) (fields : List StoredField) : Method :=
  let opening := "partial " ++ source.simpleName ++ "\x7b"
  toStringMethod
    (if fields.isEmpty then [.ret (.string (opening ++ "\x7d"))]
    else stepwiseText opening partialCheck fields)

end JavaBuilder.Builder
