import JavaBuilder.Java.Member
import Mathlib.Data.Finset.Basic

/-!
# The meaning of method bodies

Generated code is read here as Java runs it: operands from the left to the right, the right operand
of a conjunction or a disjunction only if it is needed, an exception where null is dereferenced.

What the code does not decide itself is left to a `World`: what objects hold and what their methods
answer, how values print, how they hash. The library methods that generated code relies on have
their documented meaning. Everything else is `stuck`, so a body that has a result in every world has
it for reasons that can be read off the body.

A bare name is resolved as Java resolves it, whatever was meant: a local variable hides a field of
the current object, and a field hides a static field of an enclosing class. Code in which a name is
captured therefore has the meaning of the captured name.
-/

namespace JavaBuilder.Java

/-! ## Values -/

/-- A constant of an enum. -/
structure EnumConstant where
  enum : ClassName
  name : String
deriving DecidableEq, Repr

/-- A value, over the objects `ρ` that generated code does not make itself. -/
inductive Datum (ρ : Type) where
  | null
  | boolean (b : Bool)
  /-- A whole number or a character of a primitive type. -/
  | integral (type : Primitive) (n : Int)
  | float (bits : BitVec 32)
  | double (bits : BitVec 64)
  /-- A string that the code puts together. -/
  | text (s : String)
  | object (o : ρ)
  | constant (c : EnumConstant)
  /-- A set of constants of an enum. -/
  | constants (members : Finset EnumConstant)
  /-- The string builder of this number. -/
  | buffer (i : Nat)
  /-- A joiner, which leaves out nulls or refuses them. -/
  | joiner (separator : String) (skipsNulls : Bool)
  | array (elements : List (Datum ρ))
deriving Inhabited

/-- What ends a method early. -/
inductive Abrupt where
  | thrown (exception : ClassName)
  /-- The code does something that has no meaning here. -/
  | stuck
deriving DecidableEq, Repr

namespace Abrupt

/-- A dereference of null. -/
def nullPointer : Abrupt := .thrown (javaLang "NullPointerException")

/-- A call at a time when it is not allowed. -/
def illegalState : Abrupt := .thrown (javaLang "IllegalStateException")

end Abrupt

/-! ## Floating-point bits

Shifting out the sign leaves the magnitude, in whose order the infinity is the greatest number and
everything above it is not a number. -/

/-- The bits are above those of infinity, so they are not a number. -/
def isNaN {w : Nat} (infinity bits : BitVec w) : Bool := (infinity <<< 1).ult (bits <<< 1)

/-- Equality of numbers: nothing equals what is not a number, and both zeros are equal. -/
def sameNumber {w : Nat} (infinity a b : BitVec w) : Bool :=
  !isNaN infinity a && !isNaN infinity b && (a == b || (a <<< 1 == 0 && b <<< 1 == 0))

/-- The bits with one pattern for everything that is not a number. -/
def canonicalBits {w : Nat} (infinity notANumber bits : BitVec w) : BitVec w :=
  if isNaN infinity bits then notANumber else bits

/-- `Float.floatToIntBits`. -/
def floatToIntBits : BitVec 32 → BitVec 32 := canonicalBits 0x7f800000#32 0x7fc00000#32

/-- `Double.doubleToLongBits`. -/
def doubleToLongBits : BitVec 64 → BitVec 64 :=
  canonicalBits 0x7ff0000000000000#64 0x7ff8000000000000#64

namespace Datum

variable {ρ : Type}

def isNull : Datum ρ → Bool
  | null => true
  | _ => false

variable [DecidableEq ρ]

/-- The operator `==`, where its result does not depend on how values were made. -/
def identical : Datum ρ → Datum ρ → Option Bool
  | null, v => some v.isNull
  | v, null => some v.isNull
  | boolean a, boolean b => some (a == b)
  | integral _ a, integral _ b => some (a == b)
  | float a, float b => some (sameNumber 0x7f800000#32 a b)
  | double a, double b => some (sameNumber 0x7ff0000000000000#64 a b)
  | object a, object b => some (decide (a = b))
  | constant a, constant b => some (decide (a = b))
  | _, _ => none

end Datum

/-! ## Worlds and states -/

/-- What generated code finds when it runs. -/
structure World (ρ : Type) where
  /-- The field of an object. -/
  field : ρ → String → Option (Datum ρ)
  /-- The static field of a class around the one the code stands in. -/
  enclosing : String → Option (Datum ρ)
  /-- The declared type of a field of the class the code stands in. -/
  declared : String → Option TypeRef
  /-- The object is of the class. -/
  isInstance : ρ → ClassName → Bool
  /-- What `equals` answers. -/
  equals : ρ → Datum ρ → Bool
  /-- What any other method of an object answers. -/
  call : ρ → String → List (Datum ρ) → Except Abrupt (Datum ρ)
  /-- What a method of the current object answers. That it was called is recorded. -/
  answer : String → List (Datum ρ) → Datum ρ
  /-- The text of a value, as operator `+` and string builders append it. -/
  print : Datum ρ → String
  /-- What `hashCode` answers, for a primitive value after boxing. -/
  hash : Datum ρ → BitVec 32
  /-- The elements of an object that is an array of references. -/
  elements : ρ → Option (List (Datum ρ))

/-- What generated code changes when it runs. -/
structure State (ρ : Type) where
  /-- The local variables, the innermost first. -/
  locals : List (String × Datum ρ)
  /-- The contents of string builders. -/
  buffers : List String
  /-- The methods that were called on the current object, with their arguments. -/
  calls : List (String × List (Datum ρ))

namespace State

variable {ρ : Type} (st : State ρ)

/-- The state in which a method starts. -/
def start (locals : List (String × Datum ρ)) : State ρ := ⟨locals, [], []⟩

/-- Declare a local variable. -/
def declare (name : String) (v : Datum ρ) : State ρ :=
  { st with locals := (name, v) :: st.locals }

/-- Record a call on the current object. -/
def record (method : String) (args : List (Datum ρ)) : State ρ :=
  { st with calls := st.calls ++ [(method, args)] }

/-- Give the innermost variable of a name another value. -/
def replace (name : String) (v : Datum ρ) : List (String × Datum ρ) → List (String × Datum ρ)
  | [] => []
  | (x, u) :: rest => if x = name then (x, v) :: rest else (x, u) :: replace name v rest

/-- Assign to a local variable. Assignments to fields have no meaning here. -/
def assign (target : Expr) (v : Datum ρ) : Except Abrupt (State ρ) :=
  match target with
  | .var name =>
    if (st.locals.lookup name).isSome then .ok { st with locals := replace name v st.locals }
    else .error .stuck
  | _ => .error .stuck

/-- Leave a block, whose variables are those that were not there before it. -/
def leave (inner : State ρ) : State ρ :=
  { inner with locals := inner.locals.drop (inner.locals.length - st.locals.length) }

end State

/-- The value of an option, or nothing that has a meaning. -/
def orStuck {α : Type} : Option α → Except Abrupt α
  | some a => .ok a
  | none => .error .stuck

/-- The type is an array of references, which is passed for `Object...` as it is. -/
def TypeRef.isObjectArray : TypeRef → Bool
  | .array (.primitive _) => false
  | .array _ => true
  | _ => false

namespace World

/-- Objects that hold fields, are of every class and equal nothing but themselves. -/
def ofFields {ρ : Type} [DecidableEq ρ] (field : ρ → String → Option (Datum ρ)) : World ρ where
  field
  enclosing _ := none
  declared _ := none
  isInstance _ _ := true
  equals o
    | .object p => decide (o = p)
    | _ => false
  call _ _ _ := .error .stuck
  answer _ _ := .null
  print _ := ""
  hash _ := 0
  elements _ := none

variable {ρ : Type} (w : World ρ)

/-! ## Names, texts and hashes -/

/-- What a bare name stands for. -/
def resolve (self : ρ) (st : State ρ) (name : String) : Option (Datum ρ) :=
  (st.locals.lookup name).or ((w.field self name).or (w.enclosing name))

def fieldOf (name : String) : Datum ρ → Except Abrupt (Datum ρ)
  | .null => .error .nullPointer
  | .object o => orStuck (w.field o name)
  | _ => .error .stuck

/-- The text of a value within a string. -/
def textOf : Datum ρ → String
  | .null => "null"
  | .text s => s
  | v => w.print v

/-- The hash of an element, which is zero for null. -/
def hashOf : Datum ρ → BitVec 32
  | .null => 0
  | v => w.hash v

/-- The hash of a sequence of values, as of an array or a list. -/
def hashAll (vs : List (Datum ρ)) : BitVec 32 :=
  vs.foldl (fun h v ↦ 31 * h + w.hashOf v) 1

/-- `Arrays.hashCode`. -/
def hashArray : Datum ρ → Except Abrupt (BitVec 32)
  | .null => .ok 0
  | .array vs => .ok (w.hashAll vs)
  | .object o => (orStuck (w.elements o)).map w.hashAll
  | _ => .error .stuck

/-! ## Methods -/

def send (o : ρ) (method : String) (args : List (Datum ρ)) : Except Abrupt (Datum ρ) :=
  match args with
  | [v] => if method = "equals" then .ok (.boolean (w.equals o v)) else w.call o method [v]
  | _ => w.call o method args

/-- A method of a set of enum constants. -/
def sendConstants (s : Finset EnumConstant) (method : String) (args : List (Datum ρ)) :
    Except Abrupt (Datum ρ) :=
  match method, args with
  | "contains", [.constant c] => .ok (.boolean (decide (c ∈ s)))
  | "equals", [.constants t] => .ok (.boolean (decide (s = t)))
  | "isEmpty", [] => .ok (.boolean (decide (s = ∅)))
  | _, _ => .error .stuck

def sendJoiner (separator : String) (skipsNulls : Bool) (method : String)
    (args : List (Datum ρ)) : Except Abrupt (Datum ρ) :=
  if method = "skipNulls" then .ok (.joiner separator true)
  else if method = "join" then
    if !skipsNulls && args.any (·.isNull) then .error .nullPointer
    else .ok (.text (separator.intercalate ((args.filter (!·.isNull)).map w.textOf)))
  else .error .stuck

def sendBuffer (st : State ρ) (i : Nat) (method : String) (args : List (Datum ρ)) :
    Except Abrupt (Datum ρ × State ρ) := do
  let text ← orStuck st.buffers[i]?
  match args with
  | [] => if method = "toString" then return (.text text, st) else throw .stuck
  | [v] =>
    if method = "append" then
      return (.buffer i, { st with buffers := st.buffers.set i (text ++ w.textOf v) })
    else throw .stuck
  | _ => throw .stuck

def invoke (target : Datum ρ) (method : String) (args : List (Datum ρ)) (st : State ρ) :
    Except Abrupt (Datum ρ × State ρ) :=
  match target with
  | .null => .error .nullPointer
  | .object o => (w.send o method args).map (·, st)
  | .constants s => (sendConstants s method args).map (·, st)
  | .joiner sep skips => (w.sendJoiner sep skips method args).map (·, st)
  | .buffer i => w.sendBuffer st i method args
  | _ => .error .stuck

/-! ## Static methods -/

/-- The declared type of an expression, where it says its type or is a field of the object. -/
def typeOf? : Expr → Option TypeRef
  | .own name => w.declared name
  | .cast t _ => some t
  | .paren e => typeOf? e
  | _ => none

/-- The array that a method with the parameter `Object...` gets: a lone argument that is an array of
references by its declared type, and else a new array of the arguments. -/
def variableArguments (es : List Expr) (vs : List (Datum ρ)) : Datum ρ :=
  match es, vs with
  | [e], [v] => if (w.typeOf? e).any (·.isObjectArray) then v else .array [v]
  | _, _ => .array vs

/-- A method of `java.util.Arrays`. -/
def arraysMethod (method : String) (vs : List (Datum ρ)) : Except Abrupt (Datum ρ) :=
  match vs with
  | [v] =>
    if method = "hashCode" then (w.hashArray v).map fun h ↦ .integral .int h.toInt
    else .error .stuck
  | _ => .error .stuck

/-- A method of `java.lang.Float`. -/
def floatMethod (method : String) (vs : List (Datum ρ)) : Except Abrupt (Datum ρ) :=
  match vs with
  | [.float b] =>
    if method = "floatToIntBits" then .ok (.integral .int (floatToIntBits b).toInt)
    else .error .stuck
  | _ => .error .stuck

/-- A method of `java.lang.Double`. -/
def doubleMethod (method : String) (vs : List (Datum ρ)) : Except Abrupt (Datum ρ) :=
  match vs with
  | [.double b] =>
    if method = "doubleToLongBits" then .ok (.integral .long (doubleToLongBits b).toInt)
    else .error .stuck
  | _ => .error .stuck

def joinerMethod (method : String) (vs : List (Datum ρ)) : Except Abrupt (Datum ρ) :=
  match vs with
  | [.text separator] =>
    if method = "on" then .ok (.joiner separator false) else .error .stuck
  | _ => .error .stuck

def preconditionsMethod (method : String) (vs : List (Datum ρ)) : Except Abrupt (Datum ρ) :=
  match vs with
  | .boolean holds :: _ =>
    if method = "checkState" then if holds then .ok .null else .error .illegalState
    else .error .stuck
  | _ => .error .stuck

/-! ## Where the identity of objects counts -/

variable [DecidableEq ρ]

/-- The operators that evaluate both operands. -/
def operate : BinaryOp → Datum ρ → Datum ρ → Option (Datum ρ)
  | .equal, a, b => (a.identical b).map .boolean
  | .notEqual, a, b => (a.identical b).map (.boolean !·)
  | .plus, .text s, b => some (.text (s ++ w.textOf b))
  | .plus, a, .text s => some (.text (w.textOf a ++ s))
  | .atLeast, .integral _ a, .integral _ b => some (.boolean (decide (b ≤ a)))
  | _, _, _ => none

/-- Null-safe equality of references, `Objects.equals`. -/
def objectsEqual : Datum ρ → Datum ρ → Except Abrupt Bool
  | .null, v => .ok v.isNull
  | .object o, v => .ok (v.identical (.object o) == some true || w.equals o v)
  | .constants a, .constants b => .ok (decide (a = b))
  | _, _ => .error .stuck

/-- A method of `java.util.Objects`. -/
def objectsMethod (method : String) (es : List Expr) (vs : List (Datum ρ)) :
    Except Abrupt (Datum ρ) :=
  if method = "hash" then
    (w.hashArray (w.variableArguments es vs)).map fun h ↦ .integral .int h.toInt
  else
    match vs with
    | [a, b] => if method = "equals" then (w.objectsEqual a b).map .boolean else .error .stuck
    | _ => .error .stuck

/-- A static method, given its arguments as they are written and their values. -/
def invokeStatic (owner : ClassName) (method : String) (es : List Expr) (vs : List (Datum ρ)) :
    Except Abrupt (Datum ρ) :=
  if owner = javaUtil "Objects" then w.objectsMethod method es vs
  else if owner = javaUtil "Arrays" then w.arraysMethod method vs
  else if owner = javaLang "Float" then floatMethod method vs
  else if owner = javaLang "Double" then doubleMethod method vs
  else if owner = guavaBase "Joiner" then joinerMethod method vs
  else if owner = guavaBase "Preconditions" then preconditionsMethod method vs
  else .error .stuck

end World

/-! ## Expressions -/

section

variable {ρ : Type} [DecidableEq ρ] (w : World ρ) (self : ρ)

def Datum.truth : Datum ρ → Except Abrupt Bool
  | .boolean b => .ok b
  | _ => .error .stuck

/-- A value as a type, if it is of that type. -/
def World.castTo (t : TypeRef) (v : Datum ρ) : Except Abrupt (Datum ρ) :=
  match v, t.erasure? with
  | .null, _ => .ok .null
  | .object o, some c =>
    if w.isInstance o c then .ok (.object o)
    else .error (.thrown (javaLang "ClassCastException"))
  | _, _ => .error .stuck

namespace Expr

mutual

/-- The value of an expression, and the state after it. -/
@[simp] def eval : Expr → State ρ → Except Abrupt (Datum ρ × State ρ)
  | var x, st | own x, st | enclosing x, st => do return (← orStuck (w.resolve self st x), st)
  | this, st => .ok (.object self, st)
  | null, st => .ok (.null, st)
  | literal "true", st => .ok (.boolean true, st)
  | literal "false", st => .ok (.boolean false, st)
  | string s, st => .ok (.text s, st)
  | field e name, st => do
    let (v, st) ← e.eval st
    return (← w.fieldOf name v, st)
  | static owner name, st => .ok (.constant ⟨owner, name⟩, st)
  | ownCall method args, st => do
    let (vs, st) ← evalAll args st
    return (w.answer method vs, st.record method vs)
  | call e method _ args, st => do
    let (target, st) ← e.eval st
    let (vs, st) ← evalAll args st
    w.invoke target method vs st
  | staticCall owner _ method _ args, st => do
    let (vs, st) ← evalAll args st
    return (← w.invokeStatic owner method args vs, st)
  | create type _ args, st => do
    let (vs, st) ← evalAll args st
    match vs with
    | [.text s] =>
      if type.erasure? = some (javaLang "StringBuilder") then
        return (.buffer st.buffers.length, { st with buffers := st.buffers ++ [s] })
      else throw .stuck
    | _ => throw .stuck
  | newArray _ es, st => do
    let (vs, st) ← evalAll es st
    return (.array vs, st)
  | cast t e, st => do
    let (v, st) ← e.eval st
    return (← w.castTo t v, st)
  | not e, st => do
    let (v, st) ← e.eval st
    return (.boolean (!(← v.truth)), st)
  | paren e, st => e.eval st
  | instanceOf e c, st => do
    let (v, st) ← e.eval st
    match v with
    | .null => return (.boolean false, st)
    | .object o => return (.boolean (w.isInstance o c), st)
    | _ => throw .stuck
  | binary .and _ l r, st => do
    let (a, st) ← l.eval st
    if ← a.truth then
      let (b, st) ← r.eval st
      return (.boolean (← b.truth), st)
    else return (.boolean false, st)
  | binary .or _ l r, st => do
    let (a, st) ← l.eval st
    if ← a.truth then return (.boolean true, st)
    else
      let (b, st) ← r.eval st
      return (.boolean (← b.truth), st)
  | binary op _ l r, st => do
    let (a, st) ← l.eval st
    let (b, st) ← r.eval st
    return (← orStuck (w.operate op a b), st)
  | conditional c a b, st => do
    let (v, st) ← c.eval st
    if ← v.truth then a.eval st else b.eval st
  | literal _, _ | verbatim _, _ | classOf _, _ => .error .stuck

/-- The values of expressions, from the first to the last. -/
@[simp] def evalAll : List Expr → State ρ → Except Abrupt (List (Datum ρ) × State ρ)
  | [], st => .ok ([], st)
  | e :: es, st => do
    let (v, st) ← e.eval st
    let (vs, st) ← evalAll es st
    return (v :: vs, st)

end

end Expr

/-! ## Statements -/

namespace Stmt

mutual

/-- Run a statement: the value the method returns, if it returns here, and the state after it.
Loops have no meaning here. -/
@[simp] def run : Stmt → State ρ → Except Abrupt (Option (Datum ρ) × State ρ)
  | declare _ x e, st => do
    let (v, st) ← e.eval w self st
    return (none, st.declare x v)
  | assign target e, st => do
    let (v, st) ← e.eval w self st
    return (none, ← st.assign target v)
  | eval e, st => do
    let (_, st) ← e.eval w self st
    return (none, st)
  | ret e, st => do
    let (v, st) ← e.eval w self st
    return (some v, st)
  | throwNew c args, st => do
    let _ ← Expr.evalAll w self args st
    throw (.thrown c)
  | ifThen e body, st => do
    let (v, st) ← e.eval w self st
    if ← v.truth then
      let (r, inner) ← runAll body st
      return (r, st.leave inner)
    else return (none, st)
  | ifElse e yes no, st => do
    let (v, st) ← e.eval w self st
    let (r, inner) ← if ← v.truth then runAll yes st else runAll no st
    return (r, st.leave inner)
  | forEach _ _ _ _, _ => .error .stuck
  | remark _, st => .ok (none, st)

/-- Run statements until one of them returns. -/
@[simp] def runAll : List Stmt → State ρ → Except Abrupt (Option (Datum ρ) × State ρ)
  | [], st => .ok (none, st)
  | s :: ss, st => do
    match ← s.run st with
    | (some v, st) => return (some v, st)
    | (none, st) => runAll ss st

end

end Stmt

/-- What a method returns when it is called on an object. -/
def Method.returns (m : Method) (args : List (Datum ρ)) : Except Abrupt (Datum ρ) := do
  match ← Stmt.runAll w self m.body (.start ((m.params.map (·.name)).zip args)) with
  | (some v, _) => return v
  | (none, _) => throw .stuck

end

end JavaBuilder.Java
