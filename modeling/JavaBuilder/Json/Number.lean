import JavaBuilder.Decimal.Shortest

/-!
# Numbers in JSON

Numbers are of no use in descriptors: one that stands where something else is wanted is shown in the
complaint, and all others are passed over. A number is kept as it is written. `view` says which
value it is read as: an integer if it is written as one and fits in 64 bits, and a floating-point
number otherwise. A number too large for that cannot be read, only passed over.

A floating-point number is read from its first digits, as many as fit in 64 bits, and scaled by
powers of ten.
-/

namespace JavaBuilder.Json

/-- A number as it is written. -/
structure Number where
  negative : Bool
  /-- The digits before the point. -/
  whole : List Char
  /-- The digits after the point, none without a point. -/
  fraction : List Char
  /-- Whether the exponent is negative, and its digits. -/
  exponent : Option (Bool × List Char)
deriving DecidableEq, Repr

/-- What a number is read as. -/
inductive NumberView where
  | integer (n : Int)
  | float (x : Float)
  | tooLarge
deriving Repr

def digitValue (c : Char) : Nat := c.toNat - 48

/-- Read digits while the value stays below a bound; the digits that are left over follow. -/
def readDigits (bound : Nat) : Nat → List Char → Nat × List Char
  | n, [] => (n, [])
  | n, c :: cs =>
    let next := n * 10 + digitValue c
    if next < bound then readDigits bound next cs else (n, c :: cs)

/-- Scale a number by a power of ten. -/
def scale : Nat → Float → Int → Option Float
  | 0, _, _ => none
  | fuel + 1, x, e =>
    let pow := Float.ofScientific 1 false e.natAbs
    if e.natAbs ≤ 308 then
      if 0 ≤ e then
        let y := x * pow
        if y.isInf then none else some y
      else some (x / pow)
    else if x == 0.0 then some x
    else if 0 ≤ e then none
    else scale fuel (x / Float.ofScientific 1 false 308) (e + 308)

namespace Number

variable (n : Number)

/-- A floating-point number of this number's sign. -/
def signed (x : Float) : Float := if n.negative then -x else x

/-- The floating-point number of the digits read and a power of ten. -/
def ofParts (significand : Nat) (e : Int) : NumberView :=
  match scale 16 significand.toUInt64.toFloat (max (-5000) e) with
  | some x => .float (n.signed x)
  | none => .tooLarge

/-- Apply the exponent to the digits read and the power of ten they come with. -/
def withExponent (significand : Nat) (e : Int) : NumberView :=
  match n.exponent with
  | none => n.ofParts significand e
  | some (negative, digits) =>
    let (x, rest) := readDigits (Nat.pow 2 31) 0 digits
    if rest.isEmpty then n.ofParts significand (if negative then e - x else e + x)
    else if significand ≠ 0 ∧ !negative then .tooLarge
    else .float (n.signed 0.0)

/-- What the number is read as. -/
def view : NumberView :=
  let (significand, rest) := readDigits (Nat.pow 2 64) 0 n.whole
  if rest.isEmpty && n.fraction.isEmpty && n.exponent.isNone then
    if !n.negative then .integer significand
    else if significand = 0 then .float (-0.0)
    else if significand ≤ Nat.pow 2 63 then .integer (-significand)
    else n.ofParts significand 0
  else if rest.isEmpty then
    let (significand', rest') := readDigits (Nat.pow 2 64) significand n.fraction
    n.withExponent significand' (-((n.fraction.length - rest'.length : Nat) : Int))
  else
    let (significand', rest') := readDigits (Nat.pow 2 64) significand n.fraction
    n.withExponent significand' (rest.length - ((n.fraction.length - rest'.length : Nat) : Int))

/-- The number can be read. -/
def isReadable : Bool :=
  match n.view with
  | .tooLarge => false
  | _ => true

end Number

end JavaBuilder.Json
