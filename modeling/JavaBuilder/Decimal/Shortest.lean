/-!
# Shortest decimals

The decimal with the fewest digits that reads back as a given binary number, and among those the
nearest to it. The binary number is `m · 2 ^ q`; the numbers that read back as it form an interval
around it, half a unit wide on each side (a quarter below a power of two), with its ends included
when `m` is even. The grid of decimals with `n` digits meets the interval only if one of the two
grid points around the number lies in it, so these two are all that has to be tried for each `n`.

All of it is exact arithmetic on natural numbers.
-/

namespace JavaBuilder.Decimal

/-- The digits of a decimal and the power of ten they are multiplied by. -/
structure Digits where
  digits : Nat
  exponent : Int
deriving DecidableEq, Repr

/-- A positive binary number `m · 2 ^ q`, and whether it is the least with its exponent. -/
structure Binary where
  m : Nat
  q : Int
  least : Bool
deriving DecidableEq, Repr

/-- The number and the ends of its interval as fractions over one denominator. -/
structure Interval where
  low : Nat
  value : Nat
  high : Nat
  denominator : Nat

/-- The interval of numbers that read back as a binary number. -/
def Binary.interval (b : Binary) : Interval :=
  let up := Nat.pow 2 b.q.toNat
  let down := Nat.pow 2 (-b.q).toNat
  { low := (4 * b.m - (if b.least then 1 else 2)) * up
    value := 4 * b.m * up
    high := (4 * b.m + 2) * up
    denominator := 4 * down }

/-- The power of ten that a number of value `v / d` is below: the least `k` with `v / d < 10 ^ k`,
looked for upwards from `k`. -/
def magnitude (v d : Nat) : Nat → Int → Int
  | 0, k => k
  | fuel + 1, k =>
    if v * Nat.pow 10 (-k).toNat < d * Nat.pow 10 k.toNat then k else magnitude v d fuel (k + 1)

/-- The grid point with exponent `e` below or at a number, or the one above it, if it lies in the
interval and no other is nearer. -/
def Interval.candidate? (i : Interval) (closed : Bool) (e : Int) : Option Nat :=
  let up := Nat.pow 10 (-e).toNat
  let unit := i.denominator * Nat.pow 10 e.toNat
  let below := i.value * up / unit
  let inside (n : Nat) : Bool :=
    if closed then i.low * up ≤ n * unit && n * unit ≤ i.high * up
    else i.low * up < n * unit && n * unit < i.high * up
  let gapBelow := i.value * up - below * unit
  let gapAbove := (below + 1) * unit - i.value * up
  match inside below, inside (below + 1) with
  | true, true =>
    if gapBelow < gapAbove || (gapBelow == gapAbove && below % 2 == 0) then some below
    else some (below + 1)
  | true, false => some below
  | false, true => some (below + 1)
  | false, false => none

/-- The first grid, from `n` digits on, with a point in the interval. -/
def Interval.shortest (i : Interval) (closed : Bool) (k : Int) : Nat → Nat → Digits
  | 0, n => ⟨i.value * Nat.pow 10 (-(k - n)).toNat / (i.denominator * Nat.pow 10 (k - n).toNat), k - n⟩
  | fuel + 1, n =>
    match i.candidate? closed (k - n) with
    | some d => ⟨d, k - n⟩
    | none => shortest i closed k fuel (n + 1)

/-- Move zeros at the end of the digits into the exponent. -/
def Digits.trim : Nat → Digits → Digits
  | 0, d => d
  | fuel + 1, d =>
    if d.digits % 10 = 0 ∧ d.digits ≠ 0 then trim fuel ⟨d.digits / 10, d.exponent + 1⟩ else d

/-- The shortest decimal that reads back as a binary number. -/
def Binary.shortest (b : Binary) : Digits :=
  let i := b.interval
  let k := magnitude i.value i.denominator 700 (-330)
  (i.shortest (b.m % 2 == 0) k 17 1).trim 20

/-- The positive finite number in the bits of a floating-point number without its sign. -/
def Binary.ofBits (bits : Nat) : Binary :=
  let fraction := bits % Nat.pow 2 52
  let exponent : Nat := bits / Nat.pow 2 52
  if exponent = 0 then ⟨fraction, -1074, false⟩
  else ⟨fraction + Nat.pow 2 52, (exponent : Int) - 1075, fraction == 0 && exponent ≠ 1⟩

/-- An exponent with its sign. -/
def exponentText (e : Int) : String := if 0 ≤ e then "e+" ++ toString e else "e" ++ toString e

/-- Decimal digits as they are shown in diagnostics: with a point and at least one digit after it
for magnitudes from `10 ^ -5` to `10 ^ 16`, and with an exponent and its sign otherwise. -/
def Digits.text (d : Digits) : String :=
  let ds := toString d.digits
  let n : Int := ds.length
  let point := n + d.exponent
  let zeros (k : Int) : String := String.join (List.replicate k.toNat "0")
  if 0 ≤ d.exponent ∧ point ≤ 16 then ds ++ zeros d.exponent ++ ".0"
  else if 0 < point ∧ point ≤ 16 then
    String.ofList (ds.toList.take point.toNat) ++ "." ++ String.ofList (ds.toList.drop point.toNat)
  else if -5 < point ∧ point ≤ 0 then "0." ++ zeros (-point) ++ ds
  else
    String.ofList (ds.toList.take 1) ++
      (if n = 1 then "" else "." ++ String.ofList (ds.toList.drop 1)) ++ exponentText (point - 1)

/-- A finite floating-point number as it is shown in diagnostics. -/
def showFloat (x : Float) : String :=
  let bits := x.toBits.toNat
  let sign := if bits / Nat.pow 2 63 = 1 then "-" else ""
  let bits := bits % Nat.pow 2 63
  sign ++ if bits = 0 then "0.0" else (Binary.ofBits bits).shortest.text

end JavaBuilder.Decimal
