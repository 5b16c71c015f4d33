import JavaBuilder.Text.Hex
import JavaBuilder.Text.Segments

/-!
# Scalars without quotes

Booleans, numbers, dates and times are words. Underscores may stand between two digits of a number.
A decimal number has no zeros in front, and numbers to the bases 16, 8 and 2 have no sign. An integer
is kept if it fits in 128 bits, with a sign or without one.

A time of day may leave out its seconds. A date and a time make a moment, with `T` or a space between
them, and after a moment its distance from universal time may stand.
-/

namespace JavaBuilder.Toml

open Text

/-- A scalar without quotes. -/
inductive Word where
  | boolean (b : Bool)
  | integer (n : Int)
  | float (text : String)
  | moment (text : String)
deriving DecidableEq, Repr

/-- A character of a word. -/
def isWordChar (c : Char) : Bool := c.isAlphanum || c == '+' || c == '-' || c == '_' || c == '.' || c == ':'

/-! ## Numbers -/

/-- The digits of a number with its underscores taken out. Each stands between two digits. -/
def digits? (isDigit : Char → Bool) (cs : List Char) : Option (List Char) :=
  let groups := segments '_' cs
  if groups.all fun g ↦ !g.isEmpty && g.all isDigit then some groups.flatten else none

def numberOf (base : Nat) (digits : List Char) : Nat :=
  digits.foldl (fun n c ↦ base * n + (hexValue? c).getD 0) 0

def isDigitOf (base : Nat) (c : Char) : Bool :=
  match hexValue? c with
  | some v => v < base
  | none => false

/-- The sign and what follows it. -/
def splitSign : List Char → Bool × List Char
  | '-' :: cs => (true, cs)
  | '+' :: cs => (false, cs)
  | cs => (false, cs)

/-- Digits of a whole number: none in front is a zero, unless it is the only one. -/
def wholeDigits? (cs : List Char) : Option (List Char) :=
  match digits? Char.isDigit cs with
  | some ('0' :: _ :: _) => none
  | ds => ds

/-- The number fits in 128 bits, with a sign or without one. -/
def fits (n : Int) : Bool := -(Nat.pow 2 127 : Int) ≤ n ∧ n < (Nat.pow 2 128 : Int)

/-- The integer that a word stands for. -/
def integer? (cs : List Char) : Option Int :=
  let based (base : Nat) (cs : List Char) : Option Int :=
    (digits? (isDigitOf base) cs).map fun ds ↦ (numberOf base ds : Int)
  let value :=
    match cs with
    | '0' :: 'x' :: cs => based 16 cs
    | '0' :: 'o' :: cs => based 8 cs
    | '0' :: 'b' :: cs => based 2 cs
    | cs =>
      let (negative, cs) := splitSign cs
      (wholeDigits? cs).map fun ds ↦ if negative then -(numberOf 10 ds : Int) else numberOf 10 ds
  value.filter fits

/-- The exponent after its mark. -/
def exponent? (cs : List Char) : Option Int :=
  let (negative, cs) := splitSign cs
  (digits? Char.isDigit cs).map fun ds ↦ if negative then -(numberOf 10 ds : Int) else numberOf 10 ds

/-- A number with a fraction or an exponent: its digits, and the power of ten that they count. -/
def decimal? (cs : List Char) : Option (List Char × Int) := do
  let whole := cs.takeWhile fun c ↦ c ≠ '.' ∧ c ≠ 'e' ∧ c ≠ 'E'
  let ds ← wholeDigits? whole
  match cs.drop whole.length with
  | '.' :: cs =>
    let fraction := cs.takeWhile fun c ↦ c ≠ 'e' ∧ c ≠ 'E'
    let fs ← digits? Char.isDigit fraction
    match cs.drop fraction.length with
    | [] => return (ds ++ fs, -fs.length)
    | _ :: cs => return (ds ++ fs, (← exponent? cs) - fs.length)
  | _ :: cs => return (ds, ← exponent? cs)
  | [] => none

/-- The least number that is rounded to infinity: it lies halfway between the largest floating-point
number and the next power of two. -/
def roundedToInfinity : Nat := Nat.pow 2 1024 - Nat.pow 2 970

/-- The number with these digits, counting a power of ten, is rounded to infinity. The number of
digits before the point decides, but for numbers from ten to the 308 up to ten to the 309. -/
def isTooLarge (digits : List Char) (e : Int) : Bool :=
  let digits := digits.dropWhile (· = '0')
  let size := digits.length + e
  if digits.isEmpty ∨ size < 309 then false
  else if 309 < size then true
  else if 0 ≤ e then roundedToInfinity ≤ numberOf 10 digits * Nat.pow 10 e.toNat
  else roundedToInfinity * Nat.pow 10 e.natAbs ≤ numberOf 10 digits

/-- A word is a number with a fraction or an exponent that is not too large, or it is infinite or no
number at all. -/
def isFloat (cs : List Char) : Bool :=
  let body := (splitSign cs).2
  if body = "inf".toList ∨ body = "nan".toList then true
  else
    match decimal? body with
    | some (ds, e) => !isTooLarge ds e
    | none => false

/-! ## Dates and times -/

def twoDigits? (a b : Char) : Option Nat :=
  if a.isDigit ∧ b.isDigit then some (numberOf 10 [a, b]) else none

/-- The year has a 29th of February. -/
def isLeapYear (y : Nat) : Bool := y % 4 = 0 ∧ (y % 100 ≠ 0 ∨ y % 400 = 0)

def daysIn (year month : Nat) : Nat :=
  if month = 2 then if isLeapYear year then 29 else 28
  else if month = 4 ∨ month = 6 ∨ month = 9 ∨ month = 11 then 30
  else 31

def afterDate? : List Char → Option (List Char)
  | y₁ :: y₂ :: y₃ :: y₄ :: '-' :: m₁ :: m₂ :: '-' :: d₁ :: d₂ :: cs => do
    let year := 100 * (← twoDigits? y₁ y₂) + (← twoDigits? y₃ y₄)
    let month ← twoDigits? m₁ m₂
    let day ← twoDigits? d₁ d₂
    if 1 ≤ month ∧ month ≤ 12 ∧ 1 ≤ day ∧ day ≤ daysIn year month then some cs else none
  | _ => none

/-- What follows hours and minutes. -/
def afterMinutes? : List Char → Option (List Char)
  | h₁ :: h₂ :: ':' :: m₁ :: m₂ :: cs => do
    if (← twoDigits? h₁ h₂) ≤ 23 ∧ (← twoDigits? m₁ m₂) ≤ 59 then some cs else none
  | _ => none

/-- What follows a time of day. -/
def afterTime? (cs : List Char) : Option (List Char) := do
  match ← afterMinutes? cs with
  | ':' :: s₁ :: s₂ :: cs =>
    if (← twoDigits? s₁ s₂) ≤ 60 then
      match cs with
      | '.' :: f :: cs => if f.isDigit then some (cs.dropWhile Char.isDigit) else none
      | cs => some cs
    else none
  | ':' :: _ => none
  | cs => some cs

/-- A distance from universal time, or nothing. -/
def isOffset : List Char → Bool
  | [] | ['Z'] | ['z'] => true
  | '+' :: cs => afterMinutes? cs == some []
  | '-' :: cs => afterMinutes? cs == some []
  | _ => false

/-- A word is a date. -/
def isDate (cs : List Char) : Bool := afterDate? cs == some []

/-- A word is a time of day, and a distance from universal time may follow. -/
def isZonedTime (cs : List Char) : Bool :=
  match afterTime? cs with
  | some rest => isOffset rest
  | none => false

/-- A word is a date, a time of day, or both. -/
def isMoment (cs : List Char) : Bool :=
  afterTime? cs == some [] ||
    match afterDate? cs with
    | some [] => true
    | some (t :: rest) => (t == 'T' || t == 't') && isZonedTime rest
    | none => false

/-! ## Words -/

/-- The scalar that a word stands for. -/
def Word.ofChars? (cs : List Char) : Option Word :=
  if cs = "true".toList then some (.boolean true)
  else if cs = "false".toList then some (.boolean false)
  else if isMoment cs then some (.moment (String.ofList cs))
  else if isFloat cs then some (.float (String.ofList cs))
  else (integer? cs).map .integer

/-- A scalar without quotes, and what follows it. After a date and a space a time may follow. -/
def readWord? (cs : List Char) : Option (Word × List Char) :=
  let word := cs.takeWhile isWordChar
  let rest := cs.dropWhile isWordChar
  match isDate word, rest with
  | true, ' ' :: more =>
    let time := more.takeWhile isWordChar
    if isZonedTime time then
      some (.moment (String.ofList (word ++ ' ' :: time)), more.dropWhile isWordChar)
    else (Word.ofChars? word).map fun w ↦ (w, rest)
  | _, _ => (Word.ofChars? word).map fun w ↦ (w, rest)

end JavaBuilder.Toml
