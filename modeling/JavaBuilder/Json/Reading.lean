import JavaBuilder.Json.Number
import JavaBuilder.Text.Hex

/-!
# Reading JSON text

A descriptor is decoded while its text is read, so a fault of shape is found even in a text that
stops being JSON further on. `Reading` is what a text has to offer to that end: the tree of values
up to the point where it stops being JSON, with the stop marked in the tree. Nothing follows a stop.

Escapes in a string may fail to denote characters. Such a string can still be passed over, so it is
kept as a string without a value.

The reader counts down from twice the length of the text. Each step of two uses up a character, so
the count never decides an answer.
-/

namespace JavaBuilder.Json

mutual

/-- What has been read of a value. -/
inductive Reading where
  | null
  | bool (b : Bool)
  | number (n : Number)
  /-- A string, without a value if its escapes denote no text. -/
  | string (s : Option String)
  | array (items : Items)
  | object (members : Members)
  /-- No value is here. -/
  | stop

/-- What has been read of the items of an array. -/
inductive Items where
  /-- The array is closed. -/
  | done
  /-- The text stops being an array. -/
  | broken
  | cons (item : Reading) (rest : Items)

/-- What has been read of the members of an object. -/
inductive Members where
  /-- The object is closed. -/
  | done
  /-- The text stops being an object; `found` is what stands where a key is wanted. -/
  | broken (found : Reading)
  | cons (key : Option String) (value : Reading) (rest : Members)

end

/-! ## Strings -/

/-- A unit of a string: a character, or a code unit written in hexadecimal digits. -/
inductive StringUnit where
  | char (c : Char)
  | code (n : Nat)
deriving DecidableEq, Repr

def shortEscape? : Char → Option Char
  | '"' => some '"'
  | '\\' => some '\\'
  | '/' => some '/'
  | 'b' => some '\x08'
  | 'f' => some '\x0c'
  | 'n' => some '\n'
  | 'r' => some '\r'
  | 't' => some '\t'
  | _ => none

/-- The units of a string up to its closing quote, and what follows it. -/
def readUnits : List Char → Option (List StringUnit × List Char)
  | [] => none
  | '"' :: cs => some ([], cs)
  | '\\' :: 'u' :: a :: b :: c :: d :: cs =>
    match Text.hexNumber? [a, b, c, d], readUnits cs with
    | some n, some (us, rest) => some (.code n :: us, rest)
    | _, _ => none
  | '\\' :: c :: cs =>
    match shortEscape? c, readUnits cs with
    | some e, some (us, rest) => some (.char e :: us, rest)
    | _, _ => none
  | c :: cs =>
    if c = '\\' ∨ c.toNat < 32 then none
    else (readUnits cs).map fun r ↦ (.char c :: r.1, r.2)

/-- The characters of units. A code unit of the surrogate range denotes one only in a pair. -/
def decodeUnits : List StringUnit → Option (List Char)
  | [] => some []
  | .char c :: us => (decodeUnits us).map (c :: ·)
  | .code n :: us =>
    if n < 0xD800 ∨ 0xE000 ≤ n then (decodeUnits us).map (Char.ofNat n :: ·)
    else
      match us with
      | .code m :: vs =>
        if n < 0xDC00 ∧ 0xDC00 ≤ m ∧ m < 0xE000 then
          (decodeUnits vs).map (Char.ofNat (0x10000 + (n - 0xD800) * 0x400 + (m - 0xDC00)) :: ·)
        else none
      | _ => none

/-- A string after its opening quote, and what follows it. -/
def readString? (cs : List Char) : Option (Option String × List Char) :=
  (readUnits cs).map fun r ↦ ((decodeUnits r.1).map String.ofList, r.2)

/-! ## Numbers -/

def spanDigits (cs : List Char) : List Char × List Char := cs.span Char.isDigit

/-- A point and digits, or nothing. -/
def readFraction? : List Char → Option (List Char × List Char)
  | '.' :: cs =>
    match spanDigits cs with
    | ([], _) => none
    | r => some r
  | cs => some ([], cs)

def readExponent? : List Char → Option (Option (Bool × List Char) × List Char)
  | c :: cs =>
    if c = 'e' ∨ c = 'E' then
      let (negative, cs) := match cs with
        | '+' :: cs => (false, cs)
        | '-' :: cs => (true, cs)
        | _ => (false, cs)
      match spanDigits cs with
      | ([], _) => none
      | (ds, rest) => some (some (negative, ds), rest)
    else some (none, c :: cs)
  | [] => some (none, [])

/-- A number after its sign. -/
def readNumber? (negative : Bool) (cs : List Char) : Option (Number × List Char) :=
  match spanDigits cs with
  | ([], _) => none
  | (w :: ws, rest) =>
    if w = '0' ∧ ws ≠ [] then none
    else do
      let (fraction, rest) ← readFraction? rest
      let (exponent, rest) ← readExponent? rest
      return (⟨negative, w :: ws, fraction, exponent⟩, rest)

/-! ## Values -/

/-- White space between lexemes. -/
def isSpace (c : Char) : Bool := c == ' ' || c == '\n' || c == '\t' || c == '\r'

/-- Drop white space at the front. -/
def skipSpace (cs : List Char) : List Char := cs.dropWhile isSpace

/-- A word that stands for a value. -/
def readWord (word : String) (r : Reading) (cs : List Char) : Reading × Option (List Char) :=
  if word.toList.isPrefixOf cs then (r, some (cs.drop word.length)) else (.stop, none)

/-- A number, or a stop. -/
def readNumber (negative : Bool) (cs : List Char) : Reading × Option (List Char) :=
  match readNumber? negative cs with
  | some (n, rest) => (.number n, some rest)
  | none => (.stop, none)

mutual

/-- A value, and what follows it unless it holds a stop. -/
def readValue : Nat → List Char → Reading × Option (List Char)
  | 0, _ => (.stop, none)
  | fuel + 1, cs =>
    match skipSpace cs with
    | [] => (.stop, none)
    | c :: cs =>
      if c = '"' then
        match readString? cs with
        | some (s, rest) => (.string s, some rest)
        | none => (.stop, none)
      else if c = '[' then
        let (items, rest) := readItems fuel true cs
        (.array items, rest)
      else if c = '\x7b' then
        let (members, rest) := readMembers fuel true cs
        (.object members, rest)
      else if c = 'n' then readWord "ull" .null cs
      else if c = 't' then readWord "rue" (.bool true) cs
      else if c = 'f' then readWord "alse" (.bool false) cs
      else if c = '-' then readNumber true cs
      else if c.isDigit then readNumber false (c :: cs)
      else (.stop, none)

/-- The items of an array, of which this may be the first. -/
def readItems : Nat → Bool → List Char → Items × Option (List Char)
  | 0, _, _ => (.broken, none)
  | fuel + 1, first, cs =>
    match skipSpace cs with
    | [] => (.broken, none)
    | c :: cs =>
      if c = ']' then (.done, some cs)
      else if !first && c ≠ ',' then (.broken, none)
      else
        let start := if first then c :: cs else skipSpace cs
        if !first && (start.isEmpty || start.head? = some ']') then (.broken, none)
        else
          match readValue fuel start with
          | (item, none) => (.cons item .broken, none)
          | (item, some rest) =>
            let (items, rest) := readItems fuel false rest
            (.cons item items, rest)

/-- The members of an object, of which this may be the first. -/
def readMembers : Nat → Bool → List Char → Members × Option (List Char)
  | 0, _, _ => (.broken .stop, none)
  | fuel + 1, first, cs =>
    match skipSpace cs with
    | [] => (.broken .stop, none)
    | c :: cs =>
      if c = '\x7d' then (.done, some cs)
      else if !first && c ≠ ',' then (.broken .stop, none)
      else
        match if first then c :: cs else skipSpace cs with
        | '"' :: cs =>
          match readString? cs with
          | none => (.broken .stop, none)
          | some (key, rest) =>
            match skipSpace rest with
            | ':' :: rest =>
              match readValue fuel rest with
              | (value, none) => (.cons key value (.broken .stop), none)
              | (value, some rest) =>
                let (members, rest) := readMembers fuel false rest
                (.cons key value members, rest)
            | _ => (.cons key .stop (.broken .stop), none)
        | cs => (.broken (readValue fuel cs).1, none)

end

/-- What has been read of a whole text, and whether nothing but white space follows. -/
structure Document where
  root : Reading
  /-- Nothing but white space follows the value. -/
  ended : Bool

def Document.ofText (text : String) : Document :=
  let cs := text.toList
  match readValue (2 * cs.length + 2) cs with
  | (root, none) => ⟨root, false⟩
  | (root, some rest) => ⟨root, (skipSpace rest).isEmpty⟩

/-! ## Passing over values -/

mutual

/-- The value can be passed over. -/
def Reading.isWhole : Reading → Bool
  | .array items => items.isWhole
  | .object members => members.isWhole
  | .stop => false
  | _ => true

/-- The items can be passed over. -/
def Items.isWhole : Items → Bool
  | .done => true
  | .broken => false
  | .cons item rest => item.isWhole && rest.isWhole

/-- The members can be passed over. -/
def Members.isWhole : Members → Bool
  | .done => true
  | .broken _ => false
  | .cons _ value rest => value.isWhole && rest.isWhole

end

/-- How deep values may be nested in a value that is kept for later. -/
def maxDepth : Nat := 127

mutual

/-- The value can be kept for later: every string has a value, every number can be read, and no more
than `room` values are nested in each other. -/
def Reading.isKept : Nat → Reading → Bool
  | _, .null | _, .bool _ => true
  | _, .number n => n.isReadable
  | _, .string s => s.isSome
  | 0, .array _ | 0, .object _ => false
  | room + 1, .array items => items.areKept room
  | room + 1, .object members => members.areKept room
  | _, .stop => false

/-- The items can be kept for later. -/
def Items.areKept : Nat → Items → Bool
  | _, .done => true
  | _, .broken => false
  | room, .cons item rest => item.isKept room && rest.areKept room

/-- The members can be kept for later. -/
def Members.areKept : Nat → Members → Bool
  | _, .done => true
  | _, .broken _ => false
  | room, .cons key value rest => key.isSome && value.isKept room && rest.areKept room

end

end JavaBuilder.Json
