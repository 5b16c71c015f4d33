import JavaBuilder.Toml.Lexeme
import JavaBuilder.Toml.Scalar

/-!
# Lines of a configuration text

A configuration is a sequence of lines: a table is named, an element of a list of tables is named, or
a key is given a value. A key is a path of names. Which tables come of it is another matter, see
`Table`.

Lines may end anywhere inside brackets and braces but within a key. Values nest at most 80 deep, and
a key has at most 80 names.

The reader counts down from the length of the text. Each step uses up a character, so the count
never decides an answer.
-/

namespace JavaBuilder.Toml

mutual

/-- A value, as written. -/
inductive Value where
  | string (s : String)
  | word (w : Word)
  | array (items : Values)
  | inline (fields : Fields)

/-- The items of an array. -/
inductive Values where
  | nil
  | cons (item : Value) (rest : Values)

/-- The fields of a table in braces. -/
inductive Fields where
  | nil
  | cons (key : List String) (value : Value) (rest : Fields)

end

inductive Line where
  /-- The name of a table, in brackets. -/
  | table (key : List String)
  /-- The name of a list of tables, in double brackets: one more table in it. -/
  | element (key : List String)
  /-- A key and its value. -/
  | assign (key : List String) (value : Value)

/-! ## Keys -/

/-- A character of a name without quotes. -/
def isNameChar (c : Char) : Bool := c.isAlphanum || c == '_' || c == '-'

/-- One name of a key, and what follows it. -/
def readName? (cs : List Char) : Option (String × List Char) :=
  match cs.takeWhile isNameChar with
  | [] => readString? cs
  | name => some (String.ofList name, cs.dropWhile isNameChar)

/-- A key, and what follows it and the white space after it. -/
def readKey? : Nat → List Char → Option (List String × List Char)
  | 0, _ => none
  | fuel + 1, cs => do
    let (name, rest) ← readName? (skipGaps cs)
    match skipGaps rest with
    | '.' :: rest =>
      let (names, rest) ← readKey? fuel rest
      return (name :: names, rest)
    | rest => return ([name], rest)

/-! ## Values -/

mutual

/-- A value, and what follows it. -/
def readValue? : Nat → List Char → Option (Value × List Char)
  | 0, _ => none
  | fuel + 1, cs =>
    match cs with
    | '[' :: cs => do
      let (items, rest) ← readItems? fuel cs
      return (.array items, rest)
    | '\x7b' :: cs => do
      let (fields, rest) ← readFields? fuel cs
      return (.inline fields, rest)
    | '"' :: _ => (readAnyString? cs).map fun r ↦ (.string r.1, r.2)
    | '\'' :: _ => (readAnyString? cs).map fun r ↦ (.string r.1, r.2)
    | _ => (readWord? cs).map fun r ↦ (.word r.1, r.2)

/-- The items of an array up to its closing bracket, and what follows it. -/
def readItems? : Nat → List Char → Option (Values × List Char)
  | 0, _ => none
  | fuel + 1, cs => do
    match ← skipTrivia? false cs with
    | ']' :: rest => return (.nil, rest)
    | cs =>
      let (item, rest) ← readValue? fuel cs
      match ← skipTrivia? false rest with
      | ',' :: rest =>
        let (items, rest) ← readItems? fuel rest
        return (.cons item items, rest)
      | ']' :: rest => return (.cons item .nil, rest)
      | _ => none

/-- The fields of a table up to its closing brace, and what follows it. -/
def readFields? : Nat → List Char → Option (Fields × List Char)
  | 0, _ => none
  | fuel + 1, cs => do
    match ← skipTrivia? false cs with
    | '\x7d' :: rest => return (.nil, rest)
    | cs =>
      let (key, rest) ← readKey? fuel cs
      match ← skipTrivia? false rest with
      | '=' :: rest =>
        let (value, rest) ← readValue? fuel (← skipTrivia? false rest)
        match ← skipTrivia? false rest with
        | ',' :: rest =>
          let (fields, rest) ← readFields? fuel rest
          return (.cons key value fields, rest)
        | '\x7d' :: rest => return (.cons key value .nil, rest)
        | _ => none
      | _ => none

end

/-! ## Limits -/

/-- How deep values may nest, and how many names a key may have. -/
def maxDepth : Nat := 80

mutual

/-- A value keeps to the limits where it may nest to a depth. -/
def Value.keepsTo (depth : Nat) : Value → Bool
  | .string _ | .word _ => true
  | .array items => 0 < depth && items.keepTo (depth - 1)
  | .inline fields => 0 < depth && fields.keepTo (depth - 1)

/-- Items keep to the limits. -/
def Values.keepTo (depth : Nat) : Values → Bool
  | .nil => true
  | .cons item rest => item.keepsTo depth && rest.keepTo depth

/-- Fields keep to the limits. -/
def Fields.keepTo (depth : Nat) : Fields → Bool
  | .nil => true
  | .cons key value rest =>
    key.length ≤ maxDepth && value.keepsTo depth && rest.keepTo depth

end

/-- A line keeps to the limits. -/
def Line.keepsToLimits : Line → Bool
  | .table key | .element key => key.length ≤ maxDepth
  | .assign key value => key.length ≤ maxDepth && value.keepsTo maxDepth

/-! ## Lines -/

/-- A line, and what follows it. -/
def readLine? (fuel : Nat) : List Char → Option (Line × List Char)
  | '[' :: '[' :: cs => do
    match ← readKey? fuel cs with
    | (key, ']' :: ']' :: rest) => return (.element key, ← endLine? rest)
    | _ => none
  | '[' :: cs => do
    match ← readKey? fuel cs with
    | (key, ']' :: rest) => return (.table key, ← endLine? rest)
    | _ => none
  | cs => do
    match ← readKey? fuel cs with
    | (key, '=' :: rest) =>
      let (value, rest) ← readValue? fuel (skipGaps rest)
      return (.assign key value, ← endLine? rest)
    | _ => none

/-- The lines up to the end of the text. -/
def readLines? : Nat → List Char → Option (List Line)
  | 0, _ => none
  | fuel + 1, cs => do
    match ← skipTrivia? false cs with
    | [] => return []
    | cs =>
      let (line, rest) ← readLine? fuel cs
      return line :: (← readLines? fuel rest)

/-- The lines of a text. A byte order mark in front is no part of it. -/
def lines? (text : String) : Option (List Line) :=
  let cs := match text.toList with
    | '\ufeff' :: cs => cs
    | cs => cs
  (readLines? (2 * cs.length + 2) cs).filter fun ls ↦ ls.all Line.keepsToLimits

end JavaBuilder.Toml
