/-!
# JSON values

The values that are written: no numbers occur. Objects keep the order of their members. A value is
written without any white space; in strings, quotes, backslashes and control characters are escaped
and everything else stands for itself.
-/

namespace JavaBuilder.Json

/-- A JSON value without numbers. -/
inductive Value where
  | null
  | bool (b : Bool)
  | string (s : String)
  | array (items : List Value)
  | object (members : List (String × Value))
deriving Repr, Inhabited

/-- The digit of a number below sixteen. -/
def hexDigit (n : Nat) : Char := if n < 10 then Char.ofNat (48 + n) else Char.ofNat (87 + n)

/-- How a character is written inside a string. -/
def escapeChar (c : Char) : List Char :=
  if c = '"' then ['\\', '"']
  else if c = '\\' then ['\\', '\\']
  else if c = '\n' then ['\\', 'n']
  else if c = '\r' then ['\\', 'r']
  else if c = '\t' then ['\\', 't']
  else if c = '\x08' then ['\\', 'b']
  else if c = '\x0c' then ['\\', 'f']
  else if c.toNat < 32 then ['\\', 'u', '0', '0', hexDigit (c.toNat / 16), hexDigit (c.toNat % 16)]
  else [c]

def stringChars (s : String) : List Char := '"' :: (s.toList.flatMap escapeChar ++ ['"'])

namespace Value

mutual

def chars : Value → List Char
  | null => ['n', 'u', 'l', 'l']
  | bool true => ['t', 'r', 'u', 'e']
  | bool false => ['f', 'a', 'l', 's', 'e']
  | string s => stringChars s
  | array items => '[' :: itemsChars items
  | object members => '\x7b' :: membersChars members

/-- The items of an array, and the bracket that closes it. -/
def itemsChars : List Value → List Char
  | [] => [']']
  | v :: vs => v.chars ++ moreItemsChars vs

/-- The items of an array after the first one. -/
def moreItemsChars : List Value → List Char
  | [] => [']']
  | v :: vs => ',' :: (v.chars ++ moreItemsChars vs)

/-- The members of an object, and the brace that closes it. -/
def membersChars : List (String × Value) → List Char
  | [] => ['\x7d']
  | (k, v) :: ms => stringChars k ++ ':' :: (v.chars ++ moreMembersChars ms)

/-- The members of an object after the first one. -/
def moreMembersChars : List (String × Value) → List Char
  | [] => ['\x7d']
  | (k, v) :: ms => ',' :: (stringChars k ++ ':' :: (v.chars ++ moreMembersChars ms))

end

def text (v : Value) : String := String.ofList v.chars

end Value

end JavaBuilder.Json
