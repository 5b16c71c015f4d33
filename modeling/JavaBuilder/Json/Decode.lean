import JavaBuilder.Json.Reading
import JavaBuilder.Text.Quoted

/-!
# Decoding JSON

A decoder looks at a value in the order of its text and stops at the first fault, which may be a
fault of shape or the place where the text stops being JSON, whichever comes first. What a value
lacks altogether is noticed only where the value ends.

A record is written as an object, or as an array of its fields in order with fields at the end left
out. A choice is written as a string, or as an object with the choice as its only key and null as
its value.
-/

namespace JavaBuilder.Json

open Text

/-- Why a text cannot be decoded. Faults of content are left to those who know it. -/
inductive Fault (ε : Type) where
  /-- The text is not JSON. -/
  | malformed
  /-- A value of another type is wanted. -/
  | wrongType (found : Reading)
  | missingField (name : String)
  | unknownField (name : String)
  | duplicateField (name : String)
  | unknownChoice (name : String)
  /-- An array is too short. -/
  | wrongLength (length : Nat)
  /-- The value means something that cannot be. -/
  | content (cause : ε)

abbrev Decoder (ε α : Type) := Reading → Except (Fault ε) α

/-- A value as it is shown in a complaint about its type. -/
def Reading.shown : Reading → String
  | .null => "null"
  | .bool true => "boolean \x60true\x60"
  | .bool false => "boolean \x60false\x60"
  | .number n =>
    match n.view with
    | .integer i => "integer \x60" ++ toString i ++ "\x60"
    | .float x => "floating point \x60" ++ Decimal.showFloat x ++ "\x60"
    | .tooLarge => "number"
  | .string s => "string " ++ quoted (s.getD "")
  | .array _ => "sequence"
  | .object _ => "map"
  | .stop => "nothing"

/-- The wording of a fault, given the wording of faults of content. -/
def Fault.message {ε : Type} (wording : ε → String) : Fault ε → String
  | malformed => "malformed"
  | wrongType r => "invalid type: " ++ r.shown
  | missingField f => "missing field \x60" ++ f ++ "\x60"
  | unknownField f => "unknown field \x60" ++ f ++ "\x60"
  | duplicateField f => "duplicate field \x60" ++ f ++ "\x60"
  | unknownChoice v => "unknown variant \x60" ++ v ++ "\x60"
  | wrongLength n => "invalid length " ++ toString n
  | content cause => wording cause

variable {ε α σ : Type}

/-- The fault of a value where a value of another type is wanted. -/
def Reading.mismatch : Reading → Fault ε
  | .stop => .malformed
  | .string none => .malformed
  | .number n => if n.isReadable then .wrongType (.number n) else .malformed
  | r => .wrongType r

/-! ## Simple values -/

def asString : Decoder ε String
  | .string (some s) => .ok s
  | r => .error r.mismatch

/-- A truth value. -/
def asBool : Decoder ε Bool
  | .bool b => .ok b
  | r => .error r.mismatch

def asNull : Decoder ε Unit
  | .null => .ok ()
  | r => .error r.mismatch

/-- Null, or a value. -/
def asOption (f : Decoder ε α) : Decoder ε (Option α)
  | .null => .ok none
  | r => some <$> f r

/-- A string read further. -/
def asText (f : String → Except ε α) : Decoder ε α := fun r ↦ do
  match f (← asString r) with
  | .ok a => return a
  | .error e => throw (.content e)

/-- The items of an array in order. -/
def decodeItems (f : Decoder ε α) : Items → Except (Fault ε) (List α)
  | .done => .ok []
  | .broken => .error .malformed
  | .cons item rest => do
    let a ← f item
    let as ← decodeItems f rest
    return a :: as

/-- An array. -/
def asList (f : Decoder ε α) : Decoder ε (List α)
  | .array items => decodeItems f items
  | r => .error r.mismatch

/-- Go through the members of an object. -/
def walkMembers (step : σ → String → Reading → Except (Fault ε) σ) :
    σ → Members → Except (Fault ε) σ
  | s, .done => .ok s
  | _, .broken _ => .error .malformed
  | _, .cons none _ _ => .error .malformed
  | s, .cons (some key) value rest => do walkMembers step (← step s key value) rest

/-- An object, member by member. -/
def asTable (step : σ → String → Reading → Except (Fault ε) σ) (start : σ) : Decoder ε σ
  | .object members => walkMembers step start members
  | r => .error r.mismatch

/-- A value to be passed over. -/
def passOver (r : Reading) : Except (Fault ε) Unit :=
  if r.isWhole then .ok () else .error .malformed

def choose (choices : List (String × α)) (name : String) : Except (Fault ε) α :=
  match choices.lookup name with
  | some a => .ok a
  | none => .error (.unknownChoice name)

/-- A choice. Where a choice is wanted, a value that is neither a string nor an object is an error
of syntax; in an object, something else than a string is the wrong type of choice. -/
def asChoice (choices : List (String × α)) : Decoder ε α
  | .string (some name) => choose choices name
  | .object (.cons (some name) value rest) => do
    let a ← choose choices name
    asNull value
    match rest with
    | .done => return a
    | _ => throw .malformed
  | .object (.broken found) => .error found.mismatch
  | _ => .error .malformed

/-! ## Records -/

/-- Fill an empty slot of a record. -/
def fillSlot (name : String) (slot : Option α) (f : Decoder ε α) (r : Reading) :
    Except (Fault ε) (Option α) :=
  if slot.isSome then .error (.duplicateField name) else some <$> f r

/-- The number of items, if the array is closed. -/
def Items.length? : Items → Option Nat
  | .done => some 0
  | .broken => none
  | .cons _ rest => rest.length?.map (· + 1)

/-- Go through as many items of an array as there are fields. -/
def walkItems (step : σ → String → Reading → Except (Fault ε) σ) :
    σ → List String → Items → Except (Fault ε) σ
  | s, _, .done => .ok s
  | _, _, .broken => .error .malformed
  | s, [], .cons _ _ => .ok s
  | s, field :: fields, .cons item rest => do walkItems step (← step s field item) fields rest

/-- A record. `finish` is given the fault of a field that is not there. -/
def asRecord (fields : List String) (step : σ → String → Reading → Except (Fault ε) σ) (start : σ)
    (finish : (String → Fault ε) → σ → Except (Fault ε) α) : Decoder ε α
  | .object members => do finish .missingField (← walkMembers step start members)
  | .array items => do
    let a ← finish (fun f ↦ .wrongLength (fields.idxOf f)) (← walkItems step start fields items)
    match items.length? with
    | some n => if n ≤ fields.length then return a else throw .malformed
    | none => throw .malformed
  | r => .error r.mismatch

/-- The value of a slot that must be filled. -/
def require (missing : String → Fault ε) (name : String) : Option α → Except (Fault ε) α
  | some a => .ok a
  | none => .error (missing name)

/-! ## Texts -/

def decodeText (f : Decoder ε α) (text : String) : Except (Fault ε) α := do
  let doc := Document.ofText text
  let a ← f doc.root
  if doc.ended then return a else throw .malformed

end JavaBuilder.Json
