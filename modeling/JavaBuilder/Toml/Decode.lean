import JavaBuilder.Toml.Table

/-!
# Decoding items

A record is a table, or an array of its fields in order with fields at the end left out; fields that
it does not have are passed over. A choice is its name, or a table with its name alone and nothing
there.
-/

namespace JavaBuilder.Toml.Item

/-- The items of an array or of a list of tables. -/
def items? : Item → Option (List Item)
  | array items => some items
  | tables us => some (us.reverse.map (table .named))
  | _ => none

/-- The fields of a record, by their names in order. A moment has none of them. -/
def fields? (names : List String) : Item → Option (List (Option Item))
  | table _ t => some (names.map fun n ↦ t.lookup n)
  | word (.moment _) => some (names.map fun _ ↦ none)
  | item => item.items?.map fun items ↦ (List.range names.length).map fun i ↦ items[i]?

def text? : Item → Option String
  | string s => some s
  | _ => none

/-- A truth value. -/
def bool? : Item → Option Bool
  | word (.boolean b) => some b
  | _ => none

/-- Nothing is in an array or a table. -/
def isEmpty : Item → Bool
  | array [] | table _ [] => true
  | _ => false

/-- The name of a choice. -/
def choice? : Item → Option String
  | string s => some s
  | table _ [(s, item)] => if item.isEmpty then some s else none
  | _ => none

/-- A field, or what stands for it if it is left out. -/
def fieldOr {α : Type} (standard : α) (read? : Item → Option α) (field : Option Item) : Option α :=
  match field with
  | none => some standard
  | some item => read? item

end JavaBuilder.Toml.Item
