import JavaBuilder.Toml.Syntax

/-!
# Tables

The tables that the lines of a configuration make. A table comes about in one of four ways, and how
it came about says what may still be added to it:

* named by a line: its fields follow that line, and it is not named again;
* implied by a longer name: it may still be named;
* made by a dotted key: only dotted keys add fields, though longer names may add tables;
* written in braces: nothing is added.

No field is given twice.
-/

namespace JavaBuilder.Toml

/-- How a table came about. -/
inductive Origin where
  | named
  | implied
  | dotted
  | braces
deriving DecidableEq, Repr

/-- What is at a name. -/
inductive Item where
  | string (s : String)
  | word (w : Word)
  | array (items : List Item)
  | table (origin : Origin) (fields : List (String × Item))
  /-- A list of tables that lines name, newest first. -/
  | tables (elements : List (List (String × Item)))

/-- The fields of a table. -/
abbrev Table := List (String × Item)

namespace Table

variable (t : Table)

/-- Give a field a value. -/
def put (name : String) (item : Item) : Table :=
  if t.any fun e ↦ e.1 == name then t.map fun e ↦ if e.1 = name then (name, item) else e
  else t ++ [(name, item)]

/-- Change the table that a path leads to, together with how it came about. Tables that are not there
are made, and the last one of a list of tables is meant. `dotted` says that the path is part of a
key, which does not lead into a named table. -/
def change? (dotted : Bool) (act : Origin → Table → Option Table) :
    List String → Origin → Table → Option Table
  | [], origin, t => act origin t
  | name :: path, _, t =>
    match t.lookup name with
    | none =>
      let origin := if dotted then .dotted else .implied
      (change? dotted act path origin []).map fun u ↦ t.put name (.table origin u)
    | some (.table origin u) =>
      if origin = .braces ∨ (dotted ∧ origin = .named) then none
      else (change? dotted act path origin u).map fun u ↦ t.put name (.table origin u)
    | some (.tables (u :: us)) =>
      (change? dotted act path .named u).map fun u ↦ t.put name (.tables (u :: us))
    | some _ => none

/-- Add a field. A dotted key adds to a table of dotted keys, a plain one to any other. -/
def add? (dotted : Bool) (name : String) (item : Item) (origin : Origin) (t : Table) :
    Option Table :=
  if (origin == .dotted) = dotted ∧ (t.lookup name).isNone then some (t.put name item) else none

/-- Give a key a value in a table. -/
def assign? (key : List String) (item : Item) (origin : Origin) (t : Table) : Option Table :=
  match key.getLast? with
  | none => none
  | some name =>
    let dotted := key.length > 1
    change? dotted (add? dotted name item) key.dropLast origin t

def name? (name : String) (t : Table) : Option Table :=
  match t.lookup name with
  | none => some (t.put name (.table .named []))
  | some (.table .implied u) => some (t.put name (.table .named u))
  | some _ => none

/-- Add a table to a list of tables. -/
def element? (name : String) (t : Table) : Option Table :=
  match t.lookup name with
  | none => some (t.put name (.tables [[]]))
  | some (.tables us) => some (t.put name (.tables ([] :: us)))
  | some _ => none

end Table

/-! ## Values -/

mutual

/-- What a value is at the name it is given to. -/
def Value.item? : Value → Option Item
  | .string s => some (.string s)
  | .word w => some (.word w)
  | .array items => items.items?.map .array
  | .inline fields => (fields.addTo? []).map (.table .braces)

/-- The items of an array. -/
def Values.items? : Values → Option (List Item)
  | .nil => some []
  | .cons v vs =>
    match v.item?, vs.items? with
    | some item, some items => some (item :: items)
    | _, _ => none

def Fields.addTo? : Fields → Table → Option Table
  | .nil, t => some t
  | .cons key v rest, t =>
    match v.item? with
    | none => none
    | some item =>
      match Table.assign? key item .named t with
      | none => none
      | some t => rest.addTo? t

end

/-! ## Lines -/

/-- A table under construction. -/
structure Assembly where
  root : Table
  /-- The table named last. -/
  current : List String

/-- Take a line into account. -/
def Assembly.line? (a : Assembly) : Line → Option Assembly
  | .table key => do
    let t ← Table.change? false (fun _ ↦ Table.name? (key.getLastD "")) key.dropLast .named a.root
    return ⟨t, key⟩
  | .element key => do
    let t ← Table.change? false (fun _ ↦ Table.element? (key.getLastD "")) key.dropLast .named a.root
    return ⟨t, key⟩
  | .assign key value => do
    let item ← value.item?
    let t ← Table.change? false (Table.assign? key item) a.current .named a.root
    return { a with root := t }

def Table.ofText? (text : String) : Option Table := do
  return (← (← lines? text).foldlM Assembly.line? ⟨[], []⟩).root

end JavaBuilder.Toml
