import JavaBuilder.Builder.Strategy.Collection
import JavaBuilder.Builder.Strategy.Default
import JavaBuilder.Builder.Strategy.Map
import JavaBuilder.Builder.Strategy.Multiset
import JavaBuilder.Builder.Strategy.Nested
import JavaBuilder.Builder.Strategy.Nullable
import JavaBuilder.Builder.Strategy.Optional
import JavaBuilder.Builder.Strategy.Required

/-!
# Choosing a strategy

Each property is offered to a chain of *factories*, and the first that accepts it decides how its
code is made. The last factory of the standard chain accepts every type a field can have, so only a
type no field can have is left over, and that is an error.

`bind` does this for all properties of a type, and refuses properties that are faulty or repeat a
name.
-/

namespace JavaBuilder.Builder

open Java Model

/-- The way the code of one property is made. -/
inductive Strategy where
  | nullable (n : Nullable)
  | collection (c : Collection)
  | map (m : MapProperty)
  | multiset (m : MultisetProperty)
  | optional (o : OptionalProperty)
  | nested (b : NestedBuilder)
  | defaulted (v : Defaulted)
  | required (r : Required)
deriving DecidableEq, Repr

/-- A test that may turn a property into a strategy. -/
inductive Factory where
  | nullable
  | collection
  | map
  | multiset
  | optional
  | nested
  | defaulted
  | required
deriving DecidableEq, Repr

namespace Factory

/-- All factories, in the order of the standard chain. -/
def all : List Factory :=
  [nullable, collection, map, multiset, optional, nested, defaulted, required]

/-- The name of a factory and of its strategies. -/
def name : Factory → String
  | nullable => "nullable"
  | collection => "collection"
  | map => "map"
  | multiset => "multiset"
  | optional => "optional"
  | nested => "buildable"
  | defaulted => "default"
  | required => "required"

def ofName? (s : String) : Option Factory := all.find? (·.name == s)

/-- The strategy for a property that the factory accepts. -/
def create? (f : Features) (d : Declaration) : Factory → Option Strategy
  | nullable => (Nullable.of? d).map .nullable
  | collection => (Collection.of? d).map .collection
  | map => (MapProperty.of? d).map .map
  | multiset => (MultisetProperty.of? f d).map .multiset
  | optional => (OptionalProperty.of? f d).map .optional
  | nested => (NestedBuilder.of? d).map .nested
  | defaulted => (Defaulted.of? d).map .defaulted
  | required => (Required.of? d).map .required

end Factory

namespace Strategy

/-- The factory that makes such strategies. -/
def factory : Strategy → Factory
  | nullable _ => .nullable
  | collection _ => .collection
  | map _ => .map
  | multiset _ => .multiset
  | optional _ => .optional
  | nested _ => .nested
  | defaulted _ => .defaulted
  | required _ => .required

def name (s : Strategy) : String := s.factory.name

def property : Strategy → Property
  | nullable n => n.property
  | collection c => c.property
  | map m => m.property
  | multiset m => m.property
  | optional o => o.property
  | nested b => b.property
  | defaulted v => v.property
  | required r => r.property

/-- The part its property takes in tracking. -/
def category : Strategy → Category
  | nullable _ | optional _ => .optional
  | required _ => .required
  | collection _ | map _ | multiset _ | nested _ | defaulted _ => .hasDefault

def code (ctx : Context) : Strategy → PropertyCode
  | nullable n => n.code ctx
  | collection c => c.code ctx
  | map m => m.code ctx
  | multiset m => m.code ctx
  | optional o => o.code ctx
  | nested b => b.code ctx
  | defaulted v => v.code ctx
  | required r => r.code ctx

@[simp] theorem property_code (ctx : Context) (s : Strategy) :
    (s.code ctx).property = s.property := by cases s <;> rfl

@[simp] theorem category_code (ctx : Context) (s : Strategy) :
    (s.code ctx).category = s.category := by cases s <;> rfl

end Strategy

/-! ## Chains -/

/-- Factories in the order in which they are asked. -/
abbrev Chain := List Factory

namespace Chain

/-- The chain that is used unless another is given. -/
def standard : Chain := Factory.all

/-- The first strategy that a factory of the chain makes. -/
def select (chain : Chain) (f : Features) (d : Declaration) : Except Error Strategy :=
  match chain.findSome? (·.create? f d) with
  | some s => .ok s
  | none => .error (.unresolved d.property.name d.property.type)

/-- A strategy for each property, given the names of the properties before them. -/
def bindFrom (chain : Chain) (f : Features) :
    List String → List Declaration → Except Error (List Strategy)
  | _, [] => .ok []
  | seen, d :: ds => do
    d.property.check
    if d.property.name ∈ seen then throw (.property d.property.name .duplicate)
    let s ← chain.select f d
    let ss ← bindFrom chain f (d.property.name :: seen) ds
    return s :: ss

/-- A strategy for each property. -/
def bind (chain : Chain) (f : Features) (ds : List Declaration) : Except Error (List Strategy) :=
  chain.bindFrom f [] ds

end Chain

end JavaBuilder.Builder
