import Mathlib.Tactic.Tauto
import JavaBuilder.Proofs.Builder.RequiredTracking

/-!
# Signatures of accessors

Two methods of a class clash if they have one name and their parameters have one erasure. A type variable
erases to a class that is not written in the type, `Object` for the parameters of the class itself, so what
follows holds whatever type variables stand for.

The name of an accessor is a verb and the capitalized name of the property, with an ending after it in one
case. So accessors of two properties can have one name in few ways only. Either the verb and the property's
part are the same, or a longer verb starts like a shorter one, and the rest of it belongs to the property:
`set` and `setNullable`, `add` and `addAll`, or `get` and the getter that ends with `Builder`.
-/

namespace JavaBuilder.Java

/-- The text of the erasure of a type, given what type variables erase to. -/
def TypeRef.erased (bound : String → String) : TypeRef → String
  | primitive p => p.keyword
  | declared name _ => name.text
  | typeVar x => bound x
  | wildcard => "java.lang.Object"
  | extending t => t.erased bound
  | array component => component.erased bound ++ "[]"
  | void => "void"
  | unresolved s => s

/-- The name of a method and the erasures of its parameters. -/
def Method.signature (bound : String → String) (m : Method) : String × List String :=
  (m.name, m.params.map (·.type.erased bound))

@[simp] def Item.method? : Item → Option Method
  | member (.method m) => some m
  | _ => none

@[simp] def Item.field? : Item → Option Field
  | member (.field f) => some f
  | _ => none

/-- The methods of a class, without those of classes in it. -/
def TopClass.methods (c : TopClass) : List Method := c.items.filterMap Item.method?

def TopClass.fields (c : TopClass) : List Field := c.items.filterMap Item.field?

/-- No two methods have one signature, and no two fields one name. -/
structure TopClass.HasNoClashes (bound : String → String) (c : TopClass) : Prop where
  methods : (c.methods.map (·.signature bound)).Nodup
  fields : (c.fields.map (·.name)).Nodup

end JavaBuilder.Java

namespace JavaBuilder.Builder

open Java Model

/-! ## Names of accessors -/

/-- What an accessor does. -/
inductive Shape where
  | set
  | setNullable
  | setCountOf
  | get
  | getBuilder
  | map
  | clear
  | add
  | addAll
  | addCopiesTo
  | remove
  | put
  | putAll
  | mutate
deriving DecidableEq, Repr

namespace Shape

/-- What stands before the name of the property. -/
def verb : Shape → String
  | set => "set"
  | setNullable => "setNullable"
  | setCountOf => "setCountOf"
  | get | getBuilder => "get"
  | map => "map"
  | clear => "clear"
  | add => "add"
  | addAll => "addAll"
  | addCopiesTo => "addCopiesTo"
  | remove => "remove"
  | put => "put"
  | putAll => "putAll"
  | mutate => "mutate"

def name (v : Shape) (capitalized : String) : String :=
  match v with
  | getBuilder => "get" ++ capitalized ++ "Builder"
  | v => v.verb ++ capitalized

/-- How many parameters an accessor has. -/
def arity : Shape → ℕ
  | get | getBuilder | clear => 0
  | setCountOf | addCopiesTo | put => 2
  | _ => 1

/-- Two accessors with as many parameters have one name, the shorter verb first. -/
inductive Overlap : Shape → String → Shape → String → Prop where
  | same (v : Shape) (c : String) : Overlap v c v c
  | setNullable (c : String) : Overlap set ("Nullable" ++ c) setNullable c
  | addAll (c : String) : Overlap add ("All" ++ c) addAll c
  | getBuilder (c : String) : Overlap get (c ++ "Builder") getBuilder c

/-- What stands after the name of the property. -/
def ending : Shape → String
  | getBuilder => "Builder"
  | _ => ""

variable {v w : Shape} {c d : String}

theorem toList_name (v : Shape) (c : String) :
    (v.name c).toList = v.verb.toList ++ (c.toList ++ v.ending.toList) := by
  cases v with
  | getBuilder => simp only [name, verb, ending, String.toList_append, List.append_assoc]
  | _ => simp only [name, ending, String.toList_append, String.toList_empty, List.append_nil]

theorem Overlap.name_eq (h : Overlap v c w d) : v.name c = w.name d := by
  cases h with
  | same => rfl
  | setNullable | addAll | getBuilder =>
    rw [← String.toList_inj, toList_name, toList_name]
    simp [verb, ending]

/-- A verb that starts like another one with as many parameters. -/
theorem eq_or_of_verb : ∀ v w : Shape, v.arity = w.arity → v.verb.toList <+: w.verb.toList →
    v = w ∨ v = set ∧ w = setNullable ∨ v = add ∧ w = addAll ∨ v = get ∧ w = getBuilder ∨
      v = getBuilder ∧ w = get := by
  intro v w
  cases v <;> cases w <;> decide

theorem overlap_of_verb (harity : v.arity = w.arity) (hverb : v.verb.toList <+: w.verb.toList)
    (h : v.name c = w.name d) : Overlap v c w d ∨ Overlap w d v c := by
  have hlist : v.verb.toList ++ (c.toList ++ v.ending.toList) =
      w.verb.toList ++ (d.toList ++ w.ending.toList) := by
    rw [← toList_name, ← toList_name, h]
  rcases eq_or_of_verb v w harity hverb with rfl | ⟨rfl, rfl⟩ | ⟨rfl, rfl⟩ | ⟨rfl, rfl⟩ | ⟨rfl, rfl⟩
  · have hcd := List.append_cancel_right (List.append_cancel_left hlist)
    obtain rfl := String.toList_inj.mp hcd
    exact .inl (.same v c)
  · obtain rfl : c = "Nullable" ++ d := by
      rw [← String.toList_inj, String.toList_append]
      simpa [verb, ending] using hlist
    exact .inl (.setNullable d)
  · obtain rfl : c = "All" ++ d := by
      rw [← String.toList_inj, String.toList_append]
      simpa [verb, ending] using hlist
    exact .inl (.addAll d)
  · obtain rfl : c = d ++ "Builder" := by
      rw [← String.toList_inj, String.toList_append]
      simpa [verb, ending] using hlist
    exact .inl (.getBuilder d)
  · obtain rfl : d = c ++ "Builder" := by
      rw [← String.toList_inj, String.toList_append]
      simpa [verb, ending] using hlist.symm
    exact .inr (.getBuilder c)

/-- **When two accessors have one name.** -/
theorem name_eq_iff (harity : v.arity = w.arity) :
    v.name c = w.name d ↔ Overlap v c w d ∨ Overlap w d v c := by
  refine ⟨fun h ↦ ?_, fun h ↦ h.elim (·.name_eq) (·.name_eq.symm)⟩
  have hv : v.verb.toList <+: (v.name c).toList := toList_name v c ▸ List.prefix_append _ _
  have hw : w.verb.toList <+: (v.name c).toList := h ▸ toList_name w d ▸ List.prefix_append _ _
  rcases List.prefix_or_prefix_of_prefix hv hw with hverb | hverb
  · exact overlap_of_verb harity hverb h
  · exact (overlap_of_verb harity.symm hverb h.symm).symm

theorem Overlap.length (h : Overlap v c w d) : v = w ∨ d.length < c.length := by
  have hlonger : ∀ x ∈ ["Nullable", "All", "Builder"], 0 < x.length := by decide
  cases h with
  | same => exact .inl rfl
  | setNullable | addAll | getBuilder =>
    refine .inr ?_
    rw [String.length_append]
    simp [hlonger]

theorem eq_of_name_eq (harity : v.arity = w.arity) (h : v.name c = w.name c) : v = w := by
  rcases (name_eq_iff harity).mp h with h | h
  · exact h.length.resolve_right (Nat.lt_irrefl _)
  · exact (h.length.resolve_right (Nat.lt_irrefl _)).symm

/-- The methods that every builder may have besides the accessors. -/
def fixedNames : List String := ["from", "mergeFrom", "clear", "build", "buildPartial"]

theorem eq_clear_of_verb : ∀ v : Shape, ∀ n ∈ fixedNames, v.verb.toList <+: n.toList →
    v = clear ∧ n = "clear" := by
  intro v
  cases v <;> decide

/-- No accessor is named like one of them. -/
theorem name_not_mem_fixedNames (hc : c ≠ "") : v.name c ∉ fixedNames := by
  intro hmem
  have hverb : v.verb.toList <+: (v.name c).toList := toList_name v c ▸ List.prefix_append _ _
  obtain ⟨rfl, hclear⟩ := eq_clear_of_verb v _ hmem hverb
  refine hc (String.toList_inj.mp ?_)
  rw [← String.toList_inj, toList_name] at hclear
  simpa [verb, ending] using hclear

end Shape

/-- The setters of a property, by the type that they take. -/
def Strategy.setterTypes : Strategy → List TypeRef
  | .nullable n => [n.property.type]
  | .optional o => [o.element, .declared o.kind.type [.extending o.element]]
  | .nested b => [b.property.type, b.builderType]
  | .defaulted v => [v.property.type]
  | .required r => [r.property.type]
  | .collection _ | .map _ | .multiset _ => []

namespace Strategy

/-- The property is edited through a builder. -/
def isNested : Strategy → Bool
  | nested _ => true
  | _ => false

/-- The type of elements that are added one by one. -/
def added? : Strategy → Option TypeRef
  | collection c => some c.element
  | multiset m => some m.element
  | _ => none

/-- The accessors of a property, each with the types of its parameters. -/
def shapes (f : Features) : Strategy → List (Shape × List TypeRef)
  | nullable n => [(.set, [n.property.type]), (.get, [])]
  | collection c =>
    [(.add, [c.element]), (.addAll, [Collection.iterableOf c.element])] ++
      (if c.kind = .set then [(.remove, [c.element])] else []) ++ [(.clear, []), (.get, [])]
  | map m =>
    [(.put, [m.key, m.value]), (.putAll, [.declared (javaUtil "Map") m.sourceArgs]), (.remove, [m.key]),
      (.clear, []), (.get, [])]
  | multiset m =>
    [(.add, [m.element]), (.addCopiesTo, [m.element, .primitive .int]),
      (.addAll, [Collection.iterableOf m.element]), (.setCountOf, [m.element, .primitive .int]),
      (.clear, []), (.get, [])]
  | optional o =>
    [(.set, [o.element]), (.set, [.declared o.kind.type [.extending o.element]]),
      (.setNullable, [o.element])] ++
      (if f.hasLambdas then [(.map, [unaryOperator o.element])] else []) ++ [(.clear, []), (.get, [])]
  | nested b =>
    [(.set, [b.property.type]), (.set, [b.builderType]), (.getBuilder, [])] ++
      if f.hasLambdas then [(.mutate, [.declared (javaFunction "Consumer") [b.builderType]])] else []
  | defaulted v =>
    [(.set, [v.property.type])] ++
      (if f.hasLambdas then [(.map, [unaryOperator v.property.boxedType])] else []) ++ [(.get, [])]
  | required r =>
    [(.set, [r.property.type])] ++
      (if f.hasLambdas then [(.map, [unaryOperator r.property.boxedType])] else []) ++ [(.get, [])]

/-- **What the accessors of a property are.** -/
theorem accessors_code (ctx : Context) (s : Strategy) :
    (s.code ctx).accessors.map (fun m ↦ (m.name, m.params.map (·.type))) =
      (s.shapes ctx.features).map fun x ↦ (x.1.name s.property.capitalized, x.2) := by
  cases s with
  | nullable n => rfl
  | collection c =>
    simp only [code, Collection.code, Collection.accessors, shapes, property]
    split <;> rfl
  | map m => rfl
  | multiset m => rfl
  | optional o =>
    simp only [code, OptionalProperty.code, OptionalProperty.accessors, shapes, property]
    split <;> rfl
  | nested b =>
    simp only [code, NestedBuilder.code, NestedBuilder.accessors, shapes, property]
    split <;> rfl
  | defaulted v =>
    simp only [code, Defaulted.code, Defaulted.accessors, shapes, property]
    split <;> rfl
  | required r =>
    simp only [code, Required.code, Required.accessors, shapes, property]
    split <;> rfl

end Strategy

end JavaBuilder.Builder
