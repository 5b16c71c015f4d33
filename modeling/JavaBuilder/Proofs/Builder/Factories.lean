import JavaBuilder.Builder.Selection

/-!
# What each factory takes

A factory makes a strategy of a declaration or refuses it. Each of them is described here once, by what it
asks of the declaration and of the features and by the one strategy it makes (`of?_eq_some_iff`), so that
whatever follows from a property having been taken is read off these descriptions. The factories
themselves are not opened again.

The factories of containers ask for a class by name. A type has one class at most, so asking for one class
after another comes to the same as asking for each of them alone.
-/

namespace JavaBuilder

open Java Model

theorem Java.TypeRef.eq_of_isClass {t : TypeRef} {a b : String} (ha : t.isClass a = true)
    (hb : t.isClass b = true) : a = b := by
  cases herasure : t.erasure? with
  | none => simp [isClass, herasure] at ha
  | some name =>
    simp only [isClass, herasure, Option.any_some, beq_iff_eq] at ha hb
    exact ha.symm.trans hb

namespace Builder

variable {f : Features} {d : Declaration} {t : TypeRef}

/-! ## Kinds of containers -/

namespace CollectionKind

variable {kind : CollectionKind}

/-- The class that a collection of the kind is declared with. -/
def className : CollectionKind → String
  | list => "java.util.List"
  | set => "java.util.Set"

theorem of?_eq_some_iff : of? t = some kind ↔ t.isClass kind.className = true := by
  unfold of?
  by_cases hlist : t.isClass "java.util.List" = true
  · rw [if_pos hlist, Option.some.injEq]
    constructor
    · rintro rfl
      exact hlist
    · cases kind with
      | list => exact fun _ ↦ rfl
      | set => exact fun hset ↦ absurd (TypeRef.eq_of_isClass hlist hset) (by decide)
  · rw [if_neg hlist, Option.ite_none_right_eq_some, Option.some.injEq]
    cases kind with
    | list => exact iff_of_false (nomatch ·.2) hlist
    | set => exact and_iff_left rfl

end CollectionKind

namespace OptionalKind

variable {kind : OptionalKind}

/-- The class of optional values is there to be used. -/
def isAvailable (f : Features) : OptionalKind → Bool
  | java => f.hasLambdas
  | guava => f.guava

theorem of?_eq_some_iff :
    of? f t = some kind ↔ t.isClass kind.type.text = true ∧ kind.isAvailable f = true := by
  simp only [of?, Bool.and_eq_true]
  by_cases hjava : t.isClass "java.util.Optional" = true ∧ f.hasLambdas = true
  · rw [if_pos hjava, Option.some.injEq]
    constructor
    · rintro rfl
      exact hjava
    · cases kind with
      | java => exact fun _ ↦ rfl
      | guava => exact fun hguava ↦ absurd (TypeRef.eq_of_isClass hjava.1 hguava.1) (by decide)
  · rw [if_neg hjava, Option.ite_none_right_eq_some, Option.some.injEq]
    cases kind with
    | java => exact iff_of_false (nomatch ·.2) hjava
    | guava => exact and_iff_left rfl

end OptionalKind

/-! ## Factories -/

theorem Nullable.of?_eq_some_iff {n : Nullable} : of? d = some n ↔
    (d.property.type.isPrimitive = false ∧ d.property.type ≠ .void ∧
      d.property.type.isResolved = true ∧ d.nullMarkers ≠ []) ∧ ⟨d.property, d.nullMarkers⟩ = n := by
  simp [of?, and_assoc]

theorem Collection.of?_eq_some_iff {c : Collection} : of? d = some c ↔
    ∃ kind element, d.property.type.isClass kind.className = true ∧
      d.property.type.element? = some element ∧ ⟨d.property, kind, element⟩ = c := by
  simp [of?, Option.bind_eq_some_iff, CollectionKind.of?_eq_some_iff]

theorem MapProperty.of?_eq_some_iff {m : MapProperty} : of? d = some m ↔
    d.property.type.isClass "java.util.Map" = true ∧
      ∃ key value, d.property.type.entry? = some (key, value) ∧ ⟨d.property, key, value⟩ = m := by
  simp [of?]

theorem MultisetProperty.of?_eq_some_iff {m : MultisetProperty} : of? f d = some m ↔
    (f.guava = true ∧ d.property.type.isClass "com.google.common.collect.Multiset" = true) ∧
      ∃ element, d.property.type.element? = some element ∧ ⟨d.property, element⟩ = m := by
  simp [of?]

theorem OptionalProperty.of?_eq_some_iff {o : OptionalProperty} : of? f d = some o ↔
    ∃ kind element, (d.property.type.isClass kind.type.text = true ∧ kind.isAvailable f = true) ∧
      d.property.type.element? = some element ∧ ⟨d.property, kind, element⟩ = o := by
  simp [of?, Option.bind_eq_some_iff, OptionalKind.of?_eq_some_iff]

theorem NestedBuilder.of?_eq_some_iff {n : NestedBuilder} : of? d = some n ↔
    ∃ b, d.buildable = some b ∧ (d.property.type.erasure?.isSome = true ∧
      d.property.type.isResolved = true) ∧ b.builder.isResolved = true ∧ ⟨d.property, b⟩ = n := by
  unfold of?
  cases d.buildable with
  | none => simp
  | some b => simp [and_assoc]

theorem Defaulted.of?_eq_some_iff {v : Defaulted} : of? d = some v ↔
    ∃ source, d.default = some source ∧ isFieldType d.property.type = true ∧
      ⟨d.property, source⟩ = v := by
  unfold of?
  cases d.default with
  | none => simp
  | some source => simp

theorem Required.of?_eq_some_iff {r : Required} : of? d = some r ↔
    isFieldType d.property.type = true ∧ ⟨d.property⟩ = r := by
  simp [of?]

/-! ## Chains -/

theorem Chain.select_eq_ok_iff_findSome {chain : Chain} {s : Strategy} :
    chain.select f d = .ok s ↔ chain.findSome? (·.create? f d) = some s := by
  unfold select
  split
  · next h => rw [h, Except.ok.injEq, Option.some.injEq]
  · next h => simp [h]

end Builder

end JavaBuilder
