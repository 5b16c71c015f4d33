import JavaBuilder.Builder.ValueMethods
import JavaBuilder.Proofs.Java.Yields

/-!
# Stored values

What the instances of a class with stored fields hold, and how two of them are compared.

`World.same` says when two stored values are equal, with no regard to how the comparison is spelled.
Each spelling yields just that: `differs` with and without `java.util.Objects`, and `same`. The
spellings differ in how often they evaluate their operands and in what they do first, and both
matter: a null operand is not dereferenced only because of what comes before the dereference. The
shortcuts for identical references agree with `equals` where `equals` is reflexive.
-/

namespace JavaBuilder.Java

variable {ρ : Type}

/-- Two stored values are equal: numbers as numbers, floating-point numbers by their bits, and
references as `equals` says, null being equal to null alone. -/
def World.same (w : World ρ) : Datum ρ → Datum ρ → Bool
  | .null, v => v.isNull
  | .boolean a, .boolean b => a == b
  | .integral _ a, .integral _ b => a == b
  | .float a, .float b => floatToIntBits a == floatToIntBits b
  | .double a, .double b => doubleToLongBits a == doubleToLongBits b
  | .constants s, .constants t => decide (s = t)
  | .object o, v => w.equals o v
  | _, _ => false

/-- Every object equals itself. -/
def World.IsReflexive (w : World ρ) : Prop := ∀ o, w.equals o (.object o) = true

variable [DecidableEq ρ] {w : World ρ} {self : ρ} {st : State ρ}

/-- An object that is the same as another one equals it. -/
theorem World.IsReflexive.equals_of_identical (hw : w.IsReflexive) {o : ρ} {v : Datum ρ}
    (h : v.identical (.object o) = some true) : w.equals o v = true := by
  cases v <;> simp only [Datum.identical, Datum.isNull, Option.some.injEq, Bool.false_eq_true,
    decide_eq_true_eq, reduceCtorEq] at h
  subst h
  exact hw _

end JavaBuilder.Java

namespace JavaBuilder.Builder

open Java Expr.Yields

variable {ρ : Type}

/-! ## Instances -/

/-- A field of this kind can hold the value. A reference is to an object, whatever its class. -/
def FieldKind.Holds : FieldKind → Datum ρ → Prop
  | primitive .float, v => ∃ bits, v = .float bits
  | primitive .double, v => ∃ bits, v = .double bits
  | primitive .boolean, v => ∃ b, v = .boolean b
  | primitive p, v => ∃ n, v = .integral p n
  | nonNull, v => ∃ o, v = .object o
  | nullable, v => v = .null ∨ ∃ o, v = .object o

/-- An object of a class that stores these fields, and the set of unset properties if asked for. -/
structure Stores (w : World ρ) (fields : List StoredField) (withUnset : Bool) (o : ρ) : Prop where
  field : ∀ s ∈ fields, ∃ v, w.field o s.field = some v ∧ s.kind.Holds v
  unset : withUnset = true → ∃ m, w.field o unsetField = some (.constants m)

/-- What an object stores under a name. -/
def stored (w : World ρ) (o : ρ) (name : String) : Datum ρ := (w.field o name).getD .null

theorem Stores.stored {w : World ρ} {fields : List StoredField} {withUnset : Bool} {o : ρ}
    (h : Stores w fields withUnset o) {s : StoredField} (hs : s ∈ fields) :
    w.field o s.field = some (stored w o s.field) ∧ s.kind.Holds (stored w o s.field) := by
  obtain ⟨v, hv, hk⟩ := h.field s hs
  simp [Builder.stored, hv, hk]

theorem Stores.storedUnset {w : World ρ} {fields : List StoredField} {o : ρ}
    (h : Stores w fields true o) :
    ∃ m, w.field o unsetField = some (.constants m) ∧
      Builder.stored w o unsetField = .constants m := by
  obtain ⟨m, hm⟩ := h.unset rfl
  exact ⟨m, hm, by simp [Builder.stored, hm]⟩

variable [DecidableEq ρ] {w : World ρ} {self : ρ} {st : State ρ} {l r : Expr} {a b : Datum ρ}

namespace FieldKind

/-! ## Operands -/

/-- What a primitive value is compared by. -/
def key : Datum ρ → Datum ρ
  | .float b => .integral .int (floatToIntBits b).toInt
  | .double b => .integral .long (doubleToLongBits b).toInt
  | v => v

theorem yields_bits {p : Primitive} (h : l.Yields w self st a) (ha : (primitive p).Holds a) :
    (bits p l).Yields w self st (key a) := by
  cases p <;> obtain ⟨x, rfl⟩ := ha <;> try exact h
  all_goals
    refine staticCall (.cons h .nil) ?_
    simp +decide [World.invokeStatic, World.floatMethod, World.doubleMethod, key]

/-- Keys are numbers or truth values, on which `==` is equality. -/
theorem identical_key {p : Primitive} (ha : (primitive p).Holds a) (hb : (primitive p).Holds b) :
    (key a).identical (key b) = some (w.same a b) := by
  cases p <;> obtain ⟨x, rfl⟩ := ha <;> obtain ⟨y, rfl⟩ := hb <;>
    simp [key, Datum.identical, World.same, BitVec.toInt_inj, Bool.beq_eq_decide_eq]

theorem yields_objectsEqual {t : Bool} (hl : l.Yields w self st a) (hr : r.Yields w self st b)
    (h : w.objectsEqual a b = .ok t) : (objectsEqual l r).Yields w self st (.boolean t) := by
  refine staticCall (.cons hl (.cons hr .nil)) ?_
  simp [World.invokeStatic, World.objectsMethod, h, Except.map]

/-- On references, null-safe equality is equality of stored values. -/
theorem objectsEqual_eq (hw : w.IsReflexive) (ha : a = .null ∨ ∃ o, a = .object o) :
    w.objectsEqual a b = .ok (w.same a b) := by
  obtain rfl | ⟨o, rfl⟩ := ha
  · rfl
  · rw [World.objectsEqual, World.same]
    by_cases h : b.identical (.object o) = some true
    · simp [h, hw.equals_of_identical h]
    · simp [h]

/-! ## Comparisons -/

/-- Without `java.util.Objects`, references that are not identical are compared by `equals` unless
the left one is null. -/
theorem yields_nullableDiffers (hw : w.IsReflexive) (hl : l.Yields w self st a)
    (hr : r.Yields w self st b) (ha : nullable.Holds a) (hb : nullable.Holds b) :
    (Expr.paren (.binary .and .same (.ne l r)
      (.paren (.binary .or .same (.eq l .null) (.not (.invoke l "equals" [r])))))).Yields w self st
        (.boolean !w.same a b) := by
  obtain rfl | ⟨o, rfl⟩ := ha
  · -- A null on the left differs from what is not null, and is not asked.
    have hne : (Expr.ne l r).Yields w self st (.boolean !b.isNull) :=
      ne hl hr (by simp [Datum.identical])
    have hor : (Expr.paren (.binary .or .same (.eq l .null)
        (.not (.invoke l "equals" [r])))).Yields w self st (.boolean (true || false)) :=
      paren (or (eq hl null rfl) fun h ↦ absurd h (by decide))
    rw [World.same, ← Bool.and_true (!b.isNull)]
    exact paren (and hne fun _ ↦ hor)
  · obtain ⟨t, ht⟩ : ∃ t, (Datum.object o).identical b = some t := by
      obtain rfl | ⟨p, rfl⟩ := hb <;> exact ⟨_, rfl⟩
    have hor : (Expr.paren (.binary .or .same (.eq l .null)
        (.not (.invoke l "equals" [r])))).Yields w self st (.boolean (false || !w.equals o b)) :=
      paren (or (eq hl null rfl) fun _ ↦ not (equals hl hr))
    have hsame : (!w.same (.object o) b) = (!t && (false || !w.equals o b)) := by
      cases t with
      | false => rfl
      | true =>
        obtain rfl | ⟨p, rfl⟩ := hb
        · simp [Datum.identical, Datum.isNull] at ht
        · obtain rfl : o = p := by simpa [Datum.identical] using ht
          simp [World.same, hw o]
    rw [hsame]
    exact paren (and (ne hl hr ht) fun _ ↦ hor)

theorem yields_differs (f : Features) {k : FieldKind} (hw : w.IsReflexive)
    (hl : l.Yields w self st a) (hr : r.Yields w self st b) (ha : k.Holds a) (hb : k.Holds b) :
    (k.differs f l r).Yields w self st (.boolean !w.same a b) := by
  cases k with
  | primitive p => exact ne (yields_bits hl ha) (yields_bits hr hb) (identical_key ha hb)
  | nonNull =>
    rw [differs]
    split
    · exact not (yields_objectsEqual hl hr (objectsEqual_eq hw (.inr ha)))
    · obtain ⟨o, rfl⟩ := ha
      exact not (equals hl hr)
  | nullable =>
    rw [differs]
    split
    · exact not (yields_objectsEqual hl hr (objectsEqual_eq hw ha))
    · exact yields_nullableDiffers hw hl hr ha hb

/-- The positive comparison says whether the values are equal. -/
theorem yields_same {k : FieldKind} (hw : w.IsReflexive) (hl : l.Yields w self st a)
    (hr : r.Yields w self st b) (ha : k.Holds a) (hb : k.Holds b) :
    (k.same l r).Yields w self st (.boolean (w.same a b)) := by
  cases k with
  | primitive p => exact eq (yields_bits hl ha) (yields_bits hr hb) (identical_key ha hb)
  | nonNull => exact yields_objectsEqual hl hr (objectsEqual_eq hw (.inr ha))
  | nullable => exact yields_objectsEqual hl hr (objectsEqual_eq hw ha)

end FieldKind

end JavaBuilder.Builder
