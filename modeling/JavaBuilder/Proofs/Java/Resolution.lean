import Mathlib.Data.List.Basic
import JavaBuilder.Proofs.Java.Parts

/-!
# Resolution of names

A bare name in Java is a variable before it is a field, and a field of the current object before it is a
static field of a class around. Code says what each of its names is meant to be, so it can be asked of all
its parts whether Java takes them for the same. There is a rule for each way in which the methods of
values build an expression or a statement.
-/

namespace JavaBuilder.Java

/-- The names that code can refer to: the variables around it, the fields of the current object, and the
variable that holds another object of the same class. -/
structure NameScope where
  locals : List String
  fields : List String
  other : String

namespace Expr

/-! ## Resolution of names -/

/-- The name in an expression is resolved as it is meant. A bare name is a variable before it is a
field, and a field before it is a static field of a class around; `this` is written only where the bare
name would not do. -/
@[simp] def IsResolved (sc : NameScope) : Expr → Prop
  | var x => x ∈ sc.locals
  | own x => x ∈ sc.fields ∧ x ∉ sc.locals
  | enclosing x => x ∉ sc.fields ∧ x ∉ sc.locals
  | field e x => x ∈ sc.fields ∧ (e = this ∧ x ∈ sc.locals ∨ e = var sc.other)
  | verbatim _ => False
  | _ => True

/-- The field of the current object that an expression is meant for. -/
def ownField? : Expr → Option String
  | own x | field this x => some x
  | _ => none

theorem code_ownField (x : String) (locals : List String) : (ownField x locals).code =
    if x ∈ locals then [.text "this", .text ("." ++ x)] else [.text x] := by
  unfold ownField
  split <;> rfl

variable {sc : NameScope}

/-- A reference that is resolved as it is meant is written with `this` exactly where it has to be. -/
theorem IsResolved.eq_ownField {e : Expr} (h : e.IsResolved sc) {x : String}
    (hx : e.ownField? = some x) : e = ownField x sc.locals := by
  unfold ownField? at hx
  split at hx
  · next y =>
    obtain rfl := Option.some.inj hx
    rw [ownField, if_neg h.2]
  · next y =>
    obtain rfl := Option.some.inj hx
    rcases h.2 with ⟨-, hlocal⟩ | hother
    · rw [ownField, if_pos hlocal]
    · cases hother
  · cases hx

/-! ## Expressions and statements -/

theorem mem_allParts_iff {x : Expr} {es : List Expr} : x ∈ allParts es ↔ ∃ e ∈ es, x ∈ e.parts := by
  induction es with
  | nil => simp
  | cons e es ih => rw [allParts, List.mem_append, ih, List.exists_mem_cons_iff]; rfl

/-- All names in the expression are resolved as they are meant. -/
def Resolves (sc : NameScope) (e : Expr) : Prop := ∀ x ∈ e.parts, x.IsResolved sc

theorem resolves_iff {e : Expr} : e.Resolves sc ↔ e.IsResolved sc ∧ ∀ x ∈ e.inner, x.IsResolved sc :=
  List.forall_mem_cons

theorem forall_mem_allParts_iff {es : List Expr} :
    (∀ x ∈ allParts es, x.IsResolved sc) ↔ ∀ e ∈ es, e.Resolves sc := by
  simp only [mem_allParts_iff, Resolves]
  exact ⟨fun h e he x hx ↦ h x ⟨e, he, hx⟩, fun h x ⟨e, he, hx⟩ ↦ h e he x hx⟩

variable {e l r : Expr} {es : List Expr} {x : String}

@[simp] theorem resolves_var_iff : (var x).Resolves sc ↔ x ∈ sc.locals := by
  simp [resolves_iff]

@[simp] theorem resolves_own_iff : (own x).Resolves sc ↔ x ∈ sc.fields ∧ x ∉ sc.locals := by
  simp [resolves_iff]

@[simp] theorem resolves_enclosing_iff :
    (enclosing x).Resolves sc ↔ x ∉ sc.fields ∧ x ∉ sc.locals := by
  simp [resolves_iff]

@[simp] theorem resolves_null : null.Resolves sc := by simp [resolves_iff]

@[simp] theorem resolves_literal : (literal x).Resolves sc := by simp [resolves_iff]

@[simp] theorem resolves_string : (string x).Resolves sc := by simp [resolves_iff]

@[simp] theorem resolves_static {c : ClassName} : (static c x).Resolves sc := by
  simp [resolves_iff]

/-- A field of the current object is resolved, whatever its name. -/
@[simp] theorem resolves_ownField_iff : (ownField x sc.locals).Resolves sc ↔ x ∈ sc.fields := by
  unfold ownField
  split <;> simp_all [resolves_iff]

@[simp] theorem resolves_field_other_iff :
    (field (var sc.other) x).Resolves sc ↔ x ∈ sc.fields ∧ sc.other ∈ sc.locals := by
  simp [resolves_iff]

@[simp] theorem resolves_not_iff : (not e).Resolves sc ↔ e.Resolves sc := by
  simp [resolves_iff]

@[simp] theorem resolves_paren_iff : (paren e).Resolves sc ↔ e.Resolves sc := by
  simp [resolves_iff]

@[simp] theorem resolves_cast_iff {t : TypeRef} : (cast t e).Resolves sc ↔ e.Resolves sc := by
  simp [resolves_iff]

@[simp] theorem resolves_instanceOf_iff {c : ClassName} :
    (instanceOf e c).Resolves sc ↔ e.Resolves sc := by
  simp [resolves_iff]

@[simp] theorem resolves_binary_iff {op : BinaryOp} {w : Wrap} :
    (binary op w l r).Resolves sc ↔ l.Resolves sc ∧ r.Resolves sc := by
  rw [resolves_iff, inner, List.forall_mem_append]
  exact and_iff_right trivial

@[simp] theorem resolves_conditional_iff {c : Expr} :
    (conditional c l r).Resolves sc ↔ c.Resolves sc ∧ l.Resolves sc ∧ r.Resolves sc := by
  rw [resolves_iff, inner, List.forall_mem_append, List.forall_mem_append]
  exact and_iff_right trivial

@[simp] theorem resolves_call_iff {method : String} {layout : ArgLayout} :
    (call e method layout es).Resolves sc ↔ e.Resolves sc ∧ ∀ a ∈ es, a.Resolves sc := by
  rw [resolves_iff, inner, List.forall_mem_append, forall_mem_allParts_iff]
  exact and_iff_right trivial

@[simp] theorem resolves_staticCall_iff {c : ClassName} {ts : List TypeRef} {method : String}
    {layout : ArgLayout} : (staticCall c ts method layout es).Resolves sc ↔ ∀ a ∈ es, a.Resolves sc := by
  rw [resolves_iff, inner, forall_mem_allParts_iff]
  exact and_iff_right trivial

@[simp] theorem resolves_create_iff {t : TypeRef} {diamond : Bool} :
    (create t diamond es).Resolves sc ↔ ∀ a ∈ es, a.Resolves sc := by
  rw [resolves_iff, inner, forall_mem_allParts_iff]
  exact and_iff_right trivial

@[simp] theorem resolves_newArray_iff {c : ClassName} :
    (newArray c es).Resolves sc ↔ ∀ a ∈ es, a.Resolves sc := by
  rw [resolves_iff, inner, forall_mem_allParts_iff]
  exact and_iff_right trivial

end Expr

namespace Stmt

variable {sc : NameScope} {e l r : Expr} {ss : List Stmt}

/-- All names in the statement are resolved as they are meant. -/
def Resolves (sc : NameScope) (s : Stmt) : Prop := ∀ x ∈ s.parts, x.IsResolved sc

theorem forall_mem_allParts_iff :
    (∀ x ∈ allParts ss, x.IsResolved sc) ↔ ∀ s ∈ ss, s.Resolves sc := by
  simp only [mem_allParts_iff, Resolves]
  exact ⟨fun h s hs x hx ↦ h x ⟨s, hs, hx⟩, fun h x ⟨s, hs, hx⟩ ↦ h s hs x hx⟩

@[simp] theorem resolves_ret_iff : (ret e).Resolves sc ↔ e.Resolves sc := Iff.rfl

@[simp] theorem resolves_eval_iff : (eval e).Resolves sc ↔ e.Resolves sc := Iff.rfl

@[simp] theorem resolves_declare_iff {t : TypeRef} {x : String} :
    (declare t x e).Resolves sc ↔ e.Resolves sc := Iff.rfl

@[simp] theorem resolves_assign_iff :
    (assign l r).Resolves sc ↔ l.Resolves sc ∧ r.Resolves sc := List.forall_mem_append

@[simp] theorem resolves_ifThen_iff :
    (ifThen e ss).Resolves sc ↔ e.Resolves sc ∧ ∀ s ∈ ss, s.Resolves sc := by
  rw [← forall_mem_allParts_iff]
  exact List.forall_mem_append

end Stmt

/-- All names in the method are resolved as they are meant, where the object that the method runs on
and the one in the variable `other` have these fields. -/
def Method.Resolves (m : Method) (fields : List String) (other : String) : Prop :=
  ∀ s ∈ m.body, s.Resolves ⟨m.locals, fields, other⟩

end JavaBuilder.Java
