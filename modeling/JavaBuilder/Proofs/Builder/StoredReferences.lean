import Mathlib.Tactic.Tauto
import JavaBuilder.Builder.ValueMethods
import JavaBuilder.Proofs.Java.Resolution

/-!
# References to stored fields

The methods of stored values refer to fields whose names are those of the properties, and a property
may have the name of a variable: `other` in `equals`, `result` and `separator` where `toString` goes
step by step. Every name in the four methods is resolved as it is meant nevertheless. A field of the
current object is written by its bare name exactly where no variable of the method has that name, and
through `this` elsewhere; a field of the other object is always written through its variable.

The methods are built from few expressions, so what is said of all parts of a body is first said of the
parts of those.
-/

namespace JavaBuilder.Builder

open Java

variable {sc : NameScope} {f : Features} {fields : List StoredField} {withUnset : Bool}

/-! ## Comparisons -/

section

variable {l r x : Expr}

theorem resolves_bits_iff (p : Primitive) : (FieldKind.bits p l).Resolves sc ↔ l.Resolves sc := by
  cases p <;> simp [FieldKind.bits, Expr.invokeStatic]

/-- A comparison refers to what it compares and to nothing else. -/
theorem resolves_differs_iff (k : FieldKind) :
    (k.differs f l r).Resolves sc ↔ l.Resolves sc ∧ r.Resolves sc := by
  cases k with
  | primitive p => simp [FieldKind.differs, Expr.ne, resolves_bits_iff]
  | nonNull | nullable =>
    simp only [FieldKind.differs]
    split <;> simp +contextual [FieldKind.objectsEqual, Expr.invokeStatic, Expr.invoke, Expr.ne, Expr.eq]

theorem resolves_same_iff (k : FieldKind) :
    (k.same l r).Resolves sc ↔ l.Resolves sc ∧ r.Resolves sc := by
  cases k with
  | primitive p => simp [FieldKind.same, Expr.eq, resolves_bits_iff]
  | nonNull | nullable => simp [FieldKind.same, FieldKind.objectsEqual, Expr.invokeStatic]

theorem mem_parts_bits (p : Primitive) (h : x ∈ l.parts) : x ∈ (FieldKind.bits p l).parts := by
  cases p <;> simp_all [FieldKind.bits, Expr.invokeStatic]

theorem mem_parts_differs (k : FieldKind) (h : x ∈ l.parts ∨ x ∈ r.parts) :
    x ∈ (k.differs f l r).parts := by
  cases k with
  | primitive p =>
    have hbits := h.imp (mem_parts_bits p) (mem_parts_bits p)
    exact List.mem_cons_of_mem _ (List.mem_append.mpr hbits)
  | nonNull | nullable =>
    simp only [FieldKind.differs]
    split <;> simp_all [FieldKind.objectsEqual, Expr.invokeStatic, Expr.invoke, Expr.ne, Expr.eq] <;> tauto

theorem mem_parts_same (k : FieldKind) (h : x ∈ l.parts ∨ x ∈ r.parts) : x ∈ (k.same l r).parts := by
  cases k with
  | primitive p =>
    have hbits := h.imp (mem_parts_bits p) (mem_parts_bits p)
    exact List.mem_cons_of_mem _ (List.mem_append.mpr hbits)
  | nonNull | nullable =>
    simp_all [FieldKind.same, FieldKind.objectsEqual, Expr.invokeStatic]
    tauto

theorem resolves_conjunction_iff {e : Expr} {es : List Expr} :
    (conjunction e es).Resolves sc ↔ ∀ c ∈ e :: es, c.Resolves sc := by
  rw [conjunction]
  induction es generalizing e with
  | nil => simp
  | cons c cs ih => simp [ih, and_assoc]

theorem mem_parts_conjunction {e : Expr} {es : List Expr} (h : ∃ c ∈ e :: es, x ∈ c.parts) :
    x ∈ (conjunction e es).parts := by
  rw [conjunction]
  induction es generalizing e with
  | nil => simpa using h
  | cons c cs ih =>
    refine ih ?_
    rw [List.exists_mem_cons_iff, List.exists_mem_cons_iff] at h
    rw [List.exists_mem_cons_iff]
    rcases h with h | h | h
    · exact .inl (List.mem_cons_of_mem _ (List.mem_append_left _ h))
    · exact .inl (List.mem_cons_of_mem _ (List.mem_append_right _ h))
    · exact .inr h

end

/-! ## Equality -/

/-- The names of the fields, the set of unset properties among them. -/
def fieldNames (fields : List StoredField) : List String := fields.map (·.field) ++ [unsetField]

theorem field_mem_fieldNames {s : StoredField} (hs : s ∈ fields) : s.field ∈ fieldNames fields :=
  List.mem_append_left _ (List.mem_map_of_mem hs)

theorem unsetField_mem_fieldNames : unsetField ∈ fieldNames fields :=
  List.mem_append_right _ (List.mem_singleton.mpr rfl)

/-- What `equals` can refer to. -/
def equalsScope (fields : List StoredField) : NameScope := ⟨equalsLocals, fieldNames fields, "other"⟩

theorem other_mem_equalsLocals : "other" ∈ equalsLocals := by decide

section

variable {s : StoredField}

theorem resolves_here (hs : s ∈ fields) : s.here.Resolves (equalsScope fields) :=
  Expr.resolves_ownField_iff.mpr (field_mem_fieldNames hs)

theorem resolves_there (hs : s ∈ fields) : s.there.Resolves (equalsScope fields) :=
  Expr.resolves_field_other_iff.mpr ⟨field_mem_fieldNames hs, other_mem_equalsLocals⟩

theorem resolves_ownUnset : (Expr.own unsetField).Resolves (equalsScope fields) :=
  Expr.resolves_own_iff.mpr
    ⟨unsetField_mem_fieldNames, (by decide : unsetField ∉ equalsLocals)⟩

theorem resolves_otherUnset : (Expr.field (.var "other") unsetField).Resolves (equalsScope fields) :=
  Expr.resolves_field_other_iff.mpr ⟨unsetField_mem_fieldNames, other_mem_equalsLocals⟩

theorem resolves_equalsBody :
    ∀ st ∈ equalsBody f fields withUnset, st.Resolves (equalsScope fields) := by
  simp only [equalsBody]
  split
  · -- one conjunction of all comparisons
    have hclauses : ∀ c ∈ fields.map (fun s ↦ s.kind.same s.here s.there) ++
        (if withUnset then [FieldKind.nonNull.same (.own unsetField)
          (.field (.var "other") unsetField)] else []), c.Resolves (equalsScope fields) := by
      rw [List.forall_mem_append, List.forall_mem_map]
      refine ⟨fun s hs ↦ (resolves_same_iff s.kind).mpr ⟨resolves_here hs, resolves_there hs⟩, ?_⟩
      cases withUnset
      · simp
      · rw [if_pos rfl, List.forall_mem_singleton]
        exact (resolves_same_iff .nonNull).mpr ⟨resolves_ownUnset, resolves_otherUnset⟩
    split
    · simp
    · next c cs hcs =>
      rw [hcs] at hclauses
      rw [List.forall_mem_singleton, Stmt.resolves_ret_iff]
      exact resolves_conjunction_iff.mpr hclauses
  · -- a statement for each field
    rw [List.forall_mem_append, List.forall_mem_map]
    refine ⟨fun s hs ↦ ?_, ?_⟩
    · have hdiffers : (s.kind.differs f s.here s.there).Resolves (equalsScope fields) :=
        (resolves_differs_iff s.kind).mpr ⟨resolves_here hs, resolves_there hs⟩
      simp [hdiffers]
    · rw [List.forall_mem_singleton, Stmt.resolves_ret_iff]
      cases withUnset
      · exact Expr.resolves_literal
      · exact Expr.resolves_call_iff.mpr
          ⟨resolves_ownUnset, List.forall_mem_singleton.mpr resolves_otherUnset⟩

/-- Every field is compared, with the field of the other object. -/
theorem mem_allParts_equalsBody {x : Expr} (hs : s ∈ fields) (hx : x = s.here ∨ x = s.there) :
    x ∈ Stmt.allParts (equalsBody f fields withUnset) := by
  have hparts : x ∈ s.here.parts ∨ x ∈ s.there.parts :=
    hx.imp (by rintro rfl; exact List.mem_cons_self) (by rintro rfl; exact List.mem_cons_self)
  simp only [equalsBody]
  split
  · have hclause : ∃ c ∈ fields.map (fun s ↦ s.kind.same s.here s.there) ++
        (if withUnset then [FieldKind.nonNull.same (.own unsetField)
          (.field (.var "other") unsetField)] else []), x ∈ c.parts :=
      ⟨_, List.mem_append_left _ (List.mem_map_of_mem hs), mem_parts_same s.kind hparts⟩
    split
    · next hnil =>
      rw [hnil] at hclause
      simp at hclause
    · next c cs hcs =>
      rw [hcs] at hclause
      exact List.mem_append_left _ (mem_parts_conjunction hclause)
  · rw [Stmt.mem_allParts_iff]
    refine ⟨_, List.mem_append_left _ (List.mem_map_of_mem hs), ?_⟩
    exact List.mem_append_left _ (mem_parts_differs s.kind hparts)

end

theorem allDeclared_equalsBody : Stmt.allDeclared (equalsBody f fields withUnset) = [] := by
  have hmap (g : StoredField → Stmt) (hg : ∀ s, (g s).declared = []) :
      Stmt.allDeclared (fields.map g) = [] := by
    induction fields with
    | nil => rfl
    | cons s ss ih => simp [hg, ih]
  simp only [equalsBody]
  split
  · split <;> rfl
  · rw [Stmt.allDeclared_append, hmap _ fun _ ↦ rfl]
    rfl

theorem locals_equalsMethod {type : GenericClass} :
    (equalsMethod f type fields withUnset).locals = equalsLocals := by
  simp [Method.locals, equalsMethod, Method.overriding, Param.of, allDeclared_equalsBody, equalsLocals]

theorem resolves_equalsMethod {type : GenericClass} :
    (equalsMethod f type fields withUnset).Resolves (fieldNames fields) "other" := by
  rw [Method.Resolves, locals_equalsMethod]
  change ∀ st ∈ _ :: _ :: equalsBody f fields withUnset, st.Resolves (equalsScope fields)
  rw [List.forall_mem_cons, List.forall_mem_cons]
  refine ⟨?_, ?_, resolves_equalsBody⟩
  · simp [equalsScope, equalsLocals]
  · simp [equalsScope, equalsLocals]

/-! ## Hash codes -/

theorem locals_hashCodeMethod : (hashCodeMethod f fields withUnset).locals = [] := rfl

theorem resolves_hashCodeMethod :
    (hashCodeMethod f fields withUnset).Resolves (fieldNames fields) "other" := by
  rw [Method.Resolves, locals_hashCodeMethod]
  have hnames : ∀ e ∈ fields.map (fun s ↦ Expr.own s.field) ++
      (if withUnset then [.own unsetField] else []),
      e.Resolves ⟨[], fieldNames fields, "other"⟩ := by
    rw [List.forall_mem_append, List.forall_mem_map]
    refine ⟨fun s hs ↦ by simp [field_mem_fieldNames hs], ?_⟩
    cases withUnset <;> simp [unsetField_mem_fieldNames]
  simp only [hashCodeMethod, Method.overriding, List.forall_mem_singleton, Stmt.resolves_ret_iff]
  split
  · exact Expr.resolves_staticCall_iff.mpr hnames
  · refine Expr.resolves_staticCall_iff.mpr ?_
    rw [List.forall_mem_singleton]
    exact Expr.resolves_newArray_iff.mpr hnames

theorem own_mem_hashCodeMethod {s : StoredField} (hs : s ∈ fields) :
    .own s.field ∈ Stmt.allParts (hashCodeMethod f fields withUnset).body := by
  have hname : .own s.field ∈ Expr.allParts (fields.map (fun s ↦ Expr.own s.field) ++
      if withUnset then [.own unsetField] else []) := by
    rw [Expr.mem_allParts_iff]
    exact ⟨.own s.field, List.mem_append_left _ (List.mem_map_of_mem hs), List.mem_cons_self⟩
  simp only [hashCodeMethod, Method.overriding]
  split <;> simp [Expr.invokeStatic, hname]

/-! ## Text -/

section

variable {opening : String} {condition : StoredField → Option Expr}

/-- What `toString` can refer to where it has these variables. -/
def textScope (locals : List String) (fields : List StoredField) : NameScope :=
  ⟨locals, fieldNames fields, "other"⟩

theorem resolves_concatText {fs : List StoredField} (h : ∀ s ∈ fs, s ∈ fields) :
    (concatText opening fs).Resolves (textScope [] fields) := by
  have hown {s : StoredField} (hs : s ∈ fields) : (Expr.own s.field).Resolves (textScope [] fields) :=
    Expr.resolves_own_iff.mpr ⟨field_mem_fieldNames hs, List.not_mem_nil⟩
  cases fs with
  | nil => simp [concatText]
  | cons s ss =>
    rw [List.forall_mem_cons] at h
    have hfirst : (plus (.string (opening ++ s.label ++ "=")) (.own s.field)).Resolves
        (textScope [] fields) := by
      simp only [plus, Expr.resolves_binary_iff, Expr.resolves_string, hown h.1, and_self]
    refine Expr.resolves_binary_iff.mpr ⟨?_, Expr.resolves_string⟩
    generalize plus (.string (opening ++ s.label ++ "=")) (.own s.field) = acc at hfirst
    -- what is there so far is resolved, and each further field only adds itself
    replace h := h.2
    induction ss generalizing acc with
    | nil => exact hfirst
    | cons s' ss ih =>
      rw [List.forall_mem_cons] at h
      refine ih _ ?_ h.2
      simp only [plus, plusNext, Expr.resolves_binary_iff, Expr.resolves_string, hown h.1, hfirst,
        and_self]

theorem mem_parts_concatText {fs : List StoredField} {s : StoredField} (hs : s ∈ fs) :
    .own s.field ∈ (concatText opening fs).parts := by
  cases fs with
  | nil => cases hs
  | cons s₀ ss =>
    refine List.mem_cons_of_mem _ (List.mem_append_left _ ?_)
    have hfirst : s = s₀ → .own s.field ∈
        (plus (.string (opening ++ s₀.label ++ "=")) (.own s₀.field)).parts := by
      rintro rfl
      simp [plus]
    rw [List.mem_cons] at hs
    replace hs := hs.imp_left hfirst
    generalize plus (.string (opening ++ s₀.label ++ "=")) (.own s₀.field) = acc at hs
    -- the field is in what is there so far, or still to come
    induction ss generalizing acc with
    | nil => simpa using hs
    | cons s' ss ih =>
      refine ih _ ?_
      rw [List.mem_cons] at hs
      rcases hs with hacc | rfl | hs
      · exact .inl (List.mem_cons_of_mem _ (List.mem_append_left _
          (List.mem_cons_of_mem _ (List.mem_append_left _ hacc))))
      · exact .inl (List.mem_cons_of_mem _ (List.mem_append_right _ List.mem_cons_self))
      · exact .inr hs

/-- The joiner is the static field of the class around, if no stored field has its name. -/
theorem resolves_joinedText (hjoiner : ∀ s ∈ fields, s.field ≠ joinerField) :
    (joinedText opening fields).Resolves (textScope [] fields) := by
  have hown {s : StoredField} (hs : s ∈ fields) : (Expr.own s.field).Resolves (textScope [] fields) :=
    Expr.resolves_own_iff.mpr ⟨field_mem_fieldNames hs, List.not_mem_nil⟩
  have hentry : ∀ e ∈ fields.map joinerEntry, e.Resolves (textScope [] fields) := by
    rw [List.forall_mem_map]
    intro s hs
    simp only [joinerEntry]
    split <;> simp only [plus, Expr.ne, Expr.resolves_paren_iff, Expr.resolves_conditional_iff,
      Expr.resolves_binary_iff, Expr.resolves_string, Expr.resolves_null, hown hs, and_self]
  have hnames : joinerField ∉ fieldNames fields := by
    simp only [fieldNames, List.mem_append, List.mem_map, List.mem_singleton, not_or, not_exists,
      not_and]
    exact ⟨hjoiner, by decide⟩
  have henclosing : (Expr.enclosing joinerField).Resolves (textScope [] fields) :=
    Expr.resolves_enclosing_iff.mpr ⟨hnames, List.not_mem_nil⟩
  simp only [joinedText, plusNext, Expr.resolves_binary_iff, Expr.resolves_string,
    Expr.resolves_call_iff, henclosing, true_and, and_true]
  exact hentry

theorem mem_parts_joinedText {s : StoredField} (hs : s ∈ fields) :
    .own s.field ∈ (joinedText opening fields).parts := by
  have hentry : .own s.field ∈ Expr.allParts (fields.map joinerEntry) := by
    rw [Expr.mem_allParts_iff]
    refine ⟨joinerEntry s, List.mem_map_of_mem hs, ?_⟩
    simp only [joinerEntry]
    split <;> simp [plus]
  simp [joinedText, plusNext, hentry]

/-- The text that is built step by step, if the conditions are resolved. -/
theorem resolves_stepwiseText
    (hcondition : ∀ s ∈ fields, ∀ c ∈ condition s, c.Resolves (textScope builderLocals fields)) :
    ∀ st ∈ stepwiseText opening condition fields, st.Resolves (textScope builderLocals fields) := by
  have hresult : (Expr.var "result").Resolves (textScope builderLocals fields) :=
    Expr.resolves_var_iff.mpr (by decide : "result" ∈ builderLocals)
  have hseparator : (Expr.var "separator").Resolves (textScope builderLocals fields) :=
    Expr.resolves_var_iff.mpr (by decide : "separator" ∈ builderLocals)
  have hfields : ∀ st ∈ fields.flatMap (appendField condition),
      st.Resolves (textScope builderLocals fields) := by
    rw [List.forall_mem_flatMap]
    intro s hs
    have hfield : (Expr.ownField s.field builderLocals).Resolves (textScope builderLocals fields) :=
      Expr.resolves_ownField_iff.mpr (field_mem_fieldNames hs)
    simp only [appendField]
    split
    · next test htest =>
      simp [Expr.invoke, hresult, hseparator, hfield, hcondition s hs test htest]
    · simp [Expr.invoke, hresult, hseparator, hfield]
  simp only [stepwiseText, List.forall_mem_cons, List.forall_mem_append]
  refine ⟨?_, ?_, hfields, ?_⟩
  · simp
  · simp
  · simp [Expr.invoke, hresult]

theorem mem_allParts_stepwiseText {s : StoredField} (hs : s ∈ fields) :
    .ownField s.field builderLocals ∈ Stmt.allParts (stepwiseText opening condition fields) := by
  have hfield : .ownField s.field builderLocals ∈ Stmt.allParts (appendField condition s) := by
    simp only [appendField]
    split <;> simp [Expr.invoke]
  simp only [stepwiseText, Stmt.allParts, Stmt.allParts_append, List.mem_append]
  exact .inr (.inr (.inl (Stmt.mem_allParts_flatMap.mpr ⟨s, hs, hfield⟩)))

theorem allDeclared_stepwiseText (opening : String) (condition : StoredField → Option Expr) :
    Stmt.allDeclared (stepwiseText opening condition fields) = builderLocals := by
  have hfields : Stmt.allDeclared (fields.flatMap (appendField condition)) = [] := by
    induction fields with
    | nil => rfl
    | cons s ss ih =>
      rw [List.flatMap_cons, Stmt.allDeclared_append, ih, List.append_nil]
      simp only [appendField]
      split <;> rfl
  simp [stepwiseText, hfields, builderLocals]

theorem resolves_presentCheck {s : StoredField} (hs : s ∈ fields) :
    ∀ c ∈ presentCheck s, c.Resolves (textScope builderLocals fields) := by
  have hfield : (Expr.ownField s.field builderLocals).Resolves (textScope builderLocals fields) :=
    Expr.resolves_ownField_iff.mpr (field_mem_fieldNames hs)
  unfold presentCheck
  split
  · simp [Expr.ne, hfield]
  · simp

theorem resolves_partialCheck {s : StoredField} (hs : s ∈ fields)
    (hconstant : ∀ c ∈ s.constant, ∃ enum name, c = .static enum name) :
    ∀ c ∈ partialCheck s, c.Resolves (textScope builderLocals fields) := by
  have hunset : (Expr.own unsetField).Resolves (textScope builderLocals fields) :=
    Expr.resolves_own_iff.mpr ⟨unsetField_mem_fieldNames, (by decide : unsetField ∉ builderLocals)⟩
  unfold partialCheck
  split
  · next c hc =>
    obtain ⟨enum, name, rfl⟩ := hconstant c hc
    simp only [Option.mem_def, Option.some.injEq, forall_eq', isUnset, Expr.invoke,
      Expr.resolves_not_iff, Expr.resolves_call_iff, hunset, List.forall_mem_singleton,
      Expr.resolves_static, and_self]
  · exact resolves_presentCheck hs

end

/-- What a form of a method is shown to do: it has these variables, resolves all names in it, and refers
to each field. -/
structure RefersToFields (m : Method) (fields : List StoredField) (locals : List String) : Prop where
  locals_eq : m.locals = locals
  resolves : m.Resolves (fieldNames fields) "other"
  mem : ∀ s ∈ fields, .ownField s.field locals ∈ Stmt.allParts m.body

theorem refersToFields_equalsMethod {type : GenericClass} :
    RefersToFields (equalsMethod f type fields withUnset) fields equalsLocals where
  locals_eq := locals_equalsMethod
  resolves := resolves_equalsMethod
  mem s hs := by
    have hmem : s.here ∈ Stmt.allParts (equalsBody f fields withUnset) :=
      mem_allParts_equalsBody hs (.inl rfl)
    exact List.mem_append_right _ (List.mem_append_right _ hmem)

theorem refersToFields_hashCodeMethod :
    RefersToFields (hashCodeMethod f fields withUnset) fields [] where
  locals_eq := rfl
  resolves := resolves_hashCodeMethod
  mem _ hs := own_mem_hashCodeMethod hs

theorem refersToFields_of_expression {e : Expr} (h : e.Resolves (textScope [] fields))
    (hmem : ∀ s ∈ fields, .own s.field ∈ e.parts) : RefersToFields (toStringMethod [.ret e]) fields [] where
  locals_eq := rfl
  resolves := List.forall_mem_singleton.mpr h
  mem s hs := List.mem_append_left _ (hmem s hs)

theorem refersToFields_stepwise {opening : String} {condition : StoredField → Option Expr}
    (hcondition : ∀ s ∈ fields, ∀ c ∈ condition s, c.Resolves (textScope builderLocals fields)) :
    RefersToFields (toStringMethod (stepwiseText opening condition fields)) fields builderLocals := by
  have hlocals : (toStringMethod (stepwiseText opening condition fields)).locals = builderLocals :=
    allDeclared_stepwiseText opening condition
  refine ⟨hlocals, ?_, fun s hs ↦ mem_allParts_stepwiseText hs⟩
  rw [Method.Resolves, hlocals]
  exact resolves_stepwiseText hcondition

theorem refersToFields_valueToString (f : Features) (source : ClassName)
    (hjoiner : ∀ s ∈ fields, s.field ≠ joinerField) :
    RefersToFields (valueToString f source fields) fields [] ∨
      RefersToFields (valueToString f source fields) fields builderLocals := by
  simp only [valueToString]
  split
  · exact .inl (refersToFields_of_expression (resolves_concatText fun _ ↦ id) fun _ ↦ mem_parts_concatText)
  · split
    · exact .inl (refersToFields_of_expression (resolves_joinedText hjoiner) fun _ ↦ mem_parts_joinedText)
    · exact .inr (refersToFields_stepwise fun _ ↦ resolves_presentCheck)

theorem refersToFields_partialToString (source : ClassName)
    (hconstants : ∀ s ∈ fields, ∀ c ∈ s.constant, ∃ enum name, c = .static enum name) :
    RefersToFields (partialToString source fields) fields [] ∨
      RefersToFields (partialToString source fields) fields builderLocals := by
  simp only [partialToString]
  split
  · next hempty =>
    obtain rfl := List.isEmpty_iff.mp hempty
    exact .inl (refersToFields_of_expression Expr.resolves_string fun _ hs ↦ nomatch hs)
  · exact .inr (refersToFields_stepwise fun s hs ↦ resolves_partialCheck hs (hconstants s hs))

/-! ## References in print -/

/-- A method tells the fields of stored values from everything else: its names are resolved as they are
meant, it refers to every field, a field of the current object is printed with `this` exactly where a
variable has its name, and a field of another object is one of the variable `other`. -/
structure KeepsFieldsApart (m : Method) (fields : List StoredField) : Prop where
  resolves : m.Resolves (fieldNames fields) "other"
  refers : ∀ s ∈ fields, ∃ e ∈ Stmt.allParts m.body, e.ownField? = some s.field
  own_code : ∀ e ∈ Stmt.allParts m.body, ∀ x, e.ownField? = some x →
    e.code = if x ∈ m.locals then [.text "this", .text ("." ++ x)] else [.text x]
  other_code : ∀ e x, .field e x ∈ Stmt.allParts m.body → e ≠ .this →
    (Expr.field e x).code = [.text "other", .text ("." ++ x)]

theorem ownField?_ownField (x : String) (locals : List String) :
    (Expr.ownField x locals).ownField? = some x := by
  unfold Expr.ownField
  split <;> rfl

theorem RefersToFields.keepsFieldsApart {m : Method} {locals : List String}
    (h : RefersToFields m fields locals) : KeepsFieldsApart m fields := by
  have hparts : ∀ e ∈ Stmt.allParts m.body, e.IsResolved ⟨m.locals, fieldNames fields, "other"⟩ :=
    Stmt.forall_mem_allParts_iff.mpr h.resolves
  refine ⟨h.resolves, fun s hs ↦ ⟨_, h.mem s hs, ownField?_ownField s.field locals⟩, ?_, ?_⟩
  · intro e he x hx
    rw [(hparts e he).eq_ownField hx, Expr.code_ownField]
  · intro e x he hthis
    obtain ⟨-, ⟨rfl, -⟩ | rfl⟩ := hparts (.field e x) he
    · exact absurd rfl hthis
    · rfl

/-- **No method of stored values captures a field.** Whatever the fields are called, `equals`, `hashCode`
and `toString` of the value class and of the partial class refer to each of them, by its bare name unless
a variable of the method has that name; and `equals` compares each with the field of the other object. The
joiner is a static field of the class around, so no stored field may have its name. -/
theorem storedMethods_keepFieldsApart (f : Features) (type : GenericClass) (source : ClassName)
    (withUnset : Bool) (hjoiner : ∀ s ∈ fields, s.field ≠ joinerField)
    (hconstants : ∀ s ∈ fields, ∀ c ∈ s.constant, ∃ enum name, c = .static enum name) :
    (equalsMethod f type fields withUnset).locals = ["obj", "other"] ∧
      (hashCodeMethod f fields withUnset).locals = [] ∧
      (∀ m ∈ [valueToString f source fields, partialToString source fields],
        m.locals = [] ∨ m.locals = ["result", "separator"]) ∧
      (∀ m ∈ [equalsMethod f type fields withUnset, hashCodeMethod f fields withUnset,
          valueToString f source fields, partialToString source fields],
        KeepsFieldsApart m fields) ∧
      ∀ s ∈ fields, .field (.var "other") s.field ∈
        Stmt.allParts (equalsMethod f type fields withUnset).body := by
  have hvalue := refersToFields_valueToString f source hjoiner
  have hpartial := refersToFields_partialToString source hconstants
  refine ⟨locals_equalsMethod, rfl, ?_, ?_, fun s hs ↦ ?_⟩
  · simp only [List.forall_mem_cons]
    exact ⟨hvalue.imp (·.locals_eq) (·.locals_eq), hpartial.imp (·.locals_eq) (·.locals_eq), by simp⟩
  · simp only [List.forall_mem_cons]
    exact ⟨refersToFields_equalsMethod.keepsFieldsApart, refersToFields_hashCodeMethod.keepsFieldsApart,
      hvalue.elim (·.keepsFieldsApart) (·.keepsFieldsApart),
      hpartial.elim (·.keepsFieldsApart) (·.keepsFieldsApart), by simp⟩
  · have hmem : s.there ∈ Stmt.allParts (equalsBody f fields withUnset) :=
      mem_allParts_equalsBody hs (.inr rfl)
    exact List.mem_append_right _ (List.mem_append_right _ hmem)

/-- Fields with the names of all variables, two of them nullable and one of them tracked. -/
def hiddenFields : List StoredField :=
  [⟨"other", "other", .nonNull, none⟩, ⟨"obj", "obj", .primitive .int, none⟩,
    ⟨"result", "result", .nullable, some (.static ⟨[], "Property", []⟩ "RESULT")⟩,
    ⟨"separator", "separator", .nullable, none⟩]

theorem storedMethods_keepFieldsApart_hiddenFields :
    let type : GenericClass := ⟨⟨[], "Value", []⟩, []⟩
    let source : ClassName := ⟨["org"], "Query", []⟩
    (∀ s ∈ hiddenFields, s.field ≠ joinerField) ∧
      (∀ s ∈ hiddenFields, ∀ c ∈ s.constant, ∃ enum name, c = .static enum name) ∧
      ∀ m ∈ [equalsMethod ⟨.java6, false⟩ type hiddenFields true,
          hashCodeMethod ⟨.java6, false⟩ hiddenFields true,
          valueToString ⟨.java6, false⟩ source hiddenFields, partialToString source hiddenFields],
        KeepsFieldsApart m hiddenFields := by
  have hjoiner : ∀ s ∈ hiddenFields, s.field ≠ joinerField := by decide
  have hconstants : ∀ s ∈ hiddenFields, ∀ c ∈ s.constant, ∃ enum name, c = .static enum name := by
    simp [hiddenFields]
  have hall := storedMethods_keepFieldsApart ⟨.java6, false⟩ ⟨⟨[], "Value", []⟩, []⟩
    ⟨["org"], "Query", []⟩ true hjoiner hconstants
  exact ⟨hjoiner, hconstants, hall.2.2.2.1⟩

end JavaBuilder.Builder
