import JavaBuilder.Builder.Assembly
import JavaBuilder.Proofs.Builder.Vocabulary

/-!
# What stored values and tracking are made of

The methods of the value classes and the members that track required properties, given that the
stored fields, the classes of the datatype and the constants are allowed.
-/

namespace JavaBuilder.Builder

open Java Model

variable {ok : Allowed} {f : Features} {ctx : Context}

/-- The names of the classes of a datatype are allowed, and the constants of the enum. -/
structure AllowsClasses (ok : Allowed) (ctx : Context) : Prop where
  sourceName : ok.comment ctx.sourceName.simpleName ∧ ok.string ctx.sourceName.simpleName
  typeParams : ∀ x ∈ ctx.datatype.source.params, ok.typeVar x
  generated : ctx.datatype.generated.Uses ok
  value : ctx.datatype.value.Uses ok
  partialType : ∀ p ∈ ctx.datatype.partialType, p.Uses ok
  enum : ∀ t ∈ ctx.tracking, ok.type t.enum
  constants : ∀ t ∈ ctx.tracking, ∀ k ∈ t.tracked, ok.static t.enum k.constant

/-- The names of the enum and its constants are allowed where they are declared. -/
structure AllowsEnum (ok : Allowed) (ctx : Context) : Prop where
  name : ∀ t ∈ ctx.tracking, ok.name t.enum.simpleName ∧ ok.method t.enum.simpleName
  constants : ∀ t ∈ ctx.tracking, ∀ k ∈ t.tracked, ok.name k.constant ∧ ok.string k.property

/-- The helpers are allowed in a context that can have them. -/
structure AllowsHelpers (ok : Allowed) (ctx : Context) : Prop where
  defaults : ctx.datatype.factory.isSome = true → ok.name defaultsVar
  base : ctx.tracking.isSome = true → ok.name baseVar
  unset : ctx.tracking.isSome = true → ok.name unsetField
  joiner : ctx.features.guava = true → ok.name joinerField

/-- A stored field is allowed, and the set that its constant is in. -/
structure StoredField.Uses (ok : Allowed) (s : StoredField) : Prop where
  field : ok.name s.field
  label : ok.string s.label
  constant : ∀ c ∈ s.constant, ok.name unsetField ∧ c.Uses ok

theorem uses_type_of_class {c : GenericClass} (h : c.Uses ok) : c.type.Uses ok := by
  refine ⟨h.name, (TypeRef.usesAll_iff ok).mpr fun t ht ↦ ?_⟩
  obtain ⟨x, hx, rfl⟩ := List.mem_map.mp ht
  exact h.params x hx

theorem uses_wildcardType {c : GenericClass} (h : ok.type c.name) : c.wildcardType.Uses ok := by
  refine ⟨h, (TypeRef.usesAll_iff ok).mpr fun t ht ↦ ?_⟩
  obtain ⟨x, -, rfl⟩ := List.mem_map.mp ht
  trivial

theorem isSome_tracking_of_constant? {x : String} {c : Expr} (h : c ∈ ctx.constant? x) :
    ctx.tracking.isSome = true := by
  obtain ⟨t, ht, -⟩ := Option.bind_eq_some_iff.mp h
  rw [ht, Option.isSome_some]

theorem uses_constant? (hd : AllowsClasses ok ctx) {x : String} :
    ∀ c ∈ ctx.constant? x, c.Uses ok := by
  intro c hc
  obtain ⟨t, ht, hc⟩ := Option.bind_eq_some_iff.mp hc
  obtain ⟨k, hk, rfl⟩ := Option.map_eq_some_iff.mp hc
  exact hd.constants t ht k (List.mem_of_find?_eq_some hk)

/-! ## Equality and text -/

theorem uses_conjunction {e : Expr} {es : List Expr} (he : e.Uses ok) (hes : ∀ c ∈ es, c.Uses ok) :
    (conjunction e es).Uses ok := by
  rw [conjunction]
  induction es generalizing e with
  | nil => exact he
  | cons c cs ih =>
    exact ih ⟨he, hes c (by simp)⟩ fun d hd ↦ hes d (List.mem_cons_of_mem c hd)

section

variable (hf : AllowsFixed ok f) {withUnset : Bool} (hunset : withUnset = true → ok.name unsetField)

include hf in
theorem StoredField.Uses.here_there {s : StoredField} (h : s.Uses ok) :
    s.here.Uses ok ∧ s.there.Uses ok := by
  constructor
  · simp [StoredField.here, h.field]
  · simp +decide [StoredField.there, h.field, hf.name]

include hf hunset in
/-- What is compared, where it is compared in one conjunction. -/
theorem uses_clauses (hobjects : f.hasObjects = true) {fields : List StoredField}
    (h : ∀ s ∈ fields, s.Uses ok) :
    ∀ c ∈ fields.map (fun s ↦ s.kind.same s.here s.there) ++
      (if withUnset then [FieldKind.nonNull.same (.own unsetField)
        (.field (.var "other") unsetField)] else []), c.Uses ok := by
  rw [List.forall_mem_append]
  refine ⟨fun c hc ↦ ?_, ?_⟩
  · obtain ⟨s, hs, rfl⟩ := List.mem_map.mp hc
    obtain ⟨hhere, hthere⟩ := StoredField.Uses.here_there hf (h s hs)
    exact uses_same hf hobjects s.kind hhere hthere
  · cases withUnset with
    | false => simp
    | true =>
      have hother : (Expr.field (.var "other") unsetField).Uses ok := by
        simp +decide [hunset rfl, hf.name]
      have hsame := uses_same hf hobjects .nonNull (l := .own unsetField) (hunset rfl) hother
      simpa using hsame

include hf hunset in
theorem uses_equalsBody {fields : List StoredField} (h : ∀ s ∈ fields, s.Uses ok) :
    Stmt.UsesAll ok (equalsBody f fields withUnset) := by
  have hliteral : ok.literal "true" ∧ ok.literal "false" :=
    ⟨hf.literal (by decide), hf.literal (by decide)⟩
  simp only [equalsBody]
  -- One conjunction where `Objects` is available, and early returns elsewhere.
  by_cases hobjects : f.hasObjects = true
  · rw [if_pos hobjects]
    have hclauses := uses_clauses hf hunset hobjects h
    generalize fields.map (fun s ↦ s.kind.same s.here s.there) ++
      (if withUnset then [FieldKind.nonNull.same (.own unsetField)
        (.field (.var "other") unsetField)] else []) = clauses at hclauses ⊢
    cases clauses with
    | nil => simp [hliteral]
    | cons c cs =>
      have hall : (conjunction c cs).Uses ok := uses_conjunction (hclauses c (by simp))
        fun d hd ↦ hclauses d (List.mem_cons_of_mem c hd)
      simp [hall]
  · rw [if_neg hobjects, Stmt.usesAll_append, Stmt.usesAll_iff]
    refine ⟨fun st hst ↦ ?_, ?_⟩
    · obtain ⟨s, hs, rfl⟩ := List.mem_map.mp hst
      obtain ⟨hhere, hthere⟩ := StoredField.Uses.here_there hf (h s hs)
      have hdiffers := uses_differs hf s.kind hhere hthere
      simp [hdiffers, hliteral]
    · cases withUnset
      · simp [hliteral]
      · simp +decide [hunset rfl, hf.name, hf.method]

include hf hunset in
theorem uses_equalsMethod {type : GenericClass} {fields : List StoredField}
    (ht : ok.type type.name) (h : ∀ s ∈ fields, s.Uses ok) :
    (equalsMethod f type fields withUnset).Uses ok := by
  have hbody := uses_equalsBody hf hunset h
  have hwildcard := uses_wildcardType ht
  have hliteral : ok.literal "false" := hf.literal (by decide)
  simp +decide [equalsMethod, hbody, hwildcard, ht, hliteral, hf.name, hf.method, hf.type]

include hf hunset in
theorem uses_hashCodeMethod {fields : List StoredField} (h : ∀ s ∈ fields, s.Uses ok) :
    (hashCodeMethod f fields withUnset).Uses ok := by
  have hnames : Expr.UsesAll ok (fields.map (fun s ↦ Expr.own s.field) ++
      if withUnset then [.own unsetField] else []) := by
    rw [Expr.usesAll_iff, List.forall_mem_append]
    refine ⟨fun e he ↦ ?_, ?_⟩
    · obtain ⟨s, hs, rfl⟩ := List.mem_map.mp he
      exact (h s hs).field
    · cases withUnset
      · simp
      · simp [hunset rfl]
  simp only [hashCodeMethod]
  generalize fields.map (fun s ↦ Expr.own s.field) ++
    (if withUnset then [.own unsetField] else []) = names at hnames ⊢
  split
  · next hobjects => simp +decide [hnames, hf.objects hobjects, hf.method]
  · simp +decide [hnames, hf.type, hf.method]

include hf in
theorem uses_concatText {opening : String} (hopening : ok.string opening)
    {fields : List StoredField} (h : ∀ s ∈ fields, s.Uses ok) :
    (concatText opening fields).Uses ok := by
  have hclosing : ok.string "\x7d" := hf.string (by decide)
  have hcomma : ok.string ", " := hf.string (by decide)
  have hequals : ok.string "=" := hf.string (by decide)
  cases fields with
  | nil => exact hf.append hopening hclosing
  | cons s ss =>
    refine ⟨?_, hclosing⟩
    have hstart : (plus (.string (opening ++ s.label ++ "=")) (.own s.field)).Uses ok :=
      ⟨hf.append (hf.append hopening (h s (by simp)).label) hequals, (h s (by simp)).field⟩
    have hss : ∀ t ∈ ss, t.Uses ok := fun t ht ↦ h t (List.mem_cons_of_mem s ht)
    clear h
    generalize plus (.string (opening ++ s.label ++ "=")) (.own s.field) = acc at hstart ⊢
    -- On the fields still to be appended to the text so far.
    induction ss generalizing acc with
    | nil => exact hstart
    | cons t ts ih =>
      have ht := hss t (by simp)
      have hlabel : ok.string (", " ++ t.label ++ "=") :=
        hf.append (hf.append hcomma ht.label) hequals
      exact ih (fun u hu ↦ hss u (List.mem_cons_of_mem t hu)) _ ⟨⟨hstart, hlabel⟩, ht.field⟩

include hf in
theorem uses_joinedText {opening : String} (hopening : ok.string opening)
    (hjoiner : ok.name joinerField) {fields : List StoredField} (h : ∀ s ∈ fields, s.Uses ok) :
    (joinedText opening fields).Uses ok := by
  have hentries : Expr.UsesAll ok (fields.map joinerEntry) := by
    rw [Expr.usesAll_iff]
    intro e he
    obtain ⟨s, hs, rfl⟩ := List.mem_map.mp he
    have hfield := (h s hs).field
    have hlabel : ok.string (s.label ++ "=") := hf.append (h s hs).label (hf.string (by decide))
    simp only [joinerEntry]
    split <;> simp [plus, hfield, hlabel]
  simp +decide [joinedText, plusNext, hjoiner, hentries, hopening, hf.method, hf.string]

include hf in
theorem uses_appendField {condition : StoredField → Option Expr} {s : StoredField} (h : s.Uses ok)
    (hcondition : ∀ c ∈ condition s, c.Uses ok) : Stmt.UsesAll ok (appendField condition s) := by
  have hfield := h.field
  have hlabel : ok.string (s.label ++ "=") := hf.append h.label (hf.string (by decide))
  unfold appendField
  cases hc : condition s with
  | none => simp +decide [hfield, hlabel, hf.name, hf.method, hf.string]
  | some test =>
    simp +decide [hcondition test hc, hfield, hlabel, hf.name, hf.method, hf.string]

include hf in
theorem uses_stepwiseText {opening : String} (hopening : ok.string opening)
    {condition : StoredField → Option Expr} {fields : List StoredField}
    (h : ∀ s ∈ fields, s.Uses ok)
    (hcondition : ∀ s ∈ fields, ∀ c ∈ condition s, c.Uses ok) :
    Stmt.UsesAll ok (stepwiseText opening condition fields) := by
  have hfields : Stmt.UsesAll ok (fields.flatMap (appendField condition)) :=
    Stmt.usesAll_flatMap fun s hs ↦ uses_appendField hf (h s hs) (hcondition s hs)
  simp +decide [stepwiseText, Stmt.usesAll_append, hfields, hopening, hf.name, hf.method, hf.type,
    hf.string]

theorem uses_presentCheck {s : StoredField} (h : s.Uses ok) : ∀ c ∈ presentCheck s, c.Uses ok := by
  intro c hc
  unfold presentCheck at hc
  split at hc
  · obtain rfl := Option.some.inj hc
    simp [h.field]
  · cases hc

include hf in
theorem uses_isUnset (hunset : ok.name unsetField) {c : Expr} (h : c.Uses ok) :
    (isUnset c).Uses ok := by
  simp +decide [isUnset, h, hunset, hf.method]

include hf in
theorem uses_partialCheck {s : StoredField} (h : s.Uses ok) : ∀ c ∈ partialCheck s, c.Uses ok := by
  intro c hc
  unfold partialCheck at hc
  split at hc
  · next k hk =>
    obtain rfl := Option.some.inj hc
    obtain ⟨hunset, hconstant⟩ := h.constant k hk
    exact uses_isUnset hf hunset hconstant
  · exact uses_presentCheck h c hc

include hf in
theorem uses_toStringMethod {body : List Stmt} (h : Stmt.UsesAll ok body) :
    (toStringMethod body).Uses ok := by
  simp +decide [toStringMethod, h, hf.type, hf.method]

variable {source : ClassName} (hsource : ok.string source.simpleName)

include hf hsource in
theorem uses_valueToString {fields : List StoredField}
    (hjoiner : needsJoiner f fields = true → ok.name joinerField) (h : ∀ s ∈ fields, s.Uses ok) :
    (valueToString f source fields).Uses ok := by
  have hopening : ok.string (source.simpleName ++ "\x7b") :=
    hf.append hsource (hf.string (by decide))
  refine uses_toStringMethod hf ?_
  split
  · simp [uses_concatText hf hopening h]
  · split
    · next hneeded => simp [uses_joinedText hf hopening (hjoiner hneeded) h]
    · exact uses_stepwiseText hf hopening h fun s hs ↦ uses_presentCheck (h s hs)

include hf hsource in
theorem uses_partialToString {fields : List StoredField} (h : ∀ s ∈ fields, s.Uses ok) :
    (partialToString source fields).Uses ok := by
  have hopening : ok.string ("partial " ++ source.simpleName ++ "\x7b") :=
    hf.append (hf.append (hf.string (by decide)) hsource) (hf.string (by decide))
  have hclosing : ok.string "\x7d" := hf.string (by decide)
  refine uses_toStringMethod hf ?_
  split
  · simp [hf.append hopening hclosing]
  · exact uses_stepwiseText hf hopening h fun s hs ↦ uses_partialCheck hf (h s hs)

end

/-! ## Tracking -/

namespace Tracking

variable {t : Tracking} (hf : AllowsFixed ok f) (hunset : ok.name unsetField) (he : ok.type t.enum)

include hf he in
theorem uses_setType : t.setType.Uses ok := by
  simp +decide [setType, he, hf.type]

include hf he in
theorem uses_allConstants : t.allConstants.Uses ok := by
  simp +decide [allConstants, he, hf.type, hf.method]

include hf in
theorem uses_of_mem_groups_enumDecl (hmethod : ok.method t.enum.simpleName) :
    ∀ g ∈ t.enumDecl.groups, ∀ m ∈ g, m.Uses ok := by
  simp +decide [enumDecl, Member.Uses, hmethod, hf.type, hf.name, hf.method]

include hf in
theorem uses_enumDecl (hname : ok.name t.enum.simpleName) (hmethod : ok.method t.enum.simpleName)
    (hconstants : ∀ k ∈ t.tracked, ok.name k.constant ∧ ok.string k.property) :
    t.enumDecl.Uses ok where
  name := hname
  constants c hc := by
    obtain ⟨k, hk, rfl⟩ := List.mem_map.mp hc
    simp [hconstants k hk]
  groups := uses_of_mem_groups_enumDecl hf hmethod

include hf hunset he in
theorem uses_fields : t.builderField.Uses ok ∧ t.partialField.Uses ok := by
  refine ⟨⟨by simp [builderField], uses_setType hf he, hunset, ?_⟩, ?_⟩
  · simp [builderField, uses_allConstants hf he]
  · simp [partialField, uses_setType hf he, hunset]

include hf hunset he in
theorem uses_restore {template : Option String} (h : ∀ x ∈ template, ok.name x) :
    Stmt.UsesAll ok (t.restore template) := by
  have hall := uses_allConstants hf he
  cases template with
  | none => simp +decide [restore, hunset, hall, hf.method]
  | some x => simp +decide [restore, hunset, h x rfl, hf.method]

include hf hunset in
theorem uses_partialAssignment {x : String} (hx : ok.name x) :
    (partialAssignment x).Uses ok := by
  simp +decide [partialAssignment, hunset, hx, hf.method]

include hf hunset in
theorem uses_buildCheck : Stmt.UsesAll ok (buildCheck f) := by
  unfold buildCheck
  split
  · next hguava => simp +decide [hunset, hf.guava hguava, hf.method, hf.string]
  · simp +decide [hunset, hf.type, hf.method, hf.string]

end Tracking

end JavaBuilder.Builder
