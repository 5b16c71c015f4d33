import JavaBuilder.Builder.Selection
import JavaBuilder.Proofs.Builder.StoredValues

/-!
# Merging by the setter

A required, nullable or optional property is merged by calling its setter, under a condition. The
condition asks whether the property is there on the source and differs from the default builder, and
it must ask in the right order: the builder's getter of a required property throws while the
property is unset, on the source as on the default builder.

`Strategy.copies` says when the setter is called, in terms of what the builders hold. Running the
statements calls it then, once and with the value of the source, and else changes nothing. Either
way they come to their end, so no getter has thrown.
-/

namespace JavaBuilder.Builder

open Java Model Expr.Yields

variable {ρ : Type}

/-! ## What builders hold -/

/-- What a builder holds as far as one property is concerned. -/
structure Held (ρ : Type) where
  /-- The constants of the properties that are unset on it. -/
  unset : Finset EnumConstant
  /-- What the getter of the property answers, if it answers. -/
  value : Datum ρ

/-- The tracking constant of a property, as Java has it. -/
def Context.enumConstant? (ctx : Context) (property : String) : Option EnumConstant :=
  ctx.tracking.bind fun t ↦
    (t.tracked.find? (·.property == property)).map fun p ↦ ⟨t.enum, p.constant⟩

theorem Context.constant?_eq_map (ctx : Context) (property : String) :
    ctx.constant? property = (ctx.enumConstant? property).map fun c ↦ .static c.enum c.name := by
  rw [constant?, enumConstant?]
  cases ctx.tracking with
  | none => rfl
  | some t =>
    rw [Option.bind_some, Option.bind_some, Tracking.constant?, Option.map_map]
    rfl

namespace Strategy

/-- The constant by which the property of a strategy is tracked, if it is. -/
def constant? (ctx : Context) : Strategy → Option EnumConstant
  | required r => ctx.enumConstant? r.property.name
  | _ => none

/-- The property is unset on the builder. -/
def isUnset (s : Strategy) (ctx : Context) (h : Held ρ) : Bool :=
  (s.constant? ctx).any fun c ↦ decide (c ∈ h.unset)

/-- The property can have the value. An optional value can be asked whether it is present. -/
def Admits (w : World ρ) : Strategy → Datum ρ → Prop
  | required r, v => r.kind.Holds v
  | nullable _, v => FieldKind.nullable.Holds v
  | optional _, v => ∃ o t, v = .object o ∧ w.call o "isPresent" [] = .ok (.boolean t)
  | _, _ => True

/-- The value says that there is none: null, or absent. A required property always has a value. -/
def isAbsent (w : World ρ) : Strategy → Datum ρ → Bool
  | nullable _, v => v.isNull
  | optional _, .object o =>
    match w.call o "isPresent" [] with
    | .ok (.boolean present) => !present
    | _ => false
  | _, _ => false

/-- The setter is called for what the source holds: the property is set on it, and it either differs
from what is set on the default builder, or is there at all if there is no default builder. Nothing
is compared for a required property that is not tracked. -/
def copies (w : World ρ) (ctx : Context) (s : Strategy) (source : Held ρ) :
    Option (Held ρ) → Bool
  | some d =>
    !s.isUnset ctx source &&
      (s.isUnset ctx d || (s.category = .required && (s.constant? ctx).isNone) ||
        !w.same source.value d.value)
  | none => !s.isUnset ctx source && !s.isAbsent w source.value

/-- The variable holds a builder that holds this. Its getter throws while the property is unset. -/
def BuilderAt (w : World ρ) (st : State ρ) (ctx : Context) (s : Strategy) (x : String)
    (h : Held ρ) : Prop :=
  ∃ b, st.locals.lookup x = some (.object b) ∧
    ((s.constant? ctx).isSome = true → w.field b unsetField = some (.constants h.unset)) ∧
    w.call b s.property.builderGetter [] =
      (if s.isUnset ctx h then .error .illegalState else .ok h.value) ∧
    (s.isUnset ctx h = false → s.Admits w h.value)

/-- The variable holds a value whose accessor answers this. -/
def ValueAt (w : World ρ) (st : State ρ) (s : Strategy) (x : String) (v : Datum ρ) : Prop :=
  ∃ o, st.locals.lookup x = some (.object o) ∧ w.call o s.property.getter [] = .ok v ∧
    s.Admits w v

end Strategy

variable [DecidableEq ρ] {w : World ρ} {self : ρ} {st : State ρ} {ctx : Context} {x : String}
  {p : Property} {v : Datum ρ}

/-! ## Reading and setting -/

theorem yields_local {o : ρ} (h : st.locals.lookup x = some (.object o)) :
    (Expr.var x).Yields w self st (.object o) :=
  var (by simp [World.resolve, h])

/-- The getter of a builder answers where the property is not unset. -/
theorem Strategy.BuilderAt.yields_readBuilder {s : Strategy} {h : Held ρ}
    (hb : s.BuilderAt w st ctx x h) (hset : s.isUnset ctx h = false) :
    (readBuilder s.property x).Yields w self st h.value := by
  obtain ⟨b, hx, -, hget, -⟩ := hb
  rw [hset] at hget
  exact getter (yields_local hx) hget

/-- Whether the property is unset is answered in any case. -/
theorem Strategy.BuilderAt.yields_unsetOn {s : Strategy} {h : Held ρ} {c : EnumConstant}
    (hb : s.BuilderAt w st ctx x h) (hc : s.constant? ctx = some c) :
    (Required.unsetOn x (.static c.enum c.name)).Yields w self st
      (.boolean (s.isUnset ctx h)) := by
  obtain ⟨b, hx, hunset, -, -⟩ := hb
  have hfield := hunset (by rw [hc]; rfl)
  rw [Strategy.isUnset, hc, Option.any_some]
  exact contains (field (yields_local hx) hfield) rfl

theorem runAll_callSetter {value : Expr} (hvalue : value.Yields w self st v) :
    Stmt.runAll w self [callSetter p value] st = .ok (none, st.record p.setter [v]) := by
  have hcall : (Expr.ownCall p.setter [value]).eval w self st =
      .ok (w.answer p.setter [v], st.record p.setter [v]) := by
    rw [Expr.eval, all (.cons hvalue .nil)]
    rfl
  exact Stmt.runAll_cons (Stmt.run_eval hcall)

/-- The value that is set is read only if the condition holds. -/
theorem runAll_guardedSetter {test value : Expr} {t : Bool}
    (htest : test.Yields w self st (.boolean t))
    (hvalue : t = true → value.Yields w self st v) :
    Stmt.runAll w self [.ifThen test [callSetter p value]] st =
      .ok (none, if t then st.record p.setter [v] else st) := by
  cases t with
  | false => exact Stmt.runAll_cons (Stmt.run_ifThen_false htest)
  | true =>
    rw [Stmt.runAll_cons (Stmt.run_ifThen_true htest (runAll_callSetter (hvalue rfl)))]
    -- the call declares no variables, so there are none to leave
    have hleave : st.leave (st.record p.setter [v]) = st.record p.setter [v] := by
      simp [State.leave, State.record]
    rw [hleave]
    rfl

/-! ## The getter that throws -/

theorem yields_isUnset {b : ρ} {m : Finset EnumConstant} (hm : w.field b unsetField = some (.constants m))
    (c : EnumConstant) : (isUnset (.static c.enum c.name)).Yields w b (.start [])
      (.boolean (decide (c ∈ m))) :=
  contains (own (by simp [World.resolve, State.start, hm])) rfl

/-- Requiring a property to be set throws if it is unset, with Guava and without it. -/
theorem run_requireSet {b : ρ} {m : Finset EnumConstant}
    (hm : w.field b unsetField = some (.constants m)) (f : Features) (name : String)
    (c : EnumConstant) :
    (requireSet f name (.static c.enum c.name)).run w b (.start []) =
      if c ∈ m then .error .illegalState else .ok (none, .start []) := by
  have hunset := yields_isUnset hm c
  rw [requireSet]
  by_cases hg : f.guava = true
  · have hargs := all (.cons (not hunset) (.cons (string (name ++ " not set")) .nil))
    rw [if_pos hg, Stmt.run, Expr.eval]
    simp only [notSet, hargs]
    by_cases hc : c ∈ m
    · rw [if_pos hc, decide_eq_true hc]
      rfl
    · rw [if_neg hc, decide_eq_false hc]
      rfl
  · rw [if_neg hg, Stmt.run, hunset]
    by_cases hc : c ∈ m
    · rw [if_pos hc, decide_eq_true hc]
      rfl
    · rw [if_neg hc, decide_eq_false hc]
      rfl

/-- The getter that is generated for a required property throws while the property is unset, and
else returns what the field holds. -/
theorem Required.exists_getter_returns (r : Required) (ctx : Context) {b : ρ}
    {m : Finset EnumConstant} (hm : w.field b unsetField = some (.constants m))
    (hv : w.field b r.property.name = some v) :
    ∃ g ∈ r.accessors ctx, g.name = r.property.builderGetter ∧ g.params = [] ∧
      g.returns w b [] =
        if (Strategy.required r).isUnset ctx ⟨m, v⟩ then .error .illegalState else .ok v := by
  have hown : (Expr.own r.property.name).Yields w b (.start []) v :=
    own (by simp [World.resolve, State.start, hv])
  have hbody : Stmt.runAll w b
      ((ctx.constant? r.property.name).toList.map (requireSet ctx.features r.property.name) ++
        [.ret (.own r.property.name)]) (.start []) =
      if (Strategy.required r).isUnset ctx ⟨m, v⟩ then .error .illegalState
      else .ok (some v, .start []) := by
    rw [Context.constant?_eq_map, Strategy.isUnset, Strategy.constant?]
    -- The guard stands in front only of a tracked property.
    cases ctx.enumConstant? r.property.name with
    | none => exact Stmt.runAll_ret hown
    | some c =>
      rw [Option.map_some, Option.toList_some, List.map_singleton, List.singleton_append,
        Stmt.runAll, run_requireSet hm]
      by_cases hc : c ∈ m
      · simp only [hc, if_true, Option.any_some, decide_true]
        rfl
      · simp only [hc, if_false, Option.any_some, decide_false, Bool.false_eq_true]
        exact Stmt.runAll_ret hown
  refine ⟨_, List.mem_append_right _ (List.mem_singleton_self _), rfl, rfl, ?_⟩
  rw [Method.returns]
  simp only [Method.documented, List.map_nil, List.zip_nil_left, hbody]
  split <;> rfl

/-! ## Required properties -/

section

variable {r : Required} {h d : Held ρ} {y : String} {c : EnumConstant} {value : Expr}

/-- The property is unset on the default builder, or has another value there. The getter of the
default builder is not called in the first case. -/
theorem yields_unsetOrDiffers {g : Wrap} (hw : w.IsReflexive)
    (hd : (Strategy.required r).BuilderAt w st ctx y d)
    (hc : (Strategy.required r).constant? ctx = some c) (hvalue : value.Yields w self st v)
    (hv : r.kind.Holds v) :
    (Expr.binary .or g (Required.unsetOn y (.static c.enum c.name))
      (r.differsFrom ctx y value)).Yields w self st
        (.boolean ((Strategy.required r).isUnset ctx d || !w.same v d.value)) := by
  refine or (hd.yields_unsetOn hc) fun hset ↦ ?_
  obtain ⟨-, -, -, -, hadmits⟩ := id hd
  exact FieldKind.yields_differs ctx.features hw hvalue (hd.yields_readBuilder hset) hv
    (hadmits hset)

omit [DecidableEq ρ] in
theorem isUnset_of_constant?_eq_none {s : Strategy} (hc : s.constant? ctx = none) :
    s.isUnset ctx h = false := by
  rw [Strategy.isUnset, hc]
  rfl

omit [DecidableEq ρ] in
theorem copies_of_constant?_eq_none {defaults : Option (Held ρ)}
    (hc : (Strategy.required r).constant? ctx = none) :
    (Strategy.required r).copies w ctx h defaults = true := by
  cases defaults <;>
    simp [Strategy.copies, isUnset_of_constant?_eq_none hc, hc, Strategy.category,
      Strategy.isAbsent]

omit [DecidableEq ρ] in
theorem copies_of_constant?_eq_some (hc : (Strategy.required r).constant? ctx = some c) :
    (Strategy.required r).copies w ctx h (some d) =
      (!(Strategy.required r).isUnset ctx h &&
        ((Strategy.required r).isUnset ctx d || !w.same h.value d.value)) := by
  simp [Strategy.copies, hc]

omit [DecidableEq ρ] in
theorem copies_none : (Strategy.required r).copies w ctx h none =
    !(Strategy.required r).isUnset ctx h := by
  simp [Strategy.copies, Strategy.isAbsent]

/-- Merging from a builder asks it first whether the property is set. -/
theorem Required.runAll_mergeFromBuilder (hw : w.IsReflexive)
    {defaults : Option (String × Held ρ)}
    (hd : ∀ q ∈ defaults, (Strategy.required r).BuilderAt w st ctx q.1 q.2)
    (hx : (Strategy.required r).BuilderAt w st ctx x h)
    (hbase : ((Strategy.required r).constant? ctx).isSome = true →
      st.locals.lookup baseVar = st.locals.lookup x) :
    Stmt.runAll w self (r.mergeFromBuilder ctx x (defaults.map (·.1))) st =
      .ok (none, if (Strategy.required r).copies w ctx h (defaults.map (·.2))
        then st.record r.property.setter [h.value] else st) := by
  rw [Required.mergeFromBuilder, Context.constant?_eq_map]
  cases hc : ctx.enumConstant? r.property.name with
  | none =>
    rw [copies_of_constant?_eq_none hc]
    exact runAll_callSetter (hx.yields_readBuilder (isUnset_of_constant?_eq_none hc))
  | some c =>
    obtain ⟨b, hlookup, hunset, hget, hadmits⟩ := id hx
    -- The upcast variable holds the builder that is merged, so asking it is asking that builder.
    have hbuilder : (Strategy.required r).BuilderAt w st ctx baseVar h :=
      ⟨b, (hbase (congrArg Option.isSome hc)).trans hlookup, hunset, hget, hadmits⟩
    have hset : (Expr.not (Required.unsetOn baseVar (.static c.enum c.name))).Yields w self st
        (.boolean !(Strategy.required r).isUnset ctx h) := not (hbuilder.yields_unsetOn hc)
    cases defaults with
    | none =>
      simp only [Option.map_none, copies_none]
      exact runAll_guardedSetter hset fun ht ↦
        hx.yields_readBuilder ((Bool.not_eq_true' _).mp ht)
    | some q =>
      simp only [Option.map_some, copies_of_constant?_eq_some hc]
      refine runAll_guardedSetter ?_ fun ht ↦ hx.yields_readBuilder ?_
      · refine and hset fun hs ↦ paren ?_
        rw [Bool.not_eq_true'] at hs
        exact yields_unsetOrDiffers hw (hd q rfl) hc (hx.yields_readBuilder hs) (hadmits hs)
      · rw [Bool.and_eq_true, Bool.not_eq_true'] at ht
        exact ht.1

/-- Merging from a value compares it with the default builder only where that is set. -/
theorem Required.runAll_mergeFromValue (hw : w.IsReflexive)
    {defaults : Option (String × Held ρ)}
    (hd : ∀ q ∈ defaults, (Strategy.required r).BuilderAt w st ctx q.1 q.2)
    (hx : (Strategy.required r).ValueAt w st x v) :
    Stmt.runAll w self (r.mergeFromValue ctx x (defaults.map (·.1))) st =
      .ok (none, if (Strategy.required r).copies w ctx ⟨∅, v⟩ (defaults.map (·.2))
        then st.record r.property.setter [v] else st) := by
  obtain ⟨o, hlookup, hget, hadmits⟩ := hx
  have hvalue : (readValue r.property x).Yields w self st v := getter (yields_local hlookup) hget
  rw [Required.mergeFromValue.eq_def, Context.constant?_eq_map]
  cases hc : ctx.enumConstant? r.property.name with
  | none =>
    rw [copies_of_constant?_eq_none hc]
    cases defaults <;> exact runAll_callSetter hvalue
  | some c =>
    have hset : (Strategy.required r).isUnset ctx (⟨∅, v⟩ : Held ρ) = false := by
      rw [Strategy.isUnset]
      cases (Strategy.required r).constant? ctx <;> simp
    cases defaults with
    | none =>
      simp only [Option.map_none, copies_none, hset]
      exact runAll_callSetter hvalue
    | some q =>
      simp only [Option.map_some, copies_of_constant?_eq_some hc, hset, Bool.not_false,
        Bool.true_and]
      exact runAll_guardedSetter (yields_unsetOrDiffers hw (hd q rfl) hc hvalue hadmits)
        fun _ ↦ hvalue

end

/-! ## Nullable and optional properties -/

section

variable {value : Expr} {h : Held ρ}

/-- A nullable property is copied if it differs from the default builder's, or is not null. -/
theorem Nullable.runAll_merge {n : Nullable} (hw : w.IsReflexive)
    {defaults : Option (String × Held ρ)}
    (hd : ∀ q ∈ defaults, (Strategy.nullable n).BuilderAt w st ctx q.1 q.2)
    (hvalue : value.Yields w self st h.value)
    (hadmits : (Strategy.nullable n).Admits w h.value) :
    Stmt.runAll w self (n.merge ctx value (defaults.map (·.1))) st =
      .ok (none, if (Strategy.nullable n).copies w ctx h (defaults.map (·.2))
        then st.record n.property.setter [h.value] else st) := by
  refine runAll_guardedSetter ?_ fun _ ↦ hvalue
  cases defaults with
  | none =>
    have hnull : h.value.identical .null = some h.value.isNull := by
      cases h.value <;> rfl
    exact ne hvalue null hnull
  | some q =>
    obtain ⟨-, -, -, -, hq⟩ := hd q rfl
    exact FieldKind.yields_differs ctx.features hw hvalue ((hd q rfl).yields_readBuilder rfl)
      hadmits (hq rfl)

/-- An optional property is copied if it differs from the default builder's, or is present. -/
theorem OptionalProperty.runAll_merge {o : OptionalProperty} (hw : w.IsReflexive)
    {defaults : Option (String × Held ρ)}
    (hd : ∀ q ∈ defaults, (Strategy.optional o).BuilderAt w st ctx q.1 q.2)
    (hvalue : value.Yields w self st h.value)
    (hadmits : (Strategy.optional o).Admits w h.value) :
    Stmt.runAll w self (o.merge ctx value (defaults.map (·.1))) st =
      .ok (none, if (Strategy.optional o).copies w ctx h (defaults.map (·.2))
        then st.record o.property.setter [h.value] else st) := by
  refine runAll_guardedSetter ?_ fun _ ↦ hvalue
  obtain ⟨a, present, ha, hpresent⟩ := hadmits
  cases defaults with
  | none =>
    have hcopies : (Strategy.optional o).copies w ctx h none = present := by
      rw [Strategy.copies, ha, Strategy.isAbsent, hpresent, Bool.not_not]
      rfl
    simp only [Option.map_none, hcopies]
    exact getter (ha ▸ hvalue) hpresent
  | some q =>
    obtain ⟨-, -, -, -, hq⟩ := hd q rfl
    obtain ⟨b, -, hb, -⟩ := hq rfl
    exact FieldKind.yields_differs ctx.features hw hvalue ((hd q rfl).yields_readBuilder rfl)
      ⟨a, ha⟩ ⟨b, hb⟩

end

/-! ## All of them -/

/-- Merging a required, nullable or optional property calls the setter once with the value of the
source if that is to be copied, and else changes nothing. No getter of a builder is called where it
throws, for then there would be no result. -/
theorem merge_calls_setter_iff_copies {s : Strategy} (hs : s.category ≠ .hasDefault)
    (hw : w.IsReflexive) {defaults : Option (String × Held ρ)}
    (hd : ∀ q ∈ defaults, s.BuilderAt w st ctx q.1 q.2) :
    (∀ (x : String) (h : Held ρ), s.BuilderAt w st ctx x h →
      ((s.constant? ctx).isSome = true → st.locals.lookup baseVar = st.locals.lookup x) →
        Stmt.runAll w self ((s.code ctx).mergeFromBuilder x (defaults.map (·.1))) st =
          .ok (none, if s.copies w ctx h (defaults.map (·.2))
            then st.record s.property.setter [h.value] else st)) ∧
    (∀ (x : String) (v : Datum ρ), s.ValueAt w st x v →
      Stmt.runAll w self ((s.code ctx).mergeFromValue x (defaults.map (·.1))) st =
        .ok (none, if s.copies w ctx ⟨∅, v⟩ (defaults.map (·.2))
          then st.record s.property.setter [v] else st)) := by
  cases s with
  | required r =>
    exact ⟨fun x h hx hbase ↦ Required.runAll_mergeFromBuilder hw hd hx hbase,
      fun x v hx ↦ Required.runAll_mergeFromValue hw hd hx⟩
  | nullable n =>
    refine ⟨fun x h hx _ ↦ ?_, fun x v hx ↦ ?_⟩
    · obtain ⟨-, -, -, -, hadmits⟩ := id hx
      exact Nullable.runAll_merge hw hd (hx.yields_readBuilder rfl) (hadmits rfl)
    · obtain ⟨o, hlookup, hget, hadmits⟩ := hx
      exact Nullable.runAll_merge (h := ⟨∅, v⟩) hw hd (getter (yields_local hlookup) hget) hadmits
  | optional o =>
    refine ⟨fun x h hx _ ↦ ?_, fun x v hx ↦ ?_⟩
    · obtain ⟨-, -, -, -, hadmits⟩ := id hx
      exact OptionalProperty.runAll_merge hw hd (hx.yields_readBuilder rfl) (hadmits rfl)
    · obtain ⟨b, hlookup, hget, hadmits⟩ := hx
      exact OptionalProperty.runAll_merge (h := ⟨∅, v⟩) hw hd (getter (yields_local hlookup) hget)
        hadmits
  | _ => exact absurd rfl hs

/-- A builder with a name to merge from, and a default builder without one. -/
def nameAndDefaults (enum : ClassName) : World Nat :=
  { World.ofFields fun o field ↦
      match o, field with
      | 0, "_unsetProperties" => some (.constants ∅)
      | 1, "_unsetProperties" => some (.constants {⟨enum, "NAME"⟩})
      | _, _ => none with
    call := fun o method _ ↦
      if o = 0 ∧ method = "getName" then .ok (.object 2) else .error .illegalState }

/-- A name that the source has and the default builder lacks is set, though the getter of the default
builder would throw. -/
theorem merge_calls_setter_name :
    let enum := (ClassName.top ["com", "example"] "Person_Builder").nested "Property"
    let p : Property :=
      ⟨"name", "Name", "NAME", "getName", .declared (javaLang "String") [], none, true, true⟩
    let ctx : Context := ⟨.standard ⟨.top ["com", "example"] "Person", []⟩, .standard,
      some ⟨enum, [⟨"name", "NAME"⟩]⟩⟩
    let st : State Nat :=
      .start [("_defaults", .object 1), ("base", .object 0), ("template", .object 0)]
    let w := nameAndDefaults enum
    w.call 1 "getName" [] = .error .illegalState ∧
      Stmt.runAll w 3 ((Strategy.code ctx (.required ⟨p⟩)).mergeFromBuilder "template"
        (some "_defaults")) st = .ok (none, st.record "setName" [.object 2]) := by
  intro enum p ctx st w
  have hw : w.IsReflexive := fun o ↦ by simp [w, nameAndDefaults, World.ofFields]
  have hsource : (Strategy.required ⟨p⟩).BuilderAt w st ctx "template" ⟨∅, .object 2⟩ :=
    ⟨0, rfl, fun _ ↦ rfl, rfl, fun _ ↦ ⟨2, rfl⟩⟩
  have hdefaults : (Strategy.required ⟨p⟩).BuilderAt w st ctx "_defaults"
      ⟨{⟨enum, "NAME"⟩}, .null⟩ := ⟨1, rfl, fun _ ↦ rfl, rfl, fun h ↦ nomatch h⟩
  have hall : ∀ q ∈ some ("_defaults", (⟨{⟨enum, "NAME"⟩}, .null⟩ : Held Nat)),
      (Strategy.required ⟨p⟩).BuilderAt w st ctx q.1 q.2 := by
    rintro q ⟨⟩
    exact hdefaults
  exact ⟨rfl, (merge_calls_setter_iff_copies (by decide) hw hall).1 "template" _ hsource
    fun _ ↦ rfl⟩

end JavaBuilder.Builder
