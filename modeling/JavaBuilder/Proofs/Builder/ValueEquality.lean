import JavaBuilder.Proofs.Builder.StoredValues

/-!
# Equality and hash codes of values

`equals` and `hashCode` are written in two ways each, with `java.util.Objects` and without it. Both
ways of `equals` give the same answer on any two instances of the class, namely whether the stored
values are the same one by one, and neither dereferences a null on the way.

`hashCode` hashes the values that `equals` compares, each once and in the same order, with one
exception. `Objects.hash` takes any number of arguments, and Java passes a lone argument that is an
array as the array of all arguments. So a class that stores nothing but an array of references hashes
the elements of the array, while `equals` compares the array itself, and so does `hashCode` without
`java.util.Objects`.
-/

namespace JavaBuilder.Builder

open Java Expr.Yields

variable {ρ : Type}

/-- The names of all that is stored, in order. -/
def storedNames (fields : List StoredField) (withUnset : Bool) : List String :=
  fields.map (·.field) ++ if withUnset then [unsetField] else []

/-- All that an object stores, in order. -/
def storedValues (w : World ρ) (fields : List StoredField) (withUnset : Bool) (o : ρ) :
    List (Datum ρ) :=
  (storedNames fields withUnset).map (stored w o)

/-- All that two objects store is the same, one by one. -/
def storesSame (w : World ρ) (fields : List StoredField) (withUnset : Bool) (a b : ρ) : Bool :=
  (storedNames fields withUnset).all fun n ↦ w.same (stored w a n) (stored w b n)

theorem storesSame_iff (w : World ρ) (fields : List StoredField) (withUnset : Bool) (a b : ρ) :
    storesSame w fields withUnset a b = true ↔
      List.Forall₂ (fun u v ↦ w.same u v = true) (storedValues w fields withUnset a)
        (storedValues w fields withUnset b) := by
  rw [storesSame, storedValues, storedValues, List.forall₂_map_left_iff,
    List.forall₂_map_right_iff, List.forall₂_same, List.all_eq_true]

/-- Values that are the same one by one have the same hash, if each two of them have. -/
theorem hashAll_eq_of_forall₂ {w : World ρ} {us vs : List (Datum ρ)}
    (hw : ∀ u v, w.same u v = true → w.hashOf u = w.hashOf v)
    (h : List.Forall₂ (fun u v ↦ w.same u v = true) us vs) : w.hashAll us = w.hashAll vs := by
  have hmap : us.map w.hashOf = vs.map w.hashOf := by
    induction h with
    | nil => rfl
    | cons huv _ ih => rw [List.map_cons, List.map_cons, hw _ _ huv, ih]
  have hfold (xs : List (Datum ρ)) :
      w.hashAll xs = (xs.map w.hashOf).foldl (fun h x ↦ 31 * h + x) 1 := by
    rw [World.hashAll, List.foldl_map]
  rw [hfold, hfold, hmap]

variable [DecidableEq ρ] {w : World ρ} {fields : List StoredField} {withUnset : Bool} {a b : ρ}

/-! ## The two ways of `equals` -/

def equalsState (b : ρ) : State ρ := .start [("other", .object b), ("obj", .object b)]

omit [DecidableEq ρ] in
theorem lookup_equalsState (b : ρ) {x : String} (hx : x ∉ equalsLocals) :
    (equalsState b).locals.lookup x = none := by
  simp only [equalsLocals, List.mem_cons, List.not_mem_nil, or_false, not_or] at hx
  simp [equalsState, State.start, List.lookup_cons, beq_false_of_ne hx.1, beq_false_of_ne hx.2]

theorem yields_here {s : StoredField} {v : Datum ρ} (h : w.field a s.field = some v) :
    s.here.Yields w a (equalsState b) v :=
  ownField (fun _ ↦ lookup_equalsState b) h

theorem yields_other : (Expr.var "other").Yields w a (equalsState b) (.object b) := rfl

theorem yields_there {s : StoredField} {v : Datum ρ} (h : w.field b s.field = some v) :
    s.there.Yields w a (equalsState b) v :=
  field yields_other h

theorem yields_ownUnset {v : Datum ρ} (h : w.field a unsetField = some v) :
    (Expr.own unsetField).Yields w a (equalsState b) v :=
  own (by simp [World.resolve, lookup_equalsState b (x := unsetField) (by decide), h])

theorem yields_conjunction {self : ρ} {st : State ρ} {e : Expr} {t : Bool} {es : List Expr}
    {ts : List Bool} (he : e.Yields w self st (.boolean t))
    (h : List.Forall₂ (fun e t ↦ e.Yields w self st (.boolean t)) es ts) :
    (conjunction e es).Yields w self st (.boolean (t && ts.all id)) := by
  induction h generalizing e t with
  | nil => simpa [conjunction] using he
  | @cons c u es ts hc _ ih =>
    have hec : (Expr.binary .and (.next 4) e c).Yields w self st (.boolean (t && u)) :=
      and he fun _ ↦ hc
    rw [List.all_cons, id, ← Bool.and_assoc]
    exact ih hec

/-- Returning false at the first difference, or else what is returned at the end. -/
theorem runAll_earlyReturns {self : ρ} {st : State ρ} {test : StoredField → Expr}
    {same : StoredField → Bool} {last : Expr} {t : Bool}
    (h : ∀ s ∈ fields, (test s).Yields w self st (.boolean !same s))
    (hlast : last.Yields w self st (.boolean t)) :
    Stmt.runAll w self
        (fields.map (fun s ↦ .ifThen (test s) [.ret (.literal "false")]) ++ [.ret last]) st =
      .ok (some (.boolean (fields.all same && t)), st) := by
  induction fields with
  | nil => exact Stmt.runAll_ret hlast
  | cons s ss ih =>
    have hs := h s List.mem_cons_self
    rw [List.map_cons, List.cons_append, List.all_cons]
    cases hsame : same s with
    | false =>
      -- the difference is found here, and the rest is not run
      rw [hsame] at hs
      have hbody : Stmt.runAll w self [.ret (.literal "false")] st
          = .ok (some (.boolean false), st) := Stmt.runAll_ret rfl
      have hif := Stmt.run_ifThen_true hs hbody
      rw [Stmt.leave_self] at hif
      exact Stmt.runAll_cons_returns hif
    | true =>
      rw [hsame] at hs
      rw [Stmt.runAll_cons (Stmt.run_ifThen_false hs), ih fun s' hs' ↦ h s' (List.mem_cons_of_mem _ hs'),
        Bool.true_and]

theorem all_storedNames (p : String → Bool) :
    (storedNames fields withUnset).all p =
      (fields.all (fun s ↦ p s.field) && (!withUnset || p unsetField)) := by
  cases withUnset <;> simp [storedNames, Function.comp_def]

/-- Both sets of unset properties, as `equals` reads them. -/
theorem yields_unset (ha : Stores w fields true a) (hb : Stores w fields true b) :
    ∃ l m, (Expr.own unsetField).Yields w a (equalsState b) (.constants l) ∧
      (Expr.field (.var "other") unsetField).Yields w a (equalsState b) (.constants m) ∧
      w.same (stored w a unsetField) (stored w b unsetField) = decide (l = m) := by
  obtain ⟨l, hl, hla⟩ := ha.storedUnset
  obtain ⟨m, hm, hmb⟩ := hb.storedUnset
  exact ⟨l, m, yields_ownUnset hl, field yields_other hm, by rw [hla, hmb, World.same]⟩

/-- The conditions of the conjunction, one for each name that is stored. -/
theorem yields_clauses (hw : w.IsReflexive) (ha : Stores w fields withUnset a)
    (hb : Stores w fields withUnset b) :
    List.Forall₂ (fun e t ↦ e.Yields w a (equalsState b) (.boolean t))
      (fields.map (fun s ↦ s.kind.same s.here s.there) ++
        if withUnset then [FieldKind.nonNull.same (.own unsetField) (.field (.var "other") unsetField)]
        else [])
      ((storedNames fields withUnset).map fun n ↦ w.same (stored w a n) (stored w b n)) := by
  rw [storedNames, List.map_append, List.map_map]
  refine List.rel_append ?_ ?_
  · rw [List.forall₂_map_left_iff, List.forall₂_map_right_iff, List.forall₂_same]
    intro s hs
    obtain ⟨hva, hka⟩ := ha.stored hs
    obtain ⟨hvb, hkb⟩ := hb.stored hs
    exact FieldKind.yields_same hw (yields_here hva) (yields_there hvb) hka hkb
  · cases withUnset with
    | false => exact .nil
    | true =>
      obtain ⟨l, m, hl, hm, hlm⟩ := yields_unset ha hb
      have hequal : (FieldKind.objectsEqual (.own unsetField)
          (.field (.var "other") unsetField)).Yields w a (equalsState b)
            (.boolean (decide (l = m))) := FieldKind.yields_objectsEqual hl hm rfl
      rw [← hlm] at hequal
      exact .cons hequal .nil

/-- After the cast, `equals` returns whether all that is stored is the same. -/
theorem runAll_equalsBody (f : Features) (hw : w.IsReflexive) (ha : Stores w fields withUnset a)
    (hb : Stores w fields withUnset b) :
    Stmt.runAll w a (equalsBody f fields withUnset) (equalsState b) =
      .ok (some (.boolean (storesSame w fields withUnset a b)), equalsState b) := by
  rw [equalsBody]
  by_cases hf : f.hasObjects = true
  · have hall : storesSame w fields withUnset a b = ((storedNames fields withUnset).map
        fun n ↦ w.same (stored w a n) (stored w b n)).all id := by
      rw [storesSame, List.all_map]
      rfl
    have h := yields_clauses hw ha hb
    rw [if_pos hf, hall]
    -- Only that the clauses yield these values matters from here on.
    revert h
    generalize fields.map (fun s ↦ s.kind.same s.here s.there) ++ _ = es
    generalize List.map _ (storedNames fields withUnset) = ts
    rintro (_ | ⟨he, hes⟩)
    · exact Stmt.runAll_ret rfl
    · exact Stmt.runAll_ret (yields_conjunction he hes)
  · rw [if_neg hf, storesSame, all_storedNames]
    refine runAll_earlyReturns ?_ ?_
    · intro s hs
      obtain ⟨hva, hka⟩ := ha.stored hs
      obtain ⟨hvb, hkb⟩ := hb.stored hs
      exact FieldKind.yields_differs f hw (yields_here hva) (yields_there hvb) hka hkb
    · cases withUnset with
      | false => exact rfl
      | true =>
        obtain ⟨l, m, hl, hm, hlm⟩ := yields_unset ha hb
        rw [hlm]
        refine call hl (.cons hm .nil) ?_
        simp [World.invoke, World.sendConstants, Except.map]

/-- `equals` returns whether all that is stored is the same, at every language level. -/
theorem equalsMethod_returns (f : Features) {type : GenericClass} (hw : w.IsReflexive)
    (ha : Stores w fields withUnset a) (hb : Stores w fields withUnset b)
    (hi : w.isInstance b type.name = true) :
    (equalsMethod f type fields withUnset).returns w a [.object b] =
      .ok (.boolean (storesSame w fields withUnset a b)) := by
  refine Method.returns_of_runAll (t := equalsState b) ?_
  have hobj : (Expr.var "obj").Yields w a (.start [("obj", .object b)]) (.object b) := rfl
  have htest : (Expr.not (.paren (.instanceOf (.var "obj") type.name))).Yields w a
      (.start [("obj", .object b)]) (.boolean !true) :=
    not (paren (hi ▸ instanceOf hobj))
  have hcast : (Expr.cast type.wildcardType (.var "obj")).Yields w a
      (.start [("obj", .object b)]) (.object b) := cast hobj rfl hi
  change Stmt.runAll w a (.ifThen _ _ :: .declare _ _ _ :: equalsBody f fields withUnset)
    (.start [("obj", .object b)]) = _
  rw [Stmt.runAll_cons (Stmt.run_ifThen_false htest), Stmt.runAll_cons (Stmt.run_declare hcast)]
  exact runAll_equalsBody f hw ha hb

/-! ## Hash codes -/

/-- The class stores a single value, and Java takes it for the array of all values to hash. -/
def HashesElements (w : World ρ) (f : Features) (fields : List StoredField) (withUnset : Bool) :
    Prop :=
  f.hasObjects = true ∧ ∃ name type, storedNames fields withUnset = [name] ∧
    w.declared name = some type ∧ type.isObjectArray = true

theorem yields_storedNames (ha : Stores w fields withUnset a) :
    List.Forall₂ ((Expr.Yields w a (.start [])))
      ((storedNames fields withUnset).map .own) (storedValues w fields withUnset a) := by
  rw [storedValues, List.forall₂_map_left_iff, List.forall₂_map_right_iff, List.forall₂_same]
  intro n hn
  have hfield : w.field a n = some (stored w a n) := by
    cases withUnset with
    | false =>
      rw [storedNames, if_neg Bool.false_ne_true, List.append_nil, List.mem_map] at hn
      obtain ⟨s, hs, rfl⟩ := hn
      exact (ha.stored hs).1
    | true =>
      rw [storedNames, if_pos rfl, List.mem_append, List.mem_map, List.mem_singleton] at hn
      obtain ⟨s, hs, rfl⟩ | rfl := hn
      · exact (ha.stored hs).1
      · obtain ⟨m, hm, hs⟩ := ha.storedUnset
        rw [hm, hs]
  exact own (by simp [World.resolve, State.start, hfield])

omit [DecidableEq ρ] in
theorem variableArguments_eq {es : List Expr} {vs : List (Datum ρ)}
    (h : ∀ e, es = [e] → (w.typeOf? e).any (·.isObjectArray) = false) :
    w.variableArguments es vs = .array vs := by
  rw [World.variableArguments.eq_def]
  split
  · next e v => rw [h e rfl]; rfl
  · rfl

omit [DecidableEq ρ] in
/-- A lone field is taken for the whole array of arguments only if it is declared as one. -/
theorem variableArguments_storedNames {f : Features} (ho : f.hasObjects = true)
    (hf : ¬HashesElements w f fields withUnset) (vs : List (Datum ρ)) :
    w.variableArguments ((storedNames fields withUnset).map .own) vs = .array vs := by
  refine variableArguments_eq fun e he ↦ ?_
  obtain ⟨n, hn, rfl⟩ := List.map_eq_singleton_iff.mp he
  rw [World.typeOf?]
  cases ht : w.declared n with
  | none => rfl
  | some t =>
    rw [Option.any_some, Bool.eq_false_iff]
    exact fun harray ↦ hf ⟨ho, n, t, hn, ht, harray⟩

/-- `hashCode` returns the hash of all that is stored, unless that is a lone array. -/
theorem hashCodeMethod_returns {f : Features} (ha : Stores w fields withUnset a)
    (hf : ¬HashesElements w f fields withUnset) :
    (hashCodeMethod f fields withUnset).returns w a [] =
      .ok (.integral .int (w.hashAll (storedValues w fields withUnset a)).toInt) := by
  have hnames : fields.map (fun s ↦ Expr.own s.field) ++
      (if withUnset then [Expr.own unsetField] else []) =
        (storedNames fields withUnset).map .own := by
    cases withUnset <;> simp [storedNames]
  have hes := yields_storedNames ha
  refine Method.returns_of_runAll (t := .start []) (Stmt.runAll_ret ?_)
  rw [hnames]
  by_cases ho : f.hasObjects = true
  · rw [if_pos ho]
    refine staticCall hes ?_
    have hargs := variableArguments_storedNames ho hf (storedValues w fields withUnset a)
    simp [World.invokeStatic, World.objectsMethod, hargs, World.hashArray, Except.map]
  · rw [if_neg ho]
    have harray : (Expr.newArray (javaLang "Object") ((storedNames fields withUnset).map .own)).Yields
        w a (.start []) (.array (storedValues w fields withUnset a)) := by
      rw [Expr.Yields, Expr.eval, all hes]
      rfl
    refine staticCall (.cons harray .nil) ?_
    simp +decide [World.invokeStatic, World.arraysMethod, World.hashArray, Except.map]

/-! ## Both together -/

/-- On two instances, `equals` gives one answer at every language level: whether all that they store
is the same, value by value. It is those values that `hashCode` hashes, in the same order and unless
the only one is a declared array, so instances that are equal have the same hash. -/
theorem equalsMethod_hashCodeMethod_agree {type : GenericClass} (hw : w.IsReflexive)
    (ha : Stores w fields withUnset a) (hb : Stores w fields withUnset b)
    (hi : w.isInstance b type.name = true) :
    ∃ equal : Bool,
      (equal = true ↔ List.Forall₂ (fun u v ↦ w.same u v = true)
        (storedValues w fields withUnset a) (storedValues w fields withUnset b)) ∧
      (∀ f : Features, (equalsMethod f type fields withUnset).returns w a [.object b] =
        .ok (.boolean equal)) ∧
      (∀ f : Features, ¬HashesElements w f fields withUnset → ∀ o ∈ [a, b],
        (hashCodeMethod f fields withUnset).returns w o [] =
          .ok (.integral .int (w.hashAll (storedValues w fields withUnset o)).toInt)) ∧
      ((∀ u v, w.same u v = true → w.hashOf u = w.hashOf v) → equal = true →
        w.hashAll (storedValues w fields withUnset a) =
          w.hashAll (storedValues w fields withUnset b)) := by
  refine ⟨storesSame w fields withUnset a b, storesSame_iff w fields withUnset a b, ?_, ?_, ?_⟩
  · exact fun f ↦ equalsMethod_returns f hw ha hb hi
  · intro f hf o ho
    have hstores : Stores w fields withUnset o := by
      rcases List.mem_pair.mp ho with rfl | rfl
      · exact ha
      · exact hb
    exact hashCodeMethod_returns hstores hf
  · exact fun hh h ↦ hashAll_eq_of_forall₂ hh ((storesSame_iff w fields withUnset a b).mp h)

/-- Two instances with a name and an age each. -/
def twoPersons : World Nat :=
  .ofFields fun o field ↦
    match o, field with
    | 0, "name" | 1, "name" => some (.object 2)
    | 0, "age" | 1, "age" => some (.integral .int 30)
    | _, _ => none

/-- Two instances that hold the same name and the same age are equal at every level. -/
theorem equalsMethod_hashCodeMethod_agree_twoPersons :
    let fields : List StoredField :=
      [⟨"name", "name", .nonNull, none⟩, ⟨"age", "age", .primitive .int, none⟩]
    let type : GenericClass := ⟨.top ["com", "example"] "Person", []⟩
    (twoPersons.IsReflexive ∧ Stores twoPersons fields false 0 ∧ Stores twoPersons fields false 1) ∧
      ∀ f : Features, (equalsMethod f type fields false).returns twoPersons 0 [.object 1] =
        .ok (.boolean true) := by
  intro fields type
  have hw : twoPersons.IsReflexive := fun o ↦ by simp [twoPersons, World.ofFields]
  have h0 : Stores twoPersons fields false 0 :=
    ⟨by simp [fields, twoPersons, World.ofFields, FieldKind.Holds], nofun⟩
  have h1 : Stores twoPersons fields false 1 :=
    ⟨by simp [fields, twoPersons, World.ofFields, FieldKind.Holds], nofun⟩
  obtain ⟨equal, hiff, hequals, -⟩ :=
    equalsMethod_hashCodeMethod_agree hw h0 h1 (rfl : twoPersons.isInstance 1 type.name = true)
  have htrue : equal = true := hiff.mpr (.cons rfl (.cons rfl .nil))
  exact ⟨⟨hw, h0, h1⟩, fun f ↦ htrue ▸ hequals f⟩

/-- An instance that stores nothing but an empty array of strings. -/
def loneArray : World Bool :=
  { World.ofFields fun o field ↦
      match o, field with
      | true, "names" => some (.object false)
      | _, _ => none with
    declared := fun _ ↦ some (.array (.declared (javaLang "String") []))
    hash := fun _ ↦ 7
    elements := fun _ ↦ some [] }

/-- Where `equals` compares an array and Java 6 hashes it, `Objects.hash` hashes its elements. -/
theorem hashCodeMethod_hashes_elements :
    let fields : List StoredField := [⟨"names", "names", .nonNull, none⟩]
    let hash := loneArray.hashAll (storedValues loneArray fields false true)
    (loneArray.IsReflexive ∧ Stores loneArray fields false true) ∧
      (hashCodeMethod ⟨.java6, false⟩ fields false).returns loneArray true [] =
        .ok (.integral .int hash.toInt) ∧
      (hashCodeMethod ⟨.java7, false⟩ fields false).returns loneArray true [] ≠
        .ok (.integral .int hash.toInt) := by
  intro fields hash
  have hw : loneArray.IsReflexive := fun o ↦ by simp [loneArray, World.ofFields]
  have hstores : Stores loneArray fields false true :=
    ⟨by simp [fields, loneArray, World.ofFields, FieldKind.Holds], nofun⟩
  have h7 : (hashCodeMethod ⟨.java7, false⟩ fields false).returns loneArray true [] =
      .ok (.integral .int 1) := rfl
  have hhash : hash.toInt = 38 := rfl
  refine ⟨⟨hw, hstores⟩, rfl, ?_⟩
  rw [h7, hhash]
  simp

end JavaBuilder.Builder
