import JavaBuilder.Proofs.Builder.Planning
import JavaBuilder.Proofs.Builder.Signatures
import JavaBuilder.Proofs.Java.Calls

/-!
# Merging by the methods of the builder

Merging a property never touches its field. It calls the one method of the builder that users call too,
with what the source answers, so whatever the method checks is checked. `Strategy.mutation` is that call,
and `Strategy.actsBy_mergeFromValue` and `Strategy.actsBy_mergeFromBuilder` say that merging acts by it
and by nothing else.

The names of these methods are put together in several places: where the methods are declared, where
others of them call them, and where merging does. `Strategy.shapes` lists what is declared, so that a call
is matched with a declaration once for each name (`Strategy.isDeclared_of_mem_shapes`).
-/

namespace JavaBuilder.Builder

open Java Model

variable {ctx : Context} {p : Property} {x y g : String} {k : Call} {defaults : Option String}

/-! ## Shared code -/

theorem calls_of_constant? {c : Expr} (h : ctx.constant? x = some c) : c.calls = [] := by
  obtain ⟨t, -, h⟩ := Option.bind_eq_some_iff.mp h
  obtain ⟨-, -, rfl⟩ := Option.map_eq_some_iff.mp h
  rfl

@[simp] theorem calls_returnThis : ctx.returnThis.calls = [] := rfl

@[simp] theorem calls_nullCheck (e : Expr) : (ctx.nullCheck e).calls = e.calls := by
  unfold Context.nullCheck
  split
  · simp
  · split <;> simp

@[simp] theorem allCalls_checkedAssignment :
    Stmt.allCalls (ctx.checkedAssignment (.field .this x) (.var y)) = [] := by
  unfold Context.checkedAssignment
  split
  · simp
  · split <;> simp

/-- Comparing asks what its operands ask, and the first of them about the second. -/
theorem mem_calls_differs {f : Features} {kind : FieldKind} {l r : Expr} (hl : Receiver.of l = .other)
    (h : k ∈ (kind.differs f l r).calls) : k ∈ l.calls ∨ k ∈ r.calls ∨ k.on = .other := by
  cases kind with
  | primitive q =>
    have hbits (e : Expr) : (FieldKind.bits q e).calls = e.calls := by
      cases q <;> simp [FieldKind.bits]
    rw [FieldKind.differs, Expr.calls_ne, hbits, hbits, List.mem_append] at h
    exact h.imp_right .inl
  | nonNull | nullable =>
    have hcalls : k ∈ l.calls ∨ k ∈ r.calls ∨ k = ⟨.of l, "equals", [r]⟩ := by
      simp only [FieldKind.differs, FieldKind.objectsEqual] at h
      split at h <;> simp at h <;> tauto
    refine hcalls.imp_right (·.imp_right ?_)
    rintro rfl
    exact hl

/-! ## The call that changes a property -/

namespace Strategy

/-- Change the property by the value of an expression: set it, add all elements, put all entries, or merge
into the nested builder. -/
def mutation (e : Expr) : Strategy → Call
  | nullable n => ⟨.self, n.property.setter, [e]⟩
  | optional o => ⟨.self, o.property.setter, [e]⟩
  | defaulted v => ⟨.self, v.property.setter, [e]⟩
  | required r => ⟨.self, r.property.setter, [e]⟩
  | collection c => ⟨.self, c.property.method "addAll", [e]⟩
  | multiset m => ⟨.self, m.property.method "addAll", [e]⟩
  | map m => ⟨.self, m.property.method "putAll", [e]⟩
  | nested b => ⟨.ownField b.property.name, "mergeFrom", [e]⟩

/-- The getter by which a builder is asked for the property. A nested builder is handed out as it is. -/
def builderReader : Strategy → String
  | nested b => b.property.builderGetter ++ "Builder"
  | s => s.property.builderGetter

/-- What merging may ask: the source, and the default builder. -/
def mergeReads (s : Strategy) (x g : String) : List Call :=
  [.read x g, .read defaultsVar s.builderReader]

variable {s : Strategy}

theorem read_mem_mergeReads : .read x g ∈ s.mergeReads x g := List.mem_cons_self

theorem read_defaults_mem_mergeReads : .read defaultsVar s.builderReader ∈ s.mergeReads x g :=
  List.mem_cons_of_mem _ List.mem_cons_self

theorem isOwn_of_mem_mergeReads (h : k ∈ s.mergeReads x g) : k.on.isOwn = false := by
  rcases List.mem_cons.mp h with rfl | h
  · rfl
  · obtain rfl := List.mem_singleton.mp h
    rfl

end Strategy

/-! ## Merging -/

section

variable {s : Strategy}

theorem actsBy_call {e : Expr} {c : Call} (hcall : e.call? = some c) (hown : c.on.isOwn = true)
    (hinner : e.inner.filterMap Expr.call? = [.read x g]) : Stmt.ActsBy c (s.mergeReads x g) [.eval e] := by
  refine Stmt.actsBy_eval hcall hown (fun _ ↦ Strategy.isOwn_of_mem_mergeReads) fun k hk ↦ .inl ?_
  rw [hinner] at hk
  obtain rfl := List.mem_singleton.mp hk
  exact Strategy.read_mem_mergeReads

theorem actsBy_callSetter : Stmt.ActsBy ⟨.self, p.setter, [.invoke (.var x) g []]⟩ (s.mergeReads x g)
    [callSetter p (.invoke (.var x) g [])] :=
  actsBy_call rfl rfl rfl

theorem actsBy_guardedSetter {test : Expr}
    (h : ∀ k ∈ test.calls, k ∈ s.mergeReads x g ∨ k.on = .other) :
    Stmt.ActsBy ⟨.self, p.setter, [.invoke (.var x) g []]⟩ (s.mergeReads x g)
      [.ifThen test [callSetter p (.invoke (.var x) g [])]] :=
  actsBy_callSetter.ifThen (fun _ ↦ Strategy.isOwn_of_mem_mergeReads) h

/-- Comparing the source with the default builder asks both of them. -/
theorem reads_of_mem_calls_differs {f : Features} {kind : FieldKind}
    (hreader : s.builderReader = p.builderGetter)
    (h : k ∈ (kind.differs f (.invoke (.var x) g []) (readBuilder p defaultsVar)).calls) :
    k ∈ s.mergeReads x g ∨ k.on = .other := by
  rcases mem_calls_differs rfl h with hk | hk | hk
  · obtain rfl := List.mem_singleton.mp hk
    exact .inl Strategy.read_mem_mergeReads
  · obtain rfl := List.mem_singleton.mp hk
    exact .inl (hreader ▸ Strategy.read_defaults_mem_mergeReads)
  · exact .inr hk

end

theorem Nullable.actsBy_merge {n : Nullable} (hdefaults : ∀ y ∈ defaults, y = defaultsVar) :
    Stmt.ActsBy ((Strategy.nullable n).mutation (.invoke (.var x) g []))
      ((Strategy.nullable n).mergeReads x g) (n.merge ctx (.invoke (.var x) g []) defaults) := by
  refine actsBy_guardedSetter fun k hk ↦ ?_
  cases defaults with
  | none =>
    obtain rfl := List.mem_singleton.mp hk
    exact .inl Strategy.read_mem_mergeReads
  | some y =>
    obtain rfl := hdefaults y rfl
    exact reads_of_mem_calls_differs rfl hk

theorem OptionalProperty.actsBy_merge {o : OptionalProperty}
    (hdefaults : ∀ y ∈ defaults, y = defaultsVar) :
    Stmt.ActsBy ((Strategy.optional o).mutation (.invoke (.var x) g []))
      ((Strategy.optional o).mergeReads x g) (o.merge ctx (.invoke (.var x) g []) defaults) := by
  refine actsBy_guardedSetter fun k hk ↦ ?_
  cases defaults with
  | none =>
    -- What the source has answered is asked whether it is present.
    rcases List.mem_cons.mp hk with rfl | hk
    · exact .inr rfl
    · obtain rfl := List.mem_singleton.mp hk
      exact .inl Strategy.read_mem_mergeReads
  | some y =>
    obtain rfl := hdefaults y rfl
    exact reads_of_mem_calls_differs rfl hk

theorem Defaulted.actsBy_merge {v : Defaulted} (hdefaults : ∀ y ∈ defaults, y = defaultsVar) :
    Stmt.ActsBy ((Strategy.defaulted v).mutation (.invoke (.var x) g []))
      ((Strategy.defaulted v).mergeReads x g) (v.merge ctx (.invoke (.var x) g []) defaults) := by
  cases defaults with
  | none => exact actsBy_callSetter
  | some y =>
    obtain rfl := hdefaults y rfl
    exact actsBy_guardedSetter fun k hk ↦ reads_of_mem_calls_differs rfl hk

namespace Required

variable {r : Required} {c : Expr}

/-- The set of unset properties is asked, which is not the builder. -/
theorem on_of_mem_calls_unsetOn (hc : ctx.constant? r.property.name = some c)
    (h : k ∈ (unsetOn y c).calls) : k.on = .other := by
  have hcontains : k = ⟨.other, "contains", [c]⟩ := by
    simpa [unsetOn, calls_of_constant? hc] using h
  rw [hcontains]

theorem actsBy_mergeFromValue (hdefaults : ∀ y ∈ defaults, y = defaultsVar) :
    Stmt.ActsBy ((Strategy.required r).mutation (readValue r.property x))
      ((Strategy.required r).mergeReads x r.property.getter) (r.mergeFromValue ctx x defaults) := by
  rw [Required.mergeFromValue.eq_def]
  split
  · next y c hc =>
    obtain rfl := hdefaults y rfl
    refine actsBy_guardedSetter fun k hk ↦ ?_
    rw [Expr.calls_binary, List.mem_append] at hk
    rcases hk with hk | hk
    · exact .inr (on_of_mem_calls_unsetOn hc hk)
    · exact reads_of_mem_calls_differs rfl hk
  · exact actsBy_callSetter

theorem actsBy_mergeFromBuilder (hdefaults : ∀ y ∈ defaults, y = defaultsVar) :
    Stmt.ActsBy ((Strategy.required r).mutation (readBuilder r.property x))
      ((Strategy.required r).mergeReads x r.property.builderGetter)
      (r.mergeFromBuilder ctx x defaults) := by
  rw [Required.mergeFromBuilder.eq_def]
  cases hc : ctx.constant? r.property.name with
  | none => exact actsBy_callSetter
  | some c =>
    cases defaults with
    | none => exact actsBy_guardedSetter fun k hk ↦ .inr (on_of_mem_calls_unsetOn hc hk)
    | some y =>
      obtain rfl := hdefaults y rfl
      refine actsBy_guardedSetter fun k hk ↦ ?_
      simp only [Expr.calls_binary, Expr.calls_not, Expr.calls_paren, List.mem_append] at hk
      -- Unset on the source, unset on the default builder, or different there.
      rcases hk with hk | hk | hk
      · exact .inr (on_of_mem_calls_unsetOn hc hk)
      · exact .inr (on_of_mem_calls_unsetOn hc hk)
      · exact reads_of_mem_calls_differs rfl hk

end Required

theorem NestedBuilder.actsBy_merge {b : NestedBuilder} :
    Stmt.ActsBy ((Strategy.nested b).mutation (.invoke (.var x) g []))
      ((Strategy.nested b).mergeReads x g) (b.merge x (.invoke (.var x) g [])) := by
  have hcall : ((Expr.ownField b.property.name [x]).invoke "mergeFrom" [.invoke (.var x) g []]).call? =
      some ((Strategy.nested b).mutation (.invoke (.var x) g [])) := by
    rw [Expr.invoke, Expr.call?, Receiver.of_ownField, Strategy.mutation]
  refine actsBy_call hcall rfl ?_
  unfold Expr.ownField
  split <;> rfl

namespace Strategy

variable {s : Strategy}

/-- **Merging from a value** acts by the mutation, with what the value answers. -/
theorem actsBy_mergeFromValue (s : Strategy) (ctx : Context) (x : String)
    (hdefaults : ∀ y ∈ defaults, y = defaultsVar) :
    Stmt.ActsBy (s.mutation (readValue s.property x)) (s.mergeReads x s.property.getter)
      ((s.code ctx).mergeFromValue x defaults) := by
  cases s with
  | nullable n => exact Nullable.actsBy_merge hdefaults
  | optional o => exact OptionalProperty.actsBy_merge hdefaults
  | defaulted v => exact Defaulted.actsBy_merge hdefaults
  | required r => exact Required.actsBy_mergeFromValue hdefaults
  | collection c => exact actsBy_call rfl rfl rfl
  | multiset m => exact actsBy_call rfl rfl rfl
  | map m => exact actsBy_call rfl rfl rfl
  | nested b => exact NestedBuilder.actsBy_merge

/-- **Merging from a builder** acts by the mutation, with what the builder answers. -/
theorem actsBy_mergeFromBuilder (s : Strategy) (ctx : Context) (x : String)
    (hdefaults : ∀ y ∈ defaults, y = defaultsVar) :
    Stmt.ActsBy (s.mutation (.invoke (.var x) s.builderReader [])) (s.mergeReads x s.builderReader)
      ((s.code ctx).mergeFromBuilder x defaults) := by
  cases s with
  | nullable n => exact Nullable.actsBy_merge hdefaults
  | optional o => exact OptionalProperty.actsBy_merge hdefaults
  | defaulted v => exact Defaulted.actsBy_merge hdefaults
  | required r => exact Required.actsBy_mergeFromBuilder hdefaults
  | collection c => exact actsBy_call rfl rfl rfl
  | multiset m => exact actsBy_call rfl rfl rfl
  | map m => exact actsBy_call rfl rfl rfl
  | nested b => exact NestedBuilder.actsBy_merge

/-! ## Declarations -/

/-- A call by the name of an accessor, with as many arguments. -/
theorem isDeclared_of_mem_shapes {v : Shape} {ts : List TypeRef} (h : (v, ts) ∈ s.shapes ctx.features)
    (hname : v.name s.property.capitalized = k.method) (hargs : ts.length = k.args.length) :
    k.IsDeclared (s.code ctx).accessors := by
  have hmem : (v.name s.property.capitalized, ts) ∈
      (s.code ctx).accessors.map fun m ↦ (m.name, m.params.map (·.type)) := by
    rw [accessors_code]
    exact List.mem_map.mpr ⟨_, h, rfl⟩
  obtain ⟨m, hm, heq⟩ := List.mem_map.mp hmem
  obtain ⟨hm', hts⟩ := Prod.mk.inj heq
  refine ⟨m, hm, hm'.trans hname, ?_⟩
  rw [← hargs, ← hts, List.length_map]

/-- The method by which the property is changed is there, unless it belongs to the nested builder. -/
theorem isDeclared_mutation {e : Expr} (hself : (s.mutation e).on = .self) :
    (s.mutation e).IsDeclared (s.code ctx).accessors := by
  cases s with
  | nullable n =>
    have hset : (.set, [n.property.type]) ∈ (nullable n).shapes ctx.features := by simp [shapes]
    exact isDeclared_of_mem_shapes hset rfl rfl
  | optional o =>
    have hset : (.set, [o.element]) ∈ (optional o).shapes ctx.features := by simp [shapes]
    exact isDeclared_of_mem_shapes hset rfl rfl
  | defaulted v =>
    have hset : (.set, [v.property.type]) ∈ (defaulted v).shapes ctx.features := by simp [shapes]
    exact isDeclared_of_mem_shapes hset rfl rfl
  | required r =>
    have hset : (.set, [r.property.type]) ∈ (required r).shapes ctx.features := by simp [shapes]
    exact isDeclared_of_mem_shapes hset rfl rfl
  | collection c =>
    have haddAll : (.addAll, [Collection.iterableOf c.element]) ∈ (collection c).shapes ctx.features := by
      simp [shapes]
    exact isDeclared_of_mem_shapes haddAll rfl rfl
  | multiset m =>
    have haddAll : (.addAll, [Collection.iterableOf m.element]) ∈ (multiset m).shapes ctx.features := by
      simp [shapes]
    exact isDeclared_of_mem_shapes haddAll rfl rfl
  | map m =>
    have hputAll : (.putAll, [.declared (javaUtil "Map") m.sourceArgs]) ∈ (map m).shapes ctx.features := by
      simp [shapes]
    exact isDeclared_of_mem_shapes hputAll rfl rfl
  | nested b => cases hself

theorem on_mutation_ne_var {e : Expr} : (s.mutation e).on ≠ .var x := by
  cases s <;> exact Receiver.noConfusion

theorem isDeclared_builderReader (hmethod : k.method = s.builderReader) (hargs : k.args = []) :
    k.IsDeclared (s.code ctx).accessors := by
  have hlength : ([] : List TypeRef).length = k.args.length := by rw [hargs]; rfl
  cases s with
  | nested b =>
    have hget : (.getBuilder, []) ∈ (nested b).shapes ctx.features := by simp [shapes]
    exact isDeclared_of_mem_shapes hget hmethod.symm hlength
  | nullable n | optional o | defaulted v | required r | collection c | multiset m | map m =>
    -- Each of these has a getter, and it comes last.
    refine isDeclared_of_mem_shapes (v := .get) ?_ hmethod.symm hlength
    simp [shapes]

end Strategy

/-! ## Calls among accessors -/

section

variable {methods : List Method}

theorem callsDeclared_checkedSetter {after : List Stmt}
    (h : ∀ k ∈ Stmt.allCalls after, k.on ≠ .self) : (checkedSetter ctx p after).CallsDeclared methods := by
  refine Method.callsDeclared_of_ne_self fun k hk ↦ h k ?_
  simp only [checkedSetter, Method.documented] at hk
  split at hk <;> simpa using hk

/-- Mapping calls the setter, and else only what the current value does. -/
theorem callsDeclared_mapMethod {current : Expr} {mayBeUnset : Bool}
    (hsetter : Call.IsDeclared methods ⟨.self, p.setter, [.var "result"]⟩)
    (hcurrent : ∀ k ∈ current.calls, k.on = .self → k.IsDeclared methods) :
    (mapMethod ctx p current mayBeUnset).CallsDeclared methods := by
  intro k hk hself
  have hcalls : k = ⟨.var "mapper", "apply", [current]⟩ ∨ k ∈ current.calls ∨
      k = ⟨.self, p.setter, [.var "result"]⟩ := by
    simpa [mapMethod, Method.documented] using hk
  rcases hcalls with rfl | hk | rfl
  · cases hself
  · exact hcurrent k hk hself
  · exact hsetter

end

theorem Collection.callsDeclared {c : Collection} :
    ∀ m ∈ c.accessors ctx, m.CallsDeclared (c.accessors ctx) := by
  have hshape : (.add, [c.element]) ∈ (Strategy.collection c).shapes ctx.features := by
    simp [Strategy.shapes]
  have hadd : Call.IsDeclared (c.accessors ctx) ⟨.self, c.property.method "add", [.var "element"]⟩ :=
    Strategy.isDeclared_of_mem_shapes hshape rfl rfl
  intro m hm
  simp only [accessors, List.mem_append, List.mem_cons, List.not_mem_nil, or_false,
    List.mem_ite_nil_right] at hm
  rcases hm with ((rfl | rfl) | ⟨-, rfl⟩) | rfl | rfl
  · exact Method.callsDeclared_of_ne_self (by simp [addMethod, Method.documented, target])
  · exact Method.callsDeclared_of_eq_or (by simp [addAllMethod, Method.documented]) hadd
  · exact Method.callsDeclared_of_ne_self (by simp [removeMethod, Method.documented, target])
  · exact Method.callsDeclared_of_ne_self (by simp [clearMethod, Method.documented, target])
  · exact Method.callsDeclared_of_ne_self (by simp [viewMethod, Method.documented])

theorem MapProperty.callsDeclared {m : MapProperty} :
    ∀ x ∈ m.accessors ctx, x.CallsDeclared (m.accessors ctx) := by
  have hshape : (.put, [m.key, m.value]) ∈ (Strategy.map m).shapes ctx.features := by
    simp [Strategy.shapes]
  have hput : Call.IsDeclared (m.accessors ctx) ⟨.self, m.property.method "put",
      [.invoke (.var "entry") "getKey" [], .invoke (.var "entry") "getValue" []]⟩ :=
    Strategy.isDeclared_of_mem_shapes hshape rfl rfl
  intro x hx
  simp only [accessors, List.mem_cons, List.not_mem_nil, or_false] at hx
  rcases hx with rfl | rfl | rfl | rfl | rfl
  · exact Method.callsDeclared_of_ne_self (by simp [putMethod, Method.documented, target])
  · exact Method.callsDeclared_of_eq_or (by simp [putAllMethod, Method.documented]) hput
  · exact Method.callsDeclared_of_ne_self (by simp [removeMethod, Method.documented, target])
  · exact Method.callsDeclared_of_ne_self (by simp [clearMethod, Method.documented, target])
  · exact Method.callsDeclared_of_ne_self (by simp [viewMethod, Method.documented])

theorem MultisetProperty.callsDeclared {m : MultisetProperty} :
    ∀ x ∈ m.accessors ctx, x.CallsDeclared (m.accessors ctx) := by
  have hcopiesShape : (.addCopiesTo, [m.element, .primitive .int]) ∈
      (Strategy.multiset m).shapes ctx.features := by simp [Strategy.shapes]
  have hcountShape : (.setCountOf, [m.element, .primitive .int]) ∈
      (Strategy.multiset m).shapes ctx.features := by simp [Strategy.shapes]
  have hcopies : Call.IsDeclared (m.accessors ctx)
      ⟨.self, m.property.method "addCopiesTo", [.var "element", .literal "1"]⟩ :=
    Strategy.isDeclared_of_mem_shapes hcopiesShape rfl rfl
  have hcount (n : Expr) : Call.IsDeclared (m.accessors ctx)
      ⟨.self, m.property.method "setCountOf", [.var "element", n]⟩ :=
    Strategy.isDeclared_of_mem_shapes hcountShape rfl rfl
  intro x hx
  simp only [accessors, List.mem_cons, List.not_mem_nil, or_false] at hx
  rcases hx with rfl | rfl | rfl | rfl | rfl | rfl
  · exact Method.callsDeclared_of_eq_or (by simp [addMethod, Method.documented]) hcopies
  · refine Method.callsDeclared_of_eq_or ?_ (hcount (.binary .plus .same
      (.invoke (.own m.property.name) "count" [checkedElement]) (.var "occurrences")))
    simp [addCopiesMethod, Method.documented, checkedElement]
  · exact Method.callsDeclared_of_eq_or (by simp [addAllMethod, Method.documented]) hcopies
  · exact Method.callsDeclared_of_ne_self
      (by simp [setCountMethod, Method.documented, checkedElement, target])
  · exact Method.callsDeclared_of_ne_self (by simp [clearMethod, Method.documented, target])
  · exact Method.callsDeclared_of_ne_self (by simp [viewMethod, Method.documented])

theorem Nullable.callsDeclared {n : Nullable} :
    ∀ m ∈ n.accessors ctx, m.CallsDeclared (n.accessors ctx) := by
  intro m hm
  simp only [accessors, List.mem_cons, List.not_mem_nil, or_false] at hm
  rcases hm with rfl | rfl
  · exact Method.callsDeclared_of_ne_self (by simp [Method.documented])
  · exact Method.callsDeclared_of_ne_self (by simp [builderGetter, Method.documented])

theorem Defaulted.callsDeclared {v : Defaulted} :
    ∀ m ∈ v.accessors ctx, m.CallsDeclared (v.accessors ctx) := by
  have hset : Call.IsDeclared (v.accessors ctx) ⟨.self, v.property.setter, [.var "result"]⟩ :=
    Strategy.isDeclared_mutation (s := .defaulted v) rfl
  intro m hm
  simp only [accessors, List.mem_append, List.mem_cons, List.not_mem_nil, or_false,
    List.mem_ite_nil_right] at hm
  rcases hm with (rfl | ⟨-, rfl⟩) | rfl
  · exact callsDeclared_checkedSetter (by simp)
  · exact callsDeclared_mapMethod hset (by simp)
  · exact Method.callsDeclared_of_ne_self (by simp [builderGetter, Method.documented])

/-- Where a required property is tracked, its accessors ask the set of unset properties, which is a field. -/
theorem Required.callsDeclared {r : Required} :
    ∀ m ∈ r.accessors ctx, m.CallsDeclared (r.accessors ctx) := by
  have hset : Call.IsDeclared (r.accessors ctx) ⟨.self, r.property.setter, [.var "result"]⟩ :=
    Strategy.isDeclared_mutation (s := .required r) rfl
  have hget : Call.IsDeclared (r.accessors ctx) ⟨.self, r.property.builderGetter, []⟩ :=
    Strategy.isDeclared_builderReader (s := .required r) rfl rfl
  intro m hm
  simp only [accessors, List.mem_append, List.mem_cons, List.not_mem_nil, or_false,
    List.mem_ite_nil_right] at hm
  rcases hm with (rfl | ⟨-, rfl⟩) | rfl
  · refine callsDeclared_checkedSetter ?_
    cases hc : ctx.constant? r.property.name with
    | none => simp
    | some c => simp [calls_of_constant? hc]
  · refine callsDeclared_mapMethod hset fun k hk _ ↦ ?_
    obtain rfl := List.mem_singleton.mp hk
    exact hget
  · refine Method.callsDeclared_of_ne_self ?_
    cases hc : ctx.constant? r.property.name with
    | none => simp [Method.documented]
    | some c =>
      simp only [Method.documented, Option.toList_some, List.map_singleton, requireSet]
      split <;> simp [isUnset, notSet, calls_of_constant? hc]

theorem OptionalProperty.callsDeclared {o : OptionalProperty} :
    ∀ m ∈ o.accessors ctx, m.CallsDeclared (o.accessors ctx) := by
  have hset (e : Expr) : Call.IsDeclared (o.accessors ctx) ⟨.self, o.property.setter, [e]⟩ :=
    Strategy.isDeclared_mutation (s := .optional o) rfl
  have hshape : (.clear, []) ∈ (Strategy.optional o).shapes ctx.features := by
    simp [Strategy.shapes]
  have hclear : Call.IsDeclared (o.accessors ctx) ⟨.self, o.clearName, []⟩ :=
    Strategy.isDeclared_of_mem_shapes hshape rfl rfl
  -- Two of the setters either set the property or clear it.
  have hsetOrClear {m : Method} {test value : Expr} (hbody : m.body = [o.setOrClear test value])
      (htest : ∀ k ∈ test.calls, k.on ≠ .self) (hvalue : ∀ k ∈ value.calls, k.on ≠ .self) :
      m.CallsDeclared (o.accessors ctx) := by
    intro k hk hself
    have hcalls : k ∈ test.calls ∨ k = ⟨.self, o.property.setter, [value]⟩ ∨ k ∈ value.calls ∨
        k = ⟨.self, o.clearName, []⟩ := by
      simpa [hbody, setOrClear] using hk
    rcases hcalls with hk | rfl | hk | rfl
    · exact absurd hself (htest k hk)
    · exact hset value
    · exact absurd hself (hvalue k hk)
    · exact hclear
  intro m hm
  simp only [accessors, List.mem_append, List.mem_cons, List.not_mem_nil, or_false,
    List.mem_ite_nil_right] at hm
  rcases hm with ((rfl | rfl | rfl) | ⟨-, rfl⟩) | rfl | rfl
  · exact Method.callsDeclared_of_ne_self (by simp [setMethod, Method.documented])
  · exact hsetOrClear rfl (by simp) (by simp)
  · exact hsetOrClear rfl (by simp) (by simp)
  · refine Method.callsDeclared_of_eq_or ?_ (hset (.var "result"))
    simp [mapMethod, Method.documented]
  · exact Method.callsDeclared_of_ne_self (by simp [clearMethod, Method.documented])
  · exact Method.callsDeclared_of_ne_self (by simp [getMethod, builderGetter, Method.documented])

theorem NestedBuilder.callsDeclared {b : NestedBuilder} :
    ∀ m ∈ b.accessors ctx, m.CallsDeclared (b.accessors ctx) := by
  have hshape : (.set, [b.property.type]) ∈ (Strategy.nested b).shapes ctx.features := by
    simp [Strategy.shapes]
  have hset (e : Expr) : Call.IsDeclared (b.accessors ctx) ⟨.self, b.property.setter, [e]⟩ :=
    Strategy.isDeclared_of_mem_shapes hshape rfl rfl
  intro m hm
  simp only [accessors, List.mem_append, List.mem_cons, List.not_mem_nil, or_false,
    List.mem_ite_nil_right] at hm
  rcases hm with (rfl | rfl | rfl) | ⟨-, rfl⟩
  · exact Method.callsDeclared_of_ne_self (by simp [setMethod, Method.documented, target])
  · refine Method.callsDeclared_of_eq_or ?_ (hset (.invoke (.var "builder") "build" []))
    simp [setBuilderMethod, Method.documented]
  · exact Method.callsDeclared_of_ne_self (by simp [getMethod, Method.documented])
  · exact Method.callsDeclared_of_ne_self (by simp [mutateMethod, Method.documented])

/-- **The accessors of a property get by among themselves.** What they call on their builder they declare. -/
theorem Strategy.callsDeclared (s : Strategy) :
    ∀ m ∈ (s.code ctx).accessors, m.CallsDeclared (s.code ctx).accessors := by
  cases s with
  | nullable n => exact n.callsDeclared
  | collection c => exact c.callsDeclared
  | map m => exact m.callsDeclared
  | multiset m => exact m.callsDeclared
  | optional o => exact o.callsDeclared
  | nested b => exact b.callsDeclared
  | defaulted v => exact v.callsDeclared
  | required r => exact r.callsDeclared

/-! ## Merging and declarations -/

/-- What merging calls on the builder or on a variable is declared, but for what it reads of the source. -/
theorem Strategy.eq_or_isDeclared_of_actsBy {s : Strategy} {v : Expr} {x g : String} {ss : List Stmt}
    (h : Stmt.ActsBy (s.mutation v) (s.mergeReads x g) ss) {k : Call} (hk : k ∈ Stmt.allCalls ss)
    (hon : k.on = .self ∨ ∃ y, k.on = .var y) :
    k = .read x g ∨ k.IsDeclared (s.code ctx).accessors := by
  rcases h.reads k hk with rfl | hk | hother
  · exact .inr (isDeclared_mutation (hon.resolve_right fun ⟨_, hy⟩ ↦ on_mutation_ne_var hy))
  · rcases List.mem_cons.mp hk with rfl | hk
    · exact .inl rfl
    · obtain rfl := List.mem_singleton.mp hk
      exact .inr (isDeclared_builderReader rfl rfl)
  · rw [hother] at hon
    rcases hon with hon | ⟨y, hon⟩ <;> cases hon

/-- **Merging goes through the property's own method.** For whatever property the standard chain has a
strategy, under whatever features, tracked or not, with a default builder or without, merging from a value
or from a builder makes one call that changes anything: that of the setter, of `addAll`, of `putAll`, or of
`mergeFrom` on the field that holds the nested builder, with what the source answers. No field is assigned.
Every method of the builder that is called on the way, on the builder itself, on the one that is merged
or on the default builder, the strategy declares, and so it does with what the accessors call on their
builder. -/
theorem merges_by_declared_methods {d : Declaration} {s : Strategy}
    (hselect : Chain.standard.select ctx.features d = .ok s)
    (hdefaults : ∀ y ∈ defaults, y = defaultsVar) :
    let c := s.code ctx
    (Stmt.ActsBy (s.mutation (readValue d.property "value"))
        (s.mergeReads "value" d.property.getter) (c.mergeFromValue "value" defaults) ∧
      Stmt.ActsBy (s.mutation (.invoke (.var "template") s.builderReader []))
        (s.mergeReads "template" s.builderReader) (c.mergeFromBuilder "template" defaults)) ∧
      c.builderField.name = d.property.name ∧
      (∀ k ∈ Stmt.allCalls (c.mergeFromValue "value" defaults),
        k.on = .self ∨ k.on = .var defaultsVar → k.IsDeclared c.accessors) ∧
      (∀ k ∈ Stmt.allCalls (c.mergeFromBuilder "template" defaults),
        k.on = .self ∨ k.on = .var "template" ∨ k.on = .var defaultsVar → k.IsDeclared c.accessors) ∧
      ∀ m ∈ c.accessors, ∀ k ∈ Stmt.allCalls m.body, k.on = .self → k.IsDeclared c.accessors := by
  have hproperty : s.property = d.property := (Chain.fits_of_select hselect).property_eq
  have hvalue := s.actsBy_mergeFromValue ctx "value" hdefaults
  have hbuilder := s.actsBy_mergeFromBuilder ctx "template" hdefaults
  have hvar : "value" ≠ defaultsVar := by decide
  rw [hproperty] at hvalue
  refine ⟨⟨hvalue, hbuilder⟩, ?_, fun k hk hon ↦ ?_, fun k hk hon ↦ ?_, s.callsDeclared⟩
  · rw [← hproperty]
    cases s <;> rfl
  · have hplace : k.on = .self ∨ ∃ y, k.on = .var y := hon.imp_right fun h ↦ ⟨_, h⟩
    rcases Strategy.eq_or_isDeclared_of_actsBy hvalue hk hplace with rfl | hdeclared
    · -- the value is not the builder, nor the default one
      rcases hon with hon | hon
      · cases hon
      · exact absurd (Receiver.var.inj hon) hvar
    · exact hdeclared
  · have hplace : k.on = .self ∨ ∃ y, k.on = .var y :=
      hon.imp_right fun h ↦ h.elim (fun h ↦ ⟨_, h⟩) fun h ↦ ⟨_, h⟩
    rcases Strategy.eq_or_isDeclared_of_actsBy hbuilder hk hplace with rfl | hdeclared
    · exact Strategy.isDeclared_builderReader rfl rfl
    · exact hdeclared

/-- An optional property, merged from another builder against a default one. -/
theorem merges_by_declared_methods_nickname :
    let element := TypeRef.declared (.top ["java", "lang"] "String") []
    let d : Declaration :=
      .plain (.of "nickname" (.declared (.top ["java", "util"] "Optional") [element]))
    let ctx : Context := ⟨Datatype.standard ⟨.top ["com", "example"] "Person", []⟩, .standard, none⟩
    let s : Strategy := .optional ⟨d.property, .java, element⟩
    let read := Expr.invoke (.var "template") "getNickname" []
    Chain.standard.select ctx.features d = .ok s ∧
      (Stmt.allCalls ((s.code ctx).mergeFromBuilder "template" (some defaultsVar))).filter (·.on.isOwn) =
        [⟨.self, "setNickname", [read]⟩] ∧
      Call.IsDeclared (s.code ctx).accessors (.read defaultsVar "getNickname") := by
  intro element d ctx s read
  have hselect : Chain.standard.select ctx.features d = .ok s := rfl
  have hdefaults : ∀ y ∈ some defaultsVar, y = defaultsVar := fun _ h ↦ (Option.some.inj h).symm
  obtain ⟨⟨-, hbuilder⟩, -, -, hdeclared, -⟩ := merges_by_declared_methods hselect hdefaults
  refine ⟨hselect, hbuilder.own, hdeclared _ ?_ (.inr (.inr rfl))⟩
  exact List.mem_cons_of_mem _ List.mem_cons_self

end JavaBuilder.Builder
