import JavaBuilder.Proofs.Builder.Planning

/-!
# Binding properties to strategies

Binding goes through the properties in order and knows the names it has passed. It may stop at a property
in three ways, tried in this order: the property is faulty, its name is taken, or no factory of the chain
takes it. So what binding comes to is settled by the first property that it stops at, and where it stops at
none, every property has been bound as if it were alone.

One property is described first; the run over all of them is an induction in which the names grow.
-/

namespace JavaBuilder

open Java Model

/-- To stop somewhere in a list is to stop at its head or somewhere after it. -/
theorem exists_split_cons {α : Type} {a : α} {as : List α} {P : List α → α → Prop} :
    (∃ before x after, a :: as = before ++ x :: after ∧ P before x) ↔
      P [] a ∨ ∃ before x after, as = before ++ x :: after ∧ P (a :: before) x := by
  constructor
  · rintro ⟨before, x, after, heq, h⟩
    rcases List.cons_eq_append_iff.mp heq with ⟨rfl, heq⟩ | ⟨before, rfl, rfl⟩
    · obtain ⟨rfl, rfl⟩ := List.cons.inj heq
      exact .inl h
    · exact .inr ⟨before, x, after, rfl, h⟩
  · rintro (h | ⟨before, x, after, rfl, h⟩)
    · exact ⟨[], a, as, rfl, h⟩
    · exact ⟨a :: before, x, after, rfl, h⟩

namespace Builder.Chain

variable {chain : Chain} {f : Features} {seen seen' : List String} {d : Declaration}
  {ds : List Declaration} {e : Error}

theorem select_eq_error_iff : chain.select f d = .error e ↔
    (∀ factory ∈ chain, factory.create? f d = none) ∧
      e = .unresolved d.property.name d.property.type := by
  unfold select
  cases hfind : chain.findSome? (·.create? f d) with
  | none =>
    simp only [Except.error.injEq]
    exact ⟨fun h ↦ ⟨List.findSome?_eq_none_iff.mp hfind, h.symm⟩, fun h ↦ h.2.symm⟩
  | some s =>
    obtain ⟨factory, hmem, hcreate⟩ := List.exists_of_findSome?_eq_some hfind
    refine ⟨(nomatch ·), fun h ↦ ?_⟩
    rw [h.1 factory hmem] at hcreate
    cases hcreate

/-! ## One property -/

/-- The strategy of one property, behind properties of these names. -/
def bindOne (chain : Chain) (f : Features) (seen : List String) (d : Declaration) :
    Except Error Strategy := do
  d.property.check
  if d.property.name ∈ seen then throw (.property d.property.name .duplicate)
  chain.select f d

/-- Why a property cannot be bound behind properties of these names. A reason counts only where the ones
before it do not hold. -/
inductive FailsAt (chain : Chain) (f : Features) (seen : List String) (d : Declaration) :
    Error → Prop where
  /-- The property is faulty. -/
  | faulty {e : Error} : d.property.check = .error e → FailsAt chain f seen d e
  /-- Its name is taken. -/
  | duplicate : d.property.check = .ok () → d.property.name ∈ seen →
    FailsAt chain f seen d (.property d.property.name .duplicate)
  /-- No factory takes it. -/
  | unresolved : d.property.check = .ok () → d.property.name ∉ seen →
    (∀ factory ∈ chain, factory.create? f d = none) →
    FailsAt chain f seen d (.unresolved d.property.name d.property.type)

theorem bindOne_eq_error_iff : chain.bindOne f seen d = .error e ↔ chain.FailsAt f seen d e := by
  rw [bindOne, bind_eq_error]
  constructor
  · rintro (hcheck | ⟨⟨⟩, hcheck, hrest⟩)
    · exact .faulty hcheck
    · split_ifs at hrest with hseen
      · obtain rfl := Except.error.inj hrest
        exact .duplicate hcheck hseen
      · obtain ⟨hnone, rfl⟩ := select_eq_error_iff.mp hrest
        exact .unresolved hcheck hseen hnone
  · rintro (hcheck | ⟨hcheck, hseen⟩ | ⟨hcheck, hseen, hnone⟩)
    · exact .inl hcheck
    · exact .inr ⟨(), hcheck, by rw [if_pos hseen]; rfl⟩
    · exact .inr ⟨(), hcheck, by rw [if_neg hseen]; exact select_eq_error_iff.mpr ⟨hnone, rfl⟩⟩

/-- Only which names are taken counts, not their order. -/
theorem failsAt_congr (h : ∀ name, name ∈ seen ↔ name ∈ seen') :
    chain.FailsAt f seen d e ↔ chain.FailsAt f seen' d e := by
  rw [← bindOne_eq_error_iff, ← bindOne_eq_error_iff, bindOne, bindOne]
  simp only [h]

/-! ## All properties -/

theorem bindFrom_cons : chain.bindFrom f seen (d :: ds) =
    chain.bindOne f seen d >>= fun s ↦
      List.cons s <$> chain.bindFrom f (d.property.name :: seen) ds := by
  rw [bindFrom, bindOne]
  cases d.property.check with
  | error e => rfl
  | ok _ =>
    by_cases hseen : d.property.name ∈ seen
    · simp only [ok_bind, if_pos hseen]
      rfl
    · simp only [ok_bind, if_neg hseen]
      rfl

/-- Binding fails at the first property that cannot be bound behind those before it. -/
theorem bindFrom_eq_error_iff : chain.bindFrom f seen ds = .error e ↔
    ∃ before x after, ds = before ++ x :: after ∧ (∃ ss, chain.bindFrom f seen before = .ok ss) ∧
      chain.FailsAt f (seen ++ before.map (·.property.name)) x e := by
  induction ds generalizing seen with
  | nil => simp [bindFrom]
  | cons d ds ih =>
    rw [exists_split_cons (P := fun before x ↦ (∃ ss, chain.bindFrom f seen before = .ok ss) ∧
      chain.FailsAt f (seen ++ before.map (·.property.name)) x e), bindFrom_cons, bind_eq_error,
      bindOne_eq_error_iff]
    refine or_congr (by simp [bindFrom]) ?_
    simp only [map_eq_error, ih, bindFrom_cons, bind_eq_ok, map_eq_ok]
    -- Binding puts a name that it passes in front, and the statement puts it behind those it starts with.
    have hnames (before : List Declaration) (x : Declaration) :
        chain.FailsAt f (d.property.name :: seen ++ before.map (·.property.name)) x e ↔
          chain.FailsAt f (seen ++ (d :: before).map (·.property.name)) x e :=
      failsAt_congr fun name ↦ by simp only [List.map_cons, List.mem_append, List.mem_cons]; tauto
    simp only [hnames]
    constructor
    · rintro ⟨s, hs, before, x, after, hsplit, ⟨ss, hss⟩, hfails⟩
      exact ⟨before, x, after, hsplit, ⟨s :: ss, s, hs, ss, hss, rfl⟩, hfails⟩
    · rintro ⟨before, x, after, hsplit, ⟨_, s, hs, ss, hss, -⟩, hfails⟩
      exact ⟨s, hs, before, x, after, hsplit, ⟨ss, hss⟩, hfails⟩

/-- Nothing is wrong with the properties: each of them is faultless, has a name of its own and is taken by
a factory. -/
structure Accepts (chain : Chain) (f : Features) (ds : List Declaration) : Prop where
  checks : ∀ d ∈ ds, d.property.check = .ok ()
  names : (ds.map (·.property.name)).Nodup
  selects : ∀ d ∈ ds, ∃ s, chain.select f d = .ok s

theorem exists_bind_iff_accepts :
    (∃ ss, chain.bind f ds = .ok ss) ↔ chain.Accepts f ds := by
  simp only [bind, bindFrom_eq_ok_iff, exists_and_left, exists_forall₂_iff]
  constructor
  · rintro ⟨hchecks, -, hnames, hselects⟩
    exact ⟨hchecks, hnames, hselects⟩
  · intro h
    exact ⟨h.checks, by simp, h.names, h.selects⟩

/-- **Binding is exact.** It succeeds if nothing is wrong with the properties, and then gives each the
strategy that the chain chooses for it alone, which carries the property as it is. Otherwise it fails with
the reason of the first property that fails behind the ones before it. -/
theorem bind_exact (chain : Chain) (f : Features) (ds : List Declaration) :
    ((∃ ss, chain.bind f ds = .ok ss) ↔ chain.Accepts f ds) ∧
    (∀ ss, chain.bind f ds = .ok ss →
      List.Forall₂ (fun d s ↦ chain.select f d = .ok s ∧ s.property = d.property) ds ss) ∧
    ∀ e, chain.bind f ds = .error e ↔
      ∃ before x after, ds = before ++ x :: after ∧ chain.Accepts f before ∧
        chain.FailsAt f (before.map (·.property.name)) x e := by
  refine ⟨exists_bind_iff_accepts, fun ss hss ↦ ?_, fun e ↦ ?_⟩
  · exact (bindFrom_eq_ok_iff.mp hss).2.2.2.imp fun d s hs ↦ ⟨hs, (fits_of_select hs).property_eq⟩
  · simp only [bind, bindFrom_eq_error_iff, List.nil_append, ← exists_bind_iff_accepts]

/-- A name is taken, and no factory is asked about the property that repeats it. -/
theorem bind_exact_repeated :
    let d : Declaration := .plain (.of "name" (.ofText "java.lang.String"))
    let x : Declaration := .plain (.of "name" .void)
    (∃ ss, standard.bind .standard [d] = .ok ss) ∧
      standard.bind .standard [d, x] = .error (.property "name" .duplicate) := by
  intro d x
  have haccepts : standard.Accepts .standard [d] :=
    ⟨by decide, by decide, by simpa using ⟨_, rfl⟩⟩
  obtain ⟨hok, -, -⟩ := bind_exact standard .standard [d]
  obtain ⟨-, -, herror⟩ := bind_exact standard .standard [d, x]
  refine ⟨hok.mpr haccepts, (herror _).mpr ⟨[d], x, [], rfl, haccepts, ?_⟩⟩
  exact .duplicate (by decide) (by decide)

end Builder.Chain

end JavaBuilder
