import JavaBuilder.Java.Imports
import JavaBuilder.Proofs.Java.ClassNameText

/-!
# What a run over a sequence of classes gives out

The table changes with every class that is spelled, but who owns a simple name in the end can be read
off the whole sequence: the file's own class, or else the first class of the sequence with that simple
name, unless a nested class in scope has it. `StateAfter` ties the table to this description, one step
keeps it, and so the spelling of a class is a function of the whole sequence and not of its place in it.
-/

namespace JavaBuilder.Java

open Text

namespace ImportTable

variable (unit : ClassName) (visible names : List ClassName)

/-- The top-level class a simple name stands for after a sequence of classes. -/
def owner? (simple : String) : Option ClassName :=
  if simple = unit.outer then some unit.topLevel
  else if simple ∈ visible.map (·.simpleName) then none
  else (names.find? (·.outer = simple)).map (·.topLevel)

/-- A class is spelled without its package: it lives in the file's own class, or its top-level class
owns its simple name. -/
def IsShort (name : ClassName) : Prop :=
  name.topLevel = unit.topLevel ∨
    (name.outer ∉ visible.map (·.simpleName) ∧
      owner? unit visible names name.outer = some name.topLevel)

instance (name : ClassName) : Decidable (IsShort unit visible names name) :=
  inferInstanceAs (Decidable (_ ∨ _))

/-- The spelling of a class in a sequence of classes. -/
def spelling (name : ClassName) : String :=
  if IsShort unit visible names name then name.relativeText else name.text

variable {unit visible names}

theorem owner?_eq_some_iff {simple : String} (h : simple ≠ unit.outer) {top : ClassName} :
    owner? unit visible names simple = some top ↔
      simple ∉ visible.map (·.simpleName) ∧
        ∃ first, names.find? (·.outer = simple) = some first ∧ first.topLevel = top := by
  rw [owner?, if_neg h]
  split
  · next hs => simp [hs]
  · next hs => simp only [hs, not_false_eq_true, true_and, Option.map_eq_some_iff]

theorem outer_of_owner? {simple : String} {top : ClassName}
    (h : owner? unit visible names simple = some top) : top.outer = simple := by
  by_cases hs : simple = unit.outer
  · rw [owner?, if_pos hs] at h
    obtain rfl := Option.some.inj h
    exact hs.symm
  · obtain ⟨-, first, hfirst, rfl⟩ := (owner?_eq_some_iff hs).mp h
    change first.outer = simple
    simpa using List.find?_some hfirst

theorem owner?_unit : owner? unit visible names unit.outer = some unit.topLevel := by
  simp [owner?]

/-- Every class of the sequence leaves its simple name with an owner, unless a nested class has it. -/
theorem exists_owner?_of_mem {name : ClassName} (hmem : name ∈ names)
    (hvisible : name.outer ∉ visible.map (·.simpleName)) :
    ∃ top, owner? unit visible names name.outer = some top := by
  by_cases hs : name.outer = unit.outer
  · exact ⟨unit.topLevel, by rw [hs, owner?_unit]⟩
  · cases hfind : names.find? (·.outer = name.outer) with
    | some first => exact ⟨_, (owner?_eq_some_iff hs).mpr ⟨hvisible, first, hfind, rfl⟩⟩
    | none => simpa using List.find?_eq_none.mp hfind name hmem

/-- A claim is never lost to a later class. -/
theorem owner?_append {simple : String} {top : ClassName} (later : List ClassName)
    (h : owner? unit visible names simple = some top) :
    owner? unit visible (names ++ later) simple = some top := by
  by_cases hs : simple = unit.outer
  · rwa [owner?, if_pos hs] at h ⊢
  · obtain ⟨hvisible, first, hfirst, rfl⟩ := (owner?_eq_some_iff hs).mp h
    exact (owner?_eq_some_iff hs).mpr ⟨hvisible, first, by simp [hfirst], rfl⟩

/-- One more class changes the owner of its own simple name only, and only if it has none. -/
theorem owner?_concat {name : ClassName} (simple : String) :
    owner? unit visible (names ++ [name]) simple =
      if simple = name.outer ∧ simple ∉ visible.map (·.simpleName) ∧
          owner? unit visible names simple = none then some name.topLevel
      else owner? unit visible names simple := by
  by_cases hunit : simple = unit.outer
  · simp [owner?, hunit]
  · by_cases hvisible : simple ∈ visible.map (·.simpleName)
    · simp [owner?, hunit, hvisible]
    · rw [owner?, owner?, if_neg hunit, if_neg hvisible, if_neg hunit, if_neg hvisible,
        List.find?_append]
      cases hfind : names.find? (·.outer = simple) with
      | some first => simp
      | none =>
        by_cases hname : name.outer = simple
        · simp [hname, hvisible]
        · simp [hname, Ne.symm hname]

/-! ## The table after a sequence -/

/-- The table holds what the sequence of classes spelled so far says. -/
structure StateAfter (unit : ClassName) (visible names : List ClassName) (t : ImportTable) : Prop where
  unit_eq : t.unit = unit.topLevel
  shadowed_eq : t.shadowed = visible.map (·.simpleName)
  lookup_claimed : ∀ simple, t.claimed.lookup simple = owner? unit visible names simple
  /-- The imported classes own their simple names and would not be found without the import. -/
  mem_imported : ∀ top, top ∈ t.imported ↔
    top.outer ≠ unit.outer ∧ t.isInScope top = false ∧
      owner? unit visible names top.outer = some top

theorem stateAfter_ofUnit : StateAfter unit visible [] (ofUnit unit visible) where
  unit_eq := rfl
  shadowed_eq := rfl
  lookup_claimed simple := by
    by_cases h : simple = unit.outer
    · simp [ofUnit, owner?, h]
    · have hbeq : (simple == unit.outer) = false := by simpa using h
      simp [ofUnit, owner?, h, List.lookup_cons, hbeq]
  mem_imported top := by
    simp only [ofUnit, List.not_mem_nil, false_iff]
    rintro ⟨hne, -, howner⟩
    obtain ⟨-, first, hfirst, -⟩ := (owner?_eq_some_iff hne).mp howner
    cases hfirst

variable {t : ImportTable} {name : ClassName}

/-- The next class claims its simple name if nothing has it yet. -/
def Claims (unit : ClassName) (visible names : List ClassName) (name : ClassName) : Prop :=
  name.outer ∉ visible.map (·.simpleName) ∧ owner? unit visible names name.outer = none

instance : Decidable (Claims unit visible names name) := inferInstanceAs (Decidable (_ ∧ _))

theorem owner?_concat_of_claims (h : Claims unit visible names name) (simple : String) :
    owner? unit visible (names ++ [name]) simple =
      if simple = name.outer then some name.topLevel else owner? unit visible names simple := by
  rw [owner?_concat]
  by_cases hs : simple = name.outer
  · subst hs
    rw [if_pos ⟨rfl, h⟩, if_pos rfl]
  · rw [if_neg fun hc ↦ hs hc.1, if_neg hs]

theorem owner?_concat_of_not_claims (h : ¬Claims unit visible names name) (simple : String) :
    owner? unit visible (names ++ [name]) simple = owner? unit visible names simple := by
  rw [owner?_concat, if_neg]
  rintro ⟨rfl, hvisible, hnone⟩
  exact h ⟨hvisible, hnone⟩

/-- **One step**: how the table spells the next class, and when the class claims its name. -/
theorem StateAfter.shorten_eq (h : StateAfter unit visible names t) (name : ClassName) :
    t.shorten name = (spelling unit visible (names ++ [name]) name,
      if Claims unit visible names name then t.claim name.topLevel else t) := by
  unfold shorten
  -- The cases of the table: the file's own class, a hidden name, a taken one, a free one.
  by_cases hunit : name.topLevel = unit.topLevel
  · have hclaims : ¬Claims unit visible names name := by
      rintro ⟨-, hnone⟩
      rw [(ClassName.topLevel_eq_iff.mp hunit).2, owner?_unit] at hnone
      cases hnone
    have hshort : IsShort unit visible (names ++ [name]) name := Or.inl hunit
    rw [if_pos (hunit.trans h.unit_eq.symm), spelling, if_pos hshort, if_neg hclaims]
  · rw [if_neg (h.unit_eq ▸ hunit), h.shadowed_eq, h.lookup_claimed]
    by_cases hvisible : name.outer ∈ visible.map (·.simpleName)
    · have hshort : ¬IsShort unit visible (names ++ [name]) name := by
        rintro (hc | hc)
        · exact hunit hc
        · exact hc.1 hvisible
      rw [if_pos hvisible, spelling, if_neg hshort, if_neg fun hc ↦ hc.1 hvisible]
    · rw [if_neg hvisible]
      cases howner : owner? unit visible names name.outer with
      | some owner =>
        have hclaims : ¬Claims unit visible names name := by
          rintro ⟨-, hnone⟩
          rw [howner] at hnone
          cases hnone
        have hshort : IsShort unit visible (names ++ [name]) name ↔ owner = name.topLevel := by
          simp [IsShort, hunit, hvisible, owner?_concat_of_not_claims hclaims, howner]
        simp only [spelling, hshort, if_neg hclaims]
      | none =>
        have hclaims : Claims unit visible names name := ⟨hvisible, howner⟩
        have hshort : IsShort unit visible (names ++ [name]) name :=
          Or.inr ⟨hvisible, by rw [owner?_concat_of_claims hclaims, if_pos rfl]⟩
        simp only [spelling, if_pos hshort, if_pos hclaims]

theorem lookup_claim {top : ClassName} (simple : String) : (t.claim top).claimed.lookup simple =
    if simple = top.outer then some top else t.claimed.lookup simple := by
  split
  · next h =>
    rw [h]
    exact List.lookup_cons_self
  · next h =>
    have hbeq : (simple == top.outer) = false := beq_false_of_ne h
    simp [claim, List.lookup_cons, hbeq]

theorem mem_imported_claim_iff {top new : ClassName} : top ∈ (t.claim new).imported ↔
    (top = new ∧ t.isInScope new = false) ∨ top ∈ t.imported := by
  unfold claim
  cases t.isInScope new <;> simp

/-- A claim that nothing has made before is what one more class adds. -/
theorem StateAfter.claim (h : StateAfter unit visible names t) (hclaims : Claims unit visible names name) :
    StateAfter unit visible (names ++ [name]) (t.claim name.topLevel) where
  unit_eq := h.unit_eq
  shadowed_eq := h.shadowed_eq
  lookup_claimed simple := by
    rw [lookup_claim, owner?_concat_of_claims hclaims, h.lookup_claimed]
    rfl
  mem_imported top := by
    have hne : name.outer ≠ unit.outer := by
      intro heq
      have hnone := hclaims.2
      rw [heq, owner?_unit] at hnone
      cases hnone
    rw [mem_imported_claim_iff, owner?_concat_of_claims hclaims, h.mem_imported]
    change _ ↔ _ ∧ t.isInScope top = false ∧ _
    by_cases hs : top.outer = name.outer
    · -- The simple name had no owner, so nothing of this name is imported yet.
      rw [if_pos hs, hs, hclaims.2, Option.some.injEq]
      constructor
      · rintro (⟨rfl, hscope⟩ | ⟨-, -, hnone⟩)
        · exact ⟨hne, hscope, rfl⟩
        · cases hnone
      · rintro ⟨-, hscope, rfl⟩
        exact .inl ⟨rfl, hscope⟩
    · rw [if_neg hs, or_iff_right]
      rintro ⟨rfl, -⟩
      exact hs rfl

/-- Spelling one more class keeps the table in step with the sequence. -/
theorem StateAfter.shorten (h : StateAfter unit visible names t) (name : ClassName) :
    StateAfter unit visible (names ++ [name]) (t.shorten name).2 := by
  rw [h.shorten_eq]
  by_cases hclaims : Claims unit visible names name
  · rw [if_pos hclaims]
    exact h.claim hclaims
  · rw [if_neg hclaims]
    refine ⟨h.unit_eq, h.shadowed_eq, fun simple ↦ ?_, fun top ↦ ?_⟩
    · rw [owner?_concat_of_not_claims hclaims, h.lookup_claimed]
    · rw [owner?_concat_of_not_claims hclaims, h.mem_imported]

/-! ## Whole runs -/

/-- Later classes do not change how a class is spelled. -/
theorem isShort_append (later : List ClassName) (hmem : name ∈ names) :
    IsShort unit visible (names ++ later) name ↔ IsShort unit visible names name := by
  unfold IsShort
  refine or_congr_right (and_congr_right fun hvisible ↦ ?_)
  obtain ⟨top, htop⟩ : ∃ top, owner? unit visible names name.outer = some top :=
    exists_owner?_of_mem hmem hvisible
  rw [htop, owner?_append later htop]

theorem spelling_append (later : List ClassName) (hmem : name ∈ names) :
    spelling unit visible (names ++ later) name = spelling unit visible names name := by
  simp only [spelling, isShort_append later hmem]

/-- **A run, from any table in step with the classes before it**: every class is spelled as the whole
sequence says, and the table stays in step. -/
theorem StateAfter.spell (h : StateAfter unit visible names t) (rest : List ClassName) :
    (t.spell (rest.map .type)).1 = rest.map (spelling unit visible (names ++ rest)) ∧
      StateAfter unit visible (names ++ rest) (t.spell (rest.map .type)).2 := by
  -- On the classes still to come; the classes already spelled grow by one in the step.
  induction rest generalizing names t with
  | nil => exact ⟨rfl, by rwa [List.append_nil]⟩
  | cons name rest ih =>
    obtain ⟨hspelled, hstate⟩ := ih (h.shorten name)
    have hfirst : (t.shorten name).1 = spelling unit visible (names ++ name :: rest) name := by
      rw [h.shorten_eq, List.append_cons names name rest, spelling_append rest (by simp)]
    rw [List.append_assoc] at hspelled hstate
    refine ⟨?_, hstate⟩
    have hcons : (t.spell ((name :: rest).map .type)).1 =
        (t.shorten name).1 :: ((t.shorten name).2.spell (rest.map .type)).1 := rfl
    rw [hcons, hfirst, hspelled]
    rfl

end ImportTable

end JavaBuilder.Java
