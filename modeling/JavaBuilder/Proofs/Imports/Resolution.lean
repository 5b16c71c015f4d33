import Mathlib.Data.List.Forall2
import JavaBuilder.Proofs.Imports.Run
import JavaBuilder.Proofs.Java.ClassNameText

/-!
# Spellings and what the compiler takes them for

The other direction of the table: a spelling is resolved the way a compiler resolves it in the
finished file, where all imports are known and a simple name is looked up in the file itself, in the
imports, in the package of the file, and last in `java.lang`.

The table treats the package of the file and `java.lang` alike, as places that need no import. They
are not alike, because the package comes first. A class of `java.lang` that has claimed its simple
name is taken for a class of the package as soon as that one occurs too, and this is the only way in
which a spelling goes wrong.
-/

namespace JavaBuilder.Java

open Text ClassName

/-- What a simple name can mean in a finished file. -/
structure Scope where
  /-- The top-level class of the file. -/
  own : ClassName
  /-- The classes imported by name. -/
  imports : List ClassName
  /-- The classes known in the package of the file. -/
  package : List ClassName

namespace Scope

variable (scope : Scope)

/-- The top-level class of a simple name. -/
def lookup (simple : String) : ClassName :=
  if simple = scope.own.outer then scope.own.topLevel
  else match scope.imports.find? (·.outer = simple) with
    | some found => found.topLevel
    | none => match scope.package.find? (·.outer = simple) with
      | some found => found.topLevel
      | none => javaLang simple

/-- The class of a spelling. One that starts with a package is taken as written. -/
def resolve? (spelling : String) : Option ClassName :=
  match split '.' spelling with
  | [] => none
  | first :: members =>
    if startsCapital first then some { scope.lookup first with inner := members }
    else parse? spelling

end Scope

variable (unit : ClassName) (visible names : List ClassName)

/-- The spellings of a sequence of classes, and the table at the end. -/
def spellAll : List String × ImportTable :=
  (ImportTable.ofUnit unit visible).spell (names.map .type)

/-- What simple names mean at the end of the sequence. -/
def finalScope : Scope where
  own := unit.topLevel
  imports := (spellAll unit visible names).2.imported
  package := names.filter (·.package = unit.package)

/-- Every class of the sequence is what its spelling is taken for. -/
def ResolvesAll : Prop :=
  List.Forall₂ (fun name s ↦ (finalScope unit visible names).resolve? s = some name)
    names (spellAll unit visible names).1

/-- A class of `java.lang` is the first of the sequence with its simple name, and a class of the
file's own package has the same name. -/
def HidesJavaLang : Prop :=
  unit.package ≠ ["java", "lang"] ∧ ∃ first, first.package = ["java", "lang"] ∧
    first.outer ≠ unit.outer ∧ first.outer ∉ visible.map (·.simpleName) ∧
    names.find? (·.outer = first.outer) = some first ∧
    ∃ other ∈ names, other.outer = first.outer ∧ other.package = unit.package

variable {unit visible names}

namespace Scope

variable {scope : Scope} {name : ClassName}

theorem resolve?_text (h : name.IsReadable) (hpackage : name.package ≠ []) :
    scope.resolve? name.text = some name := by
  rw [resolve?, split_text h.identifiers]
  cases hp : name.package with
  | nil => exact absurd hp hpackage
  | cons first rest =>
    have hlower : startsCapital first = false := h.lower first (by simp [hp])
    simp only [List.cons_append, hlower, Bool.false_eq_true, if_false]
    exact parse?_text_iff.mpr h

theorem resolve?_relativeText (h : name.IsReadable) :
    scope.resolve? name.relativeText = some { scope.lookup name.outer with inner := name.inner } := by
  rw [resolve?, split_relativeText fun s hs ↦ h.identifiers s (List.mem_append_right _ hs)]
  simp only [simpleNames, h.capital, if_true]

/-- A short spelling is right if the simple name is. -/
theorem resolve?_relativeText_iff (h : name.IsReadable)
    (htop : (scope.lookup name.outer).topLevel = scope.lookup name.outer) :
    scope.resolve? name.relativeText = some name ↔ scope.lookup name.outer = name.topLevel := by
  rw [resolve?_relativeText h, Option.some.injEq]
  constructor
  · intro heq
    have := congrArg topLevel heq
    exact htop.symm.trans this
  · intro heq
    rw [heq]
    rfl

theorem topLevel_lookup (simple : String) :
    (scope.lookup simple).topLevel = scope.lookup simple := by
  unfold lookup
  split
  · rfl
  · split
    · rfl
    · split <;> rfl

end Scope

/-! ## Looking up the owner of a simple name -/

open ImportTable

theorem stateAfter_spellAll : StateAfter unit visible names (spellAll unit visible names).2 :=
  (stateAfter_ofUnit.spell names).2

theorem spellAll_fst :
    (spellAll unit visible names).1 = names.map (spelling unit visible names) :=
  (stateAfter_ofUnit.spell names).1

theorem isInScope_spellAll (top : ClassName) :
    (spellAll unit visible names).2.isInScope top = true ↔
      top.package = ["java", "lang"] ∨ top.package = unit.package := by
  rw [isInScope, stateAfter_spellAll.unit_eq, Bool.or_eq_true, beq_iff_eq, beq_iff_eq]
  rfl

theorem lookup_own : (finalScope unit visible names).lookup unit.outer = unit.topLevel := by
  rw [Scope.lookup]
  exact if_pos rfl

theorem owner?_topLevel {simple : String} {top : ClassName} (hown : simple ≠ unit.outer)
    (howner : owner? unit visible names simple = some top) :
    ∃ first ∈ names, first.outer = simple ∧ first.topLevel = top := by
  obtain ⟨-, first, hfirst, htop⟩ := (owner?_eq_some_iff hown).mp howner
  exact ⟨first, List.mem_of_find?_eq_some hfirst, by simpa using List.find?_some hfirst, htop⟩

/-- An owner that needs an import is the only import of its simple name. -/
theorem find?_imports_of_not_inScope {simple : String} {top : ClassName}
    (hown : simple ≠ unit.outer) (howner : owner? unit visible names simple = some top)
    (hscope : (spellAll unit visible names).2.isInScope top = false) :
    (finalScope unit visible names).imports.find? (·.outer = simple) = some top := by
  have houter : top.outer = simple := outer_of_owner? howner
  have hmem : top ∈ (finalScope unit visible names).imports :=
    (stateAfter_spellAll.mem_imported top).mpr ⟨houter ▸ hown, hscope, houter ▸ howner⟩
  cases hfind : (finalScope unit visible names).imports.find? (·.outer = simple) with
  | none => simpa [houter] using List.find?_eq_none.mp hfind top hmem
  | some found =>
    have hfound : found.outer = simple := by simpa using List.find?_some hfind
    have := ((stateAfter_spellAll.mem_imported found).mp (List.mem_of_find?_eq_some hfind)).2.2
    rw [hfound, howner] at this
    rw [Option.some.inj this]

/-- An owner that needs no import keeps its simple name out of the imports. -/
theorem find?_imports_of_inScope {simple : String} {top : ClassName}
    (howner : owner? unit visible names simple = some top)
    (hscope : (spellAll unit visible names).2.isInScope top = true) :
    (finalScope unit visible names).imports.find? (·.outer = simple) = none := by
  rw [List.find?_eq_none]
  intro found hmem
  obtain ⟨-, hfalse, hfound⟩ := (stateAfter_spellAll.mem_imported found).mp hmem
  simp only [decide_eq_true_eq]
  rintro rfl
  rw [howner] at hfound
  rw [← Option.some.inj hfound, hscope] at hfalse
  cases hfalse

/-- The owner of a simple name is what the compiler finds, unless it is hidden. -/
theorem lookup_owner_iff {simple : String} {top : ClassName} (hown : simple ≠ unit.outer)
    (howner : owner? unit visible names simple = some top) :
    (finalScope unit visible names).lookup simple = top ↔
      ¬(top.package = ["java", "lang"] ∧ unit.package ≠ ["java", "lang"] ∧
        ∃ other ∈ names, other.outer = simple ∧ other.package = unit.package) := by
  obtain ⟨first, hfirst, hsimple, rfl⟩ := owner?_topLevel hown howner
  rw [Scope.lookup, if_neg (show simple ≠ (finalScope unit visible names).own.outer from hown)]
  -- An imported owner is found first. One that needs no import is in the file's package, or in
  -- `java.lang`, where a class of the package may hide it.
  by_cases hscope : (spellAll unit visible names).2.isInScope first.topLevel = true
  · rw [find?_imports_of_inScope howner hscope]
    rw [isInScope_spellAll] at hscope
    cases hfind : (finalScope unit visible names).package.find? (·.outer = simple) with
    | some other =>
      obtain ⟨hmem, hpackage⟩ : other ∈ names ∧ other.package = unit.package := by
        simpa [finalScope] using List.mem_of_find?_eq_some hfind
      have houter : other.outer = simple := by simpa using List.find?_some hfind
      have hsame : other.topLevel = first.topLevel ↔ unit.package = first.package := by
        simp [topLevel, hpackage, houter, hsimple]
      simp only [hsame]
      constructor
      · rintro heq ⟨hlang, hunit, -⟩
        exact hunit (heq.trans hlang)
      · intro hhidden
        by_contra hne
        rcases hscope with hlang | hunit
        · exact hhidden ⟨hlang, fun h ↦ hne (h.trans hlang.symm), other, hmem, houter, hpackage⟩
        · exact hne hunit.symm
    | none =>
      have hnone : ∀ c ∈ names, c.package = unit.package → c.outer ≠ simple := by
        simpa [finalScope] using hfind
      have hlang : first.package = ["java", "lang"] :=
        hscope.resolve_right fun h ↦ hnone first hfirst h hsimple
      refine iff_of_true ?_ ?_
      · simp [javaLang, top, topLevel, hlang, hsimple]
      · rintro ⟨-, -, other, hmem, houter, hpackage⟩
        exact hnone other hmem hpackage houter
  · rw [find?_imports_of_not_inScope hown howner (by simpa using hscope)]
    rw [isInScope_spellAll] at hscope
    exact iff_of_true rfl fun h ↦ hscope (Or.inl h.1)

/-! ## Soundness -/

/-- The class is spelled short, but its simple name is taken for a class of the file's package. -/
def IsHidden (unit : ClassName) (visible names : List ClassName) (name : ClassName) : Prop :=
  name.outer ≠ unit.outer ∧ IsShort unit visible names name ∧ name.package = ["java", "lang"] ∧
    unit.package ≠ ["java", "lang"] ∧
      ∃ other ∈ names, other.outer = name.outer ∧ other.package = unit.package

/-- One spelling of a run is right unless its class is hidden. -/
theorem resolve?_spelling_iff {name : ClassName} (hread : name.IsReadable)
    (hpackage : name.package ≠ []) :
    (finalScope unit visible names).resolve? (spelling unit visible names name) = some name ↔
      ¬IsHidden unit visible names name := by
  rw [spelling]
  split
  · next hshort =>
    rw [Scope.resolve?_relativeText_iff hread (Scope.topLevel_lookup _)]
    by_cases hown : name.outer = unit.outer
    · rw [hown, lookup_own]
      refine iff_of_true ?_ fun h ↦ h.1 hown
      rcases hshort with htop | ⟨-, howner⟩
      · exact htop.symm
      · rw [hown, owner?_unit] at howner
        exact Option.some.inj howner
    · have howner : owner? unit visible names name.outer = some name.topLevel :=
        (hshort.resolve_left fun h ↦ hown (topLevel_eq_iff.mp h).2).2
      rw [lookup_owner_iff hown howner]
      simp only [IsHidden, hown, hshort, ne_eq, not_false_eq_true, true_and]
      rfl
  · next hshort =>
    exact iff_of_true (Scope.resolve?_text hread hpackage) fun h ↦ hshort h.2.1

/-- A class is hidden in the run only if the first class with its simple name is. -/
theorem exists_isHidden_iff :
    (∃ name ∈ names, IsHidden unit visible names name) ↔ HidesJavaLang unit visible names := by
  constructor
  · rintro ⟨name, -, hown, hshort, hlang, hunit, other⟩
    obtain ⟨hvisible, howner⟩ := hshort.resolve_left fun h ↦ hown (topLevel_eq_iff.mp h).2
    obtain ⟨-, first, hfirst, htop⟩ := (owner?_eq_some_iff hown).mp howner
    obtain ⟨hpackage, houter⟩ := topLevel_eq_iff.mp htop
    rw [← houter] at hown hvisible hfirst other
    exact ⟨hunit, first, hpackage.trans hlang, hown, hvisible, hfirst, other⟩
  · rintro ⟨hunit, first, hlang, hown, hvisible, hfirst, other⟩
    have howner : owner? unit visible names first.outer = some first.topLevel :=
      (owner?_eq_some_iff hown).mpr ⟨hvisible, first, hfirst, rfl⟩
    exact ⟨first, List.mem_of_find?_eq_some hfirst, hown, Or.inr ⟨hvisible, howner⟩, hlang, hunit,
      other⟩

/-- **Spellings are sound exactly when no class of `java.lang` is hidden by the file's package.** -/
theorem resolvesAll_iff_not_hidesJavaLang
    (h : ∀ name ∈ names, name.IsRead ∧ name.package ≠ []) :
    ResolvesAll unit visible names ↔ ¬HidesJavaLang unit visible names := by
  rw [ResolvesAll, spellAll_fst, List.forall₂_map_right_iff, List.forall₂_same,
    ← exists_isHidden_iff]
  simp only [not_exists, not_and]
  refine forall₂_congr fun name hmem ↦ ?_
  exact resolve?_spelling_iff (isRead_iff.mp (h name hmem).1) (h name hmem).2

/-- Two imported classes with one simple name do not get in each other's way. -/
theorem resolvesAll_lists :
    ResolvesAll (top ["com", "example"] "Person") []
      [javaUtil "List", top ["java", "awt"] "List", javaUtil "List"] := by
  refine (resolvesAll_iff_not_hidesJavaLang ?_).mpr ?_
  · simp only [List.forall_mem_cons]
    exact ⟨by decide, by decide, by decide, by simp⟩
  · rintro ⟨-, first, hlang, -, -, hfirst, -⟩
    have hmem := List.mem_of_find?_eq_some hfirst
    simp only [List.mem_cons, List.not_mem_nil, or_false] at hmem
    rcases hmem with rfl | rfl | rfl <;> exact absurd hlang (by decide)

/-- A string that is no longer one: after `java.lang.String`, a `String` in the file's package. -/
theorem not_resolvesAll_string :
    ¬∀ (unit : ClassName) (visible names : List ClassName),
      (∀ name ∈ names, name.IsRead ∧ name.package ≠ []) → ResolvesAll unit visible names := by
  intro h
  have hall := h (top ["com", "example"] "Person_Builder") []
    [javaLang "String", top ["com", "example"] "String"] <| by
      simp only [List.forall_mem_cons]
      exact ⟨by decide, by decide, by simp⟩
  rw [ResolvesAll] at hall
  cases hall with
  | cons hfirst _ => exact absurd hfirst (by decide)

end JavaBuilder.Java
