import Mathlib.Data.List.Nodup
import JavaBuilder.Proofs.Imports.Resolution
import JavaBuilder.Proofs.Text.Order

/-!
# Spellings and imports agree

The table at the end of a run is a set of imports next to a list of spellings that were given out while
it grew. Here the two are held against each other: which class of the run has claimed its simple name
can be said without the table, the claimants are spelled short, those of them the compiler would not
find are the imports, and every other class is spelled in full.

A spelling then stands for one class. Two short spellings agree only if one top-level class owns their
first segment, and a short spelling is never a full one, because a full one starts with a package and
packages start in lower case.
-/

namespace JavaBuilder.Java

open Text ClassName ImportTable

variable (unit : ClassName) (visible names : List ClassName)

/-- The top-level class of the class is the first of the sequence with its simple name, which neither
the file's own class nor a nested class in scope has. -/
def HasClaimed (name : ClassName) : Prop :=
  name.outer ≠ unit.outer ∧ name.outer ∉ visible.map (·.simpleName) ∧
    (names.find? (·.outer = name.outer)).map (·.topLevel) = some name.topLevel

/-- The compiler finds the class only if it is imported. -/
def NeedsImport (name : ClassName) : Prop :=
  name.package ≠ ["java", "lang"] ∧ name.package ≠ unit.package

/-- The spellings of a sequence of classes and the imports of the file fit together. -/
structure IsConsistent (spelled imports : List String) : Prop where
  length_eq : spelled.length = names.length
  /-- A class has one spelling wherever it occurs, and shares it with no other class. -/
  same_iff : ∀ i j : Nat, spelled[i]? = spelled[j]? ↔ names[i]? = names[j]?
  /-- The classes of the file and the claimants are spelled without their package. -/
  short_iff : ∀ (i : Nat) (name : ClassName), names[i]? = some name → (spelled[i]? = some name.relativeText ↔
    name.topLevel = unit.topLevel ∨ HasClaimed unit visible names name)
  /-- All others are spelled in full. -/
  full_iff : ∀ (i : Nat) (name : ClassName), names[i]? = some name → (spelled[i]? = some name.text ↔
    ¬(name.topLevel = unit.topLevel ∨ HasClaimed unit visible names name))
  sorted : imports.Pairwise (· < ·)
  /-- No two imports end in one simple name. -/
  nodup_simple : (imports.map fun text ↦ (split '.' text).getLast?).Nodup
  /-- Nothing is imported that is found anyway, or that another class in scope would hide. -/
  free : ∀ text ∈ imports, ∃ imported, parse? text = some imported ∧ imported.isTopLevel = true ∧
    NeedsImport unit imported ∧ imported.outer ≠ unit.outer ∧
      imported.outer ∉ visible.map (·.simpleName)
  /-- No import is missing and none is unused. -/
  mem_iff : ∀ text, text ∈ imports ↔ ∃ name ∈ names,
    HasClaimed unit visible names name ∧ NeedsImport unit name ∧ name.topLevel.text = text

variable {unit visible names} {name other : ClassName}

/-! ## Who has claimed a simple name -/

theorem hasClaimed_iff_owner? (h : name.outer ≠ unit.outer) :
    HasClaimed unit visible names name ↔
      owner? unit visible names name.outer = some name.topLevel := by
  rw [HasClaimed, owner?_eq_some_iff h, Option.map_eq_some_iff]
  exact and_iff_right h

theorem isShort_iff_hasClaimed : IsShort unit visible names name ↔
    name.topLevel = unit.topLevel ∨ HasClaimed unit visible names name := by
  by_cases h : name.outer = unit.outer
  · have howner : owner? unit visible names name.outer = some unit.topLevel := by
      rw [h, owner?_unit]
    rw [IsShort, howner, Option.some.injEq]
    constructor
    · rintro (htop | ⟨-, htop⟩)
      · exact Or.inl htop
      · exact Or.inl htop.symm
    · rintro (htop | hclaimed)
      · exact Or.inl htop
      · exact absurd h hclaimed.1
  · refine or_congr_right ?_
    rw [hasClaimed_iff_owner? h, and_iff_right_iff_imp]
    exact fun howner ↦ ((owner?_eq_some_iff h).mp howner).1

theorem owner?_of_isShort (h : IsShort unit visible names name) :
    owner? unit visible names name.outer = some name.topLevel := by
  rcases h with htop | ⟨-, howner⟩
  · rw [(topLevel_eq_iff.mp htop).2, htop, owner?_unit]
  · exact howner

/-- The top-level class of a class that claimed its simple name is the first with that name. -/
theorem exists_hasClaimed_of_owner? {top : ClassName} (h : top.outer ≠ unit.outer)
    (howner : owner? unit visible names top.outer = some top) :
    ∃ first ∈ names, HasClaimed unit visible names first ∧ first.topLevel = top := by
  obtain ⟨first, hmem, houter, htop⟩ := owner?_topLevel h howner
  refine ⟨first, hmem, ?_, htop⟩
  rw [hasClaimed_iff_owner? (houter ▸ h), houter, howner, htop]

/-! ## Different classes -/

theorem relativeText_ne_text (hname : name.IsReadable) (hother : other.IsReadable)
    (hpackage : other.package ≠ []) : name.relativeText ≠ other.text := by
  intro heq
  have hsegments : name.simpleNames = other.package ++ other.simpleNames := by
    rw [← split_relativeText fun s hs ↦ hname.identifiers s (List.mem_append_right _ hs),
      ← split_text hother.identifiers, heq]
  obtain ⟨first, rest, hp⟩ := List.exists_cons_of_ne_nil hpackage
  rw [hp, simpleNames, List.cons_append, List.cons.injEq] at hsegments
  have hlower : startsCapital first = false := hother.lower first (by simp [hp])
  rw [← hsegments.1, hname.capital] at hlower
  cases hlower

theorem text_injective (hname : name.IsReadable) (hother : other.IsReadable)
    (h : name.text = other.text) : name = other := by
  have hread := parse?_text_iff.mpr hname
  rw [h, parse?_text_iff.mpr hother] at hread
  exact (Option.some.inj hread).symm

/-- The owner of the first segment tells the package of a short spelling. -/
theorem relativeText_injective (hname : name.IsReadable) (hother : other.IsReadable)
    (hshort : IsShort unit visible names name) (hshort' : IsShort unit visible names other)
    (h : name.relativeText = other.relativeText) : name = other := by
  have hsimple : name.simpleNames = other.simpleNames := by
    rw [← split_relativeText fun s hs ↦ hname.identifiers s (List.mem_append_right _ hs),
      ← split_relativeText fun s hs ↦ hother.identifiers s (List.mem_append_right _ hs), h]
  obtain ⟨houter, hinner⟩ := List.cons.inj hsimple
  have howner := owner?_of_isShort hshort
  rw [houter, owner?_of_isShort hshort', Option.some.injEq] at howner
  obtain ⟨hpackage, -⟩ := topLevel_eq_iff.mp howner
  obtain ⟨package, outer, inner⟩ := name
  obtain ⟨package', outer', inner'⟩ := other
  obtain rfl : package' = package := hpackage
  obtain rfl : outer = outer' := houter
  obtain rfl : inner = inner' := hinner
  rfl

/-- **A spelling stands for one class.** -/
theorem spelling_injective (hname : name.IsReadable ∧ name.package ≠ [])
    (hother : other.IsReadable ∧ other.package ≠ [])
    (h : spelling unit visible names name = spelling unit visible names other) : name = other := by
  unfold spelling at h
  split_ifs at h with hshort hshort' hshort'
  · exact relativeText_injective hname.1 hother.1 hshort hshort' h
  · exact absurd h (relativeText_ne_text hname.1 hother.1 hother.2)
  · exact absurd h.symm (relativeText_ne_text hother.1 hname.1 hname.2)
  · exact text_injective hname.1 hother.1 h

/-- Two places in a sequence have one spelling only if they have one class. -/
theorem getElem?_map_spelling_iff (hread : ∀ name ∈ names, name.IsReadable ∧ name.package ≠ [])
    {i j : Nat} :
    (names.map (spelling unit visible names))[i]? = (names.map (spelling unit visible names))[j]? ↔
      names[i]? = names[j]? := by
  rw [List.getElem?_map, List.getElem?_map]
  constructor
  · intro heq
    cases hi : names[i]? with
    | none =>
      rw [hi, Option.map_none, eq_comm, Option.map_eq_none_iff] at heq
      exact heq.symm
    | some name =>
      rw [hi, Option.map_some, eq_comm, Option.map_eq_some_iff] at heq
      obtain ⟨other, hj, hspelling⟩ := heq
      rw [hj, spelling_injective (hread other (List.mem_of_getElem? hj))
        (hread name (List.mem_of_getElem? hi)) hspelling]
  · intro heq
    rw [heq]

theorem spelling_eq_relativeText_iff (hname : name.IsReadable ∧ name.package ≠ []) :
    spelling unit visible names name = name.relativeText ↔ IsShort unit visible names name := by
  unfold spelling
  split_ifs with hshort
  · simp [hshort]
  · exact iff_of_false (Ne.symm (relativeText_ne_text hname.1 hname.1 hname.2)) hshort

theorem spelling_eq_text_iff (hname : name.IsReadable ∧ name.package ≠ []) :
    spelling unit visible names name = name.text ↔ ¬IsShort unit visible names name := by
  unfold spelling
  split_ifs with hshort
  · exact iff_of_false (relativeText_ne_text hname.1 hname.1 hname.2) (not_not_intro hshort)
  · simp [hshort]

/-! ## The imports -/

theorem mem_imported_iff {top : ClassName} : top ∈ (spellAll unit visible names).2.imported ↔
    ∃ name ∈ names, HasClaimed unit visible names name ∧ NeedsImport unit name ∧
      name.topLevel = top := by
  have hscope : (spellAll unit visible names).2.isInScope top = false ↔ NeedsImport unit top := by
    rw [← Bool.not_eq_true, isInScope_spellAll, not_or]
    rfl
  rw [stateAfter_spellAll.mem_imported, hscope]
  constructor
  · rintro ⟨houter, hneeds, howner⟩
    obtain ⟨first, hmem, hclaimed, rfl⟩ := exists_hasClaimed_of_owner? houter howner
    exact ⟨first, hmem, hclaimed, hneeds, rfl⟩
  · rintro ⟨first, -, hclaimed, hneeds, rfl⟩
    exact ⟨hclaimed.1, hneeds, (hasClaimed_iff_owner? hclaimed.1).mp hclaimed⟩

theorem mem_names_iff {text : String} : text ∈ (spellAll unit visible names).2.names ↔
    ∃ name ∈ names, HasClaimed unit visible names name ∧ NeedsImport unit name ∧
      name.topLevel.text = text := by
  rw [ImportTable.names, mem_sortedSet, List.mem_map]
  constructor
  · rintro ⟨top, hmem, rfl⟩
    obtain ⟨name, hname, hclaimed, hneeds, rfl⟩ := mem_imported_iff.mp hmem
    exact ⟨name, hname, hclaimed, hneeds, rfl⟩
  · rintro ⟨name, hname, hclaimed, hneeds, rfl⟩
    exact ⟨name.topLevel, mem_imported_iff.mpr ⟨name, hname, hclaimed, hneeds, rfl⟩, rfl⟩

theorem pairwise_names (t : ImportTable) : t.names.Pairwise (· < ·) :=
  pairwise_sortedSet fun text _ text' _ hne hlt ↦ by
    by_contra hnot
    exact hne (Std.Trichotomous.trichotomous text text' hlt hnot)

theorem isReadable_topLevel (h : name.IsReadable) : name.topLevel.IsReadable where
  identifiers s hs := h.identifiers s <| by
    simp only [topLevel, simpleNames, List.mem_append, List.mem_cons, List.not_mem_nil,
      or_false] at hs ⊢
    tauto
  lower := h.lower
  capital := h.capital

theorem getLast?_split_topLevel (h : name.IsReadable) :
    (split '.' name.topLevel.text).getLast? = some name.outer := by
  rw [split_text (isReadable_topLevel h).identifiers]
  simp [topLevel, simpleNames]

/-- Two claimants with one simple name live in one top-level class. -/
theorem topLevel_eq_of_hasClaimed (h : HasClaimed unit visible names name)
    (h' : HasClaimed unit visible names other) (houter : name.outer = other.outer) :
    name.topLevel = other.topLevel := by
  have howner := (hasClaimed_iff_owner? h.1).mp h
  rw [houter, (hasClaimed_iff_owner? h'.1).mp h', Option.some.injEq] at howner
  exact howner.symm

/-- **A run of any length leaves spellings and imports that fit together.** -/
theorem isConsistent_spellAll (h : ∀ name ∈ names, name.IsRead ∧ name.package ≠ []) :
    IsConsistent unit visible names (spellAll unit visible names).1
      (spellAll unit visible names).2.names := by
  have hread : ∀ name ∈ names, name.IsReadable ∧ name.package ≠ [] := fun name hmem ↦
    ⟨isRead_iff.mp (h name hmem).1, (h name hmem).2⟩
  rw [spellAll_fst]
  refine ⟨List.length_map _, fun i j ↦ getElem?_map_spelling_iff hread,
    fun i name hname ↦ ?short, fun i name hname ↦ ?full, pairwise_names _, ?simple,
    fun text hmem ↦ ?free, fun text ↦ mem_names_iff⟩
  case short =>
    rw [List.getElem?_map, hname, Option.map_some, Option.some.injEq,
      spelling_eq_relativeText_iff (hread name (List.mem_of_getElem? hname)),
      isShort_iff_hasClaimed]
  case full =>
    rw [List.getElem?_map, hname, Option.map_some, Option.some.injEq,
      spelling_eq_text_iff (hread name (List.mem_of_getElem? hname)), isShort_iff_hasClaimed]
  case simple =>
    refine List.Nodup.map_on (fun text hmem text' hmem' hlast ↦ ?_)
      ((pairwise_names _).imp String.ne_of_lt)
    obtain ⟨name, hname, hclaimed, -, rfl⟩ := mem_names_iff.mp hmem
    obtain ⟨other, hother, hclaimed', -, rfl⟩ := mem_names_iff.mp hmem'
    rw [getLast?_split_topLevel (hread name hname).1, getLast?_split_topLevel (hread other hother).1,
      Option.some.injEq] at hlast
    rw [topLevel_eq_of_hasClaimed hclaimed hclaimed' hlast]
  case free =>
    obtain ⟨name, hname, hclaimed, hneeds, rfl⟩ := mem_names_iff.mp hmem
    exact ⟨name.topLevel, parse?_text_iff.mpr (isReadable_topLevel (hread name hname).1), rfl,
      hneeds, hclaimed.1, hclaimed.2.1⟩

/-- A nested class claims for its top-level class, and the second `List` and a hidden `Value` are
spelled in full. -/
theorem isConsistent_spellAll_lists :
    IsConsistent (top ["com", "example"] "Person_Builder")
      [(top ["com", "example"] "Person_Builder").nested "Value"]
      [(javaUtil "Map").nested "Entry", javaUtil "List", top ["java", "awt"] "List", javaUtil "Map",
        top ["org", "other"] "Value", javaLang "String"]
      ["Map.Entry", "List", "java.awt.List", "Map", "org.other.Value", "String"]
      ["java.util.List", "java.util.Map"] :=
  isConsistent_spellAll <| by
    simp only [List.forall_mem_cons]
    exact ⟨by decide, by decide, by decide, by decide, by decide, by decide, by simp⟩

end JavaBuilder.Java
