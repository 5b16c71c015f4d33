import Mathlib.Data.List.Nodup
import JavaBuilder.Proofs.Project.OutputPaths

/-!
# Descriptors in any order

Descriptors come in the order in which a search finds their files, and what is generated from them does
not depend on it. The table of types is sorted by the names of the types, so its entries are those of the
descriptors in an order of their own, and it is the same table for every order in which the descriptors are
added. The types are then taken by name, and the first that is rejected is the one with the least name.

Where two descriptors are of one type there is no table, and nothing is generated at all. Which of the two
is named first does depend on the order.
-/

namespace JavaBuilder.Project

open Builder Text

/-- The name by which a descriptor is told apart. -/
def LoadedDescriptor.typeText (l : LoadedDescriptor) : String := l.descriptor.type.text

/-- What is generated from descriptors of different types. -/
inductive GeneratesByName (config : Config) (loaded : List LoadedDescriptor) :
    Except GenerateFault (List GeneratedFile) → Prop
  /-- One file for each descriptor, by the names of the types. -/
  | files {sorted : List LoadedDescriptor} {files : List GeneratedFile} (hperm : sorted.Perm loaded)
    (hsorted : (files.map (·.type)).Pairwise (· < ·))
    (hfiles : List.Forall₂ (fun l file ↦ generateFile config l.typeText l = .ok file) sorted files) :
    GeneratesByName config loaded (.ok files)
  /-- The least name of a type that is rejected. -/
  | rejected {l : LoadedDescriptor} {e : Model.Error} (hmem : l ∈ loaded)
    (hl : generate config l.descriptor = .error e)
    (hleast : ∀ m ∈ loaded, m.typeText < l.typeText → ∃ g, generate config m.descriptor = .ok g) :
    GeneratesByName config loaded (.error (.rejected l.typeText e))

/-- The fault names the first descriptor that is of the type of an earlier one, and the earlier one. -/
def RepeatsType (loaded : List LoadedDescriptor) (fault : GenerateFault) : Prop :=
  ∃ before l after, loaded = before ++ l :: after ∧ (before.map (·.typeText)).Nodup ∧
    ∃ first ∈ before, first.typeText = l.typeText ∧
      fault = .duplicate l.typeText first.path l.path

variable {config : Config} {l : LoadedDescriptor} {loaded loaded' sorted : List LoadedDescriptor}
  {table : ByType} {type : String} {file : GeneratedFile} {fault : GenerateFault}

/-! ## One descriptor -/

theorem generateFile_eq_ok_iff : generateFile config type l = .ok file ↔
    ∃ g, generate config l.descriptor = .ok g ∧
      file = ⟨type, l.path, Generated.path g.type, g.text, g.strategies⟩ := by
  rw [generateFile]
  cases generate config l.descriptor with
  | ok g => simp [Except.mapError, pure, Except.pure, eq_comm]
  | error e => simp [Except.mapError, bind, Except.bind]

theorem generateFile_eq_error_iff : generateFile config type l = .error fault ↔
    ∃ e, generate config l.descriptor = .error e ∧ fault = .rejected type e := by
  rw [generateFile]
  cases generate config l.descriptor with
  | ok g => simp [Except.mapError, pure, Except.pure]
  | error e => simp [Except.mapError, bind, Except.bind, eq_comm]

theorem addByType_eq_error_iff : addByType table l = .error fault ↔
    ∃ first, table.lookup l.typeText = some first ∧
      fault = .duplicate l.typeText first.path l.path := by
  rw [LoadedDescriptor.typeText]
  cases hlookup : table.lookup l.descriptor.type.text with
  | none => simp [addByType, hlookup, pure, Except.pure]
  | some m => simp [addByType, hlookup, throw, throwThe, MonadExceptOf.throw, eq_comm]

/-! ## The table of all descriptors -/

theorem mem_of_lookup {first : LoadedDescriptor} (h : table.Perm (loaded.map entryOf))
    (hlookup : table.lookup type = some first) : first ∈ loaded ∧ first.typeText = type := by
  obtain ⟨l₁, l₂, heq, -⟩ := List.lookup_eq_some_iff.mp hlookup
  have hmem : (type, first) ∈ loaded.map entryOf := h.mem_iff.mp (by simp [heq])
  obtain ⟨m, hm, hentry⟩ := List.mem_map.mp hmem
  obtain ⟨rfl, rfl⟩ := Prod.mk.inj hentry
  exact ⟨hm, rfl⟩

theorem pairwise_of_foldlM_addByType (h : loaded.foldlM addByType [] = .ok table) :
    (table.map (·.1)).Pairwise (· < ·) :=
  foldlM_invariant (I := fun table : ByType ↦ (table.map (·.1)).Pairwise (· < ·))
    (fun _ _ _ hstep hsorted ↦ (addByType_eq_ok_iff.mp hstep).2 ▸ pairwise_putSorted hsorted) h .nil

theorem exists_sorted_of_foldlM (h : loaded.foldlM addByType [] = .ok table) :
    ∃ sorted : List LoadedDescriptor, table = sorted.map entryOf ∧ sorted.Perm loaded ∧
      sorted.Pairwise (·.typeText < ·.typeText) := by
  have hperm : table.Perm (loaded.map entryOf) := by
    simpa using (perm_of_foldlM_addByType h).1
  have htable : (table.map (·.2)).map entryOf = table := by
    rw [List.map_map]
    refine (List.map_congr_left fun e he ↦ ?_).trans (List.map_id table)
    obtain ⟨l, -, rfl⟩ := List.mem_map.mp (hperm.mem_iff.mp he)
    rfl
  refine ⟨table.map (·.2), htable.symm, ?_, ?_⟩
  · simpa [Function.comp_def, entryOf] using hperm.map (·.2)
  · have hsorted := pairwise_of_foldlM_addByType h
    rw [← htable, List.map_map, List.pairwise_map] at hsorted
    exact hsorted

theorem nodup_of_foldlM_addByType (h : loaded.foldlM addByType [] = .ok table) :
    (loaded.map (·.typeText)).Nodup := by
  obtain ⟨hperm, hnodup⟩ := perm_of_foldlM_addByType h
  rw [List.append_nil] at hperm
  have hkeys := hnodup .nil
  rw [(hperm.map (·.1)).nodup_iff, List.map_map] at hkeys
  exact hkeys

/-- Adding fails at the first descriptor that is of the type of an earlier one. -/
theorem repeatsType_of_foldlM_addByType (h : loaded.foldlM addByType [] = .error fault) :
    RepeatsType loaded fault := by
  obtain ⟨before, l, after, table, rfl, hbefore, hl⟩ := foldlM_eq_error_iff.mp h
  obtain ⟨first, hfirst, rfl⟩ := addByType_eq_error_iff.mp hl
  have hperm := (perm_of_foldlM_addByType hbefore).1
  rw [List.append_nil] at hperm
  obtain ⟨hmem, htype⟩ := mem_of_lookup hperm hfirst
  exact ⟨before, l, after, rfl, nodup_of_foldlM_addByType hbefore, first, hmem, htype, rfl⟩

theorem RepeatsType.not_nodup (h : RepeatsType loaded fault) :
    ¬(loaded.map (·.typeText)).Nodup := by
  obtain ⟨before, l, after, rfl, -, first, hmem, htype, -⟩ := h
  rw [List.map_append, List.nodup_append]
  rintro ⟨-, -, hdisjoint⟩
  exact hdisjoint _ (List.mem_map_of_mem hmem) _ (by simp) htype

/-! ## All files -/

/-- Descriptors of different types are generated in the order of their names. -/
theorem exists_sorted_of_nodup (h : (loaded.map (·.typeText)).Nodup) :
    ∃ sorted : List LoadedDescriptor, sorted.Perm loaded ∧
      sorted.Pairwise (·.typeText < ·.typeText) ∧
      ∀ config, generateAll config loaded = sorted.mapM fun l ↦ generateFile config l.typeText l := by
  cases htable : loaded.foldlM addByType [] with
  | error fault => exact absurd h (repeatsType_of_foldlM_addByType htable).not_nodup
  | ok table =>
    obtain ⟨sorted, rfl, hperm, hsorted⟩ := exists_sorted_of_foldlM htable
    refine ⟨sorted, hperm, hsorted, fun config ↦ ?_⟩
    rw [generateAll, htable, ok_bind, List.mapM_map]
    rfl

/-- The order of the names is the only one that is sorted. -/
theorem eq_of_perm_of_sorted (hperm : sorted.Perm loaded)
    (hsorted : sorted.Pairwise (·.typeText < ·.typeText))
    (hloaded : loaded.Pairwise (·.typeText < ·.typeText)) : sorted = loaded :=
  hperm.eq_of_pairwise (fun _ _ _ _ hlt hgt ↦ absurd hgt (String.lt_asymm hlt)) hsorted hloaded

theorem map_type_of_generateFile {files : List GeneratedFile}
    (h : List.Forall₂ (fun l file ↦ generateFile config l.typeText l = .ok file) sorted files) :
    files.map (·.type) = sorted.map (·.typeText) := by
  induction h with
  | nil => rfl
  | cons hfile _ ih =>
    obtain ⟨g, -, rfl⟩ := generateFile_eq_ok_iff.mp hfile
    rw [List.map_cons, List.map_cons, ih]

theorem generatesByName_of_sorted (hperm : sorted.Perm loaded)
    (hsorted : sorted.Pairwise (·.typeText < ·.typeText)) :
    GeneratesByName config loaded (sorted.mapM fun l ↦ generateFile config l.typeText l) := by
  cases hresult : sorted.mapM fun l ↦ generateFile config l.typeText l with
  | ok files =>
    have hfiles := mapM_eq_ok.mp hresult
    refine .files hperm ?_ hfiles
    rw [map_type_of_generateFile hfiles]
    exact List.pairwise_map.mpr hsorted
  | error fault =>
    obtain ⟨before, l, after, rfl, hbefore, hl⟩ := exists_first_of_mapM_eq_error hresult
    obtain ⟨e, he, rfl⟩ := generateFile_eq_error_iff.mp hl
    refine .rejected (hperm.mem_iff.mp (by simp)) he fun m hm hlt ↦ ?_
    -- What comes before `l` by name also stands before it in the sorted order.
    obtain ⟨-, hlafter, -⟩ := List.pairwise_append.mp hsorted
    have hafter : m ∉ l :: after := by
      rintro hmem
      rcases List.mem_cons.mp hmem with rfl | hmem
      · exact String.lt_irrefl _ hlt
      · exact String.lt_asymm hlt ((List.pairwise_cons.mp hlafter).1 m hmem)
    have hmem := (List.mem_append.mp (hperm.mem_iff.mpr hm)).resolve_right hafter
    obtain ⟨file, hfile⟩ := hbefore m hmem
    obtain ⟨g, hg, -⟩ := generateFile_eq_ok_iff.mp hfile
    exact ⟨g, hg⟩

theorem exists_repeatsType_of_not_nodup (h : ¬(loaded.map (·.typeText)).Nodup) :
    ∃ fault, RepeatsType loaded fault ∧ ∀ config, generateAll config loaded = .error fault := by
  cases htable : loaded.foldlM addByType [] with
  | ok table => exact absurd (nodup_of_foldlM_addByType htable) h
  | error fault =>
    refine ⟨fault, repeatsType_of_foldlM_addByType htable, fun config ↦ ?_⟩
    rw [generateAll, htable, error_bind]

/-- **The order of the descriptors does not matter.** Where they are of different types, the files or the
fault are the same; where two are of one type, every order fails, before any builder is attempted. -/
theorem generateAll_of_perm (hperm : loaded.Perm loaded') :
    ((loaded.map (·.typeText)).Nodup → ∀ config,
      generateAll config loaded' = generateAll config loaded ∧
        GeneratesByName config loaded (generateAll config loaded)) ∧
    (¬(loaded.map (·.typeText)).Nodup →
      (∃ fault, RepeatsType loaded fault ∧ ∀ config, generateAll config loaded = .error fault) ∧
      ∃ fault, RepeatsType loaded' fault ∧ ∀ config, generateAll config loaded' = .error fault) := by
  have hnodup := (hperm.map (·.typeText)).nodup_iff
  constructor
  · intro h config
    obtain ⟨sorted, hsame, hsorted, heq⟩ := exists_sorted_of_nodup h
    obtain ⟨sorted', hsame', hsorted', heq'⟩ := exists_sorted_of_nodup (hnodup.mp h)
    obtain rfl := eq_of_perm_of_sorted (hsame'.trans (hperm.symm.trans hsame.symm)) hsorted' hsorted
    rw [heq, heq']
    exact ⟨rfl, generatesByName_of_sorted hsame hsorted⟩
  · intro h
    exact ⟨exists_repeatsType_of_not_nodup h, exists_repeatsType_of_not_nodup (mt hnodup.mpr h)⟩

/-- Two types in either order, and one type twice. -/
theorem generateAll_of_perm_swap :
    (∃ files, GeneratesByName ⟨⟨.java8, false⟩, true, false, ⟨.two, .lf⟩⟩
        (loadAll (["b.C", "a.B"].map bareFile)).1 (.ok files) ∧
      generateAll ⟨⟨.java8, false⟩, true, false, ⟨.two, .lf⟩⟩
        (loadAll (["b.C", "a.B"].map bareFile)).1.reverse = .ok files) ∧
    ∃ fault, RepeatsType (loadAll (["a.B", "b.C", "a.B"].map bareFile)).1 fault := by
  have hok : (generateAll ⟨⟨.java8, false⟩, true, false, ⟨.two, .lf⟩⟩
      (loadAll (["b.C", "a.B"].map bareFile)).1).isOk = true := by decide +kernel
  obtain ⟨files, hfiles⟩ := exists_of_isOk hok
  obtain ⟨heq, hby⟩ := (generateAll_of_perm
    (List.reverse_perm (loadAll (["b.C", "a.B"].map bareFile)).1).symm).1 (by decide +kernel)
      ⟨⟨.java8, false⟩, true, false, ⟨.two, .lf⟩⟩
  rw [hfiles] at heq hby
  obtain ⟨-, fault, hfault, -⟩ := (generateAll_of_perm
    (.refl (loadAll (["a.B", "b.C", "a.B"].map bareFile)).1)).2 (by decide +kernel)
  exact ⟨⟨files, hby, heq⟩, fault, hfault⟩

end JavaBuilder.Project
