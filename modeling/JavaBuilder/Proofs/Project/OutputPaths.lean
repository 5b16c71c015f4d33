import JavaBuilder.Project.Generation
import JavaBuilder.Proofs.Builder.Failure
import JavaBuilder.Proofs.Text.Segments

/-!
# Where generated files go

Descriptors are told apart by the names of their types, and files by their paths. The path of a file comes
from a name that is derived from that of the type: nested simple names are joined by underscores, and an
identifier may itself hold underscores. So `Outer.Inner` and `Outer_Inner` are two types with one file.

Everything else in the path is kept apart. A file is found by the package and by what stands between all
dots and underscores of the simple names, its *pieces*, and two files of a project have one path exactly
where these agree.
-/

namespace JavaBuilder

open Java Text Name Model Builder

namespace Java.ClassName

/-! ## The path of a type -/

/-- What stands between the dots and underscores of the simple names. -/
def pieces (name : ClassName) : List String := name.simpleNames.flatMap (split '_')

/-- The generated builder of a type, in the package of the type. -/
def generated (name : ClassName) : ClassName := .top name.package (Datatype.generatedName name)

/-- The path of the file that is generated for a type. -/
def outputPath (name : ClassName) : Disk.FilePath := ⟨join '/' (Generated.path name.generated)⟩

variable {a b : ClassName}

theorem generatedName_eq_iff :
    Datatype.generatedName a = Datatype.generatedName b ↔ a.pieces = b.pieces := by
  rw [pieces, pieces, ← join_eq_join_iff '_' (by simp [simpleNames]) (by simp [simpleNames]),
    Datatype.generatedName, Datatype.generatedName]
  exact String.append_left_inj _

theorem fileName_eq_iff :
    Generated.fileName a.generated = Generated.fileName b.generated ↔ a.pieces = b.pieces := by
  rw [← generatedName_eq_iff, Generated.fileName, Generated.fileName, String.append_left_inj]
  rfl

theorem IsRead.slash_not_mem (h : a.IsRead) {s : String} (hs : s ∈ Generated.path a.generated) :
    '/' ∉ s.toList := by
  have hidentifiers := (isRead_iff.mp h).identifiers
  have hslash {x : String} (hx : x ∈ a.package ++ a.simpleNames) : '/' ∉ x.toList :=
    not_mem_of_isIdentifier (hidentifiers x hx) (by decide)
  rcases List.mem_append.mp hs with hs | hs
  · exact hslash (List.mem_append_left _ (List.mem_of_mem_filter hs))
  · rw [List.mem_singleton.mp hs]
    intro hmem
    simp only [Generated.fileName, generated, top, simpleName, Datatype.generatedName, join,
      String.toList_append, String.toList_ofList, List.getLast?_nil, Option.getD_none,
      List.mem_append] at hmem
    rcases hmem with (hmem | hmem) | hmem
    · rcases mem_joinSegments hmem with hsep | ⟨t, ht, hmem⟩
      · cases hsep
      · obtain ⟨x, hx, rfl⟩ := List.mem_map.mp ht
        exact hslash (List.mem_append_right _ hx) hmem
    · exact absurd hmem (by decide)
    · exact absurd hmem (by decide)

theorem IsRead.path_generated (h : a.IsRead) :
    Generated.path a.generated = a.package ++ [Generated.fileName a.generated] := by
  have hpackage : ∀ s ∈ a.package, (decide (s ≠ "")) = true := by
    intro s hs
    rw [decide_eq_true_iff]
    rintro rfl
    exact absurd ((isRead_iff.mp h).identifiers "" (List.mem_append_left _ hs)) (by decide)
  rw [Generated.path, show a.generated.package = a.package from rfl, List.filter_eq_self.mpr hpackage]

/-- **When two types have one file.** -/
theorem IsRead.outputPath_eq_iff (ha : a.IsRead) (hb : b.IsRead) :
    a.outputPath = b.outputPath ↔ a.package = b.package ∧ a.pieces = b.pieces := by
  have hne (c : ClassName) : Generated.path c.generated ≠ [] := by simp [Generated.path]
  have hpath : a.outputPath = b.outputPath ↔
      Generated.path a.generated = Generated.path b.generated := by
    refine ⟨fun h ↦ ?_, fun h ↦ by rw [outputPath, h, ← outputPath]⟩
    have htext : join '/' (Generated.path a.generated) = join '/' (Generated.path b.generated) :=
      congrArg Disk.FilePath.text h
    rw [← split_join (hne a) fun s hs ↦ ha.slash_not_mem hs, htext,
      split_join (hne b) fun s hs ↦ hb.slash_not_mem hs]
  rw [hpath, ha.path_generated, hb.path_generated, List.append_singleton_inj, fileName_eq_iff]

end Java.ClassName

namespace Model

@[simp] theorem Datatype.generated_withExtensible (d : Datatype) (extensible : Bool) :
    (d.withExtensible extensible).generated = d.generated := by
  unfold withExtensible
  split <;> rfl

theorem Descriptor.generated_conventional (d : Descriptor) :
    d.conventional.generated.name = d.type.generated := by
  rw [conventional, Datatype.generated_withExtensible]
  rfl

end Model

namespace Project

variable {config : Config} {l : LoadedDescriptor} {loaded : List LoadedDescriptor}
  {table table' : ByType} {files : List GeneratedFile}

/-! ## The table of types -/

/-- A descriptor that has been loaded from a file. -/
def LoadedDescriptor.IsLoaded (l : LoadedDescriptor) : Prop := ∃ f : DescriptorFile, f.load = .ok l

theorem LoadedDescriptor.IsLoaded.isDecoded (h : l.IsLoaded) : l.descriptor.IsDecoded := by
  obtain ⟨f, hf⟩ := h
  obtain ⟨d, hd, hf⟩ := bind_eq_ok.mp hf
  obtain ⟨_, -, hf⟩ := bind_eq_ok.mp hf
  obtain rfl := Except.ok.inj hf
  exact Descriptor.isDecoded_of_ofText (eq_ok_of_mapError hd)

theorem isLoaded_of_mem_loadAll {fs : List DescriptorFile} (h : l ∈ (loadAll fs).1) : l.IsLoaded := by
  induction fs with
  | nil => cases h
  | cons f fs ih =>
    rw [loadAll] at h
    cases hload : f.load with
    | error e =>
      rw [hload] at h
      exact ih h
    | ok m =>
      rw [hload] at h
      rcases List.mem_cons.mp h with rfl | h
      · exact ⟨f, hload⟩
      · exact ih h

/-- The entry of a descriptor in the table. -/
def entryOf (l : LoadedDescriptor) : String × LoadedDescriptor := (l.descriptor.type.text, l)

theorem addByType_eq_ok_iff : addByType table l = .ok table' ↔
    (∀ e ∈ table, l.descriptor.type.text ≠ e.1) ∧
      table' = putSorted l.descriptor.type.text l table := by
  have hlookup : table.lookup l.descriptor.type.text = none ↔
      ∀ e ∈ table, l.descriptor.type.text ≠ e.1 := by
    simp [List.lookup_eq_none_iff]
  rw [← hlookup]
  unfold addByType
  cases hfirst : table.lookup l.descriptor.type.text with
  | none => simp [hfirst, pure, Except.pure, eq_comm]
  | some m => simp [hfirst, throw, throwThe, MonadExceptOf.throw]

theorem perm_of_addByType (h : addByType table l = .ok table') :
    table'.Perm (entryOf l :: table) ∧ ((table.map (·.1)).Nodup → (table'.map (·.1)).Nodup) := by
  obtain ⟨hnew, rfl⟩ := addByType_eq_ok_iff.mp h
  have hperm := perm_putSorted (v := l) hnew
  refine ⟨hperm, fun hnodup ↦ ?_⟩
  rw [(hperm.map (·.1)).nodup_iff, List.map_cons, List.nodup_cons]
  refine ⟨fun hmem ↦ ?_, hnodup⟩
  obtain ⟨e, he, heq⟩ := List.mem_map.mp hmem
  exact hnew e he heq.symm

/-- The table holds the descriptors, each under its own type. -/
theorem perm_of_foldlM_addByType (h : loaded.foldlM addByType table = .ok table') :
    table'.Perm (loaded.map entryOf ++ table) ∧
      ((table.map (·.1)).Nodup → (table'.map (·.1)).Nodup) := by
  induction loaded generalizing table with
  | nil =>
    obtain rfl := Except.ok.inj h
    exact ⟨.refl _, id⟩
  | cons l loaded ih =>
    rw [List.foldlM_cons] at h
    obtain ⟨next, hnext, h⟩ := bind_eq_ok.mp h
    obtain ⟨hperm, hnodup⟩ := perm_of_addByType hnext
    obtain ⟨hrest, hnodups⟩ := ih h
    refine ⟨hrest.trans ?_, fun hn ↦ hnodups (hnodup hn)⟩
    exact (hperm.append_left _).trans List.perm_middle

/-! ## The paths of a project -/

theorem relative_of_generateFile {type : String} {file : GeneratedFile}
    (h : generateFile config type l = .ok file) : file.relative = l.descriptor.type.outputPath := by
  obtain ⟨g, hg, h⟩ := bind_eq_ok.mp h
  obtain rfl := Except.ok.inj h
  have hgenerate := eq_ok_of_mapError hg
  rw [generate_eq] at hgenerate
  obtain ⟨_, _, -, rfl⟩ := generateWith_eq_ok_iff.mp hgenerate
  rw [ClassName.outputPath, ← l.descriptor.generated_conventional]
  rfl

theorem map_relative
    (h : List.Forall₂ (fun e file ↦ generateFile config e.1 e.2 = .ok file) table files) :
    files.map (·.relative) = table.map (·.2.descriptor.type.outputPath) := by
  induction h with
  | nil => rfl
  | cons hfile _ ih => rw [List.map_cons, List.map_cons, ih, relative_of_generateFile hfile]

/-- The files of a project are those of its types, in another order, and no type occurs twice. -/
theorem perm_relative (h : generateAll config loaded = .ok files) :
    (files.map (·.relative)).Perm ((loaded.map (·.descriptor.type)).map ClassName.outputPath) ∧
      (loaded.map (·.descriptor.type)).Nodup := by
  obtain ⟨table, htable, h⟩ := bind_eq_ok.mp h
  obtain ⟨hperm, hnodup⟩ := perm_of_foldlM_addByType htable
  rw [List.append_nil] at hperm
  refine ⟨?_, ?_⟩
  · rw [map_relative (mapM_eq_ok.mp h)]
    simpa [Function.comp_def, entryOf] using hperm.map (·.2.descriptor.type.outputPath)
  · have hkeys := hnodup .nil
    rw [(hperm.map (·.1)).nodup_iff, List.map_map] at hkeys
    refine List.Nodup.of_map ClassName.text ?_
    simpa [Function.comp_def, entryOf] using hkeys

/-- **When no two files of a project have one path.** There are as many files as descriptors, and they
differ in path exactly where no two types of one package have the same pieces. -/
theorem nodup_relative_iff (hloaded : ∀ l ∈ loaded, l.IsLoaded)
    (h : generateAll config loaded = .ok files) :
    files.length = loaded.length ∧
      ((files.map (·.relative)).Nodup ↔ ∀ l ∈ loaded, ∀ m ∈ loaded,
        l.descriptor.type.package = m.descriptor.type.package →
        l.descriptor.type.pieces = m.descriptor.type.pieces →
        l.descriptor.type = m.descriptor.type) := by
  obtain ⟨hperm, hnodup⟩ := perm_relative h
  refine ⟨by simpa using hperm.length_eq, ?_⟩
  rw [hperm.nodup_iff, List.nodup_map_iff_inj_on hnodup]
  simp only [List.forall_mem_map]
  refine forall₂_congr fun l hl ↦ forall₂_congr fun m hm ↦ ?_
  rw [(hloaded l hl).isDecoded.type.outputPath_eq_iff (hloaded m hm).isDecoded.type, and_imp]

/-- A file that describes a type without properties. -/
def bareFile (type : String) : DescriptorFile :=
  ⟨⟨type ++ ".json"⟩, type ++ ".json", "\x7b\"type\":\"" ++ type ++ "\"\x7d"⟩

/-- Nesting and underscores in different places, and one name in two packages. -/
theorem nodup_relative_packages :
    ∃ files, generateAll ⟨⟨.java8, false⟩, true, false, ⟨.two, .lf⟩⟩
        (loadAll (["a.B.C", "a.B.C_D", "b.B.C"].map bareFile)).1 = .ok files ∧
      (files.map (·.relative)).Nodup := by
  have hok : (generateAll ⟨⟨.java8, false⟩, true, false, ⟨.two, .lf⟩⟩
      (loadAll (["a.B.C", "a.B.C_D", "b.B.C"].map bareFile)).1).isOk = true := by decide +kernel
  obtain ⟨files, hfiles⟩ := exists_of_isOk hok
  obtain ⟨-, hnodup⟩ := nodup_relative_iff (fun _ ↦ isLoaded_of_mem_loadAll) hfiles
  exact ⟨files, hfiles, hnodup.mpr (by decide +kernel)⟩

/-- **A nested type and one with an underscore in its name have one file.** -/
theorem not_nodup_relative : ¬∀ (config : Config) (loaded : List LoadedDescriptor)
    (files : List GeneratedFile), (∀ l ∈ loaded, l.IsLoaded) →
      generateAll config loaded = .ok files → (files.map (·.relative)).Nodup := by
  intro h
  have hok : (generateAll ⟨⟨.java8, false⟩, true, false, ⟨.two, .lf⟩⟩
      (loadAll (["a.B.C", "a.B_C"].map bareFile)).1).isOk = true := by decide +kernel
  have hsame : ¬(((loadAll (["a.B.C", "a.B_C"].map bareFile)).1.map
      (·.descriptor.type)).map ClassName.outputPath).Nodup := by decide +kernel
  obtain ⟨files, hfiles⟩ := exists_of_isOk hok
  have hnodup := h _ _ files (fun _ ↦ isLoaded_of_mem_loadAll) hfiles
  exact hsame ((perm_relative hfiles).1.nodup_iff.mp hnodup)

end Project

end JavaBuilder
