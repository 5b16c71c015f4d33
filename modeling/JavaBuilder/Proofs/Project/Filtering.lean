import JavaBuilder.Proofs.Disk.Parts
import JavaBuilder.Proofs.Project.Isolation

/-!
# Filtered searches

A filter is asked about each file that a search without it finds, by its path from the root, and what it
accepts stays in its place. That is so for a directory. A single file is taken before the filter is asked,
so a search whose root is one finds it even if the filter does not accept its name, and this is the only
difference.

The files of a directory are in the order of their paths, part by part, since their paths go on from one
root with their names.
-/

namespace JavaBuilder.Project

open Disk Glob Text

variable {d : Disk} {root : Location} {names : List String}

/-! ## Files -/

/-- A path that goes on from a directory is that of a descriptor if its last name is. -/
theorem isDescriptor_append {p : FilePath} (hne : names ≠ []) (h : ∀ s ∈ names, IsName s) :
    isDescriptor (p.append names) = isDescriptor ⟨names.getLastD ""⟩ := by
  have hlast : names.getLast? = some (names.getLastD "") := by
    rw [List.getLastD_eq_getLast?, List.getLast?_eq_some_getLast hne]
    rfl
  rw [isDescriptor, isDescriptor, FilePath.extension?, FilePath.extension?,
    FilePath.fileName?_append hne h, fileName?_of_isName (h _ (List.mem_of_getLast? hlast))]

/-- Everything that lies on the disk is text. -/
def HoldsText (d : Disk) : Prop := ∀ l c, d.node? l = some (.file c) → ∃ text, textOf c = .ok text

namespace Search

variable {s t : Search} {f : PathFilter} {files : List DescriptorFile}

theorem withFilter_eq_ok_iff {text : String} : s.withFilter text = .ok t ↔
    ∃ f, PathFilter.ofText text = .ok f ∧ t = { s with filter := some f } := by
  unfold withFilter
  cases PathFilter.ofText text with
  | error e => exact iff_of_false throw_ne_ok (by simp)
  | ok f => simp [pure, Except.pure, eq_comm]

/-- The files that are found, none where a search for at least one finds none. -/
def runAny (s : Search) (d : Disk) : Except ScanFault (List DescriptorFile) :=
  match s.runSome d with
  | .error (.noDescriptors _) => .ok []
  | outcome => outcome

/-- A search itself does not mind finding nothing. -/
theorem run_ne_noDescriptors {input : FilePath} : s.run d ≠ .error (.noDescriptors input) := by
  have hread {path : FilePath} {relative : String} {c : ByteArray} :
      readFile path relative c ≠ .error (.noDescriptors input) := by
    unfold readFile
    cases textOf c <;> exact nofun
  intro h
  cases hnode : d.nodeAt? s.root with
  | none =>
    simp only [run, hnode] at h
    cases h
  | some n =>
    cases n with
    | file c =>
      simp only [run, hnode] at h
      rcases bind_eq_error.mp h with h | ⟨_, -, h⟩
      · exact hread h
      · cases h
    | directory =>
      obtain ⟨root, hlocate, hroot⟩ := exists_locate_of_nodeAt? hnode
      rw [run_of_directory s hlocate hroot] at h
      split at h
      · obtain ⟨e, -, he⟩ := exists_of_mapM_eq_error (map_eq_error.mp h)
        exact hread he
      · cases h

/-- The failure of a search for at least one file is taken back, and nothing else is. -/
theorem runAny_eq_run : s.runAny d = s.run d := by
  unfold runAny runSome
  cases h : s.run d with
  | ok files => cases files <;> rfl
  | error e =>
    cases e with
    | noDescriptors input => exact absurd h run_ne_noDescriptors
    | notFound | invalidFilter | unreadable | faultyRules => rfl

/-! ## A single file and a directory -/

theorem run_of_file {c : ByteArray} (hnode : d.nodeAt? s.root = some (.file c))
    (hroot : t.root = s.root) : t.run d = s.run d := by
  simp only [run, hroot, hnode]

theorem run_eq_ok_of_file {text : String} (hnode : d.nodeAt? s.root = some (.file text.toUTF8)) :
    s.run d = .ok [⟨s.root, s.root.fileName?.getD s.root.text, text⟩] := by
  simp only [run, hnode, readFile, textOf_eq_ok_iff.mpr rfl]
  rfl

/-- The filter leaves out some of what is looked for without it. -/
theorem wanted_withFilter (hd : IsMap d) (hnone : s.filter = none) (root : Location) :
    ({ s with filter := some f } : Search).wanted d root =
      (s.wanted d root).filter fun e ↦ f.accepts (join '/' e.1) := by
  let t : Search := { s with filter := some f }
  have hwants : ((s.walk d root).filter fun e ↦ t.wants e.1) =
      ((s.walk d root).filter fun e ↦ s.wants e.1).filter fun e ↦ f.accepts (join '/' e.1) := by
    rw [List.filter_filter]
    exact List.filter_congr fun e _ ↦ by simp [t, wants, hnone, Bool.and_comm]
  have hwanted : t.wanted d root = sortBy (·.1)
      (((s.walk d root).filter fun e ↦ s.wants e.1).filter fun e ↦ f.accepts (join '/' e.1)) := by
    rw [← hwants]
    rfl
  rw [hwanted]
  exact sortBy_eq_of_perm ((perm_sortBy _ _).filter _) ((s.pairwise_wanted hd root).filter _)

/-- A search of text finds all that it looks for. -/
theorem exists_mapM_wanted (hd : IsMap d) (htext : HoldsText d) (hroot : d.node? root = some .directory) :
    ∃ files, (s.wanted d root).mapM s.readFound = .ok files := by
  have hread : ∀ e ∈ s.wanted d root, ∃ file, s.readFound e = .ok file := fun e he ↦ by
    obtain ⟨text, hcontent⟩ := htext _ _ ((s.mem_wanted_iff hd hroot).mp he).2.1
    exact ⟨_, s.readFound_eq_ok_iff.mpr ⟨text, hcontent, rfl⟩⟩
  obtain ⟨files, hfiles⟩ := exists_forall₂_iff.mpr hread
  exact ⟨files, mapM_eq_ok.mpr hfiles⟩

/-- **In a directory a filter leaves exactly what it accepts.** -/
theorem run_withFilter_of_directory (hd : IsTree d) (htext : HoldsText d) (hnone : s.filter = none)
    (hlocate : d.locate s.root = .ok root) (hroot : d.node? root = some .directory) :
    ({ s with filter := some f } : Search).run d =
      (·.filter fun file ↦ f.accepts file.relative) <$> s.run d := by
  let t : Search := { s with filter := some f }
  have hnames := s.isName_of_mem_wanted hd hroot
  have hwanted : t.wanted d root = (s.wanted d root).filter fun e ↦ f.accepts (join '/' e.1) :=
    wanted_withFilter hd.toIsMap hnone root
  cases hfaults : s.faults d root with
  | cons fault faults =>
    have hfaults' : t.faults d root = fault :: faults := hfaults
    rw [run_of_directory s hlocate hroot, run_of_directory t hlocate hroot, hfaults, hfaults']
    rfl
  | nil =>
    have hfaults' : t.faults d root = [] := hfaults
    obtain ⟨files, hfiles⟩ := exists_mapM_wanted (s := s) hd.toIsMap htext hroot
    have haccepts : ∀ e file, s.readFound e = .ok file →
        f.accepts (join '/' e.1) = f.accepts file.relative := by
      rintro e file he
      obtain ⟨text, -, rfl⟩ := s.readFound_eq_ok_iff.mp he
      rfl
    have hfiltered : (t.wanted d root).mapM t.readFound =
        .ok (files.filter fun file ↦ f.accepts file.relative) := hwanted ▸ mapM_filter haccepts hfiles
    rw [(s.run_eq_ok_iff hd.toIsMap hlocate hroot hnames).mpr ⟨hfaults, hfiles⟩,
      (t.run_eq_ok_iff hd.toIsMap hlocate hroot (t.isName_of_mem_wanted hd hroot)).mpr
        ⟨hfaults', hfiltered⟩]
    rfl

theorem wants_iff : s.wants names = true ↔ isDescriptor ⟨names.getLastD ""⟩ = true ∧
    ∀ f ∈ s.filter, f.accepts (join '/' names) = true := by
  cases hfilter : s.filter <;> simp [wants, hfilter]

/-- **What a search of a directory finds.** Its files are in the order of their paths, so each is there
once, and they are the descriptors below the directory that no rule leaves out and the filter accepts. A
directory that is taken for the standard input has none. -/
theorem run_eq_ok_of_directory (hd : IsTree d) (hlocate : d.locate s.root = .ok root)
    (hroot : d.node? root = some .directory) (h : s.run d = .ok files) :
    (files.map (·.path.parts)).Pairwise (· < ·) ∧
      ∀ file, file ∈ files ↔ s.isStandardInput = false ∧ ∃ names,
        d.node? (root ++ names) = some (.file file.text.toUTF8) ∧
        file.path = s.root.append names ∧ file.relative = join '/' names ∧
        isDescriptor file.path = true ∧ isLeftOut d s.repositories s.root root names = false ∧
        ∀ f ∈ s.filter, f.accepts file.relative = true := by
  have hnames := s.isName_of_mem_wanted hd hroot
  have hread := ((s.run_eq_ok_iff hd.toIsMap hlocate hroot hnames).mp h).2
  refine ⟨List.pairwise_map.mpr (s.pairwise_parts_of_mapM hnames (s.pairwise_wanted hd.toIsMap root) hread),
    fun file ↦ ?_⟩
  simp only [mem_mapM_iff hread, readFound_eq_ok_iff, Prod.exists, s.mem_wanted_iff hd.toIsMap hroot]
  constructor
  · rintro ⟨names, c, ⟨hinput, hfile, hkept, hwants⟩, text, htext, rfl⟩
    obtain ⟨hne, hname⟩ := names_of_file hd hroot hfile
    obtain ⟨hdescriptor, hfilter⟩ := wants_iff.mp hwants
    rw [textOf_eq_ok_iff] at htext
    refine ⟨hinput, names, by rw [hfile, htext], rfl, rfl, ?_, hkept, hfilter⟩
    rwa [isDescriptor_append hne hname]
  · rintro ⟨hinput, names, hfile, hpath, hrelative, hdescriptor, hkept, hfilter⟩
    obtain ⟨hne, hname⟩ := names_of_file hd hroot hfile
    rw [hpath, isDescriptor_append hne hname] at hdescriptor
    rw [hrelative] at hfilter
    exact ⟨names, _, ⟨hinput, hfile, hkept, wants_iff.mpr ⟨hdescriptor, hfilter⟩⟩, file.text,
      textOf_eq_ok_iff.mpr rfl, by rw [← hpath, ← hrelative]⟩

/-- **A filter restricts a search exactly, but for a single file.** What a search with a filter finds is
what it finds without, restricted to the files whose path from the root the filter accepts, in the same
order, unless the root is a single file whose name the filter does not accept. What is found in a directory
is in the order of the paths, each file once, and is what is to be found there: nothing in a directory that
is taken for the standard input. -/
theorem runAny_withFilter_iff (hd : IsTree d) (htext : HoldsText d) (hnone : s.filter = none)
    {text : String} (hf : PathFilter.ofText text = .ok f) :
    ∃ t, s.withFilter text = .ok t ∧
      (t.runAny d = (·.filter fun file ↦ f.accepts file.relative) <$> s.runAny d ↔
        ¬∃ c, d.nodeAt? s.root = some (.file c) ∧
          f.accepts (s.root.fileName?.getD s.root.text) = false) ∧
      ∀ root, d.locate s.root = .ok root → d.node? root = some .directory →
        ∀ u ∈ [s, t], ∀ files, u.runAny d = .ok files →
          (files.map (·.path.parts)).Pairwise (· < ·) ∧
          ∀ file, file ∈ files ↔ s.isStandardInput = false ∧ ∃ names,
            d.node? (root ++ names) = some (.file file.text.toUTF8) ∧
            file.path = s.root.append names ∧ file.relative = join '/' names ∧
            isDescriptor file.path = true ∧ isLeftOut d s.repositories s.root root names = false ∧
            ∀ f ∈ u.filter, f.accepts file.relative = true := by
  let t : Search := { s with filter := some f }
  refine ⟨t, withFilter_eq_ok_iff.mpr ⟨f, hf, rfl⟩, ?_, fun root hlocate hroot u hu files hfiles ↦ ?_⟩
  · rw [runAny_eq_run, runAny_eq_run]
    cases hnode : d.nodeAt? s.root with
    | none =>
      refine iff_of_true ?_ ?_
      · simp only [run, t, hnode]
        rfl
      · rintro ⟨c, hc, -⟩
        cases hc
    | some n =>
      cases n with
      | directory =>
        obtain ⟨root, hlocate, hroot⟩ := exists_locate_of_nodeAt? hnode
        refine iff_of_true (run_withFilter_of_directory hd htext hnone hlocate hroot) ?_
        rintro ⟨c, hc, -⟩
        cases hc
      | file c =>
        -- the one file is found with the filter, and without it is kept or left out
        obtain ⟨l, -, hl⟩ := exists_locate_of_nodeAt? hnode
        obtain ⟨content, hcontent⟩ := htext l c hl
        rw [textOf_eq_ok_iff.mp hcontent] at hnode
        rw [run_of_file hnode (t := t) rfl, run_eq_ok_of_file hnode]
        cases haccepts : f.accepts (s.root.fileName?.getD s.root.text) <;>
          simp [Functor.map, Except.map, haccepts]
  · rw [runAny_eq_run] at hfiles
    rcases List.mem_pair.mp hu with rfl | rfl
    · exact run_eq_ok_of_directory hd hlocate hroot hfiles
    · exact run_eq_ok_of_directory (s := t) hd hlocate hroot hfiles

end Search

theorem holdsText_besideDisk (text : String) : HoldsText (besideDisk text.toUTF8) := by
  intro l c hfile
  have hl : l ≠ [] := by
    rintro rfl
    cases hfile
  have hmem := mem_of_node? hl hfile
  simp only [besideDisk, List.mem_cons, List.not_mem_nil, or_false, Prod.mk.injEq, Node.file.injEq,
    reduceCtorEq, and_false, false_or] at hmem
  rcases hmem with ⟨-, rfl⟩ | ⟨-, rfl⟩ <;> exact ⟨_, textOf_eq_ok_iff.mpr rfl⟩

/-- A filter that accepts one of two descriptors. -/
theorem runAny_withFilter_besideDisk : ∃ t, Search.withFilter { root := ⟨"in"⟩ } "b*" = .ok t ∧
    t.runAny (besideDisk "[".toUTF8) =
      (·.filter fun file ↦ PathFilter.accepts ⟨[.char 'b', .anyRun]⟩ file.relative) <$>
        Search.runAny { root := ⟨"in"⟩ } (besideDisk "[".toUTF8) := by
  have hf : PathFilter.ofText "b*" = .ok ⟨[.char 'b', .anyRun]⟩ := by decide +kernel
  obtain ⟨t, ht, hiff, -⟩ := Search.runAny_withFilter_iff (s := { root := ⟨"in"⟩ })
    (isTree_besideDisk "[".toUTF8) (holdsText_besideDisk "[") rfl hf
  refine ⟨t, ht, hiff.mpr ?_⟩
  have hnode : (besideDisk "[".toUTF8).nodeAt? ⟨"in"⟩ = some .directory := by
    rw [nodeAt?_of_locate (l := ["in"]) (by decide +kernel)]
    rfl
  rintro ⟨c, hc, -⟩
  rw [hnode] at hc
  cases hc

/-- **A single file is found whatever the filter says.** -/
theorem not_runAny_withFilter_file : ∃ t, Search.withFilter { root := ⟨"in/a.json"⟩ } "b*" = .ok t ∧
    t.runAny (besideDisk "[".toUTF8) ≠
      (·.filter fun file ↦ PathFilter.accepts ⟨[.char 'b', .anyRun]⟩ file.relative) <$>
        Search.runAny { root := ⟨"in/a.json"⟩ } (besideDisk "[".toUTF8) := by
  have hf : PathFilter.ofText "b*" = .ok ⟨[.char 'b', .anyRun]⟩ := by decide +kernel
  have hnode : (besideDisk "[".toUTF8).nodeAt? ⟨"in/a.json"⟩ =
      some (.file "\x7b\"type\":\"a.B\"\x7d".toUTF8) := by
    rw [nodeAt?_of_locate (l := ["in", "a.json"]) (by decide +kernel)]
    rfl
  refine ⟨_, Search.withFilter_eq_ok_iff.mpr ⟨_, hf, rfl⟩, ?_⟩
  rw [Search.runAny_eq_run, Search.runAny_eq_run, Search.run_eq_ok_of_file hnode,
    Search.run_eq_ok_of_file hnode]
  have haccepts : PathFilter.accepts ⟨[.char 'b', .anyRun]⟩
      ((⟨"in/a.json"⟩ : FilePath).fileName?.getD "in/a.json") = false := by decide +kernel
  simp [Functor.map, Except.map, haccepts]

end JavaBuilder.Project
