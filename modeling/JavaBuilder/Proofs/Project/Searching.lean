import Mathlib.Data.List.Lex
import Mathlib.Data.List.TakeDrop
import Mathlib.Data.String.Basic
import JavaBuilder.Project.Scan
import JavaBuilder.Proofs.Disk.Parts
import JavaBuilder.Proofs.Project.RuleFiles
import JavaBuilder.Proofs.Text.Order

/-!
# What a search finds

A walk comes by the files below the root in some order, and leaves out what the rules near the root and those
of the user say. What it comes by is read in that order and sorted afterwards. Names are sorted as paths are,
so a search that ends gives what reading the files in the order of their names would give. This is decided by
the files that it looks for and by the rules: two disks that agree in both give the same, whatever else is on
them and in which order.

A search that fails on a file does depend on the order, since the first one that cannot be read ends it.
-/

namespace JavaBuilder.Project

open Disk Glob Text

variable {d e : Disk} {root : Location} {names : List String} {c : ByteArray}

/-! ## What is left out -/

theorem span_congr {α : Type} {p q : α → Bool} {xs : List α} (h : ∀ x ∈ xs, p x = q x) :
    xs.span p = xs.span q := by
  rw [List.span_eq_takeWhile_dropWhile, List.span_eq_takeWhile_dropWhile]
  induction xs with
  | nil => rfl
  | cons x xs ih =>
    obtain ⟨hx, hxs⟩ := List.forall_mem_cons.mp h
    obtain ⟨htake, hdrop⟩ := Prod.mk.inj (ih hxs)
    rw [List.takeWhile_cons, List.takeWhile_cons, List.dropWhile_cons, List.dropWhile_cons, hx, htake, hdrop]

theorem isNear_of_mem_around (hroot : ∀ s ∈ root, IsName s) {directory : Location}
    (h : directory ∈ around root) : IsNear root directory := by
  obtain ⟨n, -, rfl⟩ := List.mem_map.mp h
  exact ⟨.inl (List.take_prefix n root), fun s hs ↦ hroot s (List.mem_of_mem_take hs)⟩

theorem isNear_append (hroot : ∀ s ∈ root, IsName s) (hnames : ∀ s ∈ names, IsName s) (n : ℕ) :
    IsNear root (root ++ names.take n) :=
  ⟨.inr (List.prefix_append root _), fun s hs ↦
    (List.mem_append.mp hs).elim (hroot s) fun hs ↦ hnames s (List.mem_of_mem_take hs)⟩

namespace SameRules

variable (h : SameRules d e root)

include h

theorem insideRepository_eq {vs : List View} (hnear : ∀ v ∈ vs, IsNear root v.directory) :
    insideRepository e vs = insideRepository d vs := by
  unfold insideRepository
  rw [span_congr fun v hv ↦ by rw [h.repository v.directory (hnear v hv)]]

theorem userVerdict?_eq {vs : List View} (hnear : ∀ v ∈ vs, IsNear root v.directory) (file : FilePath)
    (isDirectory : Bool) : userVerdict? e vs file isDirectory = userVerdict? d vs file isDirectory := by
  have hany : (vs.any fun v ↦ isRepository e v.directory) = vs.any fun v ↦ isRepository d v.directory := by
    rw [Bool.eq_iff_iff, List.any_eq_true, List.any_eq_true]
    exact exists_congr fun v ↦ and_congr_right fun hv ↦ by rw [h.repository v.directory (hnear v hv)]
  simp only [userVerdict?, hany, h.user, h.working]

variable (hroot : ∀ s ∈ root, IsName s)

include hroot

theorem faults_eq (s : Search) : s.faults e root = s.faults d root := by
  have haround : faultsAround e s.repositories root = faultsAround d s.repositories root :=
    List.flatMap_congr fun directory hdirectory ↦ by
      rw [h.rules directory (isNear_of_mem_around hroot (List.mem_reverse.mp hdirectory))]
  rw [Search.faults, Search.faults, haround]

theorem views_eq (hnames : ∀ s ∈ names, IsName s) (repositories : Bool) (p : FilePath) :
    views e repositories p root names = views d repositories p root names ∧
      ∀ v ∈ views d repositories p root names, IsNear root v.directory := by
  constructor
  · refine congrArg₂ (· ++ ·) (List.map_congr_left fun n _ ↦ ?_)
      (List.map_congr_left fun directory hdirectory ↦ ?_)
    · simp only [h.rules _ (isNear_append hroot hnames n)]
    · simp only [h.rules _ (isNear_of_mem_around hroot hdirectory)]
  · intro v hv
    rcases List.mem_append.mp hv with hv | hv
    · obtain ⟨n, -, rfl⟩ := List.mem_map.mp hv
      exact isNear_append hroot hnames n
    · obtain ⟨directory, hdirectory, rfl⟩ := List.mem_map.mp hv
      exact isNear_of_mem_around hroot hdirectory

theorem isLeftOut_eq (hnames : ∀ s ∈ names, IsName s) (repositories : Bool) (p : FilePath) :
    isLeftOut e repositories p root names = isLeftOut d repositories p root names := by
  refine congrArg (List.any _) (funext fun n ↦ ?_)
  have hfirst : ∀ s ∈ names.take (n + 1), IsName s := fun s hs ↦ hnames s (List.mem_of_mem_take hs)
  obtain ⟨hviews, hnear⟩ := h.views_eq hroot hfirst repositories p
  simp only [isIgnored, hviews, h.insideRepository_eq hnear, h.userVerdict?_eq hnear]

end SameRules

/-! ## The files below a location -/

theorem node?_eq_some_iff (h : IsMap d) {l : Location} {n : Node} (hl : l ≠ []) :
    d.node? l = some n ↔ (l, n) ∈ d.nodes := by
  refine ⟨mem_of_node? hl, fun hmem ↦ ?_⟩
  have hsome : (d.nodes.lookup l).isSome := by
    rw [Option.isSome_iff_ne_none, ne_eq, List.lookup_eq_none_iff]
    exact fun hnone ↦ by simpa using hnone _ hmem
  obtain ⟨m, hm⟩ := Option.isSome_iff_exists.mp hsome
  have hnode : d.node? l = some m := by rw [node?, if_neg hl, hm]
  have hpair := List.inj_on_of_nodup_map h.nodup hmem (mem_of_node? hl hnode) rfl
  rw [hnode, (Prod.mk.inj hpair).2]

theorem fileBelow?_eq_some_iff {e : Location × Node} :
    Search.fileBelow? root e = some (names, c) ↔ e = (root ++ names, .file c) := by
  obtain ⟨l, n⟩ := e
  unfold Search.fileBelow?
  cases hprefix : root.isPrefixOf? l with
  | none =>
    refine iff_of_false (fun h ↦ nomatch h) fun h ↦ ?_
    rw [(Prod.mk.inj h).1, List.isPrefixOf?_eq_some_iff_append_eq.mpr rfl] at hprefix
    cases hprefix
  | some names' =>
    obtain rfl := List.isPrefixOf?_eq_some_iff_append_eq.mp hprefix
    cases n <;> simp

theorem mem_filesBelow_iff (h : IsMap d) (hroot : d.node? root = some .directory) :
    (names, c) ∈ d.nodes.filterMap (Search.fileBelow? root) ↔ d.node? (root ++ names) = some (.file c) := by
  simp only [List.mem_filterMap, fileBelow?_eq_some_iff, exists_eq_right]
  by_cases hl : root ++ names = []
  · rw [List.append_eq_nil_iff] at hl
    obtain ⟨rfl, rfl⟩ := hl
    refine iff_of_false (fun hmem ↦ h.root (List.mem_map_of_mem hmem)) fun hnode ↦ nomatch hnode
  · exact (node?_eq_some_iff h hl).symm

theorem nodup_filesBelow (h : IsMap d) (root : Location) :
    ((d.nodes.filterMap (Search.fileBelow? root)).map (·.1)).Nodup := by
  rw [List.Nodup, List.pairwise_map, List.pairwise_filterMap]
  refine (List.pairwise_map.mp h.nodup).imp fun {x y} hne f hf g hg heq ↦ hne ?_
  rw [fileBelow?_eq_some_iff.mp hf, fileBelow?_eq_some_iff.mp hg, heq]

/-! ## Searching -/

/-- A file below a directory has a path of names, which is not empty. -/
theorem names_of_file (hd : IsTree d) (hroot : d.node? root = some .directory)
    (h : d.node? (root ++ names) = some (.file c)) : names ≠ [] ∧ ∀ s ∈ names, IsName s := by
  refine ⟨?_, fun s hs ↦ ?_⟩
  · rintro rfl
    rw [List.append_nil, hroot] at h
    cases h
  · exact hd.isName_of_isSome (by rw [h]; rfl) s (List.mem_append_right _ hs)

namespace Search

variable (s : Search)

/-- The files that a search looks for in a directory, in the order of their names. -/
def wanted (d : Disk) (root : Location) : List (List String × ByteArray) :=
  sortBy (·.1) ((s.walk d root).filter fun f ↦ s.wants f.1)

/-- **What a walk comes by.** -/
theorem mem_walk_iff (h : IsMap d) (hroot : d.node? root = some .directory) :
    (names, c) ∈ s.walk d root ↔ s.isStandardInput = false ∧ d.node? (root ++ names) = some (.file c) ∧
      isLeftOut d s.repositories s.root root names = false := by
  rw [walk]
  cases s.isStandardInput with
  | true => simp
  | false =>
    rw [if_neg Bool.false_ne_true, List.mem_filter, mem_filesBelow_iff h hroot, Bool.not_eq_true']
    simp

theorem nodup_walk (h : IsMap d) (root : Location) : ((s.walk d root).map (·.1)).Nodup := by
  unfold walk
  split_ifs
  · exact .nil
  · exact (nodup_filesBelow h root).sublist (List.filter_sublist.map _)

theorem mem_wanted_iff (h : IsMap d) (hroot : d.node? root = some .directory) :
    (names, c) ∈ s.wanted d root ↔ s.isStandardInput = false ∧ d.node? (root ++ names) = some (.file c) ∧
      isLeftOut d s.repositories s.root root names = false ∧ s.wants names = true := by
  rw [wanted, (perm_sortBy _ _).mem_iff, List.mem_filter, mem_walk_iff s h hroot]
  simp only [and_assoc]

theorem pairwise_wanted (h : IsMap d) (root : Location) : (s.wanted d root).Pairwise (·.1 < ·.1) :=
  pairwise_lt_sortBy ((nodup_walk s h root).sublist (List.filter_sublist.map _))

theorem run_of_directory (hlocate : d.locate s.root = .ok root)
    (hroot : d.node? root = some .directory) : s.run d =
      match s.faults d root with
      | [] => sortBy (·.path.parts) <$> ((s.walk d root).filter fun f ↦ s.wants f.1).mapM s.readFound
      | faults => .error (.faultyRules faults) := by
  have hnode : d.nodeAt? s.root = some .directory := (nodeAt?_of_locate hlocate).trans hroot
  simp only [run, hnode, hlocate]
  cases s.faults d root with
  | nil => cases ((s.walk d root).filter fun f ↦ s.wants f.1).mapM s.readFound <;> rfl
  | cons fault faults => rfl

theorem readFound_eq_ok_iff {f : List String × ByteArray} {file : DescriptorFile} :
    s.readFound f = .ok file ↔
      ∃ text, textOf f.2 = .ok text ∧ file = ⟨s.root.append f.1, join '/' f.1, text⟩ := by
  rw [readFound, readFile]
  cases textOf f.2 with
  | error fault => simp
  | ok text => simp [pure, Except.pure, eq_comm]

/-- The paths of what is found go on from the root. -/
theorem map_path_of_mapM {fs : List (List String × ByteArray)} {files : List DescriptorFile}
    (h : fs.mapM s.readFound = .ok files) : files.map (·.path) = fs.map fun f ↦ s.root.append f.1 := by
  rw [mapM_eq_ok] at h
  induction h with
  | nil => rfl
  | cons hread _ ih =>
    obtain ⟨text, -, rfl⟩ := (readFound_eq_ok_iff s).mp hread
    rw [List.map_cons, List.map_cons, ih]

/-- Files that are read in the order of their names have their paths in order. -/
theorem pairwise_parts_of_mapM {fs : List (List String × ByteArray)} {files : List DescriptorFile}
    (hnames : ∀ f ∈ fs, ∀ x ∈ f.1, IsName x) (hsorted : fs.Pairwise (·.1 < ·.1))
    (h : fs.mapM s.readFound = .ok files) : files.Pairwise (·.path.parts < ·.path.parts) := by
  have hparts : files.map (·.path.parts) = fs.map (s.root.parts ++ ·.1) := by
    have hpaths : files.map (·.path.parts) = (files.map (·.path)).map FilePath.parts := by simp
    rw [hpaths, map_path_of_mapM s h, List.map_map]
    exact List.map_congr_left fun f hf ↦ FilePath.parts_append (hnames f hf)
  rw [← List.pairwise_map (f := fun file : DescriptorFile ↦ file.path.parts), hparts, List.pairwise_map]
  exact hsorted.imp fun hlt ↦ List.append_left_lt hlt

theorem isName_of_mem_wanted (hd : IsTree d) (hroot : d.node? root = some .directory) :
    ∀ f ∈ s.wanted d root, ∀ x ∈ f.1, IsName x := fun _ hf ↦
  (names_of_file hd hroot ((s.mem_wanted_iff hd.toIsMap hroot).mp hf).2.1).2

/-- **Reading and sorting.** A search that ends gives what reading in the order of the names gives. -/
theorem run_eq_ok_iff (hd : IsMap d) (hlocate : d.locate s.root = .ok root)
    (hroot : d.node? root = some .directory) (hnames : ∀ f ∈ s.wanted d root, ∀ x ∈ f.1, IsName x)
    {files : List DescriptorFile} : s.run d = .ok files ↔
      s.faults d root = [] ∧ (s.wanted d root).mapM s.readFound = .ok files := by
  have hperm := perm_sortBy (·.1) ((s.walk d root).filter fun f ↦ s.wants f.1)
  have hsorted := s.pairwise_wanted hd root
  rw [run_of_directory s hlocate hroot]
  cases s.faults d root with
  | cons fault faults => simp
  | nil =>
    rw [eq_self, true_and, map_eq_ok]
    constructor
    · rintro ⟨found, hfound, rfl⟩
      obtain ⟨files, hfiles, hfilesPerm⟩ := exists_mapM_of_perm hperm hfound
      rwa [sortBy_eq_of_perm hfilesPerm (pairwise_parts_of_mapM s hnames hsorted hfiles)]
    · intro hfiles
      obtain ⟨found, hfound, hfoundPerm⟩ := exists_mapM_of_perm hperm.symm hfiles
      exact ⟨found, hfound, sortBy_eq_of_perm hfoundPerm.symm
        (pairwise_parts_of_mapM s hnames hsorted hfiles)⟩

/-- A search of another disk finds the same where it looks for the same. -/
theorem run_congr (hd : IsTree d) (he : IsMap e) (hnode : e.nodeAt? s.root = d.nodeAt? s.root)
    (h : ∀ root, d.locate s.root = .ok root → d.node? root = some .directory →
      e.locate s.root = .ok root ∧ e.node? root = some .directory ∧
        s.faults e root = s.faults d root ∧ s.wanted e root = s.wanted d root)
    {files : List DescriptorFile} (hrun : s.run d = .ok files) : s.run e = .ok files := by
  cases hd' : d.nodeAt? s.root with
  | none =>
    simp only [run, hd'] at hrun
    cases hrun
  | some n =>
    cases n with
    | file content =>
      simp only [run, hnode, hd'] at hrun ⊢
      exact hrun
    | directory =>
      obtain ⟨root, hlocate, hdirectory⟩ := exists_locate_of_nodeAt? hd'
      obtain ⟨hlocate', hdirectory', hfaults, hwanted⟩ := h root hlocate hdirectory
      have hnames := s.isName_of_mem_wanted hd hdirectory
      have hnames' : ∀ f ∈ s.wanted e root, ∀ x ∈ f.1, IsName x := by
        rw [hwanted]
        exact hnames
      rw [run_eq_ok_iff s he hlocate' hdirectory' hnames', hfaults, hwanted]
      exact (run_eq_ok_iff s hd.toIsMap hlocate hdirectory hnames).mp hrun

end Search

end JavaBuilder.Project
