import JavaBuilder.Proofs.Project.Repeating

/-!
# Descriptors that cannot be used

A file that is found is decoded, and its descriptor is read. What fails in one of these steps is skipped and
reported, and a run gives the same files as if it were not there. Before that its bytes are read as text, and
there one file that is no text ends the search for all. So a run keeps its descriptors apart exactly where
every file that is looked for is text.

Taking files away is the other side of adding them: the disk with them extends the one without.
-/

namespace JavaBuilder.Project

open Builder Disk Text

variable {d e : Disk} {root : Location} {U : List Location} {search : Search} {input : FilePath}

/-! ## Loading what is found -/

theorem file_of_load {f : DescriptorFile} {fault : DescriptorFault} (h : f.load = .error fault) :
    fault.file = f.path := by
  rcases bind_eq_error.mp h with h | ⟨descriptor, -, h⟩
  · cases hjson : Model.Descriptor.ofText f.text with
    | ok _ =>
      rw [hjson] at h
      cases h
    | error e =>
      rw [hjson] at h
      exact Except.error.inj h ▸ rfl
  · rcases bind_eq_error.mp h with h | ⟨_, -, h⟩
    · cases hmodel : descriptor.datatype with
      | ok _ =>
        rw [hmodel] at h
        cases h
      | error e =>
        rw [hmodel] at h
        exact Except.error.inj h ▸ rfl
    · cases h

theorem loadAll_fst (fs : List DescriptorFile) :
    (loadAll fs).1 = fs.filterMap fun f ↦ f.load.toOption := by
  induction fs with
  | nil => rfl
  | cons f fs ih =>
    rw [loadAll, List.filterMap_cons, ← ih]
    cases f.load <;> rfl

/-- There is one fault for each file that cannot be used, in the order of the files. -/
theorem map_file_loadAll (fs : List DescriptorFile) : (loadAll fs).2.map (·.file) =
    (fs.filter fun f ↦ f.load.toOption.isNone).map (·.path) := by
  induction fs with
  | nil => rfl
  | cons f fs ih =>
    rw [loadAll, List.filter_cons]
    cases hload : f.load with
    | ok l => exact ih
    | error fault =>
      rw [List.map_cons, ih, file_of_load hload]
      rfl

namespace Search

/-- The descriptor in a file that is found, if it can be used. -/
def usable? (s : Search) (f : List String × ByteArray) : Option LoadedDescriptor :=
  (s.readFound f).toOption.bind fun file ↦ file.load.toOption

/-- What is looked for does not decide what can be used. -/
theorem usable?_congr {s t : Search} (h : s.root = t.root) : s.usable? = t.usable? := by
  funext f
  rw [usable?, usable?, readFound, readFound, h]

theorem loadAll_mapM {s : Search} {fs : List (List String × ByteArray)} {files : List DescriptorFile}
    (h : fs.mapM s.readFound = .ok files) : files.length = fs.length ∧
      (loadAll files).1 = fs.filterMap s.usable? ∧
      (loadAll files).2.map (·.file) =
        (fs.filter fun f ↦ (s.usable? f).isNone).map fun f ↦ s.root.append f.1 := by
  rw [loadAll_fst, map_file_loadAll]
  induction mapM_eq_ok.mp h with
  | nil => exact ⟨rfl, rfl, rfl⟩
  | @cons f file fs files hf hrest ih =>
    obtain ⟨hlength, hloaded, hskipped⟩ := ih (mapM_eq_ok.mpr hrest)
    have husable : s.usable? f = file.load.toOption := by rw [usable?, hf]; rfl
    obtain ⟨text, -, rfl⟩ := (readFound_eq_ok_iff s).mp hf
    refine ⟨by simp [hlength], ?_, ?_⟩
    · rw [List.filterMap_cons, List.filterMap_cons, husable, hloaded]
    · rw [List.filter_cons, List.filter_cons, husable]
      split_ifs
      · rw [List.map_cons, List.map_cons, hskipped]
      · exact hskipped

end Search

/-! ## Taking files away -/

theorem node?_erase {l m : Location} (hl : l ≠ []) :
    (d.erase l).node? m = if m = l then none else d.node? m := by
  by_cases hm : m = []
  · rw [if_neg (by rw [hm]; exact hl.symm), hm]
    rfl
  · rw [node?, if_neg hm]
    split_ifs with heq
    · rw [heq, List.lookup_eq_none_iff]
      intro x hx
      have hne := (List.mem_filter.mp hx).2
      rw [Bool.not_eq_true', beq_eq_false_iff_ne] at hne
      exact bne_iff_ne.mpr hne.symm
    · rw [erase, lookup_filter_ne heq, node?, if_neg hm]

theorem isTree_erase {l : Location} (hd : IsTree d) (hl : l ≠ []) (hnode : d.node? l ≠ some .directory) :
    IsTree (d.erase l) := by
  have hmem {m : Location} (hm : m ∈ (d.erase l).nodes.map (·.1)) : m ∈ d.nodes.map (·.1) :=
    (List.filter_sublist.map _).mem hm
  have hkeeps {m : Location} (hm : d.node? m = some .directory) :
      (d.erase l).node? m = some .directory := by
    rw [node?_erase hl, if_neg, hm]
    rintro rfl
    exact hnode hm
  exact {
    nodup := hd.nodup.sublist (List.filter_sublist.map _)
    root := fun h ↦ hd.root (hmem h)
    around := fun m hm ↦ hkeeps (hd.around m (hmem hm))
    isName := fun m hm ↦ hd.isName m (hmem hm)
    working := hkeeps hd.working }

/-- A disk without what is at some locations. -/
def withoutAll (d : Disk) (U : List Location) : Disk := U.foldl Disk.erase d

theorem withoutAll_spec (hd : IsTree d) (hU : ∀ l ∈ U, d.node? l ≠ some .directory) :
    (withoutAll d U).working = d.working ∧ (withoutAll d U).user = d.user ∧ IsTree (withoutAll d U) ∧
      ∀ m, (withoutAll d U).node? m = if m ∈ U then none else d.node? m := by
  induction U generalizing d with
  | nil => exact ⟨rfl, rfl, hd, fun m ↦ rfl⟩
  | cons l U ih =>
    obtain ⟨hl, hU⟩ := List.forall_mem_cons.mp hU
    have hroot : l ≠ [] := by
      rintro rfl
      exact hl rfl
    have hrest : ∀ m ∈ U, (d.erase l).node? m ≠ some .directory := by
      intro m hm
      rw [node?_erase hroot]
      split_ifs
      · exact nofun
      · exact hU m hm
    obtain ⟨hworking, huser, htree, hnode⟩ := ih (isTree_erase hd hroot hl) hrest
    refine ⟨hworking, huser, htree, fun m ↦ ?_⟩
    rw [withoutAll, List.foldl_cons, ← withoutAll, hnode, node?_erase hroot]
    by_cases hm : m ∈ U
    · rw [if_pos hm, if_pos (.tail _ hm)]
    · by_cases heq : m = l
      · rw [if_neg hm, if_pos heq, if_pos (heq ▸ List.mem_cons_self)]
      · rw [if_neg hm, if_neg heq, if_neg (by simp [hm, heq])]

/-! ## Descriptors that are taken away -/

/-- At a location below a root is a file with the name of a descriptor that cannot be used. -/
def IsUnusable (input : FilePath) (d : Disk) (root l : Location) : Prop :=
  ∃ names c, l = root ++ names ∧ isDescriptor ⟨names.getLastD ""⟩ = true ∧
    d.node? l = some (.file c) ∧ Search.usable? { root := input } (names, c) = none

/-- A name of a descriptor. -/
def IsDescriptorName (s : String) : Prop := isDescriptor ⟨s⟩ = true

instance : DecidablePred IsDescriptorName := fun s ↦ inferInstanceAs (Decidable (isDescriptor ⟨s⟩ = true))

theorem not_isDescriptorName_of_mem_ruleNames : ∀ s ∈ ruleNames, ¬IsDescriptorName s := by decide +kernel

section

variable (hd : IsTree d) (hroot : d.node? root = some .directory)
  (hU : ∀ l ∈ U, IsUnusable input d root l)

include hU

theorem not_directory_of_isUnusable : ∀ l ∈ U, d.node? l ≠ some .directory := by
  intro l hl
  obtain ⟨names, c, -, -, hnode, -⟩ := hU l hl
  rw [hnode]
  exact nofun

include hd in
theorem keepsDirectories_withoutAll : KeepsDirectories d (withoutAll d U) := by
  obtain ⟨hworking, huser, -, hnode⟩ := withoutAll_spec hd (not_directory_of_isUnusable hU)
  refine ⟨hworking, huser, fun l hl ↦ ?_⟩
  rw [hnode, if_neg fun hmem ↦ not_directory_of_isUnusable hU l hmem hl, hl]

include hroot

theorem exists_name_of_isUnusable : ∀ l ∈ U, ∃ m s, l = m ++ [s] ∧ IsDescriptorName s := by
  intro l hl
  obtain ⟨names, c, rfl, hdescriptor, hnode, -⟩ := hU l hl
  cases names using List.reverseRecOn with
  | nil =>
    rw [List.append_nil, hroot] at hnode
    cases hnode
  | append_singleton names s =>
    rw [List.getLastD_concat] at hdescriptor
    exact ⟨root ++ names, s, (List.append_assoc _ _ _).symm, hdescriptor⟩

include hd

theorem extends_withoutAll : Extends IsDescriptorName (withoutAll d U) d where
  keeps := by
    obtain ⟨hworking, huser, -, hnode⟩ := withoutAll_spec hd (not_directory_of_isUnusable hU)
    refine ⟨hworking.symm, huser.symm, fun l hl ↦ ?_⟩
    rw [hnode] at hl
    split_ifs at hl
    exact hl
  stays l := by
    obtain ⟨-, -, -, hnode⟩ := withoutAll_spec hd (not_directory_of_isUnusable hU)
    by_cases hl : l ∈ U
    · exact .inr (exists_name_of_isUnusable hroot hU l hl)
    · exact .inl (.inl (by rw [hnode, if_neg hl]))

/-- A path leads where it led, unless that was taken away. -/
theorem nodeAt?_withoutAll {p : FilePath} (hp : ∀ l, d.locate p = .ok l → l ∉ U) :
    d.nodeAt? p = (withoutAll d U).nodeAt? p := by
  obtain ⟨-, -, -, hnode⟩ := withoutAll_spec hd (not_directory_of_isUnusable hU)
  cases hd' : d.locate p with
  | ok l =>
    rw [nodeAt?_of_locate hd', nodeAt?_of_locate ((keepsDirectories_withoutAll hd hU).locate hd'),
      hnode, if_neg (hp l hd')]
  | error fault =>
    cases he' : (withoutAll d U).locate p with
    | ok l =>
      rw [(extends_withoutAll hd hroot hU).keeps.locate he'] at hd'
      cases hd'
    | error _ => rw [nodeAt?, nodeAt?, hd', he']

/-- A path that ends with the name of no descriptor leads where it led. -/
theorem nodeAt?_withoutAll_join (p : FilePath) (names : List String) (s : String)
    (hnames : ∀ x ∈ names ++ [s], IsName x) (hs : ¬IsDescriptorName s) :
    d.nodeAt? (p.join ⟨join '/' (names ++ [s])⟩) =
      (withoutAll d U).nodeAt? (p.join ⟨join '/' (names ++ [s])⟩) := by
  refine nodeAt?_withoutAll hd hroot hU fun l hl hmem ↦ ?_
  obtain ⟨b, -, -, rfl⟩ := locate_join_names (by simp) hnames hl
  obtain ⟨m, s', heq, hs'⟩ := exists_name_of_isUnusable hroot hU _ hmem
  rw [← List.append_assoc] at heq
  exact hs ((List.append_singleton_inj.mp heq).2 ▸ hs')

/-- The configurations of a user are no descriptors. -/
theorem contentAt?_withoutAll_configFiles :
    ∀ p ∈ d.user.configFiles, d.contentAt? p = (withoutAll d U).contentAt? p := by
  intro p hp
  rcases List.mem_append.mp hp with hp | hp
  · obtain ⟨home, -, rfl⟩ := Option.mem_map.mp (Option.mem_toList.mp hp)
    exact contentAt?_congr
      (nodeAt?_withoutAll_join hd hroot hU home [] ".gitconfig" (by decide) (by decide +kernel))
  · obtain ⟨config, -, rfl⟩ := Option.mem_map.mp (Option.mem_toList.mp hp)
    exact contentAt?_congr
      (nodeAt?_withoutAll_join hd hroot hU config ["git"] "config" (by decide) (by decide +kernel))

end

/-- The file with the rules of the user is not one that cannot be used. -/
def SparesUser (input : FilePath) (d : Disk) (root : Location) : Prop :=
  ∀ p ∈ userFile? d, ∀ l, d.locate p = .ok l → ¬IsUnusable input d root l

section

variable (hd : IsTree d) (hroot : d.node? root = some .directory)
  (hU : ∀ l ∈ U, IsUnusable input d root l) (huser : SparesUser input d root)

include hU hroot hd huser

theorem sameRules_withoutAll : SameRules (withoutAll d U) d root := by
  obtain ⟨-, huser', htree, hnode⟩ := withoutAll_spec hd (not_directory_of_isUnusable hU)
  refine sameRules_of_extends (extends_withoutAll hd hroot hU) htree
    not_isDescriptorName_of_mem_ruleNames ⟨fun directory _ s hs hnone ↦ ?_,
      fun directory _ c line q _ _ _ ↦ ?_, fun directory _ c q _ _ ↦ ?_⟩ fun p hp ↦ ?_
  · rw [hnode] at hnone
    by_cases hmem : directory ++ [s] ∈ U
    · obtain ⟨m, s', heq, hs'⟩ := exists_name_of_isUnusable hroot hU _ hmem
      obtain ⟨-, rfl⟩ := List.append_singleton_inj.mp heq
      have hall : ∀ s ∈ [repositoryName, ".jj"], s ∈ ruleNames := by decide
      exact absurd hs' (not_isDescriptorName_of_mem_ruleNames s (hall s hs))
    · rwa [if_neg hmem] at hnone
  · exact nodeAt?_withoutAll_join hd hroot hU q [] "commondir" (by decide) (by decide +kernel)
  · rw [excludeName_eq]
    exact nodeAt?_withoutAll_join hd hroot hU q ["info"] "exclude" (by decide) (by decide +kernel)
  · have hconfig := contentAt?_withoutAll_configFiles hd hroot hU
    rw [userFiles, huser', ← userFile?_congr huser'.symm (huser' ▸ hconfig)] at hp
    rcases List.mem_append.mp hp with hp | hp
    · exact hconfig p hp
    · exact contentAt?_congr (nodeAt?_withoutAll hd hroot hU fun l hl hmem ↦
        huser p (Option.mem_toList.mp hp) l hl (hU l hmem))

/-- The files that are looked for are the same, but for those that were taken away. -/
theorem wanted_withoutAll : search.wanted (withoutAll d U) root =
    (search.wanted d root).filter fun f ↦ root ++ f.1 ∉ U := by
  obtain ⟨-, -, htree, hnode⟩ := withoutAll_spec hd (not_directory_of_isUnusable hU)
  have hroot' := (keepsDirectories_withoutAll hd hU).directory root hroot
  have hnames : ∀ s ∈ root, IsName s := hd.isName_of_isSome (by rw [hroot]; rfl)
  have hrules := sameRules_withoutAll hd hroot hU huser
  refine eq_of_pairwise_lt (search.pairwise_wanted htree.toIsMap root)
    ((search.pairwise_wanted hd.toIsMap root).filter _) fun ⟨names, c⟩ ↦ ?_
  rw [List.mem_filter, search.mem_wanted_iff htree.toIsMap hroot', search.mem_wanted_iff hd.toIsMap hroot,
    hnode]
  have hleft (hfile : d.node? (root ++ names) = some (.file c)) :
      isLeftOut d search.repositories search.root root names =
        isLeftOut (withoutAll d U) search.repositories search.root root names :=
    hrules.isLeftOut_eq hnames (names_of_file hd hroot hfile).2 _ _
  by_cases hmem : root ++ names ∈ U
  · simp [hmem]
  · rw [if_neg hmem, decide_eq_true hmem]
    constructor
    · rintro ⟨hinput, hfile, hkept, hwants⟩
      exact ⟨⟨hinput, hfile, (hleft hfile).trans hkept, hwants⟩, rfl⟩
    · rintro ⟨⟨hinput, hfile, hkept, hwants⟩, -⟩
      exact ⟨hinput, hfile, hleft hfile ▸ hkept, hwants⟩

/-- Taking files away that cannot be used takes nothing away from what can. -/
theorem filterMap_wanted_withoutAll (hinput : search.root = input) :
    (search.wanted (withoutAll d U) root).filterMap search.usable? =
      (search.wanted d root).filterMap search.usable? := by
  rw [wanted_withoutAll hd hroot hU huser, List.filterMap_filter]
  refine List.filterMap_congr fun ⟨names, c⟩ hf ↦ ?_
  obtain ⟨-, hfile, -⟩ := (search.mem_wanted_iff hd.toIsMap hroot).mp hf
  by_cases hmem : root ++ names ∈ U
  · obtain ⟨names', c', heq, -, hfile', hunusable⟩ := hU _ hmem
    obtain rfl := List.append_cancel_left heq
    rw [hfile] at hfile'
    obtain ⟨rfl⟩ := hfile'
    rw [← Search.usable?_congr hinput] at hunusable
    simp [hmem, hunusable]
  · simp [hmem]

end

/-- Where the files are that are looked for and no text. -/
def notText (search : Search) (d : Disk) (root : Location) : List Location :=
  ((search.wanted d root).filter fun f ↦ (textOf f.2).toOption.isNone).map (root ++ ·.1)

theorem isUnusable_of_mem_notText (search : Search) (input : FilePath) (hd : IsTree d)
    (hroot : d.node? root = some .directory) :
    ∀ l ∈ notText search d root, IsUnusable input d root l := by
  intro l hl
  obtain ⟨⟨names, c⟩, hf, rfl⟩ := List.mem_map.mp hl
  obtain ⟨hwanted, hnone⟩ := List.mem_filter.mp hf
  obtain ⟨-, hnode, -, hwants⟩ := (search.mem_wanted_iff hd.toIsMap hroot).mp hwanted
  refine ⟨names, c, rfl, isDescriptor_of_wants hwants, hnode, ?_⟩
  rw [Search.usable?, Search.readFound, Search.readFile]
  cases ht : textOf c with
  | ok text =>
    rw [ht] at hnone
    cases hnone
  | error fault => rfl

/-- Without them all files that are looked for are text. -/
theorem exists_text_of_mem_wanted (hd : IsTree d) (hroot : d.node? root = some .directory)
    (huser : SparesUser input d root) :
    ∀ f ∈ search.wanted (withoutAll d (notText search d root)) root, ∃ text, textOf f.2 = .ok text := by
  intro f hf
  rw [wanted_withoutAll hd hroot (isUnusable_of_mem_notText search input hd hroot) huser] at hf
  obtain ⟨hwanted, hnot⟩ := List.mem_filter.mp hf
  cases ht : textOf f.2 with
  | ok text => exact ⟨text, rfl⟩
  | error fault =>
    refine absurd (List.mem_map_of_mem (List.mem_filter.mpr ⟨hwanted, ?_⟩)) (of_decide_eq_true hnot)
    rw [ht]
    rfl

/-! ## Runs -/

section

variable {filter : Option String} {s : Settings} {options : Config}
  (hsearch : searchFor input filter = .ok search) (hoptions : s.options = .ok options)
  (hlocate : d.locate input = .ok root) (hroot : d.node? root = some .directory) (hd : IsTree d)
  (hfaults : search.faults d root = [])

include hsearch hlocate hroot hd

/-- What a search for the input finds are the files that are looked for. -/
theorem run_searchFor_eq_ok_iff {files : List DescriptorFile} : search.run d = .ok files ↔
    search.faults d root = [] ∧ (search.wanted d root).mapM search.readFound = .ok files := by
  have hlocate' : d.locate search.root = .ok root := root_of_searchFor hsearch ▸ hlocate
  exact search.run_eq_ok_iff hd.toIsMap hlocate' hroot (search.isName_of_mem_wanted hd hroot)

/-- What a run counts and reports are the files that are looked for. -/
theorem Run.counts {r : Run} (h : Run.of d input filter s = .ok r) :
    r.scanned = (search.wanted d root).length ∧ r.skipped.map (·.file) =
      ((search.wanted d root).filter fun f ↦ (search.usable? f).isNone).map fun f ↦ input.append f.1 := by
  obtain ⟨_, -, h⟩ := bind_eq_ok.mp h
  obtain ⟨search', hsearch', h⟩ := bind_eq_ok.mp h
  obtain rfl := Except.ok.inj (hsearch.symm.trans (eq_ok_of_mapError hsearch'))
  obtain ⟨found, hfound, h⟩ := bind_eq_ok.mp h
  obtain ⟨files, -, h⟩ := bind_eq_ok.mp h
  obtain rfl := Except.ok.inj h
  have hread := (run_searchFor_eq_ok_iff hsearch hlocate hroot hd).mp (eq_ok_of_mapError hfound)
  obtain ⟨hlength, -, hskipped⟩ := Search.loadAll_mapM hread.2
  exact ⟨hlength, by rw [hskipped, root_of_searchFor hsearch]⟩

include hoptions hfaults

/-- Where all files are text, the result is decided by those that can be used. -/
theorem Run.map_files (htext : ∀ f ∈ search.wanted d root, ∃ text, textOf f.2 = .ok text) :
    (·.files) <$> Run.of d input filter s =
      (generateAll options ((search.wanted d root).filterMap search.usable?)).mapError .generate := by
  obtain ⟨found, hfound⟩ : ∃ found, (search.wanted d root).mapM search.readFound = .ok found := by
    simp only [mapM_eq_ok, exists_forall₂_iff, Search.readFound_eq_ok_iff]
    intro f hf
    obtain ⟨text, ht⟩ := htext f hf
    exact ⟨_, text, ht, rfl⟩
  obtain ⟨-, hloaded, -⟩ := Search.loadAll_mapM hfound
  have hrun := (run_searchFor_eq_ok_iff hsearch hlocate hroot hd).mpr ⟨hfaults, hfound⟩
  rw [Run.of, hoptions, hsearch, ← hloaded]
  simp only [Except.mapError, ok_bind, hrun]
  cases generateAll options (loadAll found).1 <;> rfl

omit hd in
/-- A file that is no text ends the run. -/
theorem Run.of_not_text {f : List String × ByteArray} (hf : f ∈ search.wanted d root)
    (htext : ∀ text, textOf f.2 ≠ .ok text) :
    ∃ p, Run.of d input filter s = .error (.scan (.unreadable p .notText)) := by
  have hlocate' : d.locate search.root = .ok root := root_of_searchFor hsearch ▸ hlocate
  have hfound : f ∈ (search.walk d root).filter fun f ↦ search.wants f.1 := (perm_sortBy _ _).mem_iff.mp hf
  rw [Run.of, hoptions, hsearch]
  simp only [Except.mapError, ok_bind, search.run_of_directory hlocate' hroot, hfaults]
  cases hread : ((search.walk d root).filter fun f ↦ search.wants f.1).mapM search.readFound with
  | ok found =>
    obtain ⟨file, hfile⟩ := exists_forall₂_iff.mp ⟨found, mapM_eq_ok.mp hread⟩ f hfound
    obtain ⟨text, ht, -⟩ := (search.readFound_eq_ok_iff).mp hfile
    exact absurd ht (htext text)
  | error fault =>
    obtain ⟨g, -, hg⟩ := exists_of_mapM_eq_error hread
    rw [Search.readFound, Search.readFile, textOf] at hg
    cases hutf8 : String.fromUTF8? g.2 with
    | some text =>
      rw [hutf8] at hg
      cases hg
    | none =>
      rw [hutf8] at hg
      obtain rfl := Except.error.inj hg
      exact ⟨_, rfl⟩

/-- Where all files are text, what cannot be used can be taken away. -/
theorem Run.map_files_withoutAll (hU : ∀ l ∈ U, IsUnusable input d root l) (huser : SparesUser input d root)
    (htext : ∀ f ∈ search.wanted (withoutAll d U) root, ∃ text, textOf f.2 = .ok text) :
    (·.files) <$> Run.of (withoutAll d U) input filter s =
      (generateAll options ((search.wanted d root).filterMap search.usable?)).mapError .generate := by
  have hkeeps := keepsDirectories_withoutAll hd hU
  have hrules := sameRules_withoutAll hd hroot hU huser
  obtain ⟨-, -, htree, -⟩ := withoutAll_spec hd (not_directory_of_isUnusable hU)
  have hnames : ∀ x ∈ root, IsName x := hd.isName_of_isSome (by rw [hroot]; rfl)
  rw [Run.map_files hsearch hoptions (hkeeps.locate hlocate) (hkeeps.directory root hroot) htree
    ((hrules.faults_eq hnames search).symm.trans hfaults) htext,
    filterMap_wanted_withoutAll hd hroot hU huser (root_of_searchFor hsearch)]

/-- Only where all files are text can everything be taken away that cannot be used. -/
theorem isText_of_map_files_withoutAll (huser : SparesUser input d root)
    (h : ∀ U, (∀ l ∈ U, IsUnusable input d root l) →
      (·.files) <$> Run.of (withoutAll d U) input filter s = (·.files) <$> Run.of d input filter s) :
    ∀ f ∈ search.wanted d root, ∃ text, textOf f.2 = .ok text := by
  intro f hf
  by_contra htext
  rw [not_exists] at htext
  obtain ⟨p, hp⟩ := Run.of_not_text hsearch hoptions hlocate hroot hfaults hf htext
  -- Without the files that are no text, a run can fail only when it generates.
  have hU := isUnusable_of_mem_notText search input hd hroot
  have hsame := h (notText search d root) hU
  rw [Run.map_files_withoutAll hsearch hoptions hlocate hroot hd hfaults hU huser
    (exists_text_of_mem_wanted hd hroot huser), hp] at hsame
  cases hgenerate : generateAll options ((search.wanted d root).filterMap search.usable?) <;>
    · rw [hgenerate] at hsame
      cases hsame

end

/-- A run comes to read files: the options and the filter are understood, and so are the ignore rules in the
directories around the root. -/
structure Reads (d : Disk) (input : FilePath) (filter : Option String) (s : Settings) (root : Location)
    (search : Search) : Prop where
  filter : searchFor input filter = .ok search
  options : ∃ options, s.options = .ok options
  faults : search.faults d root = []

section

variable {filter : Option String} {s : Settings} (hlocate : d.locate input = .ok root)
  (hroot : d.node? root = some .directory) (hd : IsTree d)

include hlocate hroot hd

theorem exists_reads_of_run {r : Run} (h : Run.of d input filter s = .ok r) :
    ∃ search, Reads d input filter s root search := by
  obtain ⟨options, hoptions, h⟩ := bind_eq_ok.mp h
  obtain ⟨search, hsearch, h⟩ := bind_eq_ok.mp h
  obtain ⟨found, hfound, -⟩ := bind_eq_ok.mp h
  have hsearch := eq_ok_of_mapError hsearch
  have hread := (run_searchFor_eq_ok_iff hsearch hlocate hroot hd).mp (eq_ok_of_mapError hfound)
  exact ⟨search, hsearch, ⟨options, eq_ok_of_mapError hoptions⟩, hread.1⟩

/-- A run that does not come to read files does not depend on them. -/
theorem Run.of_withoutAll (hU : ∀ l ∈ U, IsUnusable input d root l) (huser : SparesUser input d root)
    (h : ∀ search, ¬Reads d input filter s root search) :
    Run.of (withoutAll d U) input filter s = Run.of d input filter s := by
  have hkeeps := keepsDirectories_withoutAll hd hU
  have hnames : ∀ x ∈ root, IsName x := hd.isName_of_isSome (by rw [hroot]; rfl)
  cases hoptions : s.options with
  | error e => simp only [Run.of, hoptions, Except.mapError, error_bind]
  | ok options =>
    cases hsearch : searchFor input filter with
    | error e => simp only [Run.of, hoptions, hsearch, Except.mapError, ok_bind, error_bind]
    | ok search =>
      have hlocate' : d.locate search.root = .ok root := root_of_searchFor hsearch ▸ hlocate
      have hrun : search.run (withoutAll d U) = search.run d := by
        rw [search.run_of_directory hlocate' hroot,
          search.run_of_directory (hkeeps.locate hlocate') (hkeeps.directory root hroot),
          ← (sameRules_withoutAll hd hroot hU huser).faults_eq hnames]
        cases hfaults : search.faults d root with
        | nil => exact absurd ⟨hsearch, ⟨options, hoptions⟩, hfaults⟩ (h search)
        | cons fault faults => rfl
      simp only [Run.of, hoptions, hsearch, Except.mapError, ok_bind, hrun]

/-- **When descriptors that cannot be used do not affect the others.** A run that ends counts all files that
are looked for, and reports those that cannot be used by their paths, in order. It gives the same files, or
the same fault of generation, without any of them, if and only if all files that it reads are text. For this
the rules of the user must not stand in one of them, since taking that away would change the rules. -/
theorem run_isolates :
    (∀ r, Run.of d input filter s = .ok r → ∃ search, Reads d input filter s root search ∧
      r.scanned = (search.wanted d root).length ∧
      r.skipped.map (·.file) = ((search.wanted d root).filter fun f ↦ (search.usable? f).isNone).map
        fun f ↦ input.append f.1) ∧
    (SparesUser input d root →
      ((∀ U, (∀ l ∈ U, IsUnusable input d root l) →
          (·.files) <$> Run.of (withoutAll d U) input filter s = (·.files) <$> Run.of d input filter s) ↔
        ∀ search, Reads d input filter s root search →
          ∀ f ∈ search.wanted d root, ∃ text, textOf f.2 = .ok text)) := by
  refine ⟨fun r hr ↦ ?_, fun huser ↦ ⟨fun h search ⟨hsearch, ⟨options, hoptions⟩, hfaults⟩ ↦
    isText_of_map_files_withoutAll hsearch hoptions hlocate hroot hd hfaults huser h, fun htext U hU ↦ ?_⟩⟩
  · obtain ⟨search, hsearch, ⟨options, hoptions⟩, hfaults⟩ := exists_reads_of_run hlocate hroot hd hr
    exact ⟨search, ⟨hsearch, ⟨options, hoptions⟩, hfaults⟩, Run.counts hsearch hlocate hroot hd hr⟩
  · by_cases hreads : ∃ search, Reads d input filter s root search
    · obtain ⟨search, hsearch, ⟨options, hoptions⟩, hfaults⟩ := hreads
      have htext := htext search ⟨hsearch, ⟨options, hoptions⟩, hfaults⟩
      rw [Run.map_files hsearch hoptions hlocate hroot hd hfaults htext]
      refine Run.map_files_withoutAll hsearch hoptions hlocate hroot hd hfaults hU huser fun f hf ↦ htext f ?_
      rw [wanted_withoutAll hd hroot hU huser] at hf
      exact List.mem_of_mem_filter hf
    · rw [Run.of_withoutAll hlocate hroot hd hU huser (not_exists.mp hreads)]

end

/-- A disk with a descriptor and another file beside it. -/
def besideDisk (content : ByteArray) : Disk where
  nodes := [(["in"], .directory), (["in", "a.json"], .file "\x7b\"type\":\"a.B\"\x7d".toUTF8),
    (["in", "b.json"], .file content)]
  working := []

theorem isTree_besideDisk (content : ByteArray) : IsTree (besideDisk content) := by
  have hkeys : (besideDisk content).nodes.map (·.1) = [["in"], ["in", "a.json"], ["in", "b.json"]] := rfl
  refine ⟨⟨?_, ?_⟩, ?_, ?_, rfl⟩ <;> rw [hkeys]
  · decide
  · decide
  · simp only [List.forall_mem_cons]
    exact ⟨rfl, rfl, rfl, nofun⟩
  · decide

/-- A text that is no descriptor. -/
theorem run_isolates_bracket :
    (·.files) <$> Run.of (withoutAll (besideDisk "[".toUTF8) [["in", "b.json"]]) ⟨"in"⟩ none .standard =
      (·.files) <$> Run.of (besideDisk "[".toUTF8) ⟨"in"⟩ none .standard := by
  have hlocate : (besideDisk "[".toUTF8).locate ⟨"in"⟩ = .ok ["in"] := by decide +kernel
  have hwanted : (Search.wanted { root := ⟨"in"⟩ } (besideDisk "[".toUTF8) ["in"]).map (·.2) =
    ["\x7b\"type\":\"a.B\"\x7d".toUTF8, "[".toUTF8] := by decide +kernel
  refine ((run_isolates hlocate rfl (isTree_besideDisk _)).2 nofun).mpr (fun search hreads f hf ↦ ?_)
    [["in", "b.json"]] fun l hl ↦ ?_
  · obtain rfl : { root := ⟨"in"⟩ } = search := Except.ok.inj hreads.filter
    have hmem := List.mem_map_of_mem (f := (·.2)) hf
    rw [hwanted, List.mem_cons, List.mem_singleton] at hmem
    rcases hmem with h | h <;> exact ⟨_, textOf_eq_ok_iff.mpr h⟩
  · obtain rfl := List.mem_singleton.mp hl
    exact ⟨["b.json"], "[".toUTF8, rfl, by decide +kernel, rfl,
      Option.isNone_iff_eq_none.mp (by decide +kernel)⟩

/-- **A file that is no text ends the run for the others.** -/
theorem not_run_isolates : ¬∀ (d : Disk) (input : FilePath) (filter : Option String) (s : Settings)
    (root : Location) (U : List Location), IsTree d → d.locate input = .ok root →
      d.node? root = some .directory → (∀ l ∈ U, IsUnusable input d root l) →
      (·.files) <$> Run.of (withoutAll d U) input filter s = (·.files) <$> Run.of d input filter s := by
  intro h
  let d := besideDisk ⟨#[255]⟩
  have hlocate : d.locate ⟨"in"⟩ = .ok ["in"] := by decide +kernel
  have hunusable : ∀ l ∈ [["in", "b.json"]], IsUnusable ⟨"in"⟩ d ["in"] l := by
    intro l hl
    obtain rfl := List.mem_singleton.mp hl
    exact ⟨["b.json"], ⟨#[255]⟩, rfl, by decide +kernel, rfl,
      Option.isNone_iff_eq_none.mp (by decide +kernel)⟩
  have hwithout : (Run.of (withoutAll d [["in", "b.json"]]) ⟨"in"⟩ none .standard).isOk = true := by
    decide +kernel
  have hwith : (Run.of d ⟨"in"⟩ none .standard).isOk = false := by decide +kernel
  have hsame := h d ⟨"in"⟩ none .standard ["in"] _ (isTree_besideDisk _) hlocate rfl hunusable
  cases hd : Run.of d ⟨"in"⟩ none .standard with
  | ok r =>
    rw [hd] at hwith
    cases hwith
  | error e =>
    obtain ⟨r, hr⟩ := exists_of_isOk hwithout
    rw [hd, hr] at hsame
    cases hsame

end JavaBuilder.Project
