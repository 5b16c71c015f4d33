import JavaBuilder.Project.Run
import JavaBuilder.Proofs.Disk.Parts
import JavaBuilder.Proofs.Project.OutputPaths
import JavaBuilder.Proofs.Project.Searching

/-!
# Running again

The files of a run are Java sources, and Java sources are neither descriptors nor rules. So a run finds the
same on a disk to which such files and directories were added, unless it looks where one of them is: at the
configuration or the input, or for a repository.
-/

namespace JavaBuilder.Project

open Builder Disk Java Name Text

variable {d e : Disk} {root : Location} {s : Settings} {r : Run} {file : GeneratedFile}

/-! ## Source files -/

/-- A name of a Java source. -/
def IsSourceName (s : String) : Prop := IsName s ∧ ∃ t, s = t ++ ".java"

theorem isName_of_isIdentifier {s : String} (h : isIdentifier s = true) : IsName s := by
  have hne {t : String} (ht : isIdentifier t = false) : s ≠ t := by
    rintro rfl
    rw [ht] at h
    cases h
  exact ⟨hne (by decide), hne (by decide), hne (by decide), not_mem_of_isIdentifier h (by decide)⟩

theorem fileName?_of_isName {s : String} (h : IsName s) : (⟨s⟩ : FilePath).fileName? = some s := by
  have hsegments := FilePath.segments_name h
  have habsolute := FilePath.isAbsolute_name h
  have hslash : s ≠ "/" := by
    rintro rfl
    exact h.no_slash (by decide)
  have hparts : (⟨s⟩ : FilePath).parts = [s] := by
    simp [FilePath.parts, hsegments, habsolute, h.ne_empty, h.ne_dot]
  simp [FilePath.fileName?, hparts, h.ne_dot, h.ne_dots, hslash]

theorem IsSourceName.not_isDescriptor {s : String} (h : IsSourceName s) : isDescriptor ⟨s⟩ = false := by
  obtain ⟨hname, t, rfl⟩ := h
  have hsplit : split '.' (t ++ ".java") = split '.' t ++ ["java"] := by
    rw [split, String.toList_append, show ".java".toList = '.' :: "java".toList from rfl,
      segments_append_sep, List.map_append]
    rfl
  rw [isDescriptor, FilePath.extension?, fileName?_of_isName hname, Option.bind_some,
    FilePath.nameExtension?, hsplit, List.reverse_append, decide_eq_false_iff_not]
  cases (split '.' t).reverse with
  | nil => simp
  | cons before more =>
    simp only [List.reverse_singleton, List.singleton_append]
    split_ifs <;> simp [descriptorExtension]

theorem IsSourceName.not_mem_ruleNames {s : String} (h : IsSourceName s) : s ∉ ruleNames := by
  obtain ⟨-, t, rfl⟩ := h
  have hend : ∀ x ∈ ruleNames, x.toList.getLast? ≠ some 'a' := by decide
  refine fun hmem ↦ hend _ hmem ?_
  have hjava : ".java".toList = ".jav".toList ++ ['a'] := rfl
  rw [String.toList_append, hjava, ← List.append_assoc, List.getLast?_concat]

theorem names_of_generateFile {config : Config} {type : String} {l : LoadedDescriptor}
    (h : generateFile config type l = .ok file) :
    file.names = Generated.path l.descriptor.type.generated := by
  obtain ⟨g, hg, h⟩ := bind_eq_ok.mp h
  obtain rfl := Except.ok.inj h
  have hgenerate := eq_ok_of_mapError hg
  rw [generate_eq] at hgenerate
  obtain ⟨_, _, -, rfl⟩ := generateWith_eq_ok_iff.mp hgenerate
  rw [← l.descriptor.generated_conventional]

/-- The path of a type goes through names and ends with a source. -/
theorem path_of_isRead {name : ClassName} (h : name.IsRead) :
    (∀ s ∈ Generated.path name.generated, IsName s) ∧
      ∃ m s, Generated.path name.generated = m ++ [s] ∧ IsSourceName s := by
  have hfile : IsSourceName (Generated.fileName name.generated) := by
    have hlong : 5 ≤ (Generated.fileName name.generated).toList.length := by
      rw [Generated.fileName, String.toList_append, List.length_append]
      exact Nat.le_add_left _ _
    have hne {t : String} (ht : t.toList.length < 5) : Generated.fileName name.generated ≠ t := by
      rintro rfl
      exact absurd hlong (Nat.not_le.mpr ht)
    refine ⟨⟨hne (by decide), hne (by decide), hne (by decide), ?_⟩, _, rfl⟩
    refine h.slash_not_mem ?_
    rw [Generated.path]
    exact List.mem_append_right _ List.mem_cons_self
  refine ⟨fun s hs ↦ ?_, _, _, rfl, hfile⟩
  rw [h.path_generated] at hs
  rcases List.mem_append.mp hs with hs | hs
  · exact isName_of_isIdentifier ((ClassName.isRead_iff.mp h).identifiers s (List.mem_append_left _ hs))
  · exact List.mem_singleton.mp hs ▸ hfile.1

/-- **Where the files of a run are.** -/
theorem names_of_run {input : FilePath} {filter : Option String} (h : Run.of d input filter s = .ok r) :
    ∀ f ∈ r.files, (∀ s ∈ f.names, IsName s) ∧ ∃ m s, f.names = m ++ [s] ∧ IsSourceName s := by
  intro f hf
  simp only [Run.of, bind_eq_ok] at h
  obtain ⟨options, -, search, -, found, -, files, hfiles, h⟩ := h
  obtain rfl := Except.ok.inj h
  obtain ⟨table, htable, hfiles⟩ := bind_eq_ok.mp (eq_ok_of_mapError hfiles)
  obtain ⟨x, hx, hfile⟩ := exists_of_mem_mapM hfiles hf
  have hmem := (perm_of_foldlM_addByType htable).1.mem_iff.mp hx
  rw [List.append_nil] at hmem
  obtain ⟨l, hl, rfl⟩ := List.mem_map.mp hmem
  rw [names_of_generateFile hfile]
  exact path_of_isRead (isLoaded_of_mem_loadAll hl).isDecoded.type

/-! ## Looking again -/

theorem Settings.read_congr {asked : Option FilePath}
    (h : e.nodeAt? (asked.getD ⟨fileName⟩) = d.nodeAt? (asked.getD ⟨fileName⟩)) :
    Settings.read e asked = Settings.read d asked := by
  have hpath : e.hasPath (asked.getD ⟨fileName⟩) = d.hasPath (asked.getD ⟨fileName⟩) := by
    rw [hasPath, hasPath, h]
  unfold Settings.read
  simp only [hpath]
  cases hd : d.nodeAt? (asked.getD ⟨fileName⟩) with
  | none =>
    have hnone : d.hasPath (asked.getD ⟨fileName⟩) = false := by rw [hasPath, hd]; rfl
    simp [hnone]
  | some n =>
    obtain ⟨l, hl, hn⟩ := exists_locate_of_nodeAt? hd
    obtain ⟨m, hm, hn'⟩ := exists_locate_of_nodeAt? (h.trans hd)
    simp only [readText, hl, hm, ok_bind, hn, hn']

theorem isDescriptor_of_wants {search : Search} {names : List String} (h : search.wants names = true) :
    isDescriptor ⟨names.getLastD ""⟩ = true := by
  rw [Search.wants, Bool.and_eq_true] at h
  exact h.1

section

variable {P : String → Prop} (h : Extends P d e) (hP : ∀ s, P s → isDescriptor ⟨s⟩ = false)
  (hroot : d.node? root = some .directory)

include h hP hroot

/-- A file that is looked for was there before. -/
theorem node?_of_isDescriptor {names : List String} {c : ByteArray}
    (hdescriptor : isDescriptor ⟨names.getLastD ""⟩ = true) :
    e.node? (root ++ names) = some (.file c) ↔ d.node? (root ++ names) = some (.file c) := by
  cases names using List.reverseRecOn with
  | nil => rw [List.append_nil, h.keeps.directory root hroot, hroot]
  | append_singleton names s =>
    rw [List.getLastD_concat] at hdescriptor
    have hs : ¬P s := fun hs ↦ by
      rw [hP s hs] at hdescriptor
      cases hdescriptor
    rw [← List.append_assoc]
    rcases h.staysAt (l := root ++ names) hs with hsame | ⟨hnone, hdirectory⟩
    · rw [hsame]
    · rw [hnone, hdirectory]
      exact iff_of_false (fun h ↦ nomatch h) (fun h ↦ nomatch h)

/-- What a search looks for is found again where no descriptor was added. -/
theorem wanted_of_extends (hd : IsTree d) (he : IsMap e) (hsame : SameRules d e root)
    (search : Search) : search.wanted e root = search.wanted d root := by
  have hnames : ∀ s ∈ root, IsName s := hd.isName_of_isSome (by rw [hroot]; rfl)
  refine eq_of_pairwise_lt (search.pairwise_wanted he root) (search.pairwise_wanted hd.toIsMap root)
    fun ⟨names, c⟩ ↦ ?_
  rw [search.mem_wanted_iff he (h.keeps.directory root hroot), search.mem_wanted_iff hd.toIsMap hroot]
  refine and_congr_right fun _ ↦ ?_
  have hleft (hfile : d.node? (root ++ names) = some (.file c)) :
      isLeftOut e search.repositories search.root root names =
        isLeftOut d search.repositories search.root root names :=
    hsame.isLeftOut_eq hnames (names_of_file hd hroot hfile).2 _ _
  constructor
  · rintro ⟨hfile, hkept, hwants⟩
    have hfile := (node?_of_isDescriptor h hP hroot (isDescriptor_of_wants hwants)).mp hfile
    exact ⟨hfile, hleft hfile ▸ hkept, hwants⟩
  · rintro ⟨hfile, hkept, hwants⟩
    exact ⟨(node?_of_isDescriptor h hP hroot (isDescriptor_of_wants hwants)).mpr hfile,
      (hleft hfile).trans hkept, hwants⟩

end

/-- What a run looks at outside its search, the repositories near the input and the files that decide the
rules of the user are as they were. -/
structure Undisturbed (d e : Disk) (config : Option FilePath) (input : FilePath) : Prop where
  settings : e.nodeAt? (config.getD ⟨Settings.fileName⟩) = d.nodeAt? (config.getD ⟨Settings.fileName⟩)
  root : e.nodeAt? input = d.nodeAt? input
  repositories : ∀ root, d.locate input = .ok root → KeepsRepositories d e root
  user : ∀ p ∈ userFiles d, e.contentAt? p = d.contentAt? p

theorem root_of_searchFor {input : FilePath} {filter : Option String} {search : Search}
    (h : searchFor input filter = .ok search) : search.root = input := by
  unfold searchFor at h
  split at h
  · exact Except.ok.inj h ▸ rfl
  · unfold Search.withFilter at h
    split at h
    · exact Except.ok.inj h ▸ rfl
    · cases h

theorem hasPath_of_run {input : FilePath} {filter : Option String} (h : Run.of d input filter s = .ok r) :
    d.hasPath input := by
  simp only [Run.of, bind_eq_ok] at h
  obtain ⟨options, -, search, hsearch, found, hfound, -⟩ := h
  have hroot := root_of_searchFor (eq_ok_of_mapError hsearch)
  rw [hasPath, ← hroot]
  cases hnode : d.nodeAt? search.root with
  | some n => rfl
  | none =>
    have hrun := eq_ok_of_mapError hfound
    simp only [Search.run, hnode] at hrun
    cases hrun

/-- **Running again gives the same**, where only sources and directories were added and nothing that the
run looks at was disturbed. -/
theorem Run.of_extends {config : Option FilePath} {input : FilePath} (h : Extends IsSourceName d e)
    (hd : IsTree d) (he : IsMap e) (hsame : Undisturbed d e config input) {filter : Option String}
    (hrun : Run.of d input filter s = .ok r) : Run.of e input filter s = .ok r := by
  simp only [Run.of, bind_eq_ok] at hrun ⊢
  obtain ⟨options, hoptions, search, hsearch, found, hfound, hrest⟩ := hrun
  refine ⟨options, hoptions, search, hsearch, found, ?_, hrest⟩
  have hroot := root_of_searchFor (eq_ok_of_mapError hsearch)
  rw [search.run_congr hd he (hroot ▸ hsame.root) (fun root hlocate hdirectory ↦ ?_)
    (eq_ok_of_mapError hfound)]
  · rfl
  · have hrules : SameRules d e root :=
      sameRules_of_extends h hd (fun x hx hsource ↦ hsource.not_mem_ruleNames hx)
        (hsame.repositories root (hroot ▸ hlocate)) hsame.user
    have hnames : ∀ x ∈ root, IsName x := hd.isName_of_isSome (by rw [hdirectory]; rfl)
    exact ⟨h.keeps.locate hlocate, h.keeps.directory root hdirectory, hrules.faults_eq hnames search,
      wanted_of_extends h (fun x hx ↦ hx.not_isDescriptor) hdirectory hd he hrules search⟩

end JavaBuilder.Project
