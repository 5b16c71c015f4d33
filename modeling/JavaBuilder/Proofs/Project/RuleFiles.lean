import Mathlib.Data.List.Induction
import JavaBuilder.Project.Ignored
import JavaBuilder.Proofs.Disk.Writing

/-!
# What ignore rules are read from

The rules around a file come from a few places: the files `.ignore` and `.gitignore` of the directories
around it, and what the repositories there have, whose tops are directories with a `.git` or a `.jj`. So a
disk on which something was added elsewhere leaves out the same files.

The path of a location leads to it where there are directories all the way, and nothing else leads there
under a name that was not there before. A repository that is kept elsewhere is different: where its path
leads may change with any directory, and what it leads to must be asked for.
-/

namespace JavaBuilder.Disk

open Text

variable {d e : Disk} {l m : Location} {p : FilePath}

/-! ## Trees -/

/-- A disk on which everything lies in a directory, under a name. -/
structure IsTree (d : Disk) : Prop extends IsMap d where
  around : ∀ l ∈ d.nodes.map (·.1), d.node? l.dropLast = some .directory
  isName : ∀ l ∈ d.nodes.map (·.1), ∀ s ∈ l, IsName s
  working : d.node? d.working = some .directory

theorem mem_of_node? {n : Node} (hl : l ≠ []) (h : d.node? l = some n) : (l, n) ∈ d.nodes := by
  rw [node?, if_neg hl] at h
  obtain ⟨before, after, hnodes, -⟩ := List.lookup_eq_some_iff.mp h
  rw [hnodes]
  simp

theorem IsTree.isName_of_isSome (h : IsTree d) (hl : (d.node? l).isSome) : ∀ s ∈ l, IsName s := by
  by_cases hroot : l = []
  · simp [hroot]
  · obtain ⟨n, hn⟩ := Option.isSome_iff_exists.mp hl
    exact h.isName l (List.mem_map_of_mem (mem_of_node? hroot hn))

theorem IsTree.directory_take (h : IsTree d) (hl : (d.node? l).isSome) {n : ℕ} (hn : n < l.length) :
    d.node? (l.take n) = some .directory := by
  induction l using List.reverseRecOn with
  | nil => exact absurd hn (Nat.not_lt_zero n)
  | append_singleton l s ih =>
    obtain ⟨x, hx⟩ := Option.isSome_iff_exists.mp hl
    have hdirectory := h.around _ (List.mem_map_of_mem (mem_of_node? (by simp) hx))
    rw [List.dropLast_concat] at hdirectory
    rw [List.length_append, List.length_singleton] at hn
    rcases Nat.lt_succ_iff_lt_or_eq.mp hn with hlt | rfl
    · rw [List.take_append_of_le_length (Nat.le_of_lt hlt)]
      exact ih (by rw [hdirectory]; rfl) hlt
    · rw [List.take_left' rfl, hdirectory]

/-! ## The path of a location -/

theorem contentAt?_eq_some_iff {c : ByteArray} :
    d.contentAt? p = some c ↔ ∃ l, d.locate p = .ok l ∧ d.node? l = some (.file c) := by
  unfold contentAt? nodeAt?
  cases d.locate p with
  | error f => simp
  | ok l =>
    cases h : d.node? l with
    | none => simp [h]
    | some n => cases n <;> simp [h]

end JavaBuilder.Disk

namespace JavaBuilder.Project

open Disk Text

variable {d e : Disk} {l m names : Location} {s : String}

theorem text_pathOf (hl : l ≠ []) : (pathOf l).text = join '/' ("" :: l) := by
  obtain ⟨s, ss, rfl⟩ := List.exists_cons_of_ne_nil hl
  rw [← String.toList_inj]
  simp [pathOf, join, joinSegments]

theorem locate_pathOf (hl : l ≠ []) (h : ∀ s ∈ l, IsName s) : d.locate (pathOf l) = .ok m ↔
    (pathOf l).IsUsable ∧ m = l ∧ (∀ s ∈ l, s.utf8ByteSize ≤ maxNameBytes) ∧
      ∀ n < l.length, d.node? (l.take n) = some .directory := by
  have hsegments : (pathOf l).segments = "" :: l := by
    rw [FilePath.segments, text_pathOf hl, split_join (by simp)]
    exact List.forall_mem_cons.mpr ⟨by simp, fun s hs ↦ (h s hs).no_slash⟩
  have hroot : d.step [] "" = .ok [] := step_eq_ok_iff.mpr ⟨rfl, rfl⟩
  have hstart : d.start (pathOf l) = [] := if_pos (by simp [pathOf, FilePath.isAbsolute])
  rw [locate_eq_ok_iff, hsegments, hstart, List.foldlM_cons, hroot, ok_bind, walk_names_iff h]
  simp only [List.nil_append]

theorem getLast?_join (l : Location) (h : IsName s) :
    (join '/' (l ++ [s])).toList.getLast? ≠ some '/' := by
  have hs := FilePath.toList_ne_nil h.ne_empty
  have hlast : (join '/' (l ++ [s])).toList.getLast? = s.toList.getLast? := by
    rw [join, String.toList_ofList, List.map_append]
    by_cases hl : l = []
    · rw [hl]
      rfl
    · rw [joinSegments_append '/' (by simpa using hl) (by simp), ← List.singleton_append,
        ← List.append_assoc]
      exact List.getLast?_append_of_ne_nil _ hs
  rw [hlast]
  exact fun hslash ↦ h.no_slash (List.mem_of_mem_getLast? hslash)

theorem pathOf_join (hs : IsName s) (hne : names ≠ []) (h : ∀ s ∈ names, IsName s) :
    (pathOf (l ++ [s])).join ⟨join '/' names⟩ = pathOf (l ++ [s] ++ names) := by
  have hlast : (pathOf (l ++ [s])).text.toList.getLast? ≠ some '/' := by
    rw [text_pathOf (by simp), ← List.cons_append]
    exact getLast?_join _ hs
  rw [FilePath.join, if_neg (by simp [FilePath.isAbsolute_of_names h, pathOf]), if_neg hlast]
  have htext : (pathOf (l ++ [s])).text ++ "/" ++ join '/' names = (pathOf (l ++ [s] ++ names)).text := by
    have hfront : ("" :: (l ++ [s])).map String.toList ≠ [] := by simp
    have hback : names.map String.toList ≠ [] := by simpa using hne
    have hparts : "" :: (l ++ [s] ++ names) = ("" :: (l ++ [s])) ++ names := rfl
    rw [← String.toList_inj, text_pathOf (by simp), text_pathOf (by simp), hparts]
    simp only [join, String.toList_append, String.toList_ofList, List.append_assoc]
    rw [List.map_append, joinSegments_append '/' hfront hback]
    rfl
  rw [htext]

/-! ## More on a disk -/

/-- Something was added to a disk: directories, and whatever is under a name with a property. -/
structure Extends (P : String → Prop) (d e : Disk) : Prop where
  keeps : KeepsDirectories d e
  stays : ∀ l, StaysAt d e l ∨ ∃ m s, l = m ++ [s] ∧ P s

namespace Extends

variable {P : String → Prop}

theorem staysAt (h : Extends P d e) (hs : ¬P s) : StaysAt d e (l ++ [s]) := by
  refine (h.stays _).resolve_right ?_
  rintro ⟨m, s', heq, hs'⟩
  exact hs ((List.append_singleton_inj.mp heq).2 ▸ hs')

/-- The path of a location leads to the same content, unless it is one that was added. -/
theorem contentAt?_pathOf (h : Extends P d e) (hd : IsTree d) (hnames : ∀ x ∈ l ++ [s], IsName x)
    (hs : ¬P s) : e.contentAt? (pathOf (l ++ [s])) = d.contentAt? (pathOf (l ++ [s])) := by
  have hne : l ++ [s] ≠ [] := by simp
  ext c
  rw [contentAt?_eq_some_iff, contentAt?_eq_some_iff]
  constructor
  · rintro ⟨m, hm, hfile⟩
    obtain ⟨husable, rfl, hlong, -⟩ := (locate_pathOf hne hnames).mp hm
    have hstays : e.node? (l ++ [s]) = d.node? (l ++ [s]) :=
      (h.staysAt hs).resolve_right fun hnew ↦ by
        rw [hnew.2] at hfile
        cases hfile
    rw [hstays] at hfile
    exact ⟨_, (locate_pathOf hne hnames).mpr
      ⟨husable, rfl, hlong, fun n hn ↦ hd.directory_take (by rw [hfile]; rfl) hn⟩, hfile⟩
  · rintro ⟨m, hm, hfile⟩
    obtain ⟨-, rfl, -⟩ := (locate_pathOf hne hnames).mp hm
    exact ⟨_, h.keeps.locate hm, by rw [(h.staysAt hs).eq_of_isSome (by rw [hfile]; rfl), hfile]⟩

end Extends

/-! ## Where rules are -/

/-- A directory around a location or below it. -/
structure IsNear (root directory : Location) : Prop where
  comparable : directory <+: root ∨ root <+: directory
  isName : ∀ s ∈ directory, IsName s

/-- The names that say something about what to leave out. -/
def ruleNames : List String := [".ignore", ".gitignore", ".git", ".jj", "exclude"]

theorem excludeName_eq : excludeName = ⟨join '/' ["info", "exclude"]⟩ := by decide

theorem isName_of_mem_ruleNames : ∀ s ∈ ruleNames, IsName s := by decide

/-- No repository was added near a location, and one that is kept elsewhere is there as it was. -/
structure KeepsRepositories (d e : Disk) (root : Location) : Prop where
  top : ∀ directory, IsNear root directory → ∀ s ∈ [repositoryName, ".jj"],
    d.node? (directory ++ [s]) = none → e.node? (directory ++ [s]) = none
  common : ∀ directory, IsNear root directory → ∀ c line q,
    d.node? (directory ++ [repositoryName]) = some (.file c) → firstLine? c = .ok (some line) →
    pointed? line = some q → e.nodeAt? (q.join commonName) = d.nodeAt? (q.join commonName)
  exclude : ∀ directory, IsNear root directory → ∀ c q,
    d.node? (directory ++ [repositoryName]) = some (.file c) →
    repositoryDirectory d directory = .ok (some q) →
    e.nodeAt? (q.join excludeName) = d.nodeAt? (q.join excludeName)

theorem keepsRepositories_of_forall {root : Location}
    (hd : ∀ l ∈ d.nodes.map (·.1), ∀ s ∈ [repositoryName, ".jj"], l.getLast? ≠ some s)
    (he : ∀ l ∈ e.nodes.map (·.1), ∀ s ∈ [repositoryName, ".jj"], l.getLast? ≠ some s) :
    KeepsRepositories d e root := by
  have hnone {d : Disk} (hd : ∀ l ∈ d.nodes.map (·.1), ∀ s ∈ [repositoryName, ".jj"], l.getLast? ≠ some s)
      (directory : Location) {s : String} (hs : s ∈ [repositoryName, ".jj"]) :
      d.node? (directory ++ [s]) = none := by
    by_contra hsome
    obtain ⟨n, hn⟩ := Option.ne_none_iff_exists'.mp hsome
    exact hd _ (List.mem_map_of_mem (mem_of_node? (by simp) hn)) s hs List.getLast?_concat
  refine ⟨fun directory _ s hs _ ↦ hnone he directory hs, fun directory _ c line q hfile ↦ ?_,
    fun directory _ c q hfile ↦ ?_⟩
  · rw [hnone hd directory (by simp)] at hfile
    cases hfile
  · rw [hnone hd directory (by simp)] at hfile
    cases hfile

/-- Two disks have the same rules and repositories near a location, and those of the user. -/
structure SameRules (d e : Disk) (root : Location) : Prop where
  working : e.working = d.working
  user : userRules e = userRules d
  rules : ∀ directory, IsNear root directory → ∀ repositories,
    Rules.below e repositories directory = Rules.below d repositories directory
  repository : ∀ directory, IsNear root directory → isRepository e directory = isRepository d directory

theorem readRules_congr {p : FilePath} (h : e.contentAt? p = d.contentAt? p) :
    readRules e p = readRules d p := by
  rw [readRules, readRules, ignoreFile, ignoreFile, h]

theorem contentAt?_congr {p : FilePath} (h : e.nodeAt? p = d.nodeAt? p) :
    e.contentAt? p = d.contentAt? p := by
  rw [contentAt?, contentAt?, h]

theorem userFile?_congr (huser : e.user = d.user)
    (h : ∀ p ∈ d.user.configFiles, e.contentAt? p = d.contentAt? p) : userFile? e = userFile? d := by
  have hnamed : (d.user.configFiles.findSome? fun p ↦ (e.contentAt? p).bind excludesFile?) =
      d.user.configFiles.findSome? fun p ↦ (d.contentAt? p).bind excludesFile? := by
    rw [← List.head?_filterMap, ← List.head?_filterMap]
    congr 1
    exact List.filterMap_congr fun p hp ↦ by rw [h p hp]
  simp only [userFile?, huser, hnamed]

/-- The files that decide the rules of the user. -/
def userFiles (d : Disk) : List FilePath := d.user.configFiles ++ (userFile? d).toList

theorem userRules_congr (huser : e.user = d.user)
    (h : ∀ p ∈ userFiles d, e.contentAt? p = d.contentAt? p) : userRules e = userRules d := by
  rw [userRules, userRules, userFile?_congr huser fun p hp ↦ h p (List.mem_append_left _ hp)]
  cases hp : userFile? d with
  | none => rfl
  | some p =>
    have hcontent := h p (List.mem_append_right _ (by simp [hp]))
    simp only [ignoreFile, hcontent]

section

variable {P : String → Prop} {root directory : Location} (h : Extends P d e) (hd : IsTree d)
  (hP : ∀ s ∈ ruleNames, ¬P s) (hkeeps : KeepsRepositories d e root) (hnear : IsNear root directory)

include h hP hkeeps hnear in
theorem node?_top (hs : s ∈ [repositoryName, ".jj"]) :
    e.node? (directory ++ [s]) = d.node? (directory ++ [s]) := by
  have hrule : s ∈ ruleNames := by
    have hall : ∀ s ∈ [repositoryName, ".jj"], s ∈ ruleNames := by decide
    exact hall s hs
  refine (h.staysAt (hP s hrule)).resolve_right fun hnew ↦ ?_
  rw [hkeeps.top directory hnear s hs hnew.1] at hnew
  exact nomatch hnew.2

include h hd hP hnear in
theorem readRules_of_mem_ruleNames (hs : s ∈ ruleNames) :
    readRules e (pathOf (directory ++ [s])) = readRules d (pathOf (directory ++ [s])) := by
  refine readRules_congr (h.contentAt?_pathOf hd (fun x hx ↦ ?_) (hP s hs))
  rcases List.mem_append.mp hx with hx | hx
  · exact hnear.isName x hx
  · exact List.mem_singleton.mp hx ▸ isName_of_mem_ruleNames s hs

include h hP hkeeps hnear in
theorem repositoryDirectory_congr : repositoryDirectory e directory = repositoryDirectory d directory := by
  have htop := node?_top h hP hkeeps hnear (s := repositoryName) (by simp)
  unfold repositoryDirectory
  simp only [htop]
  split
  · next c hc =>
    cases hfirst : firstLine? c with
    | error f => rfl
    | ok line? =>
      cases line? with
      | none => rfl
      | some line =>
        show commonDirectory e line = commonDirectory d line
        unfold commonDirectory
        cases hpointed : pointed? line with
        | none => rfl
        | some q => simp only [hkeeps.common directory hnear c line q hc hfirst hpointed]
  · rfl

include h hd hP hkeeps hnear in
theorem readExclude_congr : readExclude e directory = readExclude d directory := by
  unfold readExclude
  rw [repositoryDirectory_congr h hP hkeeps hnear]
  cases hrepository : repositoryDirectory d directory with
  | error f => rfl
  | ok q? =>
    cases q? with
    | none => rfl
    | some q =>
      refine readRules_congr ?_
      by_cases hfile : ∃ c, d.node? (directory ++ [repositoryName]) = some (.file c)
      · obtain ⟨c, hc⟩ := hfile
        exact contentAt?_congr (hkeeps.exclude directory hnear c q hc hrepository)
      · -- The repository is kept at its top, and its rules are at a location below.
        have hq : q = pathOf (directory ++ [repositoryName]) := by
          unfold repositoryDirectory at hrepository
          simp only at hrepository
          split at hrepository
          · next c hc => exact absurd ⟨c, hc⟩ hfile
          · exact (Option.some.inj (Except.ok.inj hrepository)).symm
        have hbelow : ∀ x ∈ [repositoryName, "info", "exclude"], IsName x := by decide
        have hexclude : q.join excludeName = pathOf (directory ++ [repositoryName, "info"] ++ ["exclude"]) := by
          rw [hq, excludeName_eq,
            pathOf_join (hbelow _ (by simp)) (by simp) fun x hx ↦ hbelow x (.tail _ hx)]
          simp
        rw [hexclude]
        refine h.contentAt?_pathOf hd (fun x hx ↦ ?_) (hP _ (by decide))
        rw [List.append_assoc] at hx
        exact (List.mem_append.mp hx).elim (hnear.isName x) (hbelow x)

include h hd hP hkeeps in
/-- **What was added elsewhere changes no rules.** -/
theorem sameRules_of_extends (huser : ∀ p ∈ userFiles d, e.contentAt? p = d.contentAt? p) :
    SameRules d e root where
  working := h.keeps.working
  user := userRules_congr h.keeps.user huser
  rules directory hnear repositories := by
    unfold Rules.below
    rw [readRules_of_mem_ruleNames h hd hP hnear (by decide),
      readRules_of_mem_ruleNames h hd hP hnear (s := ".gitignore") (by decide),
      readExclude_congr h hd hP hkeeps hnear]
  repository directory hnear := by
    rw [isRepository, isRepository, Bool.eq_iff_iff, List.any_eq_true, List.any_eq_true]
    refine exists_congr fun s ↦ and_congr_right fun hs ↦ ?_
    rw [node?_top h hP hkeeps hnear hs]

end

end JavaBuilder.Project
