import JavaBuilder.CommandLine.Run
import JavaBuilder.Proofs.Project.FileOutput
import JavaBuilder.Proofs.Project.Repeating

/-!
# What commands do to the disk

Comparing and dry runs leave the disk as it is, and so does everything that fails before the first file is
written: all files of a run are generated before. A run that succeeds sets the content at the paths of its
files and nowhere else. Several files may have one path, and then the last one is there in the end.

Paths are followed on the disk that results. They may lead nowhere before, since their directories are made
on the way.

A project that is watched changes in turn by what others do and by what is generated. The induction is over
the reports of the watcher, and each step is one generation or none.
-/

namespace JavaBuilder.CommandLine

open Disk Project

variable {d e : Disk} {directory : FilePath} {f : GeneratedFile} {files : List GeneratedFile} {l : Location}

/-! ## Writing all files -/

/-- The last file whose path leads to a location. -/
def lastAt? (e : Disk) (directory : FilePath) (files : List GeneratedFile) (l : Location) :
    Option GeneratedFile :=
  files.reverse.find? fun f ↦ e.locate (f.pathIn directory) = .ok l

theorem lastAt?_cons : lastAt? e directory (f :: files) l =
    (lastAt? e directory files l).or
      (if e.locate (f.pathIn directory) = .ok l then some f else none) := by
  rw [lastAt?, List.reverse_cons, List.find?_append, ← lastAt?, List.find?_singleton]
  simp only [decide_eq_true_eq]

/-- A disk holds files below a source root, the last one where several have one path. All else is as it is
on another disk. -/
structure HoldsFiles (d e : Disk) (directory : FilePath) (files : List GeneratedFile) : Prop where
  located : ∀ f ∈ files, ∃ l, e.locate (f.pathIn directory) = .ok l
  written : ∀ l f, lastAt? e directory files l = some f → e.node? l = some (.file f.text.toUTF8)
  stays : ∀ l, lastAt? e directory files l = none → StaysAt d e l

theorem HoldsFiles.cons {d' : Disk} (h : HoldsFiles d' e directory files) (hkeeps : KeepsDirectories d' e)
    (hlocate : d'.locate (f.pathIn directory) = .ok l) (hnode : d'.node? l = some (.file f.text.toUTF8))
    (hstays : ∀ m, m ≠ l → StaysAt d d' m) : HoldsFiles d e directory (f :: files) := by
  have hlocated := hkeeps.locate hlocate
  refine ⟨List.forall_mem_cons.mpr ⟨⟨l, hlocated⟩, h.located⟩, fun m g hg ↦ ?_, fun m hm ↦ ?_⟩
  · rw [lastAt?_cons] at hg
    rcases Option.or_eq_some_iff.mp hg with hg | ⟨hnone, hg⟩
    · exact h.written m g hg
    · split_ifs at hg with hat
      obtain rfl := Option.some.inj hg
      obtain rfl := Except.ok.inj (hlocated.symm.trans hat)
      rw [(h.stays l hnone).eq_of_isSome (by rw [hnode]; rfl), hnode]
  · rw [lastAt?_cons, Option.or_eq_none_iff] at hm
    have hne : m ≠ l := by
      rintro rfl
      rw [if_pos hlocated] at hm
      exact nomatch hm.2
    exact (hstays m hne).trans (h.stays m hm.1)

/-- **What writing files does.** -/
theorem writeAll_eq_none (h : (writeAll false directory files d).error = none) :
    HoldsFiles d (writeAll false directory files d).disk directory files ∧
      KeepsDirectories d (writeAll false directory files d).disk ∧
      (IsMap d → IsMap (writeAll false directory files d).disk) := by
  induction files generalizing d with
  | nil => exact ⟨⟨by simp, nofun, fun l _ ↦ .refl d l⟩, .refl d, id⟩
  | cons f files ih =>
    cases hwrite : writeFile false d (f.pathIn directory) f.text with
    | mk d' r =>
      rw [writeAll, hwrite] at h ⊢
      cases r with
      | error e => cases h
      | ok r =>
        obtain ⟨-, hkeeps, hmap, l, hlocate, hnode, hstays⟩ := writeFile_eq_ok hwrite
        obtain ⟨hholds, hkeeps', hmap'⟩ := ih h
        exact ⟨hholds.cons hkeeps' hlocate hnode hstays, hkeeps.trans hkeeps', fun hd ↦ hmap' (hmap hd)⟩

/-- Files that cannot be written are the only thing that goes wrong while they are. -/
theorem exists_write_of_writeAll {dryRun : Bool} {err : Error}
    (h : (writeAll dryRun directory files d).error = some err) : ∃ f, err = .write f := by
  induction files generalizing d with
  | nil => cases h
  | cons f files ih =>
    rw [writeAll] at h
    split at h
    · exact ⟨_, (Option.some.inj h).symm⟩
    · exact ih h

theorem disk_writeAll_dryRun : (writeAll true directory files d).disk = d := by
  induction files with
  | nil => rfl
  | cons f files ih => exact ih

theorem keepsPaths_writeAll (dryRun : Bool) : KeepsPaths d (writeAll dryRun directory files d).disk := by
  induction files generalizing d with
  | nil => exact .refl d
  | cons f files ih =>
    have hfirst := keepsPaths_writeFile dryRun d (f.pathIn directory) f.text
    rw [writeAll]
    cases hwrite : writeFile dryRun d (f.pathIn directory) f.text with
    | mk d' r =>
      rw [hwrite] at hfirst
      cases r with
      | error e => exact hfirst
      | ok r => exact hfirst.trans ih

/-! ## Commands -/

variable {t : Target} {s : Settings} {r : Run}

theorem disk_runCheck (t : Target) (d : Disk) : (runCheck t d).disk = d := by
  simp only [runCheck, Outcome.after]
  split
  · rfl
  · split
    · rfl
    · split
      · rfl
      · unfold verdict
        split_ifs <;> rfl

theorem disk_writeRun_dryRun : (writeRun s true r d).disk = d := by
  unfold writeRun
  split_ifs
  · rfl
  · rfl
  · exact disk_writeAll_dryRun

theorem disk_generateOnce_dryRun : (generateOnce t s true d).disk = d := by
  unfold generateOnce
  split
  · rfl
  · exact disk_writeRun_dryRun

theorem disk_runGenerate_dryRun : (runGenerate t true d).disk = d := by
  unfold runGenerate
  split
  · rfl
  · exact disk_generateOnce_dryRun

theorem runInit_of_hasPath {output : FilePath} (h : d.hasPath output) :
    runInit output false d = ⟨d, [.useForce], some (.configExists output)⟩ := by
  rw [runInit, if_pos (by rw [h]; rfl)]

theorem files_eq_nil_of_scanned {filter : Option String} {input : FilePath}
    (h : Run.of d input filter s = .ok r) (hscanned : r.scanned = 0) : r.files = [] := by
  simp only [Run.of, bind_eq_ok] at h
  obtain ⟨options, -, search, -, found, -, files, hfiles, h⟩ := h
  obtain rfl := Except.ok.inj h
  obtain rfl := List.length_eq_zero_iff.mp hscanned
  have hnil := eq_ok_of_mapError hfiles
  exact (Except.ok.inj hnil).symm

/-- What a run changes are its files, and it says whether they were written. -/
theorem writeRun_eq (h : Run.of d t.input t.filter s = .ok r) (dryRun : Bool) :
    (writeRun s dryRun r d).disk = (writeAll dryRun s.directory r.files d).disk ∧
      (writeRun s dryRun r d).error = (writeAll dryRun s.directory r.files d).error := by
  unfold writeRun
  split_ifs with hscanned hfiles
  · rw [files_eq_nil_of_scanned h hscanned]
    exact ⟨rfl, rfl⟩
  · rw [List.isEmpty_iff.mp hfiles]
    exact ⟨rfl, rfl⟩
  · exact ⟨rfl, rfl⟩

theorem runGenerate_eq (hs : t.settings d = .ok s) (hr : Run.of d t.input t.filter s = .ok r)
    (dryRun : Bool) :
    (runGenerate t dryRun d).disk = (writeAll dryRun s.directory r.files d).disk ∧
      (runGenerate t dryRun d).error = (writeAll dryRun s.directory r.files d).error := by
  simp only [runGenerate, hs, generateOnce, hr]
  exact writeRun_eq hr dryRun

theorem disk_generateOnce_of_error {err : Error} (h : (generateOnce t s false d).error = some err)
    (hwrite : ∀ f, err ≠ .write f) : (generateOnce t s false d).disk = d := by
  cases hr : Run.of d t.input t.filter s with
  | error _ => simp only [generateOnce, hr]
  | ok r =>
    simp only [generateOnce, hr, Outcome.after] at h
    rw [(writeRun_eq hr false).2] at h
    obtain ⟨f, hf⟩ := exists_write_of_writeAll h
    exact absurd hf (hwrite f)

theorem keepsPaths_generateOnce (dryRun : Bool) : KeepsPaths d (generateOnce t s dryRun d).disk := by
  cases hr : Run.of d t.input t.filter s with
  | error err =>
    simp only [generateOnce, hr]
    exact .refl d
  | ok r =>
    simp only [generateOnce, hr, Outcome.after, (writeRun_eq hr dryRun).1]
    exact keepsPaths_writeAll dryRun

/-- An input that is not there afterwards was not there before, and without an input nothing is written. -/
theorem disk_generateOnce_of_not_hasPath {dryRun : Bool}
    (h : (generateOnce t s dryRun d).disk.hasPath t.input = false) : (generateOnce t s dryRun d).disk = d := by
  cases hr : Run.of d t.input t.filter s with
  | error err => simp only [generateOnce, hr]
  | ok r =>
    rw [(keepsPaths_generateOnce dryRun).hasPath (hasPath_of_run hr)] at h
    cases h

theorem disk_runGenerate_of_error {err : Error} (h : (runGenerate t false d).error = some err)
    (hwrite : ∀ f, err ≠ .write f) : (runGenerate t false d).disk = d := by
  cases hs : t.settings d with
  | error _ => simp only [runGenerate, hs]
  | ok s =>
    simp only [runGenerate, hs] at h ⊢
    exact disk_generateOnce_of_error h hwrite

/-- A generation that succeeds has files, and has written them. -/
theorem generateOnce_eq_none (h : (generateOnce t s false d).error = none) :
    ∃ r, Run.of d t.input t.filter s = .ok r ∧ (writeAll false s.directory r.files d).error = none ∧
      (generateOnce t s false d).disk = (writeAll false s.directory r.files d).disk := by
  cases hr : Run.of d t.input t.filter s with
  | error err =>
    simp only [generateOnce, hr] at h
    cases h
  | ok r =>
    obtain ⟨hdisk, herror⟩ := writeRun_eq hr false
    simp only [generateOnce, hr, Outcome.after] at h ⊢
    exact ⟨r, rfl, herror ▸ h, hdisk⟩

/-- A run that succeeds has settings and files, and has written the files. -/
theorem runGenerate_eq_none (h : (runGenerate t false d).error = none) :
    ∃ s r, t.settings d = .ok s ∧ Run.of d t.input t.filter s = .ok r ∧
      (writeAll false s.directory r.files d).error = none ∧
      (runGenerate t false d).disk = (writeAll false s.directory r.files d).disk := by
  cases hs : t.settings d with
  | error err =>
    simp only [runGenerate, hs] at h
    cases h
  | ok s =>
    simp only [runGenerate, hs] at h ⊢
    obtain ⟨r, hr⟩ := generateOnce_eq_none h
    exact ⟨s, r, rfl, hr⟩

/-! ## Watching -/

/-- What becomes of a disk while it is watched, if a step is taken at first and after each change. -/
def Watcher.alternate (step : Disk → Disk) (w : Watcher) (d : Disk) : Disk :=
  match w with
  | .error _ => step d
  | .ok reports => reports.foldl
      (fun d r ↦ if r.event.isError then r.others d else step (r.others d)) (step d)

theorem disk_onReport {dryRun : Bool} (o : Outcome) (r : Report) : (onReport t s dryRun o r).disk =
    if r.event.isError then r.others o.disk else (generateOnce t s dryRun (r.others o.disk)).disk := by
  simp only [onReport, Outcome.andThen, Outcome.after, onEvent]
  cases r.event <;> rfl

theorem disk_foldl_onReport {dryRun : Bool} (reports : List Report) (o : Outcome) :
    (reports.foldl (onReport t s dryRun) o).disk = reports.foldl
      (fun d r ↦ if r.event.isError then r.others d else (generateOnce t s dryRun (r.others d)).disk)
      o.disk := by
  induction reports generalizing o with
  | nil => rfl
  | cons r reports ih => rw [List.foldl_cons, ih, disk_onReport, List.foldl_cons]

/-- **Watching generates in turn with others.** -/
theorem disk_runWatch {dryRun : Bool} (watcher : Watcher) (hs : t.settings d = .ok s) :
    (runWatch t dryRun watcher d).disk =
      watcher.alternate (fun d ↦ (generateOnce t s dryRun d).disk) d := by
  cases watcher with
  | error f =>
    simp only [runWatch, hs]
    rfl
  | ok reports =>
    simp only [runWatch, hs, disk_foldl_onReport]
    rfl

theorem disk_runWatch_dryRun : (runWatch t true (.ok []) d).disk = d := by
  cases hs : t.settings d with
  | error _ => simp only [runWatch, hs]
  | ok s =>
    rw [disk_runWatch _ hs]
    exact disk_generateOnce_dryRun

theorem disk_continueWatch_dryRun (before : Disk) : (continueWatch t s true before d).disk = d := by
  unfold continueWatch
  refine List.foldlRecOn (motive := fun o : Outcome ↦ o.disk = d) _ _ rfl fun o ho event _ ↦ ?_
  rw [disk_onReport, disk_generateOnce_dryRun, ite_self]
  exact ho

/-- An error is said when it happens, and is not kept. -/
theorem error_foldl_onReport {dryRun : Bool} (reports : List Report) {o : Outcome} (ho : o.error = none) :
    (reports.foldl (onReport t s dryRun) o).error = none := by
  refine List.foldlRecOn (motive := fun o : Outcome ↦ o.error = none) _ _ ho fun o _ r _ ↦ ?_
  simp only [onReport, Outcome.andThen, Outcome.after, onEvent]
  cases r.event <;> rfl

/-- Watching ends with an error only where there are no settings, before anything is done. -/
theorem disk_runWatch_of_error {dryRun : Bool} {watcher : Watcher} {err : Error}
    (h : (runWatch t dryRun watcher d).error = some err) : (runWatch t dryRun watcher d).disk = d := by
  cases hs : t.settings d with
  | error _ => simp only [runWatch, hs]
  | ok s =>
    cases watcher with
    | error f =>
      simp only [runWatch, hs] at h
      cases h
    | ok reports =>
      simp only [runWatch, hs] at h
      rw [error_foldl_onReport reports rfl] at h
      cases h

/-- A watcher that finds no input finds the disk as it was. -/
theorem disk_runWatch_of_not_hasPath {dryRun : Bool} {watcher : Watcher} {f : WatchFault}
    (h : (runWatch t dryRun watcher d).fault = some f)
    (hpath : (runWatch t dryRun watcher d).disk.hasPath t.input = false) :
    (runWatch t dryRun watcher d).disk = d := by
  cases hs : t.settings d with
  | error _ => simp only [runWatch, hs]
  | ok s =>
    rw [disk_runWatch watcher hs] at hpath ⊢
    cases watcher with
    | error f => exact disk_generateOnce_of_not_hasPath hpath
    | ok reports =>
      simp only [runWatch, hs] at h
      cases h

/-- **What commands leave alone.** Checking, dry runs, a configuration that is there already, and every
failure but one to write leave the disk as it is. A run that succeeds sets the content at the paths of its
files only. While a project is watched, this is so for each time that builders are generated, and nothing
but that and what others do happens to the disk. A watcher that cannot start for want of an input leaves
nothing behind either. -/
theorem disk_run (d : Disk) :
    (∀ t, ((Command.check t).run d).disk = d) ∧
    (∀ t watch, ((Command.generate t watch true).run d).disk = d) ∧
    (∀ t s watcher, t.settings d = .ok s →
      ((Command.generate t true true).run d watcher).disk = watcher.alternate id d ∧
      ((Command.generate t true false).run d watcher).disk =
        watcher.alternate (fun d ↦ (generateOnce t s false d).disk) d) ∧
    (∀ t s before, (startWatch t s true d).disk = d ∧ (continueWatch t s true before d).disk = d) ∧
    (∀ t dryRun watcher f, ((Command.generate t true dryRun).run d watcher).fault = some f →
      ((Command.generate t true dryRun).run d watcher).disk.hasPath t.input = false →
        ((Command.generate t true dryRun).run d watcher).disk = d) ∧
    (∀ output, d.hasPath output → ((Command.init output false).run d).disk = d ∧
      ((Command.init output false).run d).error = some (.configExists output)) ∧
    (∀ t watch watcher err, ((Command.generate t watch false).run d watcher).error = some err →
      (∀ f, err ≠ .write f) → ((Command.generate t watch false).run d watcher).disk = d) ∧
    (∀ t s err, (generateOnce t s false d).error = some err →
      (∀ f, err ≠ .write f) → (generateOnce t s false d).disk = d) ∧
    (∀ t, ((Command.generate t false false).run d).error = none →
      ∃ s r, t.settings d = .ok s ∧ Run.of d t.input t.filter s = .ok r ∧
        HoldsFiles d ((Command.generate t false false).run d).disk s.directory r.files) ∧
    (∀ t s, (generateOnce t s false d).error = none →
      ∃ r, Run.of d t.input t.filter s = .ok r ∧
        HoldsFiles d (generateOnce t s false d).disk s.directory r.files) := by
  refine ⟨fun t ↦ disk_runCheck t d, fun t watch ↦ ?_, fun t s watcher hs ↦ ⟨?_, ?_⟩,
    fun t s before ↦ ⟨disk_generateOnce_dryRun, disk_continueWatch_dryRun before⟩,
    fun t dryRun watcher f h ↦ disk_runWatch_of_not_hasPath h, fun output h ↦ ?_,
    fun t watch watcher err h ↦ ?_, fun t s err ↦ disk_generateOnce_of_error, fun t h ↦ ?_, fun t s h ↦ ?_⟩
  · cases watch with
    | false => exact disk_runGenerate_dryRun
    | true => exact disk_runWatch_dryRun
  · have hdry : (fun d ↦ (generateOnce t s true d).disk) = id := funext fun d ↦ disk_generateOnce_dryRun
    rw [Command.run, disk_runWatch watcher hs, hdry]
  · rw [Command.run, disk_runWatch watcher hs]
  · rw [Command.run, runInit_of_hasPath h]
    exact ⟨rfl, rfl⟩
  · cases watch with
    | false => exact disk_runGenerate_of_error h
    | true => exact fun _ ↦ disk_runWatch_of_error h
  · obtain ⟨s, r, hs, hr, hwritten, hdisk⟩ := runGenerate_eq_none h
    exact ⟨s, r, hs, hr, hdisk ▸ (writeAll_eq_none hwritten).1⟩
  · obtain ⟨r, hr, hwritten, hdisk⟩ := generateOnce_eq_none h
    exact ⟨r, hr, hdisk ▸ (writeAll_eq_none hwritten).1⟩

/-- A disk with some descriptors in a directory. -/
def descriptorsDisk (files : List (String × String)) : Disk where
  nodes := (["in"], .directory) :: files.map fun f ↦ (["in", f.1], .file f.2.toUTF8)
  working := []

/-- What is about the descriptors in that directory. -/
def descriptorsTarget (filter : Option String) (output : FilePath) : Target :=
  ⟨⟨"in"⟩, some output, none, filter, none, false⟩

/-- A type with a builder, and one without since it has a property twice. -/
def twoTypesDisk : Disk := descriptorsDisk
  [("a.json", "\x7b\"type\":\"a.B\"\x7d"),
    ("c.json", "\x7b\"type\":\"a.C\",\"properties\":[\x7b\"name\":\"x\",\"type\":\"int\"\x7d," ++
      "\x7b\"name\":\"x\",\"type\":\"int\"\x7d]\x7d")]

/-- Both types together, the first one alone, and a configuration over one of them. -/
theorem disk_run_twoTypes :
    ((Command.init ⟨"in/a.json"⟩ false).run twoTypesDisk).disk = twoTypesDisk ∧
      ((Command.generate (descriptorsTarget none ⟨"out"⟩) false false).run twoTypesDisk).disk =
        twoTypesDisk ∧
      ∃ s r, Run.of twoTypesDisk ⟨"in"⟩ (some "a*") s = .ok r ∧
        HoldsFiles twoTypesDisk
          ((Command.generate (descriptorsTarget (some "a*") ⟨"out"⟩) false false).run twoTypesDisk).disk
          s.directory r.files := by
  obtain ⟨-, -, -, -, -, hinit, hfails, -, hwrites, -⟩ := disk_run twoTypesDisk
  have hrejected : ((Command.generate (descriptorsTarget none ⟨"out"⟩) false false).run
      twoTypesDisk).error = some (.generate (.rejected "a.C" (.property "x" .duplicate))) := by
    decide +kernel
  have hwritten : ((Command.generate (descriptorsTarget (some "a*") ⟨"out"⟩) false false).run
      twoTypesDisk).error = none := by decide +kernel
  obtain ⟨s, r, -, hr, hholds⟩ := hwrites _ hwritten
  exact ⟨(hinit _ (by decide +kernel)).1, hfails _ _ _ _ hrejected (fun f h ↦ nomatch h), s, r, hr, hholds⟩

end JavaBuilder.CommandLine
