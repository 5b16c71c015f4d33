import JavaBuilder.Proofs.CommandLine.DiskChanges
import JavaBuilder.Proofs.Project.Repeating

/-!
# Generating and checking agree

A check after a run that succeeded finds every file up to date, if no two files have one path. For that the
check must see the project that the run saw, and writing files may change it: nothing keeps the source root
of generated files from being made where the configuration is looked for, or over the input. So what the two
commands look at is asked to be undisturbed. Descriptors and the rule files of directories need not be
mentioned, since a run writes neither; the rule file of a user may have any name, and is.

The other direction needs nothing. Where a check finds everything up to date, a run writes what is there.
-/

namespace JavaBuilder.CommandLine

open Disk Project Text

variable {d e : Disk} {directory : FilePath} {f : GeneratedFile} {files : List GeneratedFile} {l : Location}
  {t : Target} {s : Settings} {r : Run}

/-! ## Comparing all files -/

-- The parentheses keep this from being a definitional rewriting rule, which is slow to be set up.
theorem compareAll_cons : compareAll d directory (f :: files) =
    match fileStatus d (f.pathIn directory) f.text with
    | .error e => ([], some e)
    | .ok status =>
      ((complaint? (f.pathIn directory) status).toList ++ (compareAll d directory files).1,
        (compareAll d directory files).2) := (rfl)

theorem compareAll_eq_nil_iff : compareAll d directory files = ([], none) ↔
    ∀ f ∈ files, fileStatus d (f.pathIn directory) f.text = .ok .upToDate := by
  induction files with
  | nil => exact iff_of_true (rfl) (fun f hf ↦ nomatch hf)
  | cons f files ih =>
    rw [List.forall_mem_cons, ← ih, compareAll_cons]
    generalize compareAll d directory files = rest
    obtain ⟨notices, fault⟩ := rest
    cases fileStatus d (f.pathIn directory) f.text with
    | error fault => simp
    | ok status => cases status <;> simp [complaint?]

/-! ## After a run -/

theorem HoldsFiles.extends (h : HoldsFiles d e directory files) (hkeeps : KeepsDirectories d e)
    (hnames : ∀ f ∈ files, (∀ s ∈ f.names, IsName s) ∧ ∃ m s, f.names = m ++ [s] ∧ IsSourceName s) :
    Extends IsSourceName d e where
  keeps := hkeeps
  stays l := by
    cases hlast : lastAt? e directory files l with
    | none => exact .inl (h.stays l hlast)
    | some f =>
      have hmem : f ∈ files := List.mem_reverse.mp (List.mem_of_find?_eq_some hlast)
      have hlocate : e.locate (f.pathIn directory) = .ok l := by simpa using List.find?_some hlast
      obtain ⟨hall, m, s, hf, hs⟩ := hnames f hmem
      obtain ⟨b, -, -, hl⟩ := locate_join_names (by simp [hf]) hall hlocate
      exact .inr ⟨b ++ m, s, by rw [hl, hf, List.append_assoc], hs⟩

/-- **What was written is up to date**, if no two files have one path. -/
theorem HoldsFiles.upToDate (h : HoldsFiles d e directory files)
    (hnames : ∀ f ∈ files, (∀ s ∈ f.names, IsName s) ∧ f.names ≠ [])
    (hnodup : (files.map (·.relative)).Nodup) :
    ∀ f ∈ files, fileStatus e (f.pathIn directory) f.text = .ok .upToDate := by
  intro f hf
  obtain ⟨l, hl⟩ := h.located f hf
  obtain ⟨g, hg⟩ : ∃ g, lastAt? e directory files l = some g := by
    rw [← Option.isSome_iff_exists, lastAt?, List.find?_isSome]
    exact ⟨f, List.mem_reverse.mpr hf, decide_eq_true hl⟩
  have hmem : g ∈ files := List.mem_reverse.mp (List.mem_of_find?_eq_some hg)
  have hlocate : e.locate (g.pathIn directory) = .ok l := by simpa using List.find?_some hg
  -- Both paths go on from one location, so their names are the same.
  obtain ⟨b, hb, -, hlf⟩ := locate_join_names (hnames f hf).2 (hnames f hf).1 hl
  obtain ⟨b', hb', -, hlg⟩ := locate_join_names (hnames g hmem).2 (hnames g hmem).1 hlocate
  obtain rfl := Except.ok.inj (hb.symm.trans hb')
  have hrelative : f.relative = g.relative := by
    rw [GeneratedFile.relative, GeneratedFile.relative, List.append_cancel_left (hlf.symm.trans hlg)]
  obtain rfl := List.inj_on_of_nodup_map hnodup hf hmem hrelative
  rw [fileStatus_eq_upToDate_iff, nodeAt?_of_locate hl, h.written l f hg]

/-! ## Where everything is up to date -/

theorem writeAll_of_upToDate
    (h : ∀ f ∈ files, fileStatus d (f.pathIn directory) f.text = .ok .upToDate) :
    (writeAll false directory files d).error = none ∧
      ∀ l, (writeAll false directory files d).disk.node? l = d.node? l := by
  induction files generalizing d with
  | nil => exact ⟨rfl, fun _ ↦ rfl⟩
  | cons f files ih =>
    obtain ⟨hf, hfiles⟩ := List.forall_mem_cons.mp h
    obtain ⟨e, hwrite, hkeeps, hnode⟩ := writeFile_of_upToDate (fileStatus_eq_upToDate_iff.mp hf)
    obtain ⟨herror, hdisk⟩ := @ih e fun g hg ↦ by
      obtain ⟨l, hl, hfile⟩ := exists_locate_of_nodeAt? (fileStatus_eq_upToDate_iff.mp (hfiles g hg))
      rw [fileStatus_eq_upToDate_iff, nodeAt?_of_locate (hkeeps.locate hl), hnode, hfile]
    rw [writeAll, hwrite]
    exact ⟨herror, fun l ↦ (hdisk l).trans (hnode l)⟩

/-! ## The commands -/

theorem runCheck_eq (hs : t.settings d = .ok s) (hr : Run.of d t.input t.filter s = .ok r) :
    runCheck t d = Outcome.after [.checking]
      (match compareAll d s.directory r.files with
      | (notices, some f) => ⟨d, notices, some (.write f)⟩
      | (complaints, none) => verdict r complaints d) := by
  cases hcompared : compareAll d s.directory r.files with
  | mk complaints fault => cases fault <;> simp only [runCheck, hs, hr, hcompared]

/-- A check without complaints about files looks at the descriptors only. -/
theorem runCheck_of_compareAll (hs : t.settings d = .ok s) (hr : Run.of d t.input t.filter s = .ok r)
    (h : compareAll d s.directory r.files = ([], none)) :
    (∀ p, .outOfDate p ∉ (runCheck t d).notices ∧ .missing p ∉ (runCheck t d).notices) ∧
      (runCheck t d).error = if r.skipped = [] then none else some (.stale 0 r.skipped.length) := by
  rw [runCheck_eq hs hr, h]
  simp only [verdict, Outcome.after]
  by_cases hskipped : r.skipped = []
  · simp [hskipped]
  · simp [hskipped]

/-- A check that succeeds has compared the files of a run and found no fault. -/
theorem runCheck_eq_none (h : (runCheck t d).error = none) :
    ∃ s r, t.settings d = .ok s ∧ Run.of d t.input t.filter s = .ok r ∧
      compareAll d s.directory r.files = ([], none) := by
  cases hs : t.settings d with
  | error err =>
    simp only [runCheck, hs] at h
    cases h
  | ok s =>
    cases hr : Run.of d t.input t.filter s with
    | error err =>
      simp only [runCheck, hs, hr] at h
      cases h
    | ok r =>
      refine ⟨s, r, rfl, hr, ?_⟩
      rw [runCheck_eq hs hr] at h
      generalize compareAll d s.directory r.files = compared at h
      obtain ⟨complaints, _ | f⟩ := compared
      · simp only [verdict, Outcome.after] at h
        by_cases hcomplaints : complaints = []
        · rw [hcomplaints]
        · simp [hcomplaints] at h
      · cases h

theorem settings_congr (h : Settings.read e t.config = Settings.read d t.config) :
    t.settings e = t.settings d := by
  rw [Target.settings, Target.settings, h]

/-- **Generating and checking agree.** After a run that succeeds and disturbs nothing that it looks at, a
check finds every file up to date, and complains about nothing but the descriptors that were skipped. Where
a check succeeds, a run does too, and changes nothing. -/
theorem check_generate (d : Disk) (t : Target) :
    (∀ s r, IsTree d → t.settings d = .ok s → Run.of d t.input t.filter s = .ok r →
      (r.files.map (·.relative)).Nodup → ((Command.generate t false false).run d).error = none →
      Undisturbed d ((Command.generate t false false).run d).disk t.config t.input →
      let check := (Command.check t).run ((Command.generate t false false).run d).disk
      (∀ p, .outOfDate p ∉ check.notices ∧ .missing p ∉ check.notices) ∧
        check.error = if r.skipped = [] then none else some (.stale 0 r.skipped.length)) ∧
    (((Command.check t).run d).error = none →
      ((Command.generate t false false).run d).error = none ∧
        ∀ l, ((Command.generate t false false).run d).disk.node? l = d.node? l) := by
  constructor
  · intro s r hd hs hr hnodup hgenerate hsame
    obtain ⟨hdisk, herror⟩ := runGenerate_eq hs hr false
    simp only [Command.run, hdisk, herror] at hgenerate hsame ⊢
    -- What was written is there afterwards, and what the run has read is as it was, so the check
    -- computes the same files and finds them.
    obtain ⟨hholds, hkeeps, hmap⟩ := writeAll_eq_none hgenerate
    have hnames := names_of_run hr
    have hrun := Run.of_extends (hholds.extends hkeeps hnames) hd (hmap hd.toIsMap) hsame hr
    have hupToDate := hholds.upToDate (fun f hf ↦ ⟨(hnames f hf).1, by
      obtain ⟨m, x, hx, -⟩ := (hnames f hf).2
      simp [hx]⟩) hnodup
    exact runCheck_of_compareAll ((settings_congr (Settings.read_congr hsame.settings)).trans hs) hrun
      (compareAll_eq_nil_iff.mpr hupToDate)
  · intro hcheck
    obtain ⟨s, r, hs, hr, hcompare⟩ := runCheck_eq_none hcheck
    obtain ⟨herror, hnode⟩ := writeAll_of_upToDate (compareAll_eq_nil_iff.mp hcompare)
    obtain ⟨hdisk, herror'⟩ := runGenerate_eq hs hr false
    exact ⟨herror'.trans herror, fun l ↦ hdisk ▸ hnode l⟩

theorem isTree_twoTypesDisk : IsTree twoTypesDisk where
  nodup := by decide +kernel
  root := by decide +kernel
  around := by decide +kernel
  isName := by decide +kernel
  working := rfl

theorem of_run {Q : Run → Bool} (hs : t.settings d = .ok s) (hr : Run.of d t.input t.filter s = .ok r)
    (h : ((t.settings d).toOption.bind fun s ↦ (Run.of d t.input t.filter s).toOption).all Q = true) :
    Q r = true := by
  rw [hs] at h
  simpa [Except.toOption, hr] using h

/-- A run over one of two types, a check after it, and the run once more. -/
theorem check_generate_twoTypes :
    let t := descriptorsTarget (some "a*") ⟨"out"⟩
    let once := ((Command.generate t false false).run twoTypesDisk).disk
    ((Command.check t).run once).error = none ∧
      ((Command.generate t false false).run once).error = none ∧
      ∀ l, ((Command.generate t false false).run once).disk.node? l = once.node? l := by
  intro t once
  have hgenerate : ((Command.generate t false false).run twoTypesDisk).error = none := by decide +kernel
  obtain ⟨s, r, hs, hr, -, -⟩ := runGenerate_eq_none hgenerate
  have hnodup : (r.files.map (·.relative)).Nodup := of_decide_eq_true <|
    of_run (Q := fun r ↦ decide (r.files.map (·.relative)).Nodup) hs hr (by decide +kernel)
  have hskipped : r.skipped = [] := List.isEmpty_iff.mp <|
    of_run (Q := fun r ↦ r.skipped.isEmpty) hs hr (by decide +kernel)
  have hsame : Undisturbed twoTypesDisk once t.config t.input :=
    ⟨by decide +kernel, by decide +kernel,
      fun root _ ↦ keepsRepositories_of_forall (by decide +kernel) (by decide +kernel), nofun⟩
  obtain ⟨-, hcheck⟩ := (check_generate twoTypesDisk t).1 s r isTree_twoTypesDisk hs hr hnodup hgenerate hsame
  rw [if_pos hskipped] at hcheck
  exact ⟨hcheck, (check_generate once t).2 hcheck⟩

/-- **A source root that is made where the configuration is looked for.** The run succeeds, and the check
cannot read the configuration. -/
theorem not_check_generate : ¬∀ (d : Disk) (t : Target) (s : Settings) (r : Run),
    IsTree d → t.settings d = .ok s → Run.of d t.input t.filter s = .ok r →
      (r.files.map (·.relative)).Nodup → ((Command.generate t false false).run d).error = none →
      ((Command.check t).run ((Command.generate t false false).run d).disk).error =
        if r.skipped = [] then none else some (.stale 0 r.skipped.length) := by
  intro h
  let d := twoTypesDisk
  let t := descriptorsTarget (some "a*") ⟨Settings.fileName⟩
  have hgenerate : ((Command.generate t false false).run d).error = none := by decide +kernel
  obtain ⟨s, r, hs, hr, -, -⟩ := runGenerate_eq_none hgenerate
  have hnodup : (r.files.map (·.relative)).Nodup := of_decide_eq_true <|
    of_run (Q := fun r ↦ decide (r.files.map (·.relative)).Nodup) hs hr (by decide +kernel)
  have hcheck : ((Command.check t).run ((Command.generate t false false).run d).disk).error =
      some (.config (.unreadable ⟨Settings.fileName⟩ .isDirectory)) := by decide +kernel
  rw [h d t s r isTree_twoTypesDisk hs hr hnodup hgenerate] at hcheck
  split_ifs at hcheck
  exact nomatch hcheck

end JavaBuilder.CommandLine
