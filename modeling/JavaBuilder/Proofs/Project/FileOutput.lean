import JavaBuilder.Project.Output
import JavaBuilder.Proofs.Disk.Writing

/-!
# Writing and comparing one file

A file that is written is found again under its path, and nothing else on the disk can be told apart from
before but for the directories that were made around it. A file that is up to date has exactly the text that
it is compared with, and writing it once more changes nothing.
-/

namespace JavaBuilder.Project

open Disk

variable {d e : Disk} {p : FilePath} {text : String} {r : WriteResult}

theorem addsDirectories_makeParent (d : Disk) (p : FilePath) : AddsDirectories d (makeParent d p).1 := by
  unfold makeParent
  split
  · exact .refl d
  · split_ifs
    · exact .refl d
    · exact addsDirectories_makeDirectories d _

theorem isMap_makeParent (h : IsMap d) (p : FilePath) : IsMap (makeParent d p).1 := by
  unfold makeParent
  split
  · exact h
  · split_ifs
    · exact h
    · exact h.makeDirectories _

/-- Around a file that is there, no directory is made. -/
theorem makeParent_of_file {c : ByteArray} (h : d.nodeAt? p = some (.file c)) :
    makeParent d p = (d, .ok ()) := by
  unfold nodeAt? at h
  split at h
  · next l hl =>
    unfold makeParent
    split
    · rfl
    · next parent hparent =>
      rcases hasPath_of_parent? hl h hparent with hempty | hpath
      · split_ifs
        · rfl
        · rw [makeDirectories, if_pos hempty]
          rfl
      · rw [if_pos hpath]
  · cases h

/-- **What writing a file does.** Its path leads to the text, and at all other locations everything stays. -/
theorem writeFile_eq_ok (h : writeFile false d p text = (e, .ok r)) :
    r = .written p text.utf8ByteSize ∧ KeepsDirectories d e ∧ (IsMap d → IsMap e) ∧
      ∃ l, e.locate p = .ok l ∧ e.node? l = some (.file text.toUTF8) ∧
        ∀ m, m ≠ l → StaysAt d e m := by
  have hadds := addsDirectories_makeParent d p
  have hmap := fun hd : IsMap d ↦ isMap_makeParent hd p
  rw [writeFile, if_neg Bool.false_ne_true] at h
  cases hparent : makeParent d p with
  | mk d' r' =>
    rw [hparent] at h hadds hmap
    cases r' with
    | error f => cases h
    | ok u =>
      simp only at h
      split at h
      · cases h
      · next e' he' =>
        obtain ⟨rfl, hr⟩ := Prod.mk.inj h
        obtain ⟨l, hl, hlocate, hnode, rfl⟩ := writeText_eq_ok he'
        have hkeeps : KeepsDirectories d' (d'.put l (.file text.toUTF8)) := keepsDirectories_put hl hnode
        refine ⟨(Except.ok.inj hr).symm, hadds.keepsDirectories.trans hkeeps, fun hd ↦ (hmap hd).put hl _,
          l, hkeeps.locate hlocate, ?_, fun m hm ↦ ?_⟩
        · rw [node?_put _ hl, if_pos rfl]
        · rw [StaysAt, node?_put _ hl, if_neg hm]
          exact hadds.stays m

/-- Whatever becomes of the file, nothing that is there goes away. -/
theorem keepsPaths_writeFile (dryRun : Bool) (d : Disk) (p : FilePath) (text : String) :
    KeepsPaths d (writeFile dryRun d p text).1 := by
  unfold writeFile
  split_ifs
  · exact .refl d
  · have hparent := (addsDirectories_makeParent d p).keepsPaths
    cases hmake : makeParent d p with
    | mk d' r =>
      rw [hmake] at hparent
      cases r with
      | error f => exact hparent
      | ok u =>
        dsimp only
        cases hwrite : d'.writeText p text with
        | error f => exact hparent
        | ok e =>
          obtain ⟨l, hl, -, hnode, rfl⟩ := writeText_eq_ok hwrite
          exact hparent.trans (keepsPaths_put hl hnode)

/-- **When a file is up to date.** Its path leads to exactly the text that would be written. -/
theorem fileStatus_eq_upToDate_iff :
    fileStatus d p text = .ok .upToDate ↔ d.nodeAt? p = some (.file text.toUTF8) := by
  rw [← readText_eq_ok_iff, fileStatus]
  cases hpath : d.hasPath p with
  | false =>
    refine iff_of_false (by simp [pure, Except.pure]) fun h ↦ ?_
    rw [hasPath, readText_eq_ok_iff.mp h] at hpath
    cases hpath
  | true =>
    cases hread : d.readText p with
    | error f => exact iff_of_false (by simp) (by simp)
    | ok s => by_cases hs : s = text <;> simp [hs, pure, Except.pure]

theorem writeFile_of_upToDate (h : d.nodeAt? p = some (.file text.toUTF8)) :
    ∃ e, writeFile false d p text = (e, .ok (.written p text.utf8ByteSize)) ∧
      KeepsDirectories d e ∧ ∀ m, e.node? m = d.node? m := by
  rw [writeFile, if_neg Bool.false_ne_true, makeParent_of_file h]
  unfold nodeAt? at h
  split at h
  · next l hl =>
    have hroot : l ≠ [] := by
      rintro rfl
      cases h
    refine ⟨d.put l (.file text.toUTF8), ?_, keepsDirectories_put hroot (by simp [h]), fun m ↦ ?_⟩
    · simp [writeText, hl, h, bind, Except.bind, pure, Except.pure]
    · rw [node?_put _ hroot]
      split_ifs with hm
      · rw [hm, h]
      · rfl
  · cases h

end JavaBuilder.Project
