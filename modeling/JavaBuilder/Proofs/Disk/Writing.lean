import JavaBuilder.Proofs.Disk.Following

/-!
# What writing changes

Making directories only adds directories, whether it succeeds or not. Writing a file sets the content at one
location, and takes no directory away, so paths go on leading where they led.

A text is read back as it was written.
-/

namespace JavaBuilder.Disk

variable {d e : Disk} {l m : Location} {p : FilePath} {text : String}

/-- Files are the same if their contents are. -/
instance : DecidableEq Node
  | .file a, .file b => decidable_of_iff (a.data = b.data)
      ⟨fun h ↦ congrArg Node.file (ByteArray.ext h), fun h ↦ congrArg ByteArray.data (Node.file.inj h)⟩
  | .directory, .directory => isTrue rfl
  | .file _, .directory => isFalse Node.noConfusion
  | .directory, .file _ => isFalse Node.noConfusion

/-! ## Texts -/

/-- Content is the text that it was written from, and no other. -/
theorem textOf_eq_ok_iff {content : ByteArray} : textOf content = .ok text ↔ content = text.toUTF8 := by
  unfold textOf String.fromUTF8?
  split_ifs with h
  · refine ⟨fun heq ↦ ?_, fun heq ↦ ?_⟩
    · obtain rfl := Except.ok.inj heq
      rfl
    · exact congrArg Except.ok (String.toByteArray_inj.mp heq)
  · exact iff_of_false not_false fun heq ↦ h (heq ▸ text.isValidUTF8)

theorem readText_eq_ok_iff : d.readText p = .ok text ↔ d.nodeAt? p = some (.file text.toUTF8) := by
  unfold readText nodeAt?
  cases d.locate p with
  | error f => exact iff_of_false (fun h ↦ nomatch h) (fun h ↦ nomatch h)
  | ok l =>
    rw [ok_bind]
    cases hnode : d.node? l with
    | none => simp [hnode]
    | some n =>
      cases n with
      | directory => simp [hnode]
      | file content => simp [hnode, textOf_eq_ok_iff]

/-! ## Adding directories -/

/-- What was at a location is still there. Where nothing was, there may be a directory now. -/
def StaysAt (d e : Disk) (l : Location) : Prop :=
  e.node? l = d.node? l ∨ d.node? l = none ∧ e.node? l = some .directory

theorem StaysAt.refl (d : Disk) (l : Location) : StaysAt d d l := .inl rfl

theorem StaysAt.trans {f : Disk} (h : StaysAt d e l) (h' : StaysAt e f l) : StaysAt d f l := by
  rcases h, h' with ⟨hd | ⟨hd, he⟩, he' | ⟨he', hf⟩⟩
  · exact .inl (he'.trans hd)
  · exact .inr ⟨hd ▸ he', hf⟩
  · exact .inr ⟨hd, he'.trans he⟩
  · exact .inr ⟨hd, hf⟩

theorem StaysAt.eq_of_isSome (h : StaysAt d e l) (hl : (d.node? l).isSome) : e.node? l = d.node? l := by
  refine h.resolve_right fun hnone ↦ ?_
  rw [hnone.1] at hl
  cases hl

/-- Another disk has everything that is on a disk, and perhaps more directories. -/
structure AddsDirectories (d e : Disk) : Prop where
  working : e.working = d.working
  user : e.user = d.user
  stays : ∀ l, StaysAt d e l

namespace AddsDirectories

theorem refl (d : Disk) : AddsDirectories d d := ⟨rfl, rfl, .refl d⟩

theorem trans {f : Disk} (h : AddsDirectories d e) (h' : AddsDirectories e f) : AddsDirectories d f :=
  ⟨h'.working.trans h.working, h'.user.trans h.user, fun l ↦ (h.stays l).trans (h'.stays l)⟩

theorem keepsDirectories (h : AddsDirectories d e) : KeepsDirectories d e where
  working := h.working
  user := h.user
  directory l hl := by rw [(h.stays l).eq_of_isSome (by rw [hl]; rfl), hl]

end AddsDirectories

/-- Another disk has something wherever a disk has something, and a directory wherever that has one. -/
structure KeepsPaths (d e : Disk) : Prop extends KeepsDirectories d e where
  isSome : ∀ l, (d.node? l).isSome → (e.node? l).isSome

namespace KeepsPaths

theorem refl (d : Disk) : KeepsPaths d d := ⟨.refl d, fun _ ↦ id⟩

theorem trans {f : Disk} (h : KeepsPaths d e) (h' : KeepsPaths e f) : KeepsPaths d f :=
  ⟨h.toKeepsDirectories.trans h'.toKeepsDirectories, fun l hl ↦ h'.isSome l (h.isSome l hl)⟩

theorem hasPath (h : KeepsPaths d e) (hp : d.hasPath p) : e.hasPath p := by
  unfold Disk.hasPath nodeAt? at hp ⊢
  cases hl : d.locate p with
  | ok l =>
    rw [hl] at hp
    rw [h.locate hl]
    exact h.isSome l hp
  | error f =>
    rw [hl] at hp
    cases hp

end KeepsPaths

theorem AddsDirectories.keepsPaths (h : AddsDirectories d e) : KeepsPaths d e where
  toKeepsDirectories := h.keepsDirectories
  isSome l hl := by rwa [(h.stays l).eq_of_isSome hl]

/-- A disk that lists each location once, and not the root. -/
structure IsMap (d : Disk) : Prop where
  nodup : (d.nodes.map (·.1)).Nodup
  root : [] ∉ d.nodes.map (·.1)

theorem IsMap.put (h : IsMap d) (hl : l ≠ []) (n : Node) : IsMap (d.put l n) := by
  have hmem {m : Location} (hm : m ∈ (d.nodes.filter fun e ↦ !(e.1 == l)).map (·.1)) :
      m ≠ l ∧ m ∈ d.nodes.map (·.1) := by
    obtain ⟨e, he, rfl⟩ := List.mem_map.mp hm
    obtain ⟨he, hne⟩ := List.mem_filter.mp he
    exact ⟨by simpa using hne, List.mem_map_of_mem he⟩
  refine ⟨List.nodup_cons.mpr ⟨fun hm ↦ (hmem hm).1 rfl, ?_⟩, fun hm ↦ ?_⟩
  · exact h.nodup.sublist (List.filter_sublist.map _)
  · rcases List.mem_cons.mp hm with heq | hm
    · exact hl heq.symm
    · exact h.root (hmem hm).2

theorem makeDirectory_eq_ok (h : d.makeDirectory p = .ok e) :
    ∃ l, l ≠ [] ∧ d.node? l = none ∧ e = d.put l .directory := by
  obtain ⟨l, -, h⟩ := bind_eq_ok.mp h
  by_cases hsome : (d.node? l).isSome
  · rw [if_pos hsome] at h
    cases h
  · rw [if_neg hsome] at h
    obtain rfl := Except.ok.inj h
    have hnone := Option.not_isSome_iff_eq_none.mp hsome
    refine ⟨l, ?_, hnone, rfl⟩
    rintro rfl
    cases hnone

/-- What making one directory keeps is kept by making those around it first, even if that fails. -/
theorem makeFirst_invariant {I : Disk → Prop}
    (hstep : ∀ ⦃d p e⦄, d.makeDirectory p = .ok e → I d → I e) (ps : List FilePath) (hd : I d) :
    I (d.makeFirst ps).1 := by
  induction ps with
  | nil => exact hd
  | cons p above ih =>
    rw [makeFirst]
    split
    · next e he => exact hstep he hd
    · split
      · next e f he => exact he ▸ ih
      · next e u he =>
        have hI : I e := by rw [he] at ih; exact ih
        split
        · next e' he' => exact hstep he' hI
        · exact hI
    · exact hd

theorem makeDirectories_invariant {I : Disk → Prop}
    (hstep : ∀ ⦃d p e⦄, d.makeDirectory p = .ok e → I d → I e) (hd : I d) (p : FilePath) :
    I (d.makeDirectories p).1 := by
  unfold makeDirectories
  split_ifs
  · exact hd
  · exact makeFirst_invariant hstep _ hd

theorem addsDirectories_makeDirectory (h : d.makeDirectory p = .ok e) : AddsDirectories d e := by
  obtain ⟨l, hl, hnone, rfl⟩ := makeDirectory_eq_ok h
  refine ⟨rfl, rfl, fun m ↦ ?_⟩
  rw [StaysAt, node?_put _ hl]
  by_cases hm : m = l
  · rw [if_pos hm, hm]
    exact .inr ⟨hnone, rfl⟩
  · rw [if_neg hm]
    exact .inl rfl

theorem addsDirectories_makeDirectories (d : Disk) (p : FilePath) :
    AddsDirectories d (d.makeDirectories p).1 :=
  makeDirectories_invariant (I := AddsDirectories d)
    (fun _ _ _ h hd ↦ hd.trans (addsDirectories_makeDirectory h)) (.refl d) p

theorem IsMap.makeDirectories (h : IsMap d) (p : FilePath) : IsMap (d.makeDirectories p).1 := by
  refine makeDirectories_invariant (fun d p e he hd ↦ ?_) h p
  obtain ⟨l, hl, -, rfl⟩ := makeDirectory_eq_ok he
  exact hd.put hl _

/-! ## Writing files -/

theorem writeText_eq_ok (h : d.writeText p text = .ok e) :
    ∃ l, l ≠ [] ∧ d.locate p = .ok l ∧ d.node? l ≠ some .directory ∧ e = d.put l (.file text.toUTF8) := by
  obtain ⟨l, hl, h⟩ := bind_eq_ok.mp h
  split at h
  · cases h
  · next hnode =>
    refine ⟨l, ?_, hl, hnode, (Except.ok.inj h).symm⟩
    rintro rfl
    exact hnode rfl

theorem keepsDirectories_put {n : Node} (hl : l ≠ []) (hnode : d.node? l ≠ some .directory) :
    KeepsDirectories d (d.put l n) := by
  refine ⟨rfl, rfl, fun m hm ↦ ?_⟩
  rw [node?_put _ hl, if_neg, hm]
  rintro rfl
  exact hnode hm

theorem keepsPaths_put {n : Node} (hl : l ≠ []) (hnode : d.node? l ≠ some .directory) :
    KeepsPaths d (d.put l n) where
  toKeepsDirectories := keepsDirectories_put hl hnode
  isSome m hm := by
    rw [node?_put _ hl]
    split_ifs
    · rfl
    · exact hm

end JavaBuilder.Disk
