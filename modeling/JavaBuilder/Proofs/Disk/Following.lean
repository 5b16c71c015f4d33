import JavaBuilder.Disk.Tree
import JavaBuilder.Proofs.Outcome
import JavaBuilder.Proofs.Text.Segments

/-!
# Where paths lead

Two things decide where a path leads: where each of its segments goes, which is the same on every disk,
and whether there is a directory wherever a segment leaves from. So a path that leads to a location still
leads there on a disk that has all the directories of the first one.

A name goes one down. What is written at the end of a path is therefore the end of the location that it
leads to, and going on from a path with names is going on from its location with them.
-/

namespace JavaBuilder.Disk

open Text

/-- A segment that goes one down. -/
structure IsName (s : String) : Prop where
  ne_empty : s ≠ ""
  ne_dot : s ≠ "."
  ne_dots : s ≠ ".."
  no_slash : '/' ∉ s.toList

instance (s : String) : Decidable (IsName s) :=
  decidable_of_iff (s ≠ "" ∧ s ≠ "." ∧ s ≠ ".." ∧ '/' ∉ s.toList)
    ⟨fun ⟨hempty, hdot, hdots, hslash⟩ ↦ ⟨hempty, hdot, hdots, hslash⟩,
      fun h ↦ ⟨h.ne_empty, h.ne_dot, h.ne_dots, h.no_slash⟩⟩

variable {d e : Disk} {l m b : Location} {s : String} {ss names : List String} {p q : FilePath}

/-! ## One segment -/

/-- Where a segment goes, if there is a directory to leave from. -/
def goes? (l : Location) (s : String) : Option Location :=
  if s = "" ∨ s = "." then some l
  else if s = ".." then some l.dropLast
  else if maxNameBytes < s.utf8ByteSize then none
  else some (l ++ [s])

theorem demandDirectory_eq_ok_iff {u : Unit} :
    d.demandDirectory l = .ok u ↔ d.node? l = some .directory := by
  unfold demandDirectory
  split
  · next h => exact iff_of_false throw_ne_ok (by simp [h])
  · next h => exact iff_of_false throw_ne_ok (by simp [h])
  · next h => exact iff_of_true rfl h

theorem step_eq_ok_iff : d.step l s = .ok m ↔ d.node? l = some .directory ∧ goes? l s = some m := by
  rw [step, bind_eq_ok]
  simp only [demandDirectory_eq_ok_iff, exists_and_left]
  refine and_congr_right fun _ ↦ ?_
  rw [goes?]
  split_ifs with hidle hup hlong
  · simp [pure, Except.pure]
  · simp [pure, Except.pure]
  · exact iff_of_false (fun h ↦ nomatch h) (fun h ↦ nomatch h)
  · simp [pure, Except.pure]

theorem goes?_of_isName (h : IsName s) :
    goes? l s = some m ↔ s.utf8ByteSize ≤ maxNameBytes ∧ m = l ++ [s] := by
  rw [goes?, if_neg (by simp [h.ne_empty, h.ne_dot]), if_neg h.ne_dots]
  by_cases hlong : maxNameBytes < s.utf8ByteSize
  · rw [if_pos hlong]
    simp [Nat.not_le.mpr hlong]
  · rw [if_neg hlong]
    simp [Nat.not_lt.mp hlong, eq_comm]

/-! ## Several segments -/

/-- All directories of a disk are on another one, which has the same working directory and user. -/
structure KeepsDirectories (d e : Disk) : Prop where
  working : e.working = d.working
  user : e.user = d.user
  directory : ∀ l, d.node? l = some .directory → e.node? l = some .directory

theorem KeepsDirectories.refl (d : Disk) : KeepsDirectories d d := ⟨rfl, rfl, fun _ ↦ id⟩

theorem KeepsDirectories.trans {f : Disk} (h : KeepsDirectories d e) (h' : KeepsDirectories e f) :
    KeepsDirectories d f :=
  ⟨h'.working.trans h.working, h'.user.trans h.user, fun l hl ↦ h'.directory l (h.directory l hl)⟩

theorem KeepsDirectories.walk (h : KeepsDirectories d e) (hd : ss.foldlM d.step b = .ok l) :
    ss.foldlM e.step b = .ok l := by
  induction ss generalizing b with
  | nil => exact hd
  | cons s ss ih =>
    rw [List.foldlM_cons] at hd ⊢
    obtain ⟨b', hb, hd⟩ := bind_eq_ok.mp hd
    obtain ⟨hdirectory, hgoes⟩ := step_eq_ok_iff.mp hb
    exact bind_eq_ok.mpr ⟨b', step_eq_ok_iff.mpr ⟨h.directory b hdirectory, hgoes⟩, ih hd⟩

/-- Going down through names ends below, at their end, if there are directories on the way. -/
theorem walk_names_iff (h : ∀ s ∈ names, IsName s) :
    names.foldlM d.step b = .ok l ↔ l = b ++ names ∧ (∀ s ∈ names, s.utf8ByteSize ≤ maxNameBytes) ∧
      ∀ n < names.length, d.node? (b ++ names.take n) = some .directory := by
  induction names generalizing b with
  | nil => simp [pure, Except.pure, eq_comm]
  | cons s names ih =>
    obtain ⟨hs, hnames⟩ := List.forall_mem_cons.mp h
    rw [List.foldlM_cons, bind_eq_ok]
    simp only [step_eq_ok_iff, goes?_of_isName hs, ih hnames]
    constructor
    · rintro ⟨_, ⟨hb, hlong, rfl⟩, rfl, hlongs, hdirs⟩
      refine ⟨by simp, List.forall_mem_cons.mpr ⟨hlong, hlongs⟩, fun n hn ↦ ?_⟩
      cases n with
      | zero => simpa using hb
      | succ n => simpa using hdirs n (by simpa using hn)
    · rintro ⟨rfl, hlong, hdirs⟩
      obtain ⟨hlong, hlongs⟩ := List.forall_mem_cons.mp hlong
      refine ⟨b ++ [s], ⟨by simpa using hdirs 0 (by simp), hlong, rfl⟩, by simp, hlongs, fun n hn ↦ ?_⟩
      simpa using hdirs (n + 1) (by simpa using hn)

/-! ## Paths -/

/-- A path that can be followed at all. -/
structure FilePath.IsUsable (p : FilePath) : Prop where
  ne_empty : p.text ≠ ""
  no_zero : '\x00' ∉ p.text.toList
  short : p.text.utf8ByteSize ≤ maxPathBytes

theorem locate_eq_ok_iff :
    d.locate p = .ok l ↔ p.IsUsable ∧ p.segments.foldlM d.step (d.start p) = .ok l := by
  rw [locate]
  split_ifs with hempty hzero hlong
  · exact iff_of_false not_false fun h ↦ h.1.ne_empty hempty
  · exact iff_of_false not_false fun h ↦ h.1.no_zero (by simpa using hzero)
  · exact iff_of_false not_false fun h ↦ Nat.not_lt.mpr h.1.short hlong
  · exact (and_iff_right ⟨hempty, by simpa using hzero, Nat.not_lt.mp hlong⟩).symm

theorem nodeAt?_of_locate (h : d.locate p = .ok l) : d.nodeAt? p = d.node? l := by rw [nodeAt?, h]

theorem exists_locate_of_nodeAt? {n : Node} (h : d.nodeAt? p = some n) :
    ∃ l, d.locate p = .ok l ∧ d.node? l = some n := by
  unfold nodeAt? at h
  split at h
  · next l hl => exact ⟨l, hl, h⟩
  · cases h

theorem start_eq (h : e.working = d.working) (p : FilePath) : e.start p = d.start p := by
  rw [start, start, h]

theorem KeepsDirectories.locate (h : KeepsDirectories d e) (hd : d.locate p = .ok l) :
    e.locate p = .ok l := by
  rw [locate_eq_ok_iff] at hd ⊢
  exact ⟨hd.1, start_eq h.working p ▸ h.walk hd.2⟩

theorem FilePath.slash_not_mem (p : FilePath) (h : s ∈ p.segments) : '/' ∉ s.toList := by
  obtain ⟨cs, hcs, rfl⟩ := List.mem_map.mp h
  rw [String.toList_ofList]
  exact not_mem_of_mem_segments hcs

/-! ## Going on from a path -/

namespace FilePath

/-- The segments that a path is gone on from: those of the path, but for what is not written after a
slash at its end. -/
def leading (p : FilePath) : List String :=
  if p.text = "" then []
  else if p.text.toList.getLast? = some '/' then p.segments.dropLast
  else p.segments

theorem toList_ne_nil {x : String} (h : x ≠ "") : x.toList ≠ [] := fun hnil ↦ h (String.toList_inj.mp hnil)

theorem isAbsolute_join (hq : q.isAbsolute = false) : (p.join q).isAbsolute = p.isAbsolute := by
  unfold join
  by_cases hp : p.text = ""
  · rw [if_pos (.inr hp), hq, isAbsolute, hp]
    rfl
  · rw [if_neg (by simp [hp, hq])]
    have hhead (cs : List Char) : (p.text.toList ++ cs).head? = p.text.toList.head? :=
      List.head?_append_of_ne_nil _ (toList_ne_nil hp)
    split_ifs <;> simp only [isAbsolute, String.toList_append, List.append_assoc, hhead]

theorem segments_join (hq : q.isAbsolute = false) :
    (p.join q).segments = p.leading ++ q.segments := by
  unfold join leading
  by_cases hp : p.text = ""
  · rw [if_pos (.inr hp), if_pos hp, List.nil_append]
  · rw [if_neg (by simp [hp, hq]), if_neg hp]
    by_cases hlast : p.text.toList.getLast? = some '/'
    · obtain ⟨cs, hcs⟩ := List.getLast?_eq_some_iff.mp hlast
      rw [if_pos hlast, if_pos hlast, segments, segments, segments, split, split, split,
        String.toList_append, hcs, List.append_assoc, List.singleton_append, segments_append_sep,
        segments_append_sep]
      simp
    · rw [if_neg hlast, if_neg hlast, segments, segments, segments, split, split, split,
        String.toList_append, String.toList_append, List.append_assoc]
      rw [show "/".toList ++ q.text.toList = '/' :: q.text.toList from rfl, segments_append_sep,
        List.map_append]

theorem segments_of_names (hne : names ≠ []) (h : ∀ s ∈ names, IsName s) :
    (⟨Text.join '/' names⟩ : FilePath).segments = names :=
  split_join hne fun s hs ↦ (h s hs).no_slash

theorem isAbsolute_of_names (h : ∀ s ∈ names, IsName s) :
    (⟨Text.join '/' names⟩ : FilePath).isAbsolute = false := by
  cases names with
  | nil => rfl
  | cons s names =>
    have hs := h s List.mem_cons_self
    obtain ⟨rest, hrest⟩ := exists_joinSegments_cons '/' s.toList (names.map String.toList)
    rw [isAbsolute, Text.join, String.toList_ofList, List.map_cons, hrest,
      List.head?_append_of_ne_nil _ (toList_ne_nil hs.ne_empty), decide_eq_false_iff_not]
    exact fun hhead ↦ hs.no_slash (List.mem_of_mem_head? hhead)

end FilePath

/-- Going on from a path with names is going on from its location with them. -/
theorem locate_join_names (hne : names ≠ []) (h : ∀ s ∈ names, IsName s)
    (hd : d.locate (p.join ⟨join '/' names⟩) = .ok l) :
    ∃ b, p.leading.foldlM d.step (d.start p) = .ok b ∧ names.foldlM d.step b = .ok l ∧ l = b ++ names := by
  have hrelative := FilePath.isAbsolute_of_names h
  have hwalk := (locate_eq_ok_iff.mp hd).2
  rw [FilePath.segments_join hrelative, FilePath.segments_of_names hne h, start,
    FilePath.isAbsolute_join hrelative, ← start, List.foldlM_append] at hwalk
  obtain ⟨b, hb, hl⟩ := bind_eq_ok.mp hwalk
  exact ⟨b, hb, hl, ((walk_names_iff h).mp hl).1⟩

/-! ## The path around a path -/

theorem trimIdle_append (ss : List String) :
    ∃ idle, ss = FilePath.trimIdle ss ++ idle ∧ ∀ s ∈ idle, FilePath.isIdle s = true := by
  refine ⟨(ss.reverse.takeWhile FilePath.isIdle).reverse, ?_, fun s hs ↦ ?_⟩
  · rw [FilePath.trimIdle, ← List.reverse_append, List.takeWhile_append_dropWhile, List.reverse_reverse]
  · exact List.all_eq_true.mp List.all_takeWhile s (List.mem_reverse.mp hs)

theorem goes?_of_isIdle (h : FilePath.isIdle s = true) : goes? l s = some l :=
  if_pos (by simpa [FilePath.isIdle] using h)

/-- Segments that change nothing keep to a directory. -/
theorem walk_idle (h : ∀ s ∈ ss, FilePath.isIdle s = true) (hd : ss.foldlM d.step b = .ok l) :
    l = b ∧ (ss ≠ [] → d.node? b = some .directory) := by
  induction ss with
  | nil => exact ⟨(Except.ok.inj hd).symm, fun hne ↦ absurd rfl hne⟩
  | cons s ss ih =>
    obtain ⟨hs, hss⟩ := List.forall_mem_cons.mp h
    rw [List.foldlM_cons] at hd
    obtain ⟨b', hb, hd⟩ := bind_eq_ok.mp hd
    obtain ⟨hdirectory, hgoes⟩ := step_eq_ok_iff.mp hb
    rw [goes?_of_isIdle hs] at hgoes
    obtain rfl := Option.some.inj hgoes
    exact ⟨(ih hss hd).1, fun _ ↦ hdirectory⟩

theorem FilePath.hasPath_of_walk (husable : p.IsUsable) (hd : p.segments.foldlM d.step (d.start p) = .ok l)
    (hl : d.node? l = some .directory) : d.hasPath p := by
  rw [hasPath, nodeAt?, locate_eq_ok_iff.mpr ⟨husable, hd⟩]
  exact Option.isSome_of_eq_some hl

theorem hasPath_root (d : Disk) : d.hasPath ⟨"/"⟩ := by
  refine FilePath.hasPath_of_walk (l := []) ⟨by decide, by decide, by decide⟩ ?_ (by simp [node?])
  rw [show (⟨"/"⟩ : FilePath).segments = ["", ""] by decide, show d.start ⟨"/"⟩ = [] from rfl]
  exact (bind_eq_ok.mpr ⟨[], step_eq_ok_iff.mpr ⟨rfl, rfl⟩,
    bind_eq_ok.mpr ⟨[], step_eq_ok_iff.mpr ⟨rfl, rfl⟩, rfl⟩⟩)

/-- A path that leads to a file has an end that leaves from a directory, the one that the rest of the path
leads to. -/
theorem exists_walk_of_file {first : String} {rest : List String} {c : ByteArray}
    (hne : FilePath.trimIdle rest ≠ []) (hd : (first :: rest).foldlM d.step b = .ok l)
    (hfile : d.node? l = some (.file c)) :
    ∃ back m, back ≠ [] ∧ rest = FilePath.trimIdle (FilePath.trimIdle rest).dropLast ++ back ∧
      (first :: FilePath.trimIdle (FilePath.trimIdle rest).dropLast).foldlM d.step b = .ok m ∧
      d.node? m = some .directory := by
  obtain ⟨idle, hrest, hidle⟩ := trimIdle_append rest
  obtain ⟨idle', hfront, hidle'⟩ := trimIdle_append (FilePath.trimIdle rest).dropLast
  generalize FilePath.trimIdle rest = named at *
  generalize FilePath.trimIdle named.dropLast = front at *
  -- Nothing idle comes last: it would have to leave from the file.
  rw [hrest, ← List.cons_append, List.foldlM_append] at hd
  obtain ⟨m, hm, hd⟩ := bind_eq_ok.mp hd
  obtain ⟨rfl, hdirectory⟩ := walk_idle hidle hd
  have hnone : idle = [] := by
    by_contra hidleNe
    rw [hdirectory hidleNe] at hfile
    cases hfile
  rw [hnone, List.append_nil] at hrest
  -- What is idle before the last segment keeps to the directory that it leaves from.
  rw [← List.dropLast_append_getLast hne, hfront, ← List.cons_append, ← List.cons_append,
    List.foldlM_append] at hm
  obtain ⟨m', hm', hlast⟩ := bind_eq_ok.mp hm
  rw [List.foldlM_append] at hm'
  obtain ⟨k, hk, hm'⟩ := bind_eq_ok.mp hm'
  obtain ⟨rfl, -⟩ := walk_idle hidle' hm'
  obtain ⟨_, hstep, -⟩ := bind_eq_ok.mp hlast
  refine ⟨idle' ++ [named.getLast hne], m', by simp, ?_, hk, (step_eq_ok_iff.mp hstep).1⟩
  rw [hrest, ← List.append_assoc, ← hfront, List.dropLast_append_getLast hne]

/-- What is written before the end of a path leads where the path comes by. -/
theorem hasPath_of_leading {front back : List String} (husable : p.IsUsable)
    (hsegments : p.segments = front ++ back) (hfront : front ≠ []) (hback : back ≠ [])
    (hd : front.foldlM d.step (d.start p) = .ok m) (hm : d.node? m = some .directory) :
    d.hasPath ⟨if join '/' front = "" then "/" else join '/' front⟩ := by
  by_cases hempty : join '/' front = ""
  · rw [if_pos hempty]
    exact hasPath_root d
  · rw [if_neg hempty]
    have htext : p.text.toList = (join '/' front).toList ++ '/' :: (join '/' back).toList := by
      rw [← join_split '/' p.text, ← FilePath.segments, hsegments]
      simp only [join, String.toList_ofList, List.map_append]
      exact joinSegments_append '/' (by simpa using hfront) (by simpa using hback)
    have hstart : d.start ⟨join '/' front⟩ = d.start p := by
      rw [start, start, FilePath.isAbsolute, FilePath.isAbsolute, htext,
        List.head?_append_of_ne_nil _ (FilePath.toList_ne_nil hempty)]
    refine FilePath.hasPath_of_walk (l := m) ⟨hempty, fun hzero ↦ husable.no_zero ?_, ?_⟩ ?_ hm
    · rw [htext]
      exact List.mem_append_left _ hzero
    · refine Nat.le_trans ?_ husable.short
      rw [← String.ofList_toList (s := p.text), htext, String.ofList_append, String.ofList_toList,
        String.utf8ByteSize_append]
      exact Nat.le_add_right _ _
    · rw [FilePath.segments, split_join hfront, hstart, hd]
      exact fun s hs ↦ p.slash_not_mem (hsegments ▸ List.mem_append_left _ hs)

/-- The path around a path that leads to a file leads somewhere, if it says anything. -/
theorem hasPath_of_parent? {c : ByteArray} (hd : d.locate p = .ok l)
    (hfile : d.node? l = some (.file c)) (hq : p.parent? = some q) : q.text = "" ∨ d.hasPath q := by
  obtain ⟨husable, hwalk⟩ := locate_eq_ok_iff.mp hd
  unfold FilePath.parent? at hq
  split at hq
  · cases hq
  · next first rest hsegments =>
    rw [hsegments] at hwalk
    split at hq
    · split_ifs at hq
      exact .inl (Option.some.inj hq ▸ rfl)
    · next named hnamed =>
      obtain ⟨back, m, hback, hrest, hm, hdirectory⟩ := exists_walk_of_file hnamed hwalk hfile
      rw [hrest, ← List.cons_append] at hsegments
      exact .inr (Option.some.inj hq ▸ hasPath_of_leading husable hsegments (by simp) hback hm hdirectory)

end JavaBuilder.Disk
