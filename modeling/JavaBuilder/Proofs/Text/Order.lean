import Mathlib.Data.List.Nodup
import Mathlib.Data.List.Sort
import Mathlib.Order.Defs.Unbundled
import JavaBuilder.Text.Order

/-!
# What sorting keeps

A sorted list without repeats is its own sorted form, so whatever is kept sorted is found again when it
is written element by element and sorted anew. Adding to such a list keeps it sorted where the new
element can be compared with all that are there; not every order in use compares everything.

Setting a new key in a table adds exactly one entry, wherever it goes.

Sorting by a key gives the same elements in order, and where no two keys are the same there is only one such
list.
-/

namespace JavaBuilder.Text

variable {α β : Type} [LT α] [DecidableLT α] [DecidableEq α]

/-! ## Sets -/

section

variable [IsTrans α (· < ·)] {x : α} {xs : List α}

theorem pairwise_insertSorted (hx : ∀ y ∈ xs, x ≠ y → ¬x < y → y < x)
    (h : xs.Pairwise (· < ·)) : (insertSorted x xs).Pairwise (· < ·) := by
  induction xs with
  | nil => exact List.pairwise_singleton _ _
  | cons y ys ih =>
    obtain ⟨hy, hys⟩ := List.pairwise_cons.mp h
    rw [insertSorted]
    by_cases heq : x = y
    · rw [if_pos heq]
      exact h
    · rw [if_neg heq]
      by_cases hlt : x < y
      · rw [if_pos hlt]
        refine List.pairwise_cons.mpr ⟨fun z hz ↦ ?_, h⟩
        rcases List.mem_cons.mp hz with rfl | hz
        · exact hlt
        · exact trans_of (· < ·) hlt (hy z hz)
      · rw [if_neg hlt]
        refine List.pairwise_cons.mpr ⟨fun z hz ↦ ?_, ih (fun z hz ↦ hx z (.tail _ hz)) hys⟩
        rcases mem_insertSorted.mp hz with rfl | hz
        · exact hx y List.mem_cons_self heq hlt
        · exact hy z hz

theorem pairwise_sortedSet (h : ∀ x ∈ xs, ∀ y ∈ xs, x ≠ y → ¬x < y → y < x) :
    (sortedSet xs).Pairwise (· < ·) := by
  induction xs with
  | nil => exact .nil
  | cons x xs ih =>
    rw [sortedSet, List.foldr_cons, ← sortedSet]
    refine pairwise_insertSorted (fun y hy ↦ ?_) (ih fun y hy z hz ↦ ?_)
    · exact h x List.mem_cons_self y (.tail _ (mem_sortedSet.mp hy))
    · exact h y (.tail _ hy) z (.tail _ hz)

end

theorem sortedSet_of_pairwise [@Std.Irrefl α (· < ·)] {xs : List α}
    (h : xs.Pairwise (· < ·)) : sortedSet xs = xs := by
  induction xs with
  | nil => rfl
  | cons x xs ih =>
    obtain ⟨hx, hxs⟩ := List.pairwise_cons.mp h
    rw [sortedSet, List.foldr_cons, ← sortedSet, ih hxs]
    cases xs with
    | nil => rfl
    | cons y ys =>
      have hlt := hx y List.mem_cons_self
      have hne : x ≠ y := fun heq ↦ irrefl_of (· < ·) y (heq ▸ hlt)
      rw [insertSorted, if_neg hne, if_pos hlt]

/-! ## Tables -/

variable {k : α} {v : β} {es : List (α × β)}

theorem perm_putSorted (h : ∀ e ∈ es, k ≠ e.1) : (putSorted k v es).Perm ((k, v) :: es) := by
  induction es with
  | nil => exact .refl _
  | cons e es ih =>
    obtain ⟨l, w⟩ := e
    obtain ⟨hl, hes⟩ := List.forall_mem_cons.mp h
    rw [putSorted, if_neg hl]
    by_cases hlt : k < l
    · rw [if_pos hlt]
    · rw [if_neg hlt]
      exact ((ih hes).cons _).trans (.swap _ _ _)

theorem mem_map_fst_putSorted {l : α} :
    l ∈ (putSorted k v es).map (·.1) ↔ l = k ∨ l ∈ es.map (·.1) := by
  induction es with
  | nil => simp [putSorted]
  | cons e es ih =>
    obtain ⟨m, w⟩ := e
    rw [putSorted]
    split_ifs with heq hlt
    · simp [heq]
    · simp
    · simp only [List.map_cons, List.mem_cons, ih]
      tauto

theorem pairwise_putSorted [IsTrans α (· < ·)] [@Std.Trichotomous α (· < ·)]
    (h : (es.map (·.1)).Pairwise (· < ·)) : ((putSorted k v es).map (·.1)).Pairwise (· < ·) := by
  induction es with
  | nil => exact List.pairwise_singleton _ _
  | cons e es ih =>
    obtain ⟨l, w⟩ := e
    rw [List.map_cons] at h
    obtain ⟨hl, hes⟩ := List.pairwise_cons.mp h
    rw [putSorted]
    by_cases heq : k = l
    · rw [if_pos heq, List.map_cons, heq]
      exact h
    · rw [if_neg heq]
      by_cases hlt : k < l
      · rw [if_pos hlt, List.map_cons, List.map_cons]
        refine List.pairwise_cons.mpr ⟨fun m hm ↦ ?_, h⟩
        rcases List.mem_cons.mp hm with rfl | hm
        · exact hlt
        · exact trans_of (· < ·) hlt (hl m hm)
      · rw [if_neg hlt, List.map_cons]
        refine List.pairwise_cons.mpr ⟨fun m hm ↦ ?_, ih hes⟩
        rcases mem_map_fst_putSorted.mp hm with rfl | hm
        · by_contra hnot
          exact heq (Std.Trichotomous.trichotomous m l hlt hnot)
        · exact hl m hm

/-- A key after all others goes to the end. -/
theorem putSorted_of_forall_lt [@Std.Asymm α (· < ·)] (h : ∀ e ∈ es, e.1 < k) :
    putSorted k v es = es ++ [(k, v)] := by
  induction es with
  | nil => rfl
  | cons e es ih =>
    obtain ⟨l, w⟩ := e
    obtain ⟨hl, hes⟩ := List.forall_mem_cons.mp h
    have hnot : ¬k < l := fun hlt ↦ asymm_of (· < ·) hl hlt
    have hne : k ≠ l := by
      rintro rfl
      exact hnot hl
    rw [putSorted, if_neg hne, if_neg hnot, ih hes, List.cons_append]

/-- A sorted table is found again when its entries are put one after the other. -/
theorem foldl_putSorted_of_pairwise [@Std.Asymm α (· < ·)] {fs : List (α × β)}
    (h : ((fs ++ es).map (·.1)).Pairwise (· < ·)) :
    es.foldl (fun t e ↦ putSorted e.1 e.2 t) fs = fs ++ es := by
  induction es generalizing fs with
  | nil => simp
  | cons e es ih =>
    have hlt : ∀ f ∈ fs, f.1 < e.1 := by
      rw [List.map_append, List.pairwise_append] at h
      exact fun f hf ↦ h.2.2 _ (List.mem_map_of_mem hf) _ (List.mem_map_of_mem List.mem_cons_self)
    rw [List.foldl_cons, putSorted_of_forall_lt hlt, ih]
    · rw [List.append_assoc, List.singleton_append]
    · rwa [List.append_assoc, List.singleton_append]

/-! ## Keys -/

section

-- The order is decided in a way of its own, since the one of the linear order is seldom the one in use.
variable {γ κ : Type} [LinearOrder κ] [DecidableLT κ] {key : γ → κ} {xs ys : List γ}

theorem insertBy_eq (key : γ → κ) (x : γ) (ys : List γ) :
    insertBy key x ys = ys.orderedInsert (fun x y ↦ key x ≤ key y) x := by
  induction ys with
  | nil => rfl
  | cons y ys ih =>
    rw [insertBy, List.orderedInsert_cons, ih]
    by_cases hlt : key y < key x
    · rw [if_pos hlt, if_neg (not_le.mpr hlt)]
    · rw [if_neg hlt, if_pos (not_lt.mp hlt)]

theorem sortBy_eq (key : γ → κ) (xs : List γ) :
    sortBy key xs = xs.insertionSort fun x y ↦ key x ≤ key y := by
  induction xs with
  | nil => rfl
  | cons x xs ih => rw [sortBy, List.foldr_cons, ← sortBy, insertBy_eq, ih, List.insertionSort_cons]

theorem perm_sortBy (key : γ → κ) (xs : List γ) : (sortBy key xs).Perm xs := by
  rw [sortBy_eq]
  exact List.perm_insertionSort _ xs

theorem pairwise_sortBy (key : γ → κ) (xs : List γ) : (sortBy key xs).Pairwise (key · ≤ key ·) := by
  rw [sortBy_eq]
  have : Std.Total fun x y : γ ↦ key x ≤ key y := ⟨fun x y ↦ le_total (key x) (key y)⟩
  have : IsTrans γ fun x y ↦ key x ≤ key y := ⟨fun _ _ _ ↦ le_trans⟩
  exact List.pairwise_insertionSort _ xs

/-- Where no two keys are the same, the order is strict. -/
theorem pairwise_lt_sortBy (h : (xs.map key).Nodup) : (sortBy key xs).Pairwise (key · < key ·) := by
  have hnodup : ((sortBy key xs).map key).Nodup := ((perm_sortBy key xs).map key).nodup_iff.mpr h
  exact (pairwise_sortBy key xs).imp₂ (fun _ _ ↦ lt_of_le_of_ne) (List.pairwise_map.mp hnodup)

omit [DecidableLT κ] in
/-- Lists in strict order are the same if they have the same elements. -/
theorem eq_of_pairwise_lt (hxs : xs.Pairwise (key · < key ·)) (hys : ys.Pairwise (key · < key ·))
    (h : ∀ x, x ∈ xs ↔ x ∈ ys) : xs = ys := by
  have hnodup {zs : List γ} (hzs : zs.Pairwise (key · < key ·)) : zs.Nodup :=
    hzs.imp fun hlt heq ↦ ne_of_lt hlt (congrArg key heq)
  exact List.Perm.eq_of_pairwise (fun x y _ _ hxy hyx ↦ (lt_asymm hxy hyx).elim) hxs hys
    ((List.perm_ext_iff_of_nodup (hnodup hxs) (hnodup hys)).mpr h)

theorem sortBy_eq_of_perm (hperm : ys.Perm xs) (h : ys.Pairwise (key · < key ·)) : sortBy key xs = ys := by
  have hnodup : (ys.map key).Nodup := List.pairwise_map.mpr (h.imp ne_of_lt)
  have hsorted := pairwise_lt_sortBy ((hperm.map key).nodup_iff.mp hnodup)
  exact eq_of_pairwise_lt hsorted h fun x ↦ (perm_sortBy key xs).mem_iff.trans hperm.symm.mem_iff

end

end JavaBuilder.Text
