/-!
# Sorted lists

Sets and tables whose written form is sorted are kept as sorted lists without repeats. `insertSorted`
adds an element at its place unless it is there, `putSorted` sets a key of a table at its place.

`sortBy` sorts a list by a key and keeps everything in it.
-/

namespace JavaBuilder.Text

variable {α β : Type}

/-- Add an element to a sorted list, unless it is there. -/
def insertSorted [LT α] [DecidableLT α] [DecidableEq α] (x : α) : List α → List α
  | [] => [x]
  | y :: ys => if x = y then y :: ys else if x < y then x :: y :: ys else y :: insertSorted x ys

/-- Sort a list and drop repeats. -/
def sortedSet [LT α] [DecidableLT α] [DecidableEq α] (xs : List α) : List α :=
  xs.foldr insertSorted []

/-- Set a key in a table sorted by key. -/
def putSorted [LT α] [DecidableLT α] [DecidableEq α] (k : α) (v : β) : List (α × β) → List (α × β)
  | [] => [(k, v)]
  | (l, w) :: rest =>
    if k = l then (k, v) :: rest
    else if k < l then (k, v) :: (l, w) :: rest
    else (l, w) :: putSorted k v rest

/-- Put an element before the first one whose key is not below its own. -/
def insertBy {κ : Type} [LT κ] [DecidableLT κ] (key : α → κ) (x : α) : List α → List α
  | [] => [x]
  | y :: ys => if key y < key x then y :: insertBy key x ys else x :: y :: ys

/-- Sort a list by a key. Elements with one key stay in their order. -/
def sortBy {κ : Type} [LT κ] [DecidableLT κ] (key : α → κ) (xs : List α) : List α :=
  xs.foldr (insertBy key) []

section

variable [LT α] [DecidableLT α] [DecidableEq α]

@[simp] theorem mem_insertSorted {x y : α} {xs : List α} :
    y ∈ insertSorted x xs ↔ y = x ∨ y ∈ xs := by
  induction xs with
  | nil => simp [insertSorted]
  | cons z zs ih =>
    unfold insertSorted
    split
    · next h => subst h; simp
    · split
      · simp
      · simp only [List.mem_cons, ih]
        exact ⟨fun h ↦ by rcases h with h | h | h <;> simp [h],
          fun h ↦ by rcases h with h | h | h <;> simp [h]⟩

@[simp] theorem mem_sortedSet {y : α} {xs : List α} : y ∈ sortedSet xs ↔ y ∈ xs := by
  induction xs with
  | nil => simp [sortedSet]
  | cons x xs ih => simp only [sortedSet, List.foldr_cons] at ih ⊢; simp [ih]

end

end JavaBuilder.Text
