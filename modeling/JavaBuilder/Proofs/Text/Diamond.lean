import Mathlib.Data.List.Infix

/-!
# Text without a diamond

The two characters of a diamond may come from two texts that stand side by side. A *solid* text has no
diamond, nor does it start or end with half of one, so solid texts can stand next to each other.
-/

namespace JavaBuilder.Text

/-- The brackets that stand for type arguments left out. -/
def diamond : List Char := ['<', '>']

/-- The text has no diamond, and is not part of one that the text next to it completes. -/
structure IsSolid (cs : List Char) : Prop where
  inner : ¬diamond <:+: cs
  head : cs.head? ≠ some '>'
  last : cs.getLast? ≠ some '<'

variable {c : Char} {cs ds : List Char}

theorem not_diamond_singleton (c : Char) : ¬diamond <:+: [c] :=
  fun h ↦ absurd h.length_le (by simp [diamond])

/-! ## Deciding -/

/-- Characters after another one do not complete a diamond and do not start one at their end. -/
def isSolidAfter : Char → List Char → Bool
  | c, [] => c != '<'
  | c, d :: cs => !(c == '<' && d == '>') && isSolidAfter d cs

/-- The text is solid. -/
def isSolid (cs : List Char) : Bool := cs.head? != some '>' && isSolidAfter ' ' cs

theorem isSolidAfter_iff :
    isSolidAfter c cs = true ↔ ¬diamond <:+: c :: cs ∧ (c :: cs).getLast? ≠ some '<' := by
  induction cs generalizing c with
  | nil => simp [isSolidAfter, not_diamond_singleton]
  | cons d cs ih =>
    have hstep : diamond <:+: c :: d :: cs ↔ (c = '<' ∧ d = '>') ∨ diamond <:+: d :: cs := by
      rw [List.infix_cons_iff, diamond, List.cons_prefix_cons, List.cons_prefix_cons, eq_comm,
        eq_comm (a := '>')]
      simp
    have hfirst : (!(c == '<' && d == '>')) = true ↔ ¬(c = '<' ∧ d = '>') := by
      simp [imp_iff_not_or]
    rw [isSolidAfter, Bool.and_eq_true, hfirst, ih, hstep, not_or, List.getLast?_cons_cons, and_assoc]

theorem isSolid_iff : isSolid cs = true ↔ IsSolid cs := by
  have hinner : diamond <:+: ' ' :: cs ↔ diamond <:+: cs := by
    rw [List.infix_cons_iff, diamond, List.cons_prefix_cons]
    simp
  have hlast : (' ' :: cs).getLast? = some '<' ↔ cs.getLast? = some '<' := by
    cases cs <;> simp [List.getLast?_cons]
  rw [isSolid, Bool.and_eq_true, isSolidAfter_iff, hinner, Ne, hlast, bne_iff_ne]
  exact ⟨fun h ↦ ⟨h.2.1, h.1, h.2.2⟩, fun h ↦ ⟨h.head, h.inner, h.last⟩⟩

instance : Decidable (IsSolid cs) := decidable_of_iff _ isSolid_iff

/-! ## Texts side by side -/

/-- A diamond in two texts is in one of them, or they meet in it. -/
theorem not_diamond_append (hc : ¬diamond <:+: cs) (hd : ¬diamond <:+: ds)
    (h : cs.getLast? ≠ some '<' ∨ ds.head? ≠ some '>') : ¬diamond <:+: cs ++ ds := by
  rw [List.infix_append_iff_ne_nil]
  rintro (hin | hin | ⟨l, r, hl, hr, heq, ⟨before, rfl⟩, ⟨after, rfl⟩⟩)
  · exact hc hin
  · exact hd hin
  -- A diamond across the border has one half on either side of it.
  · obtain ⟨rfl, rfl⟩ : l = ['<'] ∧ r = ['>'] := by
      rcases List.append_eq_cons_iff.mp heq.symm with ⟨rfl, -⟩ | ⟨l, rfl, hrest⟩
      · exact absurd rfl hl
      · rcases List.append_eq_singleton_iff.mp hrest.symm with ⟨rfl, rfl⟩ | ⟨-, rfl⟩
        · exact ⟨rfl, rfl⟩
        · exact absurd rfl hr
    simp at h

/-- Texts without a diamond, one after the other, none of which could be the start of one. -/
theorem not_diamond_flatMap {α : Type} {f : α → List Char} {xs : List α}
    (h : ∀ x ∈ xs, ¬diamond <:+: f x ∧ (f x).getLast? ≠ some '<') : ¬diamond <:+: xs.flatMap f := by
  induction xs with
  | nil => simp [diamond]
  | cons x xs ih =>
    rw [List.flatMap_cons]
    obtain ⟨hx, hlast⟩ := h x (by simp)
    exact not_diamond_append hx (ih fun y hy ↦ h y (List.mem_cons_of_mem x hy)) (.inl hlast)

namespace IsSolid

theorem nil : IsSolid [] := by decide

theorem append (hc : IsSolid cs) (hd : IsSolid ds) : IsSolid (cs ++ ds) where
  inner := not_diamond_append hc.inner hd.inner (.inl hc.last)
  head := by
    rw [List.head?_append, Ne, Option.or_eq_some_iff, not_or, not_and]
    exact ⟨hc.head, fun _ ↦ hd.head⟩
  last := by
    rw [List.getLast?_append, Ne, Option.or_eq_some_iff, not_or, not_and]
    exact ⟨hd.last, fun _ ↦ hc.last⟩

theorem flatMap {α : Type} {f : α → List Char} {xs : List α} (h : ∀ x ∈ xs, IsSolid (f x)) :
    IsSolid (xs.flatMap f) := by
  induction xs with
  | nil => exact nil
  | cons x xs ih =>
    rw [List.flatMap_cons]
    exact (h x (by simp)).append (ih fun y hy ↦ h y (List.mem_cons_of_mem x hy))

theorem of_not_mem (hopen : '<' ∉ cs) (hclose : '>' ∉ cs) : IsSolid cs where
  inner h := hopen (h.subset (by simp [diamond]))
  head h := hclose (List.mem_of_mem_head? h)
  last h := hopen (List.mem_of_getLast? h)

/-- A solid text between brackets keeps them apart, unless it is empty. -/
theorem bracket (h : IsSolid cs) (hne : cs ≠ []) : IsSolid ('<' :: (cs ++ ['>'])) where
  inner := by
    have hhead : (cs ++ ['>']).head? ≠ some '>' := by
      rw [List.head?_append_of_ne_nil cs hne]
      exact h.head
    have hrest : ¬diamond <:+: cs ++ ['>'] := not_diamond_append h.inner (by decide) (.inl h.last)
    have hopen : ¬diamond <:+: ['<'] := by decide
    exact not_diamond_append hopen hrest (.inr hhead)
  head := by simp
  last := by simp [List.getLast?_cons]

theorem enclose {before after : List Char} (hb : IsSolid before) (hbne : before ≠ [])
    (h : ¬diamond <:+: cs) (ha : IsSolid after) (hane : after ≠ []) :
    IsSolid (before ++ (cs ++ after)) where
  inner := not_diamond_append hb.inner (not_diamond_append h ha.inner (.inr ha.head)) (.inl hb.last)
  head := by
    rw [List.head?_append_of_ne_nil before hbne]
    exact hb.head
  last := by
    rw [← List.append_assoc, List.getLast?_append_of_ne_nil _ hane]
    exact ha.last

end IsSolid

end JavaBuilder.Text
