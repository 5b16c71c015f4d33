import JavaBuilder.Java.Member
import JavaBuilder.Proofs.Layout.Outline

/-!
# Documentation comments in lines

A documentation comment takes up whole lines, from one that opens it to the next one that closes it.
`withoutDocs` drops these lines from a text, which is as much as can be done without knowing how the text
came about.

How code prints with its documentation and without is said by a relation between two sequences of lines:
they have the lines of code in common, and the first has comments in between. What `withoutDocs` does to
the first follows, and so does how its comments are delimited. To be a line of code is all that has to be
shown of the others, and it takes no more than one character that no delimiter has.
-/

namespace JavaBuilder.Java

/-! ## Lines and comments -/

/-- The line that opens a documentation comment. -/
def docOpening : List Char := "/**".toList

/-- The line that closes a documentation comment. -/
def docClosing : List Char := " */".toList

mutual

/-- The lines outside of documentation comments. -/
def withoutDocs : List (List Char) → List (List Char)
  | [] => []
  | l :: ls => if l = docOpening then afterDoc ls else l :: withoutDocs ls

/-- The lines outside of documentation comments, where the first line is in one. -/
def afterDoc : List (List Char) → List (List Char)
  | [] => []
  | l :: ls => if l = docClosing then withoutDocs ls else afterDoc ls

end

/-- Every line that opens a comment is followed by one that closes it, and all lines between them are
lines of a comment that open and close nothing. -/
def ClosesDocs (ls : List (List Char)) : Prop :=
  ∀ before after, ls = before ++ docOpening :: after →
    ∃ doc rest, after = doc ++ docClosing :: rest ∧
      ∀ l ∈ doc, " *".toList <+: l ∧ l ≠ docOpening ∧ l ≠ docClosing

/-- A line of code, which neither opens nor closes a comment. -/
structure IsCodeLine (l : List Char) : Prop where
  newline : '\n' ∉ l
  opening : l ≠ docOpening
  closing : l ≠ docClosing

/-- A line of a comment between the one that opens and the one that closes it. -/
structure IsDocLine (l : List Char) : Prop where
  newline : '\n' ∉ l
  star : " *".toList <+: l
  closing : l ≠ docClosing

theorem IsDocLine.opening {l : List Char} (h : IsDocLine l) : l ≠ docOpening := by
  rintro rfl
  exact absurd h.star (by decide)

/-- The first lines are the second with comments in between. -/
inductive AddsDocs : List (List Char) → List (List Char) → Prop where
  | nil : AddsDocs [] []
  | line {l : List Char} {on off : List (List Char)} : IsCodeLine l → AddsDocs on off →
    AddsDocs (l :: on) (l :: off)
  | comment {doc on off : List (List Char)} : (∀ l ∈ doc, IsDocLine l) → AddsDocs on off →
    AddsDocs (docOpening :: (doc ++ docClosing :: on)) off

namespace AddsDocs

variable {on off on' off' ls doc : List (List Char)}

theorem append (h : AddsDocs on off) (h' : AddsDocs on' off') :
    AddsDocs (on ++ on') (off ++ off') := by
  induction h with
  | nil => exact h'
  | line hl _ ih => exact .line hl ih
  | comment hdoc _ ih =>
    rw [List.cons_append, List.append_assoc, List.cons_append]
    exact .comment hdoc ih

theorem of_isCodeLine (h : ∀ l ∈ ls, IsCodeLine l) : AddsDocs ls ls := by
  induction ls with
  | nil => exact .nil
  | cons l ls ih =>
    rw [List.forall_mem_cons] at h
    exact .line h.1 (ih h.2)

theorem isCodeLine (h : AddsDocs on off) : ∀ l ∈ off, IsCodeLine l := by
  induction h with
  | nil => simp
  | line hl _ ih => exact List.forall_mem_cons.mpr ⟨hl, ih⟩
  | comment _ _ ih => exact ih

theorem newline (h : AddsDocs on off) : ∀ l ∈ on, '\n' ∉ l := by
  induction h with
  | nil => simp
  | line hl _ ih => exact List.forall_mem_cons.mpr ⟨hl.newline, ih⟩
  | comment hdoc _ ih =>
    simp only [List.forall_mem_cons, List.forall_mem_append]
    exact ⟨by decide, fun l hl ↦ (hdoc l hl).newline, by decide, ih⟩

theorem afterDoc_append (h : ∀ l ∈ doc, IsDocLine l) (ls : List (List Char)) :
    afterDoc (doc ++ docClosing :: ls) = withoutDocs ls := by
  induction doc with
  | nil => rw [List.nil_append, afterDoc, if_pos rfl]
  | cons l doc ih =>
    rw [List.forall_mem_cons] at h
    rw [List.cons_append, afterDoc, if_neg h.1.closing, ih h.2]

theorem withoutDocs_eq (h : AddsDocs on off) : withoutDocs on = off := by
  induction h with
  | nil => rfl
  | line hl _ ih => rw [withoutDocs, if_neg hl.opening, ih]
  | comment hdoc _ ih => rw [withoutDocs, if_pos rfl, afterDoc_append hdoc, ih]

end AddsDocs

/-- Lines that open no comment may be put in front. -/
theorem ClosesDocs.append {ls ms : List (List Char)} (hls : docOpening ∉ ls) (h : ClosesDocs ms) :
    ClosesDocs (ls ++ ms) := by
  induction ls with
  | nil => exact h
  | cons l ls ih =>
    rw [List.mem_cons, not_or] at hls
    intro before after hsplit
    rcases List.cons_eq_append_iff.mp hsplit with ⟨-, heq⟩ | ⟨before, -, hsplit⟩
    · exact absurd (List.cons.inj heq).1 hls.1
    · exact ih hls.2 before after hsplit

theorem AddsDocs.closesDocs {on off : List (List Char)} (h : AddsDocs on off) : ClosesDocs on := by
  induction h with
  | nil => simp [ClosesDocs]
  | @line l on off hl _ ih =>
    have hnone : docOpening ∉ [l] := by simpa using hl.opening.symm
    exact ih.append hnone
  | @comment doc on off hdoc _ ih =>
    -- Nothing in the comment opens another one, so the next one that is opened is in the rest.
    have hnone : docOpening ∉ doc ++ [docClosing] := by
      simp only [List.mem_append, List.mem_singleton, not_or]
      exact ⟨fun hmem ↦ (hdoc _ hmem).opening rfl, by decide⟩
    have hrest : ClosesDocs (doc ++ docClosing :: on) := by simpa using ih.append hnone
    intro before after hsplit
    rcases List.cons_eq_append_iff.mp hsplit with ⟨-, heq⟩ | ⟨before, -, hsplit⟩
    · obtain ⟨-, rfl⟩ := List.cons.inj heq
      exact ⟨doc, on, rfl, fun l hl ↦ ⟨(hdoc l hl).star, (hdoc l hl).opening, (hdoc l hl).closing⟩⟩
    · exact hrest before after hsplit

/-! ## Marked text -/

/-- A character that stands in no line that opens or closes a comment. -/
def isMark (c : Char) : Bool := !docOpening.contains c && !docClosing.contains c

/-- A line with a mark. -/
def IsMarkedLine (l : List Char) : Prop := '\n' ∉ l ∧ ∃ c ∈ l, isMark c = true

instance (l : List Char) : Decidable (IsMarkedLine l) :=
  decidable_of_iff ('\n' ∉ l ∧ l.any isMark = true) (by simp [IsMarkedLine])

/-- Every line of the text has a mark. -/
inductive Marked : List Char → Prop where
  | last {l : List Char} : IsMarkedLine l → Marked l
  | cons {l cs : List Char} : IsMarkedLine l → Marked cs → Marked (l ++ '\n' :: cs)

variable {l m cs ds : List Char}

theorem IsMarkedLine.isCodeLine (h : IsMarkedLine l) : IsCodeLine l := by
  obtain ⟨hl, c, hc, hmark⟩ := h
  simp only [isMark, Bool.and_eq_true, Bool.not_eq_true', List.contains_eq_mem,
    decide_eq_false_iff_not] at hmark
  exact ⟨hl, fun heq ↦ hmark.1 (heq ▸ hc), fun heq ↦ hmark.2 (heq ▸ hc)⟩

theorem IsMarkedLine.append (h : IsMarkedLine l) (hm : '\n' ∉ m) : IsMarkedLine (l ++ m) := by
  obtain ⟨hl, c, hc, hmark⟩ := h
  exact ⟨by simp [hl, hm], c, List.mem_append_left _ hc, hmark⟩

theorem IsMarkedLine.prepend (h : IsMarkedLine l) (hm : '\n' ∉ m) : IsMarkedLine (m ++ l) := by
  obtain ⟨hl, c, hc, hmark⟩ := h
  exact ⟨by simp [hl, hm], c, List.mem_append_right _ hc, hmark⟩

namespace Marked

theorem prepend (h : Marked cs) (hds : '\n' ∉ ds) : Marked (ds ++ cs) := by
  cases h with
  | last hl => exact .last (hl.prepend hds)
  | cons hl hcs =>
    rw [← List.append_assoc]
    exact .cons (hl.prepend hds) hcs

theorem append_line (h : Marked cs) (hds : '\n' ∉ ds) : Marked (cs ++ ds) := by
  induction h with
  | last hl => exact .last (hl.append hds)
  | cons hl _ ih =>
    rw [List.append_assoc, List.cons_append]
    exact .cons hl ih

theorem newline (h : Marked cs) (hds : Marked ds) : Marked (cs ++ '\n' :: ds) := by
  induction h with
  | last hl => exact .cons hl hds
  | cons hl _ ih =>
    rw [List.append_assoc, List.cons_append]
    exact .cons hl ih

theorem append (h : Marked cs) (hds : Marked ds) : Marked (cs ++ ds) := by
  induction h with
  | last hl => exact hds.prepend hl.1
  | cons hl _ ih =>
    rw [List.append_assoc, List.cons_append]
    exact .cons hl ih

/-- Ended, the text is made of lines of code. -/
theorem exists_lines (h : Marked cs) : ∃ ls : List (List Char),
    cs ++ ['\n'] = ls.flatMap (· ++ ['\n']) ∧ ∀ l ∈ ls, IsCodeLine l := by
  induction h with
  | @last l hl => exact ⟨[l], by simp, by simpa using hl.isCodeLine⟩
  | @cons l cs hl _ ih =>
    obtain ⟨ls, heq, hls⟩ := ih
    exact ⟨l :: ls, by simp [← heq], List.forall_mem_cons.mpr ⟨hl.isCodeLine, hls⟩⟩

end Marked

/-! ## Code in lines -/

namespace Code

variable {c d c' d' : Code} {x : String}

/-- The characters of code with every class spelled in full. -/
def chars (c : Code) : List Char := c.qualified.toList

@[simp] theorem chars_nil : chars [] = [] := rfl

@[simp] theorem chars_text : chars (.text x :: c) = x.toList ++ chars c := by
  simp [chars, qualified, spell, Token.spell]

@[simp] theorem chars_type {name : ClassName} :
    chars (.type name :: c) = name.text.toList ++ chars c := by
  simp [chars, qualified, spell, Token.spell]

@[simp] theorem chars_append : chars (c ++ d) = chars c ++ chars d := by
  simp [chars, qualified, spell]

/-- The code has no line break. -/
def IsInline (c : Code) : Prop := '\n' ∉ c.chars

/-- Every line of the code has a mark. -/
def IsMarked (c : Code) : Prop := Marked c.chars

/-- Both are made of whole lines, and the first is the second with comments in between. -/
def Documents (on off : Code) : Prop :=
  ∃ ls ms, AddsDocs ls ms ∧ on.chars = ls.flatMap (· ++ ['\n']) ∧
    off.chars = ms.flatMap (· ++ ['\n'])

/-! ### Parts of lines -/

theorem isInline_nil : IsInline [] := by simp [IsInline]

theorem isInline_text (h : '\n' ∉ x.toList) : IsInline [.text x] := by simpa [IsInline] using h

theorem IsInline.append (hc : IsInline c) (hd : IsInline d) : IsInline (c ++ d) := by
  simpa [IsInline] using ⟨hc, hd⟩

theorem IsInline.cons {a : Token} (ha : IsInline [a]) (hc : IsInline c) : IsInline (a :: c) :=
  ha.append hc

theorem isInline_flatMap {α : Type} {f : α → Code} {xs : List α} (h : ∀ x ∈ xs, IsInline (f x)) :
    IsInline (xs.flatMap f) := by
  induction xs with
  | nil => exact isInline_nil
  | cons x xs ih =>
    rw [List.forall_mem_cons] at h
    exact h.1.append (ih h.2)

theorem isInline_separated {sep : String} {cs : List Code} (hsep : '\n' ∉ sep.toList)
    (h : ∀ c ∈ cs, IsInline c) : IsInline (separated sep cs) := by
  induction cs with
  | nil => exact isInline_nil
  | cons c cs ih =>
    rw [List.forall_mem_cons] at h
    cases cs with
    | nil => exact h.1
    | cons d cs => exact h.1.append ((isInline_text hsep).cons (ih h.2))

theorem isMarked_text (h : IsMarkedLine x.toList) : IsMarked [.text x] := by
  simpa [IsMarked] using Marked.last h

theorem IsMarked.append (hc : IsMarked c) (hd : IsMarked d) : IsMarked (c ++ d) := by
  simpa [IsMarked] using Marked.append hc hd

theorem IsMarked.append_inline (hc : IsMarked c) (hd : IsInline d) : IsMarked (c ++ d) := by
  simpa [IsMarked] using Marked.append_line hc hd

theorem IsInline.append_marked (hc : IsInline c) (hd : IsMarked d) : IsMarked (c ++ d) := by
  simpa [IsMarked] using Marked.prepend hd hc

theorem IsInline.cons_marked {a : Token} (ha : IsInline [a]) (hc : IsMarked c) : IsMarked (a :: c) :=
  ha.append_marked hc

/-! ### Whole lines -/

namespace Documents

theorem nil : Documents [] [] := ⟨[], [], .nil, rfl, rfl⟩

theorem append (h : Documents c d) (h' : Documents c' d') : Documents (c ++ c') (d ++ d') := by
  obtain ⟨ls, ms, hdocuments, hc, hd⟩ := h
  obtain ⟨ls', ms', hdocuments', hc', hd'⟩ := h'
  exact ⟨ls ++ ls', ms ++ ms', hdocuments.append hdocuments', by simp [hc, hc'], by simp [hd, hd']⟩

theorem cons {a : Token} (ha : Documents [a] [a]) (h : Documents c d) : Documents (a :: c) (a :: d) :=
  ha.append h

theorem flatMap {α : Type} {f g : α → Code} {xs : List α} (h : ∀ x ∈ xs, Documents (f x) (g x)) :
    Documents (xs.flatMap f) (xs.flatMap g) := by
  induction xs with
  | nil => exact nil
  | cons x xs ih =>
    rw [List.forall_mem_cons] at h
    exact h.1.append (ih h.2)

theorem separated {α : Type} {f g : α → Code} {sep : String} {xs : List α}
    (hsep : Documents [.text sep] [.text sep]) (h : ∀ x ∈ xs, Documents (f x) (g x)) :
    Documents (Code.separated sep (xs.map f)) (Code.separated sep (xs.map g)) := by
  induction xs with
  | nil => exact nil
  | cons x xs ih =>
    rw [List.forall_mem_cons] at h
    cases xs with
    | nil => exact h.1
    | cons y xs => exact h.1.append (hsep.cons (ih h.2))

theorem of_isCodeLine (ls : List (List Char)) (hc : c.chars = ls.flatMap (· ++ ['\n']))
    (h : ∀ l ∈ ls, IsCodeLine l) : Documents c c :=
  ⟨ls, ls, .of_isCodeLine h, hc, hc⟩

theorem congr (h : Documents c c) (heq : d.chars = c.chars) : Documents d d := by
  obtain ⟨ls, ms, hdocuments, hls, hms⟩ := h
  exact ⟨ls, ms, hdocuments, heq.trans hls, heq.trans hms⟩

theorem blank : Documents [.text "\n"] [.text "\n"] :=
  of_isCodeLine [[]] (by simp) (by simpa using ⟨by simp, by decide, by decide⟩)

end Documents

/-- Marked code is made of whole lines as soon as it is ended. -/
theorem IsMarked.ended (h : IsMarked c) (hx : '\n' ∉ x.toList) :
    Documents (c ++ [.text (x ++ "\n")]) (c ++ [.text (x ++ "\n")]) := by
  obtain ⟨ls, heq, hls⟩ := Marked.exists_lines (h.append_inline (isInline_text hx))
  exact .of_isCodeLine ls (by simpa using heq) hls

/-- Marked code that is ended, and an empty line behind it. -/
theorem IsMarked.ended_blank (h : IsMarked c) (hx : '\n' ∉ x.toList) :
    Documents (c ++ [.text (x ++ "\n\n")]) (c ++ [.text (x ++ "\n\n")]) :=
  ((h.ended hx).append .blank).congr (by simp)

theorem documents_text (h : IsMarkedLine x.toList) :
    Documents [.text (x ++ "\n")] [.text (x ++ "\n")] :=
  .of_isCodeLine [x.toList] (by simp) (by simpa using h.isCodeLine)

end Code

end JavaBuilder.Java
