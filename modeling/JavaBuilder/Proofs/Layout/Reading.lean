import JavaBuilder.Java.Imports
import JavaBuilder.Proofs.Layout.Depth
import JavaBuilder.Proofs.Layout.Ordinary

/-!
# Reading the braces of code

Code becomes text only once its classes are spelled, and the spelling of a class depends on the file
around it. The braces do not: `Reads` says what the braces of a piece of code are under every
spelling, and how the reader stands before it and after it. Pieces compose like the machine that
reads them. Since the classes of the code come back in the imports of its file, `Reads` also says that
they can be spelled.

Most pieces are `Balanced`, which means that their braces are those of a Dyck word.
-/

namespace JavaBuilder.Java

open Unicode Text DyckStep LineState

/-! ## Spelled code -/

namespace ImportTable

/-- The text of code whose classes are spelled one after the other. -/
def spelled (t : ImportTable) (c : Code) : List Char := (String.join (t.spell c).1).toList

variable (t : ImportTable)

theorem spell_append (c d : Code) :
    t.spell (c ++ d) = ((t.spell c).1 ++ ((t.spell c).2.spell d).1, ((t.spell c).2.spell d).2) := by
  induction c generalizing t with
  | nil => rfl
  | cons token c ih => cases token <;> simp [spell, ih]

theorem spelled_append (c d : Code) :
    t.spelled (c ++ d) = t.spelled c ++ (t.spell c).2.spelled d := by
  simp [spelled, spell_append]

@[simp] theorem spelled_nil : t.spelled [] = [] := by simp [spelled, spell]

@[simp] theorem spelled_text (s : String) : t.spelled [.text s] = s.toList := by
  simp [spelled, spell]

@[simp] theorem spelled_cons_text (s : String) (c : Code) :
    t.spelled (.text s :: c) = s.toList ++ t.spelled c := by
  simp [spelled, spell]

theorem shorten_fst (name : ClassName) :
    (t.shorten name).1 = name.relativeText ∨ (t.shorten name).1 = name.text := by
  unfold shorten
  split
  · exact .inl rfl
  · split
    · exact .inr rfl
    · split
      · split
        · exact .inl rfl
        · exact .inr rfl
      · exact .inl rfl

end ImportTable

/-! ## What is read from code -/

namespace Code

variable {s s' s'' : LineState} {c d : Code} {v w : List DyckStep}

/-- However its classes are spelled, the code has these braces and leads from one state to the
other. -/
structure Reads (s : LineState) (c : Code) (w : List DyckStep) (s' : LineState) : Prop where
  braces : ∀ t : ImportTable, s.braces (t.spelled c) = w
  after : ∀ t : ImportTable, s.after (t.spelled c) = s'
  types : ∀ name ∈ c.types, name.IsSpelled

/-- The code closes all braces that it opens, and no others. -/
def Balanced (s : LineState) (c : Code) (s' : LineState) : Prop :=
  ∃ w : DyckWord, Reads s c w.toList s'

theorem Reads.append (hc : Reads s c v s') (hd : Reads s' d w s'') :
    Reads s (c ++ d) (v ++ w) s'' where
  braces t := by rw [ImportTable.spelled_append, braces_append, hc.braces, hc.after, hd.braces]
  after t := by rw [ImportTable.spelled_append, after_append, hc.after, hd.after]
  types name hname := by
    rw [types_append, List.mem_append] at hname
    exact hname.elim (hc.types name) (hd.types name)

theorem reads_nil : Reads s [] [] s := ⟨by simp, by simp, by simp [types]⟩

theorem reads_text {x : String} (hbraces : s.braces x.toList = w) (hafter : s.after x.toList = s') :
    Reads s [.text x] w s' :=
  ⟨by simp [hbraces], by simp [hafter], by simp [types]⟩

theorem reads_text_iff {x : String} :
    Reads s [.text x] w s' ↔ s.braces x.toList = w ∧ s.after x.toList = s' := by
  refine ⟨fun h ↦ ?_, fun h ↦ reads_text h.1 h.2⟩
  exact ⟨by simpa using h.braces (.ofUnit default []), by simpa using h.after (.ofUnit default [])⟩

theorem reads_text_append {x y : String} (hx : Reads s [.text x] v s')
    (hy : Reads s' [.text y] w s'') : Reads s [.text (x ++ y)] (v ++ w) s'' := by
  rw [reads_text_iff] at hx hy ⊢
  rw [String.toList_append, braces_append, after_append, hx.1, hx.2, hy.1, hy.2]
  exact ⟨rfl, rfl⟩

theorem Balanced.append (hc : Balanced s c s') (hd : Balanced s' d s'') :
    Balanced s (c ++ d) s'' := by
  obtain ⟨p, hp⟩ := hc
  obtain ⟨q, hq⟩ := hd
  exact ⟨p + q, hp.append hq⟩

/-- The code is balanced up to an opening brace after everything else. -/
def Opens (s : LineState) (c : Code) (s' : LineState) : Prop :=
  ∃ w : DyckWord, Reads s c (w.toList ++ [U]) s'

theorem Balanced.append_opens (hc : Balanced s c s') (hd : Opens s' d s'') :
    Opens s (c ++ d) s'' := by
  obtain ⟨p, hp⟩ := hc
  obtain ⟨q, hq⟩ := hd
  refine ⟨p + q, ?_⟩
  have h := hp.append hq
  rwa [← List.append_assoc] at h

theorem Reads.opens (h : Reads s c [U] s') : Opens s c s' := ⟨0, h⟩

theorem opens_text_append {x y : String} (hx : Balanced s [.text x] s')
    (hy : Opens s' [.text y] s'') : Opens s [.text (x ++ y)] s'' := by
  obtain ⟨p, hp⟩ := hx
  obtain ⟨q, hq⟩ := hy
  refine ⟨p + q, ?_⟩
  have h := reads_text_append hp hq
  rwa [← List.append_assoc] at h

/-- An open brace, what stands behind it, and a closing brace. -/
theorem Opens.close {e : Code} {last : LineState} (hc : Opens s c s')
    (hd : Balanced s' d s'') (he : Reads s'' e [D] last) : Balanced s (c ++ d ++ e) last := by
  obtain ⟨p, hp⟩ := hc
  obtain ⟨q, hq⟩ := hd
  refine ⟨p + q.nest, ?_⟩
  have hword : (p + q.nest).toList = p.toList ++ [U] ++ q.toList ++ [D] := by
    change p.toList ++ ([U] ++ q.toList ++ [D]) = _
    simp
  rw [hword]
  exact (hp.append hq).append he

/-- The same where another brace is opened at once. -/
theorem Opens.reopen {e : Code} {last : LineState} (hc : Opens s c s')
    (hd : Balanced s' d s'') (he : Reads s'' e [D, U] last) : Opens s (c ++ d ++ e) last := by
  obtain ⟨p, hp⟩ := hc
  obtain ⟨q, hq⟩ := hd
  refine ⟨p + q.nest, ?_⟩
  have hword : (p + q.nest).toList ++ [U] = p.toList ++ [U] ++ q.toList ++ [D, U] := by
    change p.toList ++ ([U] ++ q.toList ++ [D]) ++ [U] = _
    simp
  rw [hword]
  exact (hp.append hq).append he

theorem Reads.balanced (h : Reads s c [] s') : Balanced s c s' := ⟨0, h⟩

theorem balanced_nil : Balanced s [] s := reads_nil.balanced

theorem balanced_text_append {x y : String} (hx : Balanced s [.text x] s')
    (hy : Balanced s' [.text y] s'') : Balanced s [.text (x ++ y)] s'' := by
  obtain ⟨p, hp⟩ := hx
  obtain ⟨q, hq⟩ := hy
  exact ⟨p + q, reads_text_append hp hq⟩

/-- Pieces that keep the state, one after the other. -/
theorem balanced_flatMap {α : Type} {f : α → Code} {xs : List α}
    (h : ∀ x ∈ xs, Balanced s (f x) s) : Balanced s (xs.flatMap f) s := by
  induction xs with
  | nil => exact balanced_nil
  | cons x xs ih =>
    rw [List.flatMap_cons]
    exact (h x (by simp)).append (ih fun y hy ↦ h y (List.mem_cons_of_mem x hy))

theorem balanced_separated {sep : String} {cs : List Code} (hsep : Balanced s' [.text sep] s)
    (h : ∀ c ∈ cs, Balanced s c s') (hne : cs ≠ []) : Balanced s (separated sep cs) s' := by
  induction cs with
  | nil => exact absurd rfl hne
  | cons c cs ih =>
    cases cs with
    | nil => exact h c (by simp)
    | cons d ds =>
      have hrest := ih (fun e he ↦ h e (List.mem_cons_of_mem c he)) (by simp)
      exact (h c (by simp)).append (hsep.append hrest)

/-! ## Text -/

/-- Anything that does not touch the structure of code. -/
def isPlain (c : Char) : Bool := c ∉ ['"', '\'', '/', '{', '}', '\n']

/-- A text that can stand inside a line of code. -/
def IsPlain (x : String) : Prop := ∀ c ∈ x.toList, isPlain c = true

instance (x : String) : Decidable (IsPlain x) := List.decidableBAll _ x.toList

theorem isPlain_of_isOrdinary {c : Char} (h : isOrdinary c = true) : isPlain c = true := by
  simp only [isOrdinary, isPlain, Bool.and_eq_true, decide_eq_true_eq, List.mem_cons,
    List.not_mem_nil, or_false, not_or, Bool.not_eq_true'] at h ⊢
  refine ⟨h.1.1, h.1.2.1, h.1.2.2.1, h.1.2.2.2.2.1, h.1.2.2.2.2.2.1, ?_⟩
  rintro rfl
  exact absurd h.2 (by decide)

theorem isPlain_of_isOrdinaryText {x : String} (h : IsOrdinary x) : IsPlain x :=
  fun c hc ↦ isPlain_of_isOrdinary (h c hc)

theorem IsPlain.append {x y : String} (hx : IsPlain x) (hy : IsPlain y) : IsPlain (x ++ y) := by
  intro c hc
  rw [String.toList_append] at hc
  rcases List.mem_append.mp hc with hc | hc
  · exact hx c hc
  · exact hy c hc

theorem step_middle_of_isPlain {c : Char} (h : isPlain c = true) : middle.step c = (middle, []) := by
  simp only [isPlain, decide_eq_true_eq, List.mem_cons, List.not_mem_nil, or_false, not_or] at h
  simp [step, codeStep, h]

theorem plain_of_middle {cs : List Char} (h : ∀ c ∈ cs, isPlain c = true) :
    middle.braces cs = [] ∧ middle.after cs = middle := by
  induction cs with
  | nil => exact ⟨rfl, rfl⟩
  | cons c cs ih =>
    rw [braces, after, step_middle_of_isPlain (h c (by simp))]
    exact ih fun d hd ↦ h d (List.mem_cons_of_mem c hd)

theorem IsPlain.reads {x : String} (h : IsPlain x) : Reads middle [.text x] [] middle :=
  reads_text_iff.mpr (plain_of_middle h)

theorem step_of_isOrdinary {c : Char} (h : isOrdinary c = true) (hs : s.IsOpen) :
    s.step c = (middle, []) := by
  rcases hs with rfl | rfl
  · have hcode := step_middle_of_isPlain (isPlain_of_isOrdinary h)
    simp only [isOrdinary, Bool.and_eq_true, decide_eq_true_eq, List.mem_cons, List.not_mem_nil,
      or_false, not_or, Bool.not_eq_true'] at h
    simp only [step] at hcode ⊢
    split at hcode
    · cases hcode
    · next hn => simp [hn, h.2, h.1, hcode]
  · exact step_middle_of_isPlain (isPlain_of_isOrdinary h)

theorem ordinary_of_isOpen {cs : List Char} (h : ∀ c ∈ cs, isOrdinary c = true) (hne : cs ≠ [])
    (hs : s.IsOpen) : s.braces cs = [] ∧ s.after cs = middle := by
  cases cs with
  | nil => exact absurd rfl hne
  | cons c cs =>
    rw [braces, after, step_of_isOrdinary (h c (by simp)) hs]
    exact plain_of_middle fun d hd ↦ isPlain_of_isOrdinary (h d (List.mem_cons_of_mem c hd))

/-- An ordinary text starts code, or goes on with it. -/
theorem IsOrdinary.reads {x : String} (h : IsOrdinary x) (hne : x ≠ "") (hs : s.IsOpen) :
    Reads s [.text x] [] middle :=
  reads_text_iff.mpr (ordinary_of_isOpen h (by simpa using hne) hs)

/-! ## Class names -/

/-- Segments joined by dots start with the first one. -/
theorem join_ne_empty {ss : List String} (hne : ss ≠ []) (h : ∀ x ∈ ss, x ≠ "") :
    Text.join '.' ss ≠ "" := by
  obtain ⟨x, xs, rfl⟩ := List.exists_cons_of_ne_nil hne
  have hx : x.toList ≠ [] := by simpa using h x (by simp)
  intro hempty
  have hlist : joinSegments '.' ((x :: xs).map String.toList) = [] := by
    simpa [Text.join] using hempty
  cases xs with
  | nil => exact hx hlist
  | cons y ys => simp [joinSegments] at hlist

/-- However a class is spelled, it is by segments of its name, joined by dots. -/
theorem spelled_type_eq_join (t : ImportTable) (name : ClassName) :
    ∃ ss ≠ [], (∀ x ∈ ss, x ∈ name.package ++ name.simpleNames) ∧
      t.spelled [.type name] = (Text.join '.' ss).toList := by
  have hspelled : t.spelled [.type name] = (t.shorten name).1.toList := by
    simp [ImportTable.spelled, ImportTable.spell]
  rw [hspelled]
  rcases t.shorten_fst name with heq | heq <;> rw [heq]
  · exact ⟨name.simpleNames, by simp [ClassName.simpleNames],
      fun x hx ↦ List.mem_append_right _ hx, rfl⟩
  · exact ⟨name.package ++ name.simpleNames, by simp [ClassName.simpleNames], fun x hx ↦ hx, rfl⟩

theorem exists_spelled_type (t : ImportTable) {name : ClassName} (h : name.IsSpelled) :
    t.spelled [.type name] ≠ [] ∧ ∀ c ∈ t.spelled [.type name], isOrdinary c = true := by
  obtain ⟨ss, hne, hmem, hspelled⟩ := spelled_type_eq_join t name
  rw [hspelled]
  have hss : ∀ x ∈ ss, Name.isIdentifier x = true := fun x hx ↦ h x (hmem x hx)
  have hnonempty : ∀ x ∈ ss, x ≠ "" := by
    rintro x hx rfl
    cases hss "" hx
  exact ⟨by simpa using join_ne_empty hne hnonempty, ClassName.isOrdinary_join hss⟩

/-- A class starts code, or goes on with it, however it is spelled. -/
theorem reads_type {name : ClassName} (h : name.IsSpelled) (hs : s.IsOpen) :
    Reads s [.type name] [] middle := by
  have hread : ∀ t : ImportTable, s.braces (t.spelled [.type name]) = [] ∧
      s.after (t.spelled [.type name]) = middle :=
    fun t ↦ ordinary_of_isOpen (exists_spelled_type t h).2 (exists_spelled_type t h).1 hs
  exact ⟨fun t ↦ (hread t).1, fun t ↦ (hread t).2, by simpa [types] using h⟩

/-! ## Comments and literals -/

theorem after_comment {cs : List Char} (h : '\n' ∉ cs) : comment.after cs = comment := by
  induction cs with
  | nil => rfl
  | cons c cs ih =>
    simp only [List.mem_cons, not_or] at h
    simp [after, step, Ne.symm h.1, ih h.2]

theorem reads_comment {x : String} (h : '\n' ∉ x.toList) : Reads comment [.text x] [] comment :=
  reads_text (braces_comment h) (after_comment h)

theorem reads_comment_type {name : ClassName} (h : name.IsSpelled) :
    Reads comment [.type name] [] comment := by
  have hline : ∀ t : ImportTable, '\n' ∉ t.spelled [.type name] :=
    fun t hmem ↦ absurd ((exists_spelled_type t h).2 _ hmem) (by decide)
  exact ⟨fun t ↦ braces_comment (hline t), fun t ↦ after_comment (hline t), by simpa [types] using h⟩

theorem literal_escapeChar (c : Char) :
    (literal '"').braces (escapeChar c) = [] ∧ (literal '"').after (escapeChar c) = literal '"' := by
  by_cases hspecial : c = '"' ∨ c = '\\' ∨ c = '\n' ∨ c = '\t'
  · rcases hspecial with rfl | rfl | rfl | rfl <;> exact ⟨rfl, rfl⟩
  · simp only [not_or] at hspecial
    simp [escapeChar, braces, after, step, hspecial]

theorem literal_flatMap_escapeChar (cs : List Char) :
    (literal '"').braces (cs.flatMap escapeChar) = [] ∧
      (literal '"').after (cs.flatMap escapeChar) = literal '"' := by
  induction cs with
  | nil => exact ⟨rfl, rfl⟩
  | cons c cs ih =>
    obtain ⟨hbraces, hafter⟩ := literal_escapeChar c
    rw [List.flatMap_cons, braces_append, after_append, hbraces, hafter]
    exact ih

/-- A literal has no braces, and code goes on after it. -/
theorem read_literalChars (hs : s.IsCode) (cs : List Char) :
    s.braces (literalChars cs) = [] ∧ s.after (literalChars cs) = middle := by
  obtain ⟨hbraces, hafter⟩ := literal_flatMap_escapeChar cs
  rw [literalChars, braces, after, hs.step_quote, braces_append, after_append, hbraces, hafter]
  exact ⟨rfl, rfl⟩

theorem reads_stringLiteral (x : String) (hs : s.IsOpen) :
    Reads s [.text (stringLiteral x)] [] middle := by
  rw [reads_text_iff, stringLiteral, String.toList_ofList]
  exact read_literalChars hs.isCode x.toList

end Code

end JavaBuilder.Java
