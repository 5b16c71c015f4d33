import Mathlib.Combinatorics.Enumerative.DyckWord
import JavaBuilder.Java.Layout
import JavaBuilder.Proofs.Text.Trim

/-!
# Reading braces character by character

The layout counts the braces of whole lines. Here the same braces are read off a text one character
at a time, by a machine that remembers how it stands on the current line, and come out in order, an
opening one as a step up and a closing one as a step down. What the machine reads from a text put
together from parts is put together from what it reads from the parts, and a line break always takes
it back to the start of a line.

`tally_ofLine` ties the machine to the layout: line by line both find the same braces.
-/

namespace JavaBuilder.Java

open Unicode Text DyckStep

/-- How a reader stands on a line. -/
inductive LineState where
  /-- Nothing but white space so far. -/
  | indent
  /-- A slash in front of everything else. -/
  | slash
  /-- A slash and a star in front of everything else. -/
  | slashStar
  /-- In the middle of code. -/
  | middle
  /-- A slash in code, the first of two perhaps. -/
  | middleSlash
  | literal (quote : Char)
  /-- After a backslash in a literal. -/
  | escape (quote : Char)
  /-- The rest of the line does not count. -/
  | comment
deriving DecidableEq

namespace LineState

/-- Read a character of code. -/
def codeStep (c : Char) : LineState × List DyckStep :=
  if c = '"' ∨ c = '\'' then (literal c, [])
  else if c = '/' then (middleSlash, [])
  else if c = '{' then (middle, [U])
  else if c = '}' then (middle, [D])
  else (middle, [])

/-- Read a character. -/
def step (s : LineState) (c : Char) : LineState × List DyckStep :=
  if c = '\n' then (indent, [])
  else match s with
    | indent =>
      if isBlank c then (indent, []) else if c = '*' then (comment, [])
      else if c = '/' then (slash, []) else codeStep c
    | slash =>
      if c = '/' then (comment, []) else if c = '*' then (slashStar, []) else codeStep c
    | slashStar => if c = '*' then (comment, []) else codeStep c
    | middle => codeStep c
    | middleSlash => if c = '/' then (comment, []) else codeStep c
    | literal quote =>
      if c = '\\' then (escape quote, [])
      else if c = quote then (middle, []) else (literal quote, [])
    | escape quote => (literal quote, [])
    | comment => (comment, [])

/-- How the reader stands after a text. -/
def after : LineState → List Char → LineState
  | s, [] => s
  | s, c :: cs => after (s.step c).1 cs

/-- The braces of a text. -/
def braces : LineState → List Char → List DyckStep
  | _, [] => []
  | s, c :: cs => (s.step c).2 ++ braces (s.step c).1 cs

variable {s : LineState} {c : Char}

/-- Code can be read, at the start of a line or later on it. -/
def IsOpen (s : LineState) : Prop := s = indent ∨ s = middle

theorem isOpen_indent : indent.IsOpen := .inl rfl

theorem isOpen_middle : middle.IsOpen := .inr rfl

/-- The reader stands outside any literal and any comment. -/
def IsCode : LineState → Prop
  | literal _ | escape _ | comment => False
  | indent | slash | slashStar | middle | middleSlash => True

instance : DecidablePred IsCode
  | literal _ | escape _ | comment => isFalse not_false
  | indent | slash | slashStar | middle | middleSlash => isTrue trivial

theorem IsOpen.isCode (h : s.IsOpen) : s.IsCode := by
  rcases h with rfl | rfl <;> trivial

theorem IsCode.step_quote (h : s.IsCode) : s.step '"' = (literal '"', []) := by
  cases s with
  | literal _ | escape _ | comment => exact h.elim
  | indent | slash | slashStar | middle | middleSlash => rfl

@[simp] theorem after_nil : s.after [] = s := rfl

@[simp] theorem braces_nil : s.braces [] = [] := rfl

theorem after_append (cs ds : List Char) : s.after (cs ++ ds) = (s.after cs).after ds := by
  induction cs generalizing s with
  | nil => rfl
  | cons c cs ih => exact ih

theorem braces_append (cs ds : List Char) :
    s.braces (cs ++ ds) = s.braces cs ++ (s.after cs).braces ds := by
  induction cs generalizing s with
  | nil => rfl
  | cons c cs ih => simp only [List.cons_append, braces, after, ih, List.append_assoc]

/-- The braces of the beginning of a text are the first braces of the text. -/
theorem braces_prefix {cs ds : List Char} (h : cs <+: ds) : s.braces cs <+: s.braces ds := by
  obtain ⟨es, rfl⟩ := h
  exact ⟨_, (braces_append cs es).symm⟩

theorem step_newline : s.step '\n' = (indent, []) := rfl

theorem codeStep_snd_of_ne (hopen : c ≠ '{') (hclose : c ≠ '}') : (codeStep c).2 = [] := by
  rw [codeStep, if_neg hopen, if_neg hclose]
  split
  · rfl
  · split <;> rfl

/-- A character reads nothing unless it is a brace. -/
theorem step_snd_of_ne (hopen : c ≠ '{') (hclose : c ≠ '}') : (s.step c).2 = [] := by
  have hcode := codeStep_snd_of_ne hopen hclose
  unfold step
  repeat' split
  all_goals first | rfl | exact hcode

theorem step_snd_of_isBlank (h : isBlank c = true) : (s.step c).2 = [] := by
  have hne : c ≠ '{' ∧ c ≠ '}' := by
    constructor <;> rintro rfl <;> exact absurd h (by decide)
  exact step_snd_of_ne hne.1 hne.2

theorem braces_of_isBlank {cs : List Char} (h : ∀ c ∈ cs, isBlank c = true) : s.braces cs = [] := by
  induction cs generalizing s with
  | nil => rfl
  | cons c cs ih =>
    rw [braces, step_snd_of_isBlank (h c (by simp)),
      ih fun d hd ↦ h d (List.mem_cons_of_mem c hd), List.nil_append]

theorem braces_comment {cs : List Char} (h : '\n' ∉ cs) : comment.braces cs = [] := by
  induction cs with
  | nil => rfl
  | cons c cs ih =>
    simp only [List.mem_cons, not_or] at h
    simp [braces, step, Ne.symm h.1, ih h.2]

theorem braces_trimEnd (cs : List Char) : s.braces (trimEnd cs) = s.braces cs := by
  obtain ⟨bs, hblank, hcs⟩ := exists_trimEnd_append cs
  conv_rhs => rw [← hcs, braces_append, braces_of_isBlank hblank, List.append_nil]

theorem braces_trimStart (cs : List Char) :
    indent.braces (trimStart cs) = indent.braces cs := by
  induction cs with
  | nil => rfl
  | cons c cs ih =>
    cases hc : isBlank c with
    | false => rw [trimStart_cons_of_not_isBlank hc]
    | true =>
      rw [trimStart_cons_of_isBlank hc, ih]
      by_cases hn : c = '\n' <;> simp [braces, step, hc, hn]

end LineState

open LineState

/-! ## The braces of a line -/

/-- The numbers of braces agree with the braces in order. -/
structure Tally (b : Braces) (w : List DyckStep) : Prop where
  opening : b.opening = w.count U
  closing : b.closing = w.count D
  /-- The leading braces come first. -/
  leading : List.replicate b.leading D <+: w

theorem tally_none : Tally .none [] := ⟨rfl, rfl, List.prefix_rfl⟩

theorem Tally.open {b : Braces} {w : List DyckStep} (h : Tally b w) (hleading : b.leading = 0) :
    Tally { b with opening := b.opening + 1 } (U :: w) where
  opening := by simp [h.opening]
  closing := by simp [h.closing]
  leading := by simp [hleading]

theorem Tally.close {b : Braces} {w : List DyckStep} (h : Tally b w) (seen : Bool) :
    Tally { b with closing := b.closing + 1, leading := if seen then b.leading else b.leading + 1 }
      (D :: w) where
  opening := by simp [h.opening]
  closing := by simp [h.closing]
  leading := by
    have hlong : List.replicate (b.leading + 1) D <+: D :: w :=
      (List.prefix_cons_inj D).mpr h.leading
    cases seen with
    | false => exact hlong
    | true => exact (List.prefix_append _ [D]).trans (by rwa [← List.replicate_succ'])

/-- After a slash that no other slash follows, code is read on as before. -/
theorem braces_middleSlash {cs : List Char} (h : cs.head? ≠ some '/') :
    middleSlash.braces cs = middle.braces cs := by
  cases cs with
  | nil => rfl
  | cons c cs =>
    have hc : c ≠ '/' := by simpa using h
    simp [braces, step, hc]

namespace Braces

theorem inLiteral_escape (quote d : Char) (cs : List Char) :
    inLiteral quote ('\\' :: d :: cs) = inLiteral quote cs := by
  simp [inLiteral]

theorem inLiteral_cons (quote : Char) {c : Char} (cs : List Char) (h : c ≠ '\\') :
    inLiteral quote (c :: cs) = if c = quote then inCode true cs else inLiteral quote cs := by
  cases cs <;> simp [inLiteral, h]

mutual

/-- In code, the machine finds the braces that the layout counts. -/
theorem tally_inCode (seen : Bool) : (cs : List Char) → '\n' ∉ cs →
    Tally (inCode seen cs) (middle.braces cs) ∧ (seen = true → (inCode seen cs).leading = 0)
  | [], _ => ⟨tally_none, fun _ ↦ rfl⟩
  | c :: cs, h => by
    obtain ⟨hc, hcs⟩ := List.ne_and_not_mem_of_not_mem_cons h
    have hstep : middle.braces (c :: cs) = (codeStep c).2 ++ (codeStep c).1.braces cs := by
      rw [braces, step, if_neg hc.symm]
    rw [hstep, codeStep, inCode]
    by_cases hquote : c = '"' ∨ c = '\''
    · rw [if_pos hquote, if_pos hquote]
      exact ⟨(tally_inLiteral c cs hcs).1, fun _ ↦ (tally_inLiteral c cs hcs).2⟩
    rw [if_neg hquote, if_neg hquote]
    -- After a slash the machine waits for what follows. Another slash hides the rest of the line.
    by_cases hslash : c = '/'
    · by_cases hnext : cs.head? = some '/'
      · obtain ⟨ds, rfl⟩ := List.head?_eq_some_iff.mp hnext
        have hcomment : middleSlash.braces ('/' :: ds) = [] :=
          braces_comment (List.not_mem_of_not_mem_cons hcs)
        rw [if_pos hslash, if_pos ⟨hslash, hnext⟩, hcomment]
        exact ⟨tally_none, fun _ ↦ rfl⟩
      · have hcode : ∀ x : Char, x = '/' → x ≠ '{' ∧ x ≠ '}' ∧ isBlank x = false := by
          rintro x rfl
          exact ⟨by decide, by decide, by decide⟩
        obtain ⟨hopen, hclose, hblank⟩ := hcode c hslash
        rw [if_pos hslash, if_neg fun hc ↦ hnext hc.2, if_neg hopen, if_neg hclose, hblank,
          braces_middleSlash hnext]
        exact ⟨(tally_inCode _ cs hcs).1, fun _ ↦ (tally_inCode _ cs hcs).2 (by simp)⟩
    rw [if_neg hslash, if_neg fun hc ↦ hslash hc.1]
    by_cases hopen : c = '{'
    · rw [if_pos hopen, if_pos hopen]
      obtain ⟨htally, hleading⟩ := tally_inCode true cs hcs
      exact ⟨htally.open (hleading rfl), fun _ ↦ hleading rfl⟩
    rw [if_neg hopen, if_neg hopen]
    by_cases hclose : c = '}'
    · rw [if_pos hclose, if_pos hclose]
      obtain ⟨htally, hleading⟩ := tally_inCode seen cs hcs
      refine ⟨htally.close seen, ?_⟩
      rintro rfl
      exact hleading rfl
    · rw [if_neg hclose, if_neg hclose]
      obtain ⟨htally, hleading⟩ := tally_inCode (seen || !isBlank c) cs hcs
      exact ⟨htally, fun hseen ↦ hleading (by rw [hseen, Bool.true_or])⟩

theorem tally_inLiteral (quote : Char) : (cs : List Char) → '\n' ∉ cs →
    Tally (inLiteral quote cs) ((literal quote).braces cs) ∧ (inLiteral quote cs).leading = 0
  | [], _ => ⟨tally_none, rfl⟩
  | c :: cs, h => by
    obtain ⟨hc, hcs⟩ := List.ne_and_not_mem_of_not_mem_cons h
    by_cases hescape : c = '\\'
    · subst hescape
      match cs with
      | [] => exact ⟨tally_none, rfl⟩
      | d :: cs =>
        obtain ⟨hd, hcs⟩ := List.ne_and_not_mem_of_not_mem_cons hcs
        have hstep : (literal quote).braces ('\\' :: d :: cs) = (literal quote).braces cs := by
          simp [braces, step, hd.symm]
        rw [inLiteral_escape, hstep]
        exact tally_inLiteral quote cs hcs
    · rw [inLiteral_cons quote cs hescape]
      by_cases hquote : c = quote
      · have hstep : (literal quote).braces (c :: cs) = middle.braces cs := by
          rw [braces, step, if_neg hc.symm]
          simp only [if_neg hescape, if_pos hquote]
          rfl
        rw [if_pos hquote, hstep]
        exact ⟨(tally_inCode true cs hcs).1, (tally_inCode true cs hcs).2 rfl⟩
      · have hstep : (literal quote).braces (c :: cs) = (literal quote).braces cs := by
          simp [braces, step, hc.symm, hescape, hquote]
        rw [if_neg hquote, hstep]
        exact tally_inLiteral quote cs hcs

end

/-- On a line that starts with code, the machine reads code from the first character on. -/
theorem braces_of_not_isComment {c : Char} {cs : List Char} (hblank : isBlank c = false)
    (hnewline : '\n' ∉ c :: cs) (hcomment : isComment (c :: cs) = false) :
    indent.braces (c :: cs) = middle.braces (c :: cs) := by
  obtain ⟨hc, hcs⟩ := List.ne_and_not_mem_of_not_mem_cons hnewline
  -- Only a slash and a star are read otherwise at the start of a line than within it.
  by_cases hslash : c = '/'
  · subst hslash
    change slash.braces cs = middleSlash.braces cs
    match cs with
    | [] => rfl
    | d :: cs =>
      obtain ⟨hd, hcs⟩ := List.ne_and_not_mem_of_not_mem_cons hcs
      have hslash : d ≠ '/' := by
        rintro rfl
        cases hcomment
      by_cases hstar : d = '*'
      · subst hstar
        change slashStar.braces cs = middle.braces cs
        match cs with
        | [] => rfl
        | e :: cs =>
          have hstar : e ≠ '*' := by
            rintro rfl
            cases hcomment
          simp only [braces, step, if_neg hstar]
      · simp only [braces, step, if_neg hd.symm, if_neg hslash, if_neg hstar]
  · have hstar : c ≠ '*' := by
      rintro rfl
      cases hcomment
    simp only [braces, step, if_neg hc.symm, hblank, Bool.false_eq_true, if_false, if_neg hstar,
      if_neg hslash]

theorem braces_of_isComment {cs : List Char} (hnewline : '\n' ∉ cs)
    (hcomment : isComment cs = true) : indent.braces cs = [] := by
  unfold isComment at hcomment
  split at hcomment
  · next rest =>
    simp only [List.mem_cons, not_or] at hnewline
    exact braces_comment hnewline.2.2.2
  · next rest => exact braces_comment (List.not_mem_of_not_mem_cons hnewline)
  · next rest =>
    simp only [List.mem_cons, not_or] at hnewline
    exact braces_comment hnewline.2.2
  · cases hcomment

/-- **The machine and the layout agree on every line.** -/
theorem tally_ofLine {line : List Char} (h : '\n' ∉ line) :
    Tally (ofLine (trimStart (trimEnd line))) (indent.braces line) := by
  have hbraces : indent.braces (trimStart (trimEnd line)) = indent.braces line := by
    rw [braces_trimStart, braces_trimEnd]
  have hnewline : '\n' ∉ trimStart (trimEnd line) := by
    intro hmem
    exact h (mem_of_mem_trimEnd ((List.dropWhile_sublist _).subset hmem))
  rw [← hbraces]
  cases hline : trimStart (trimEnd line) with
  | nil => exact tally_none
  | cons c cs =>
    rw [hline] at hnewline
    rw [ofLine]
    split
    · next hcomment =>
      rw [braces_of_isComment hnewline hcomment]
      exact tally_none
    · next hcomment =>
      rw [braces_of_not_isComment (isBlank_of_trimStart_eq_cons hline) hnewline (by simpa using hcomment)]
      exact (tally_inCode false _ hnewline).1

end Braces

end JavaBuilder.Java
