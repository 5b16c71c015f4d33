import JavaBuilder.Java.TypeText
import JavaBuilder.Proofs.Text.Trim
import JavaBuilder.Proofs.Unicode.Classes

/-!
# Lexemes of type text

`Lexes` says what the lexemes of a text are without saying how to find them: words are maximal runs
of word characters, marks stand for themselves, white space separates and every other character is
outside the relation. The lexer computes exactly this relation (`lex?_eq_some_iff`), so a text has at
most one sequence of lexemes.

The lexer works from the back and hands over the word a text starts with, which need not be
finished; that is the invariant of both directions.
-/

namespace JavaBuilder.Java

open Unicode Text

namespace TypeLexeme

/-- No word goes on at the front of the text. -/
def StopsWord (cs : List Char) : Prop := ∀ c ∈ cs.head?, isWordChar c = false

/-- The lexemes a text is cut into. -/
inductive Lexes : List Char → List TypeLexeme → Prop
  | nil : Lexes [] []
  /-- White space separates. -/
  | blank {c : Char} {cs : List Char} {ls : List TypeLexeme} (hc : isBlank c = true)
      (h : Lexes cs ls) : Lexes (c :: cs) ls
  /-- A mark stands for itself. -/
  | mark {cs : List Char} {ls : List TypeLexeme} (m : TypeMark) (h : Lexes cs ls) :
      Lexes (m.char :: cs) (mark m :: ls)
  /-- A word goes on for as long as it can. -/
  | word {w cs : List Char} {ls : List TypeLexeme} (hne : w ≠ [])
      (hw : ∀ c ∈ w, isWordChar c = true) (hstop : StopsWord cs) (h : Lexes cs ls) :
      Lexes (w ++ cs) (word (String.ofList w) :: ls)

/-! ## The three kinds of characters -/

theorem isWordChar_eq_false_of_isBlank {c : Char} (h : isBlank c = true) :
    isWordChar c = false := by
  have hne : c ≠ '_' ∧ c ≠ '$' ∧ c ≠ '.' := by
    refine ⟨?_, ?_, ?_⟩ <;> rintro rfl <;> exact absurd h (by decide)
  simp [isWordChar, isLetterOrNumber_eq_false_of_isBlank h, hne]

@[simp] theorem isWordChar_char (m : TypeMark) : isWordChar m.char = false := by
  cases m <;> decide

theorem eq_char_of_ofChar?_eq_some {c : Char} {m : TypeMark} (h : TypeMark.ofChar? c = some m) :
    c = m.char := by
  unfold TypeMark.ofChar? at h
  split at h <;> cases h <;> rfl

theorem ofChar?_eq_none_of_isBlank {c : Char} (h : isBlank c = true) :
    TypeMark.ofChar? c = none := by
  cases hm : TypeMark.ofChar? c with
  | none => rfl
  | some m =>
    obtain rfl := eq_char_of_ofChar?_eq_some hm
    cases m <;> exact absurd h (by decide)

theorem isWordChar_of_isIdentifierPart {c : Char} (h : Name.isIdentifierPart c = true) :
    isWordChar c = true := by
  rw [isWordChar, ← Name.isIdentifierPart, h, Bool.true_or]

theorem stopsWord_nil : StopsWord [] := by simp [StopsWord]

theorem stopsWord_cons {c : Char} {cs : List Char} (h : isWordChar c = false) :
    StopsWord (c :: cs) := by simpa [StopsWord] using h

/-! ## The lexer computes the relation -/

/-- A finished word, possibly empty, goes in front of the lexemes after it. -/
theorem Lexes.consWord {w cs : List Char} {ls : List TypeLexeme}
    (hw : ∀ c ∈ w, isWordChar c = true) (hstop : StopsWord cs) (h : Lexes cs ls) :
    Lexes (w ++ cs) (consWord w ls) := by
  unfold TypeLexeme.consWord
  split
  · next hnil => simpa [hnil] using h
  · next hne => exact .word hne hw hstop h

theorem lexWord_sound {cs w : List Char} {ls : List TypeLexeme} (h : lexWord cs = some (w, ls)) :
    (∀ c ∈ w, isWordChar c = true) ∧
      ∃ rest, cs = w ++ rest ∧ StopsWord rest ∧ Lexes rest ls := by
  induction cs generalizing w ls with
  | nil =>
    obtain ⟨rfl, rfl⟩ : [] = w ∧ [] = ls := by simpa [lexWord] using h
    exact ⟨by simp, [], rfl, stopsWord_nil, .nil⟩
  | cons c cs ih =>
    rw [lexWord] at h
    split at h
    · cases h
    · next v ks hv =>
      obtain ⟨hword, rest, rfl, hstop, hlex⟩ := ih hv
      -- The character belongs to the word, or it ends the word before it as a mark or as a blank.
      by_cases hc : isWordChar c = true
      · rw [if_pos hc] at h
        cases h
        refine ⟨?_, rest, rfl, hstop, hlex⟩
        intro d hd
        rcases List.mem_cons.mp hd with rfl | hd
        · exact hc
        · exact hword d hd
      · rw [if_neg hc] at h
        have hstops : StopsWord (c :: (v ++ rest)) := stopsWord_cons (by simpa using hc)
        split at h
        · next m hm =>
          cases h
          obtain rfl := eq_char_of_ofChar?_eq_some hm
          exact ⟨by simp, _, rfl, hstops, .mark m (hlex.consWord hword hstop)⟩
        · split at h
          · next hblank =>
            cases h
            exact ⟨by simp, _, rfl, hstops, .blank hblank (hlex.consWord hword hstop)⟩
          · cases h

/-- The characters of a word are handed over one by one. -/
theorem lexWord_append {w cs v : List Char} {ls : List TypeLexeme}
    (hw : ∀ c ∈ w, isWordChar c = true) (h : lexWord cs = some (v, ls)) :
    lexWord (w ++ cs) = some (w ++ v, ls) := by
  induction w with
  | nil => exact h
  | cons c w ih =>
    have hrest := ih fun d hd ↦ hw d (List.mem_cons_of_mem c hd)
    simp [lexWord, hrest, hw c List.mem_cons_self]

theorem lexWord_complete {cs : List Char} {ls : List TypeLexeme} (h : Lexes cs ls) :
    ∃ w ks, lexWord cs = some (w, ks) ∧ consWord w ks = ls := by
  induction h with
  | nil => exact ⟨[], [], rfl, rfl⟩
  | @blank c cs ls hc _ ih =>
    obtain ⟨w, ks, hlex, hcons⟩ := ih
    refine ⟨[], ls, ?_, rfl⟩
    simp [lexWord, hlex, hcons, hc, isWordChar_eq_false_of_isBlank hc,
      ofChar?_eq_none_of_isBlank hc]
  | @mark cs ls m _ ih =>
    obtain ⟨w, ks, hlex, hcons⟩ := ih
    exact ⟨[], mark m :: ls, by simp [lexWord, hlex, hcons], rfl⟩
  | @word w cs ls hne hw hstop _ ih =>
    obtain ⟨v, ks, hlex, hcons⟩ := ih
    -- The text after the word starts with no word character, so no other word is in progress.
    obtain ⟨hv, rest, hrest, -, -⟩ := lexWord_sound hlex
    have hnil : v = [] := by
      cases v with
      | nil => rfl
      | cons d v =>
        have hd := hstop d (by simp [hrest])
        rw [hv d List.mem_cons_self] at hd
        cases hd
    subst hnil
    have hks : ks = ls := by simpa [consWord] using hcons
    exact ⟨w, ks, by simpa using lexWord_append hw hlex, by simp [consWord, hne, hks]⟩

/-- **The lexer finds exactly the lexemes of a text.** -/
theorem lex?_eq_some_iff {text : String} {ls : List TypeLexeme} :
    lex? text = some ls ↔ Lexes text.toList ls := by
  rw [lex?, Option.map_eq_some_iff]
  constructor
  · rintro ⟨⟨w, ks⟩, hlex, rfl⟩
    obtain ⟨hw, rest, hrest, hstop, h⟩ := lexWord_sound hlex
    rw [hrest]
    exact h.consWord hw hstop
  · intro h
    obtain ⟨w, ks, hlex, hcons⟩ := lexWord_complete h
    exact ⟨(w, ks), hlex, hcons⟩

/-! ## White space at the ends -/

theorem Lexes.append_blank {cs : List Char} {ls : List TypeLexeme} (h : Lexes cs ls) {c : Char}
    (hc : isBlank c = true) : Lexes (cs ++ [c]) ls := by
  induction h with
  | nil => exact .blank hc .nil
  | blank hd _ ih => exact .blank hd ih
  | mark m _ ih => exact .mark m ih
  | @word w cs ls hne hw hstop _ ih =>
    have hstop' : StopsWord (cs ++ [c]) := by
      cases cs with
      | nil => exact stopsWord_cons (isWordChar_eq_false_of_isBlank hc)
      | cons d cs => exact stopsWord_cons (hstop d rfl)
    rw [List.append_assoc]
    exact .word hne hw hstop' ih

theorem Lexes.append_blanks {cs bs : List Char} {ls : List TypeLexeme} (h : Lexes cs ls)
    (hb : ∀ b ∈ bs, isBlank b = true) : Lexes (cs ++ bs) ls := by
  induction bs generalizing cs with
  | nil => simpa using h
  | cons b bs ih =>
    rw [List.append_cons]
    exact ih (h.append_blank (hb b List.mem_cons_self)) fun d hd ↦ hb d (List.mem_cons_of_mem b hd)

theorem Lexes.of_trimStart {cs : List Char} {ls : List TypeLexeme} (h : Lexes (trimStart cs) ls) :
    Lexes cs ls := by
  induction cs with
  | nil => exact h
  | cons c cs ih =>
    rw [trimStart, List.dropWhile_cons] at h
    split at h
    · next hc => exact .blank hc (ih h)
    · exact h

theorem Lexes.of_trim {s : String} {ls : List TypeLexeme} (h : Lexes (trim s).toList ls) :
    Lexes s.toList ls := by
  rw [trim, String.toList_ofList] at h
  obtain ⟨bs, hb, hcs⟩ := exists_trimEnd_append (trimStart s.toList)
  refine .of_trimStart ?_
  rw [← hcs]
  exact h.append_blanks hb

end TypeLexeme

end JavaBuilder.Java
