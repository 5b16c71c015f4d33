import Mathlib.Data.List.TakeWhile
import Mathlib.Tactic.SplitIfs
import JavaBuilder.Java.Literal
import JavaBuilder.Text.Hex

/-!
# String literals as Java reads them

Java reads a text as UTF-16 code units, in two passes. The first one replaces Unicode escapes, wherever
they stand: a backslash followed by `u` is one if an even number of backslashes stands before it. The
second one reads a literal up to the first quote that is not escaped, and refuses a line that ends
inside it.

A written literal has a backslash only where an escape starts and pairs it with what comes next, so the
first pass changes nothing and the second one takes the escapes back one by one. That holds for every
string without a carriage return. A carriage return is a line terminator like the line feed, and it is
written as it is.
-/

namespace JavaBuilder.Java

/-! ## Code units -/

/-- The UTF-16 code units of a character. -/
def charUnits (c : Char) : List Nat :=
  if c.toNat < 0x10000 then [c.toNat]
  else [0xD800 + (c.toNat - 0x10000) / 0x400, 0xDC00 + (c.toNat - 0x10000) % 0x400]

/-- The UTF-16 code units of a text. -/
def textUnits (cs : List Char) : List Nat := cs.flatMap charUnits

/-- No character's code units start another's. -/
theorem charUnits_append_inj {c d : Char} {us vs : List Nat}
    (h : charUnits c ++ us = charUnits d ++ vs) : c = d ∧ us = vs := by
  have hscalar (x : Char) : x.toNat < 0xD800 ∨ 0xDFFF < x.toNat ∧ x.toNat < 0x110000 := x.valid
  have hc := hscalar c
  have hd := hscalar d
  rw [← Char.toNat_inj]
  unfold charUnits at h
  split_ifs at h <;>
    simp only [List.cons_append, List.nil_append, List.cons.injEq] at h
  · exact h
  · omega
  · omega
  · exact ⟨by omega, h.2.2⟩

theorem textUnits_injective : Function.Injective textUnits := by
  intro cs
  induction cs with
  | nil =>
    intro ds h
    cases ds with
    | nil => rfl
    | cons d ds =>
      unfold textUnits charUnits at h
      simp only [List.flatMap_nil, List.flatMap_cons] at h
      split at h <;> cases h
  | cons c cs ih =>
    intro ds h
    cases ds with
    | nil =>
      unfold textUnits charUnits at h
      simp only [List.flatMap_nil, List.flatMap_cons] at h
      split at h <;> cases h
    | cons d ds =>
      replace h : charUnits c ++ textUnits cs = charUnits d ++ textUnits ds := h
      obtain ⟨rfl, hrest⟩ := charUnits_append_inj h
      rw [ih hrest]

/-- A text without Unicode escapes. An escape may have any number of `u`, and must have four digits. -/
def replaceEscapes : List Nat → Option (List Nat)
  | [] => some []
  | 92 :: 92 :: us => (replaceEscapes us).map (92 :: 92 :: ·)
  | 92 :: 117 :: 117 :: us => replaceEscapes (92 :: 117 :: us)
  | 92 :: 117 :: a :: b :: c :: d :: us =>
    match Text.hexNumber? ([a, b, c, d].map Char.ofNat) with
    | some n => (replaceEscapes us).map (n :: ·)
    | none => none
  | 92 :: 117 :: _ => none
  | u :: us => (replaceEscapes us).map (u :: ·)
termination_by us => us.length

/-! ## Reading a literal -/

/-- The character of an escape that consists of one letter. -/
def letterEscape? : Nat → Option Nat
  | 98 => some 8
  | 116 => some 9
  | 110 => some 10
  | 102 => some 12
  | 114 => some 13
  | 34 => some 34
  | 39 => some 39
  | 92 => some 92
  | _ => none

/-- The digits of an octal escape at the front: three if the first is at most 3, and else two. -/
def octalDigits : List Nat → List Nat
  | [] => []
  | u :: us => ((u :: us).takeWhile fun d ↦ 48 ≤ d && d ≤ 55).take (if u ≤ 51 then 3 else 2)

/-- The value of a literal after its opening quote, and what follows the literal. -/
def readLiteral : List Nat → Option (List Nat × List Nat)
  | [] => none
  | 34 :: us => some ([], us)
  | 92 :: u :: us =>
    match letterEscape? u with
    | some e => (readLiteral us).map fun r ↦ (e :: r.1, r.2)
    | none =>
      match octalDigits (u :: us) with
      | [] => none
      | d :: ds =>
        (readLiteral (us.drop ds.length)).map fun r ↦
          ((d :: ds).foldl (fun n d ↦ 8 * n + (d - 48)) 0 :: r.1, r.2)
  | u :: us =>
    if u = 10 ∨ u = 13 ∨ u = 92 then none else (readLiteral us).map fun r ↦ (u :: r.1, r.2)
termination_by us => us.length

/-- The code units of the string that a text denotes, if the text is one string literal. -/
def literalValue? (text : List Char) : Option (List Nat) :=
  match replaceEscapes (textUnits text) with
  | some (34 :: us) =>
    match readLiteral us with
    | some (value, []) => some value
    | _ => none
  | _ => none

example : literalValue? "\"\\uu0041\\102\\r\\u005c\"\"".toList = some [65, 66, 13, 34] := by cbv

/-! ## Reading what has been written -/

theorem replaceEscapes_plain {u : Nat} (h : u ≠ 92) (us : List Nat) :
    replaceEscapes (u :: us) = (replaceEscapes us).map (u :: ·) := by
  rw [replaceEscapes.eq_def]
  simp [h]

/-- A backslash before anything but `u` and another backslash stays. -/
theorem replaceEscapes_backslash {u : Nat} (h : u ≠ 92) (hu : u ≠ 117) (us : List Nat) :
    replaceEscapes (92 :: u :: us) = (replaceEscapes us).map (92 :: u :: ·) := by
  have hrest := replaceEscapes_plain h us
  rw [replaceEscapes.eq_def]
  simp [h, hu, hrest, Function.comp_def]

/-- The code units of a character other than the backslash have no backslash among them. -/
theorem ne_of_mem_charUnits {c : Char} {n : Nat} (hn : n < 0xD800) (h : c.toNat ≠ n) :
    ∀ u ∈ charUnits c, u ≠ n := by
  unfold charUnits
  split
  · simpa using h
  · simp only [List.forall_mem_cons, List.not_mem_nil, IsEmpty.forall_iff, implies_true, and_true]
    omega

/-- Code units without a backslash are kept by the first pass. -/
theorem replaceEscapes_append {us : List Nat} (h : ∀ u ∈ us, u ≠ 92) (vs : List Nat) :
    replaceEscapes (us ++ vs) = (replaceEscapes vs).map (us ++ ·) := by
  induction us with
  | nil => simp
  | cons u us ih =>
    rw [List.forall_mem_cons] at h
    rw [List.cons_append, replaceEscapes_plain h.1, ih h.2, Option.map_map]
    rfl

theorem readLiteral_plain {us : List Nat} (h : ∀ u ∈ us, u ≠ 34 ∧ u ≠ 92 ∧ u ≠ 10 ∧ u ≠ 13)
    (vs : List Nat) :
    readLiteral (us ++ vs) = (readLiteral vs).map fun r ↦ (us ++ r.1, r.2) := by
  induction us with
  | nil => simp
  | cons u us ih =>
    rw [List.forall_mem_cons] at h
    obtain ⟨hquote, hbackslash, hfeed, hreturn⟩ := h.1
    rw [List.cons_append, readLiteral.eq_def]
    simp [hbackslash, hfeed, hreturn, ih h.2, Function.comp_def]

theorem readLiteral_letter {u e : Nat} (h : letterEscape? u = some e) (vs : List Nat) :
    readLiteral (92 :: u :: vs) = (readLiteral vs).map fun r ↦ (e :: r.1, r.2) := by
  rw [readLiteral, h]

/-- The first pass leaves a written character as it is. -/
theorem replaceEscapes_escapeChar (c : Char) (us : List Nat) :
    replaceEscapes (textUnits (escapeChar c) ++ us) =
      (replaceEscapes us).map (textUnits (escapeChar c) ++ ·) := by
  unfold escapeChar
  split_ifs with hquote hbackslash
  · exact replaceEscapes_backslash (by decide) (by decide) us
  · change replaceEscapes (92 :: 92 :: us) = _
    rw [replaceEscapes]
    rfl
  · exact replaceEscapes_backslash (by decide) (by decide) us
  · exact replaceEscapes_backslash (by decide) (by decide) us
  · have hunits : ∀ u ∈ textUnits [c], u ≠ 92 := by
      rw [textUnits, List.flatMap_singleton]
      exact ne_of_mem_charUnits (by decide) (Char.toNat_inj.not.mpr hbackslash)
    exact replaceEscapes_append hunits us

/-- The second pass reads a written character, unless it is a carriage return. -/
theorem readLiteral_escapeChar {c : Char} (hreturn : c ≠ '\r') (us : List Nat) :
    readLiteral (textUnits (escapeChar c) ++ us) =
      (readLiteral us).map fun r ↦ (charUnits c ++ r.1, r.2) := by
  unfold escapeChar
  split_ifs with hquote hbackslash hfeed htab
  · subst hquote
    exact readLiteral_letter rfl us
  · subst hbackslash
    exact readLiteral_letter rfl us
  · subst hfeed
    exact readLiteral_letter rfl us
  · subst htab
    exact readLiteral_letter rfl us
  · have hunits : ∀ u ∈ charUnits c, u ≠ 34 ∧ u ≠ 92 ∧ u ≠ 10 ∧ u ≠ 13 := fun u hu ↦
      ⟨ne_of_mem_charUnits (by decide) (Char.toNat_inj.not.mpr hquote) u hu,
        ne_of_mem_charUnits (by decide) (Char.toNat_inj.not.mpr hbackslash) u hu,
        ne_of_mem_charUnits (by decide) (Char.toNat_inj.not.mpr hfeed) u hu,
        ne_of_mem_charUnits (by decide) (Char.toNat_inj.not.mpr hreturn) u hu⟩
    rw [textUnits, List.flatMap_singleton]
    exact readLiteral_plain hunits us

theorem textUnits_flatMap (cs : List Char) :
    textUnits (cs.flatMap escapeChar) = cs.flatMap fun c ↦ textUnits (escapeChar c) :=
  List.flatMap_assoc

theorem replaceEscapes_written (cs : List Char) (us : List Nat) :
    replaceEscapes (textUnits (cs.flatMap escapeChar) ++ us) =
      (replaceEscapes us).map (textUnits (cs.flatMap escapeChar) ++ ·) := by
  rw [textUnits_flatMap]
  induction cs with
  | nil => simp
  | cons c cs ih =>
    rw [List.flatMap_cons, List.append_assoc, replaceEscapes_escapeChar, ih, Option.map_map]
    simp only [Function.comp_def, List.append_assoc]

/-- The second pass reads a written text up to its closing quote. -/
theorem readLiteral_written {cs : List Char} (h : '\r' ∉ cs) (us : List Nat) :
    readLiteral (textUnits (cs.flatMap escapeChar) ++ 34 :: us) = some (textUnits cs, us) := by
  rw [textUnits_flatMap]
  induction cs with
  | nil => rw [List.flatMap_nil, List.nil_append, readLiteral]; rfl
  | cons c cs ih =>
    rw [List.mem_cons, not_or] at h
    rw [List.flatMap_cons, List.append_assoc, readLiteral_escapeChar (Ne.symm h.1), ih h.2]
    rfl

theorem literalValue?_literalChars {cs : List Char} (h : '\r' ∉ cs) :
    literalValue? (literalChars cs) = some (textUnits cs) := by
  have hunits : textUnits (literalChars cs) = 34 :: (textUnits (cs.flatMap escapeChar) ++ [34]) := by
    simp only [literalChars, textUnits, List.flatMap_cons, List.flatMap_append]
    rfl
  have hlast : replaceEscapes [34] = some [34] := by
    rw [replaceEscapes_plain (by decide), replaceEscapes]
    rfl
  have hpass : replaceEscapes (textUnits (literalChars cs)) = some (textUnits (literalChars cs)) := by
    rw [hunits, replaceEscapes_plain (by decide), replaceEscapes_written, hlast]
    rfl
  rw [literalValue?, hpass, hunits]
  simp only [readLiteral_written h]

/-! ## Quotes and line terminators -/

/-- The number of backslashes at the end of a text. -/
def backslashesAtEnd (cs : List Char) : Nat := (cs.reverse.takeWhile (· == '\\')).length

theorem backslashesAtEnd_append (cs ds : List Char) : backslashesAtEnd (cs ++ ds) =
    if ds.all (· == '\\') then ds.length + backslashesAtEnd cs else backslashesAtEnd ds := by
  have hall : (ds.reverse.takeWhile (· == '\\')).length = ds.reverse.length ↔
      ds.all (· == '\\') = true := by
    rw [← List.all_reverse, List.all_eq_true, ← List.takeWhile_eq_self_iff]
    exact ⟨(List.takeWhile_sublist _).eq_of_length, fun h ↦ by rw [h]⟩
  simp only [backslashesAtEnd, List.reverse_append, List.takeWhile_append, hall]
  split
  · rw [List.length_append, List.length_reverse]
  · rfl

/-- A written character ends with an even number of backslashes, so none is left to escape a quote. -/
theorem backslashesAtEnd_escapeChar (c : Char) : backslashesAtEnd (escapeChar c) % 2 = 0 := by
  unfold escapeChar
  split_ifs with hquote hbackslash
  · rfl
  · rfl
  · rfl
  · rfl
  · simp [backslashesAtEnd, hbackslash]

theorem quote_mem_escapeChar_iff {c : Char} : '"' ∈ escapeChar c ↔ c = '"' := by
  unfold escapeChar
  split_ifs <;> simp_all [eq_comm]

theorem return_mem_escapeChar_iff {c : Char} : '\r' ∈ escapeChar c ↔ c = '\r' := by
  unfold escapeChar
  split_ifs <;> simp_all [eq_comm]

theorem newline_notMem_escapeChar (c : Char) : '\n' ∉ escapeChar c := by
  unfold escapeChar
  split_ifs <;> simp_all [eq_comm]

theorem newline_notMem_stringLiteral (s : String) : '\n' ∉ (stringLiteral s).toList := by
  rw [stringLiteral, String.toList_ofList, literalChars]
  intro hmem
  rcases List.mem_cons.mp hmem with hquote | hmem
  · exact absurd hquote (by decide)
  rcases List.mem_append.mp hmem with hmem | hquote
  · obtain ⟨c, -, hc⟩ := List.mem_flatMap.mp hmem
    exact newline_notMem_escapeChar c hc
  · exact absurd (List.mem_singleton.mp hquote) (by decide)

/-- The only quote in a written character is the escaped one. -/
theorem eq_of_escapeChar {c : Char} {before after : List Char}
    (h : escapeChar c = before ++ '"' :: after) : before = ['\\'] ∧ after = [] := by
  have hc : c = '"' := quote_mem_escapeChar_iff.mp (h ▸ List.mem_append_right _ List.mem_cons_self)
  rw [hc, show escapeChar '"' = ['\\', '"'] from rfl] at h
  match before, h with
  | [], h => cases h
  | [b], h => simpa using h.symm
  | _ :: _ :: _, h => simp at h

/-- Every quote inside a written text is escaped. -/
theorem backslashesAtEnd_of_written {cs before after : List Char}
    (h : cs.flatMap escapeChar = before ++ '"' :: after) : backslashesAtEnd before % 2 = 1 := by
  induction cs generalizing before with
  | nil => simp at h
  | cons c cs ih =>
    rw [List.flatMap_cons, List.append_eq_append_iff] at h
    rcases h with ⟨between, rfl, hcs⟩ | ⟨between, hc, hcs⟩
    · -- the quote comes after this character
      have heven := backslashesAtEnd_escapeChar c
      have hodd := ih hcs
      rw [backslashesAtEnd_append]
      split
      · next hall =>
        have hself : backslashesAtEnd between = between.length := by
          simpa [hall, backslashesAtEnd] using backslashesAtEnd_append [] between
        omega
      · exact hodd
    · -- the quote is the one of this character
      cases between with
      | nil =>
        -- what follows a character starts with no quote
        have hodd : backslashesAtEnd [] % 2 = 1 := ih hcs.symm
        cases hodd
      | cons q between =>
        obtain ⟨rfl, hcs⟩ := List.cons.inj hcs
        rw [(eq_of_escapeChar hc).1]
        rfl

/-- The text is a string literal that denotes a string: it starts and ends with a quote, every quote
inside is escaped, no line ends inside, and Java reads it as the string. -/
structure IsLiteralOf (text value : List Char) : Prop where
  enclosed : ∃ inner, text = '"' :: (inner ++ ['"']) ∧
    (∀ before after, inner = before ++ '"' :: after → backslashesAtEnd before % 2 = 1) ∧
    '\n' ∉ inner ∧ '\r' ∉ inner
  denotes : literalValue? text = some (textUnits value)

/-- A text is the literal of one string only. -/
theorem IsLiteralOf.eq {text cs ds : List Char} (hcs : IsLiteralOf text cs) (hds : IsLiteralOf text ds) :
    cs = ds :=
  textUnits_injective (Option.some.inj (hcs.denotes.symm.trans hds.denotes))

/-- **A string literal is faithful exactly when the string has no carriage return.** -/
theorem isLiteralOf_stringLiteral_iff (s : String) :
    IsLiteralOf (stringLiteral s).toList s.toList ↔ '\r' ∉ s.toList := by
  rw [stringLiteral, String.toList_ofList]
  constructor
  · rintro ⟨⟨inner, htext, -, -, hreturn⟩, -⟩ hmem
    rw [literalChars, List.cons.injEq, List.append_cancel_right_eq] at htext
    rw [← htext.2, List.mem_flatMap] at hreturn
    exact hreturn ⟨'\r', hmem, return_mem_escapeChar_iff.mpr rfl⟩
  · intro h
    refine ⟨⟨_, rfl, fun _ _ ↦ backslashesAtEnd_of_written, ?_, ?_⟩, literalValue?_literalChars h⟩
    · rw [List.mem_flatMap]
      rintro ⟨c, -, hc⟩
      exact newline_notMem_escapeChar c hc
    · rw [List.mem_flatMap]
      rintro ⟨c, hcs, hc⟩
      exact h (return_mem_escapeChar_iff.mp hc ▸ hcs)

/-- A carriage return ends the line, and Java reads no literal. -/
theorem not_isLiteralOf_return : literalValue? (stringLiteral "\r").toList = none ∧
    ¬IsLiteralOf (stringLiteral "\r").toList "\r".toList := by
  refine ⟨by cbv, ?_⟩
  rintro ⟨⟨inner, htext, -, -, hreturn⟩, -⟩
  have hinner : ['\r'] = inner := List.append_cancel_right (List.cons.inj htext).2
  exact hreturn (hinner ▸ List.mem_singleton_self _)

end JavaBuilder.Java
