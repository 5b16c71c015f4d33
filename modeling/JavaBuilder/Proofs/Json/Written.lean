import Mathlib.Tactic.SplitIfs
import JavaBuilder.Json.Decode
import JavaBuilder.Json.Value

/-!
# Reading what has been written

A written value holds no white space and its strings hold no bare control characters, so it is read back
step by step, whatever follows it: a string ends at the first quote that is not escaped, and an item or a
member at its comma or bracket. The reader counts its steps, two for each character at most, so the count
never runs out on what has been written.
-/

namespace JavaBuilder.Json

open Text

/-! ## Strings -/

/-- How a character of a written string is read. -/
def unitOf (c : Char) : StringUnit :=
  if c.toNat < 32 ∧ c ∉ ['\n', '\r', '\t', '\x08', '\x0c'] then .code c.toNat else .char c

theorem hexNumber?_control : ∀ n < 32,
    hexNumber? ['0', '0', hexDigit (n / 16), hexDigit (n % 16)] = some n := by decide

theorem decodeUnits_unitOf_cons (c : Char) (us : List StringUnit) :
    decodeUnits (unitOf c :: us) = (decodeUnits us).map (c :: ·) := by
  unfold unitOf
  split
  · next h =>
    have hsmall : c.toNat < 0xD800 ∨ 0xE000 ≤ c.toNat := by omega
    rw [decodeUnits.eq_def]
    simp only [if_pos hsmall, Char.ofNat_toNat]
  · rw [decodeUnits]

theorem readUnits_shortEscape {e c : Char} (he : e ≠ 'u') (h : shortEscape? e = some c)
    (cs : List Char) :
    readUnits ('\\' :: e :: cs) = (readUnits cs).map fun r ↦ (.char c :: r.1, r.2) := by
  rw [readUnits.eq_def]
  cases hcs : readUnits cs <;> simp_all

/-- A control character without a short escape is read as its code. -/
theorem readUnits_controlEscape {n : Nat} (h : n < 32) (cs : List Char) :
    readUnits ('\\' :: 'u' :: '0' :: '0' :: hexDigit (n / 16) :: hexDigit (n % 16) :: cs) =
      (readUnits cs).map fun r ↦ (.code n :: r.1, r.2) := by
  rw [readUnits, hexNumber?_control n h]
  cases readUnits cs <;> rfl

/-- A character that is not escaped is read as itself. -/
theorem readUnits_plain {c : Char} (hquote : c ≠ '"') (hbackslash : c ≠ '\\')
    (hcontrol : ¬c.toNat < 32) (cs : List Char) :
    readUnits (c :: cs) = (readUnits cs).map fun r ↦ (.char c :: r.1, r.2) := by
  rw [readUnits.eq_def]
  simp [hbackslash, hcontrol]

theorem readUnits_escapeChar (c : Char) (cs : List Char) :
    readUnits (escapeChar c ++ cs) = (readUnits cs).map fun r ↦ (unitOf c :: r.1, r.2) := by
  have hshort {e d : Char} (he : e ≠ 'u') (h : shortEscape? e = some d)
      (hd : unitOf d = .char d) :
      readUnits (['\\', e] ++ cs) = (readUnits cs).map fun r ↦ (unitOf d :: r.1, r.2) := by
    rw [hd]
    exact readUnits_shortEscape he h cs
  unfold escapeChar
  split_ifs with hquote hbackslash hnewline hreturn htab hback hfeed hcontrol
  · subst hquote
    exact hshort (by decide) rfl rfl
  · subst hbackslash
    exact hshort (by decide) rfl rfl
  · subst hnewline
    exact hshort (by decide) rfl rfl
  · subst hreturn
    exact hshort (by decide) rfl rfl
  · subst htab
    exact hshort (by decide) rfl rfl
  · subst hback
    exact hshort (by decide) rfl rfl
  · subst hfeed
    exact hshort (by decide) rfl rfl
  · rw [unitOf, if_pos ⟨hcontrol, by simp [hnewline, hreturn, htab, hback, hfeed]⟩]
    exact readUnits_controlEscape hcontrol cs
  · rw [unitOf, if_neg fun h ↦ hcontrol h.1]
    exact readUnits_plain hquote hbackslash hcontrol cs

theorem readUnits_written (s rest : List Char) :
    readUnits (s.flatMap escapeChar ++ '"' :: rest) = some (s.map unitOf, rest) := by
  induction s with
  | nil => rfl
  | cons c s ih => rw [List.flatMap_cons, List.append_assoc, readUnits_escapeChar, ih]; rfl

theorem decodeUnits_map_unitOf (s : List Char) : decodeUnits (s.map unitOf) = some s := by
  induction s with
  | nil => rfl
  | cons c s ih => rw [List.map_cons, decodeUnits_unitOf_cons, ih]; rfl

theorem readString?_written (s : String) (rest : List Char) :
    readString? (s.toList.flatMap escapeChar ++ '"' :: rest) = some (some s, rest) := by
  rw [readString?, readUnits_written, Option.map_some, decodeUnits_map_unitOf, Option.map_some,
    String.ofList_toList]

/-! ## Values -/

namespace Value

mutual

/-- What is read of a written value. -/
@[simp] def reading : Value → Reading
  | null => .null
  | bool b => .bool b
  | string s => .string (some s)
  | array items => .array (readingItems items)
  | object members => .object (readingMembers members)

@[simp] def readingItems : List Value → Items
  | [] => .done
  | v :: vs => .cons v.reading (readingItems vs)

@[simp] def readingMembers : List (String × Value) → Members
  | [] => .done
  | (k, v) :: ms => .cons (some k) v.reading (readingMembers ms)

end

/-- The first character of a value is no space and closes nothing. -/
theorem exists_chars_eq_cons (v : Value) :
    ∃ c cs, v.chars = c :: cs ∧ isSpace c = false ∧ c ≠ ']' := by
  cases v with
  | null => exact ⟨_, _, rfl, by decide, by decide⟩
  | bool b => cases b <;> exact ⟨_, _, rfl, by decide, by decide⟩
  | string s => exact ⟨_, _, rfl, by decide, by decide⟩
  | array items => exact ⟨_, _, rfl, by decide, by decide⟩
  | object members => exact ⟨_, _, rfl, by decide, by decide⟩

theorem length_chars_pos (v : Value) : 0 < v.chars.length := by
  obtain ⟨c, cs, h, -⟩ := v.exists_chars_eq_cons
  simp [h]

/-- What follows an item at least closes the array. -/
theorem length_moreItemsChars_pos (vs : List Value) : 0 < (moreItemsChars vs).length := by
  cases vs <;> simp [moreItemsChars]

def memberChars (key : String) (v : Value) : List Char := stringChars key ++ ':' :: v.chars

theorem length_memberChars (key : String) (v : Value) :
    v.chars.length < (memberChars key v).length := by
  simp [memberChars]
  omega

theorem membersChars_cons (key : String) (v : Value) (ms : List (String × Value)) :
    membersChars ((key, v) :: ms) = memberChars key v ++ moreMembersChars ms := by
  simp [membersChars, memberChars]

theorem moreMembersChars_cons (key : String) (v : Value) (ms : List (String × Value)) :
    moreMembersChars ((key, v) :: ms) = ',' :: (memberChars key v ++ moreMembersChars ms) := by
  simp [moreMembersChars, memberChars]

end Value

theorem skipSpace_cons {c : Char} (h : isSpace c = false) (cs : List Char) :
    skipSpace (c :: cs) = c :: cs := by
  simp [skipSpace, h]

open Value

theorem stringChars_append (s : String) (rest : List Char) :
    stringChars s ++ rest = '"' :: (s.toList.flatMap escapeChar ++ '"' :: rest) := by
  simp [stringChars]

section

variable {v : Value} {n : Nat} {cs : List Char} {rest : Option (List Char)}

theorem readItems_close (first : Bool) : readItems (n + 1) first (']' :: cs) = (.done, some cs) := by
  cases first <;> rfl

theorem readItems_first {items : Items} (hv : readValue n (v.chars ++ cs) = (v.reading, some cs))
    (hitems : readItems n false cs = (items, rest)) :
    readItems (n + 1) true (v.chars ++ cs) = (.cons v.reading items, rest) := by
  obtain ⟨c, ds, hchars, hspace, hclose⟩ := v.exists_chars_eq_cons
  rw [hchars, List.cons_append] at hv ⊢
  rw [readItems, skipSpace_cons hspace]
  simp [hclose, hv, hitems]

theorem readItems_comma {items : Items} (hv : readValue n (v.chars ++ cs) = (v.reading, some cs))
    (hitems : readItems n false cs = (items, rest)) :
    readItems (n + 1) false (',' :: (v.chars ++ cs)) = (.cons v.reading items, rest) := by
  obtain ⟨c, ds, hchars, hspace, hclose⟩ := v.exists_chars_eq_cons
  rw [hchars, List.cons_append] at hv ⊢
  rw [readItems, skipSpace_cons (by decide)]
  simp [skipSpace_cons hspace, hclose, hv, hitems]

theorem readMembers_close (first : Bool) :
    readMembers (n + 1) first ('\x7d' :: cs) = (.done, some cs) := by
  cases first <;> rfl

theorem readMembers_first {key : String} {members : Members}
    (hv : readValue n (v.chars ++ cs) = (v.reading, some cs))
    (hmembers : readMembers n false cs = (members, rest)) :
    readMembers (n + 1) true (memberChars key v ++ cs) =
      (.cons (some key) v.reading members, rest) := by
  rw [memberChars, List.append_assoc, stringChars_append, readMembers, skipSpace_cons (by decide)]
  simp [readString?_written, skipSpace_cons, isSpace, hv, hmembers]

theorem readMembers_comma {key : String} {members : Members}
    (hv : readValue n (v.chars ++ cs) = (v.reading, some cs))
    (hmembers : readMembers n false cs = (members, rest)) :
    readMembers (n + 1) false (',' :: (memberChars key v ++ cs)) =
      (.cons (some key) v.reading members, rest) := by
  rw [memberChars, List.append_assoc, stringChars_append, readMembers, skipSpace_cons (by decide)]
  simp [readString?_written, skipSpace_cons, isSpace, hv, hmembers]

end

mutual

/-- A written value is read back, with whatever follows it left over. -/
theorem readValue_written : (v : Value) → (n : Nat) → (rest : List Char) →
    2 * v.chars.length ≤ n → readValue n (v.chars ++ rest) = (v.reading, some rest)
  | v, 0, rest, h => by
    have hpos := v.length_chars_pos
    omega
  | .null, n + 1, rest, h => rfl
  | .bool b, n + 1, rest, h => by cases b <;> rfl
  | .string s, n + 1, rest, h => by
    rw [Value.chars, stringChars_append, readValue, skipSpace_cons (by decide)]
    simp [readString?_written]
  | .array items, n + 1, rest, h => by
    rw [Value.chars, List.length_cons] at h
    rw [Value.chars, List.cons_append, readValue, skipSpace_cons (by decide)]
    simp [readItems_written items n rest (by omega)]
  | .object members, n + 1, rest, h => by
    rw [Value.chars, List.length_cons] at h
    rw [Value.chars, List.cons_append, readValue, skipSpace_cons (by decide)]
    simp [readMembers_written members n rest (by omega)]

theorem readItems_written : (vs : List Value) → (n : Nat) → (rest : List Char) →
    2 * (itemsChars vs).length ≤ n →
      readItems n true (itemsChars vs ++ rest) = (readingItems vs, some rest)
  | [], n, rest, h => by
    rw [itemsChars, List.length_singleton] at h
    obtain ⟨m, rfl⟩ : ∃ m, n = m + 1 := ⟨n - 1, by omega⟩
    exact readItems_close true
  | v :: vs, n, rest, h => by
    rw [itemsChars, List.length_append] at h
    have hpos := length_moreItemsChars_pos vs
    obtain ⟨m, rfl⟩ : ∃ m, n = m + 1 := ⟨n - 1, by omega⟩
    have hv := v.length_chars_pos
    rw [itemsChars, List.append_assoc]
    exact readItems_first (readValue_written v m _ (by omega))
      (readMoreItems_written vs m rest (by omega))

theorem readMoreItems_written : (vs : List Value) → (n : Nat) → (rest : List Char) →
    2 * (moreItemsChars vs).length ≤ n →
      readItems n false (moreItemsChars vs ++ rest) = (readingItems vs, some rest)
  | [], n, rest, h => by
    rw [moreItemsChars, List.length_singleton] at h
    obtain ⟨m, rfl⟩ : ∃ m, n = m + 1 := ⟨n - 1, by omega⟩
    exact readItems_close false
  | v :: vs, n, rest, h => by
    rw [moreItemsChars, List.length_cons, List.length_append] at h
    obtain ⟨m, rfl⟩ : ∃ m, n = m + 1 := ⟨n - 1, by omega⟩
    rw [moreItemsChars, List.cons_append, List.append_assoc]
    exact readItems_comma (readValue_written v m _ (by omega))
      (readMoreItems_written vs m rest (by omega))

theorem readMembers_written : (ms : List (String × Value)) → (n : Nat) → (rest : List Char) →
    2 * (membersChars ms).length ≤ n →
      readMembers n true (membersChars ms ++ rest) = (readingMembers ms, some rest)
  | [], n, rest, h => by
    rw [membersChars, List.length_singleton] at h
    obtain ⟨m, rfl⟩ : ∃ m, n = m + 1 := ⟨n - 1, by omega⟩
    exact readMembers_close true
  | (k, v) :: ms, n, rest, h => by
    rw [membersChars_cons, List.length_append] at h
    have hlength := length_memberChars k v
    obtain ⟨m, rfl⟩ : ∃ m, n = m + 1 := ⟨n - 1, by omega⟩
    rw [membersChars_cons, List.append_assoc]
    exact readMembers_first (readValue_written v m _ (by omega))
      (readMoreMembers_written ms m rest (by omega))

theorem readMoreMembers_written : (ms : List (String × Value)) → (n : Nat) → (rest : List Char) →
    2 * (moreMembersChars ms).length ≤ n →
      readMembers n false (moreMembersChars ms ++ rest) = (readingMembers ms, some rest)
  | [], n, rest, h => by
    rw [moreMembersChars, List.length_singleton] at h
    obtain ⟨m, rfl⟩ : ∃ m, n = m + 1 := ⟨n - 1, by omega⟩
    exact readMembers_close false
  | (k, v) :: ms, n, rest, h => by
    rw [moreMembersChars_cons, List.length_cons, List.length_append] at h
    have hlength := length_memberChars k v
    obtain ⟨m, rfl⟩ : ∃ m, n = m + 1 := ⟨n - 1, by omega⟩
    rw [moreMembersChars_cons, List.cons_append, List.append_assoc]
    exact readMembers_comma (readValue_written v m _ (by omega))
      (readMoreMembers_written ms m rest (by omega))

end

/-! ## Texts -/

/-- **A written text is read as its value**, and nothing follows it. -/
theorem Document.ofText_text (v : Value) : Document.ofText v.text = ⟨v.reading, true⟩ := by
  have hread := readValue_written v (2 * v.chars.length + 2) [] (by omega)
  rw [List.append_nil] at hread
  rw [Document.ofText, Value.text, String.toList_ofList]
  simp [hread, skipSpace]

theorem decodeText_text {ε α : Type} (f : Decoder ε α) (v : Value) :
    decodeText f v.text = f v.reading := by
  rw [decodeText, Document.ofText_text]
  cases f v.reading <;> rfl

end JavaBuilder.Json
