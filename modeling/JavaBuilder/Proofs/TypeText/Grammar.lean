import JavaBuilder.Java.TypeText
import JavaBuilder.Proofs.Java.ClassNameText

/-!
# The grammar of type text

`Derives` is the grammar over lexemes, with the type each phrase stands for. There are three kinds of
phrases, and one family for all of them keeps the induction single. The reader computes exactly this
relation (`ofLexemes?_eq_some_iff`).

Soundness follows the fuel of the reader. For completeness a phrase is read in front of any lexemes
that cannot extend it: a component may be followed by brackets, which the reader then goes on with,
but not by the bracket that opens type arguments.
-/

namespace JavaBuilder.Java

open Name

namespace TypeRef

open TypeLexeme TypeMark

/-- The kinds of phrases, with what they stand for. -/
inductive Phrase where
  /-- A type. -/
  | type (t : TypeRef)
  /-- A type that brackets may follow: a base with any number of brackets. -/
  | component (t : TypeRef)
  /-- Type arguments, between their brackets. -/
  | args (ts : List TypeRef)

/-- The grammar: the lexemes derive from the phrase. -/
inductive Derives : Phrase → List TypeLexeme → Prop
  | wildcard : Derives (.type wildcard) [mark question]
  /-- A bound takes everything that follows. -/
  | extending {t : TypeRef} {ls : List TypeLexeme} (h : Derives (.type t) ls) :
      Derives (.type (extending t)) (mark question :: word "extends" :: ls)
  | void : Derives (.type void) [word "void"]
  | component {t : TypeRef} {ls : List TypeLexeme} (h : Derives (.component t) ls) :
      Derives (.type t) ls
  | primitive (p : Primitive) : Derives (.component (primitive p)) [word p.keyword]
  /-- A dotted class name. -/
  | declared {w : String} {name : ClassName} (hdot : '.' ∈ w.toList)
      (hname : ClassName.parse? w = some name) : Derives (.component (declared name [])) [word w]
  /-- A dotted class name with type arguments. -/
  | applied {w : String} {name : ClassName} {ts : List TypeRef} {ls : List TypeLexeme}
      (hdot : '.' ∈ w.toList) (hname : ClassName.parse? w = some name) (h : Derives (.args ts) ls) :
      Derives (.component (declared name ts)) (word w :: mark less :: (ls ++ [mark greater]))
  /-- An identifier that is no keyword of a type. -/
  | typeVar {w : String} (hw : isIdentifier w = true) (hvoid : w ≠ "void")
      (hkeyword : Primitive.ofKeyword? w = none) : Derives (.component (typeVar w)) [word w]
  | array {t : TypeRef} {ls : List TypeLexeme} (h : Derives (.component t) ls) :
      Derives (.component (array t)) (ls ++ [mark openBracket, mark closeBracket])
  | last {t : TypeRef} {ls : List TypeLexeme} (h : Derives (.type t) ls) : Derives (.args [t]) ls
  | more {t : TypeRef} {ts : List TypeRef} {ls ks : List TypeLexeme} (h : Derives (.type t) ls)
      (hs : Derives (.args ts) ks) : Derives (.args (t :: ts)) (ls ++ mark comma :: ks)

theorem eq_keyword_of_ofKeyword? {w : String} {p : Primitive}
    (h : Primitive.ofKeyword? w = some p) : p.keyword = w := by
  simpa using List.find?_some h

theorem no_keyword_of_dot {w : String} (h : '.' ∈ w.toList) :
    w ≠ "void" ∧ Primitive.ofKeyword? w = none := by
  constructor
  · rintro rfl
    exact absurd h (by decide)
  · cases hp : Primitive.ofKeyword? w with
    | none => rfl
    | some p =>
      obtain rfl := eq_keyword_of_ofKeyword? hp
      cases p <;> exact absurd h (by decide)

/-! ## Soundness -/

theorem derives_of_withBrackets {t u : TypeRef} {ls rest ks : List TypeLexeme}
    (h : withBrackets t ls = some (u, rest)) (ht : Derives (.component t) ks) :
    ∃ front, ks ++ ls = front ++ rest ∧ Derives (.component u) front := by
  fun_induction withBrackets t ls generalizing ks with
  | case1 t ls ih =>
    obtain ⟨front, hfront, hu⟩ := ih h (.array ht)
    exact ⟨front, by simpa using hfront, hu⟩
  | case2 => cases h
  | case3 t ls =>
    obtain ⟨rfl, rfl⟩ : t = u ∧ ls = rest := by simpa using h
    exact ⟨ks, rfl, ht⟩

/-- A word in front of brackets. -/
private theorem derives_word {t u : TypeRef} {w : String} {ls rest : List TypeLexeme}
    (h : withBrackets t ls = some (u, rest)) (ht : Derives (.component t) [word w]) :
    ∃ front, word w :: ls = front ++ rest ∧ Derives (.type u) front := by
  obtain ⟨front, hfront, hu⟩ := derives_of_withBrackets h ht
  exact ⟨front, hfront, .component hu⟩

/-- What the reader takes from the front of a sequence derives from what it returns. -/
private def ReadSound (n : Nat) (ls : List TypeLexeme) : Prop :=
  ∀ {t : TypeRef} {rest : List TypeLexeme}, read? n ls = some (t, rest) →
    ∃ front, ls = front ++ rest ∧ Derives (.type t) front

private def ReadArgsSound (n : Nat) (ls : List TypeLexeme) : Prop :=
  ∀ {ts : List TypeRef} {rest : List TypeLexeme}, readArgs? n ls = some (ts, rest) →
    ∃ front, ls = front ++ mark greater :: rest ∧ Derives (.args ts) front

private theorem read?_sound :
    (∀ n ls, ReadSound n ls) ∧ (∀ n ls, ReadArgsSound n ls) := by
  refine read?.mutual_induct ReadSound ReadArgsSound ?_ ?_ ?_ ?_ ?_ ?_ ?_ ?_ ?_ ?_ ?_ ?_ ?_ ?_ ?_
    ?_ ?_
  -- Nothing is read out of fuel.
  · intro ls t rest h
    simp [read?] at h
  -- A question mark: with a bound, with another word behind it, and alone.
  · intro n ls ih t rest h
    rw [read?, if_pos rfl, Option.map_eq_some_iff] at h
    obtain ⟨⟨b, r⟩, hread, hpair⟩ := h
    obtain ⟨rfl, rfl⟩ : extending b = t ∧ r = rest := by simpa using hpair
    obtain ⟨front, rfl, hfront⟩ := ih hread
    exact ⟨mark question :: word "extends" :: front, rfl, .extending hfront⟩
  · intro n w ls hw t rest h
    simp [read?, hw] at h
  · intro n ls hls t rest h
    rw [read?] at h
    · obtain ⟨rfl, rfl⟩ : wildcard = t ∧ ls = rest := by simpa using h
      exact ⟨[mark question], rfl, .wildcard⟩
    · exact hls
  -- A keyword.
  · intro n ls t rest h
    obtain ⟨rfl, rfl⟩ : void = t ∧ ls = rest := by simpa [read?] using h
    exact ⟨[word "void"], rfl, .void⟩
  · intro n w ls hvoid p hp t rest h
    simp only [read?, if_neg hvoid, hp] at h
    obtain rfl := eq_keyword_of_ofKeyword? hp
    exact derives_word h (.primitive p)
  -- A dotted word: no name, a name whose arguments are not read, with arguments, and alone.
  · intro n w ls hvoid hkeyword hdot hname t rest h
    simp [read?, hvoid, hkeyword, hdot, hname] at h
  · intro n w hvoid hkeyword hdot name ls hname hargs _ t rest h
    simp [read?, hvoid, hkeyword, hdot, hname, hargs] at h
  · intro n w hvoid hkeyword hdot name ls hname args ks hargs ih t rest h
    obtain ⟨front, rfl, hfront⟩ := ih hargs
    simp only [read?, if_neg hvoid, hkeyword, if_pos hdot, hname, hargs] at h
    obtain ⟨whole, hwhole, ht⟩ := derives_of_withBrackets h (.applied hdot hname hfront)
    exact ⟨whole, by simpa using hwhole, .component ht⟩
  · intro n w ls hvoid hkeyword hdot name hname hls t rest h
    simp only [read?, if_neg hvoid, hkeyword, if_pos hdot, hname] at h
    exact derives_word h (.declared hdot hname)
  -- Another word, which is a type variable where it is an identifier.
  · intro n w ls hvoid hkeyword hdot hw t rest h
    simp only [read?, if_neg hvoid, hkeyword, if_neg hdot, if_pos hw] at h
    exact derives_word h (.typeVar hw hvoid hkeyword)
  · intro n w ls hvoid hkeyword hdot hw t rest h
    simp [read?, hvoid, hkeyword, hdot, hw] at h
  -- No other lexeme begins a type.
  · intro n ls hn hquestion hword t rest h
    rw [read?] at h
    · cases h
    · exact hn
    · exact hquestion
    · exact hword
  -- Arguments: out of fuel, ahead of a comma, ahead of the end, and ahead of anything else.
  · intro ls ts rest h
    simp [readArgs?] at h
  · intro n ls t ks hread ihType ihArgs ts rest h
    simp only [readArgs?, hread, Option.map_eq_some_iff] at h
    obtain ⟨⟨us, r⟩, hargs, hpair⟩ := h
    obtain ⟨rfl, rfl⟩ : t :: us = ts ∧ r = rest := by simpa using hpair
    obtain ⟨front, rfl, hfront⟩ := ihType hread
    obtain ⟨back, rfl, hback⟩ := ihArgs hargs
    exact ⟨front ++ mark comma :: back, by simp, .more hfront hback⟩
  · intro n ls t ks hread ih ts rest h
    obtain ⟨rfl, rfl⟩ : [t] = ts ∧ ks = rest := by simpa [readArgs?, hread] using h
    obtain ⟨front, rfl, hfront⟩ := ih hread
    exact ⟨front, rfl, .last hfront⟩
  · intro n ls hcomma hgreater _ ts rest h
    rw [readArgs?] at h
    split at h
    · next t ks hread => exact (hcomma t ks hread).elim
    · next t ks hread => exact (hgreater t ks hread).elim
    · cases h

/-! ## Completeness -/

/-- Lexemes that end a type in front of them. -/
def Closes (rest : List TypeLexeme) : Prop :=
  ∀ l ∈ rest.head?, l = mark comma ∨ l = mark greater

theorem closes_nil : Closes [] := by simp [Closes]

theorem closes_cons_iff {l : TypeLexeme} {ls : List TypeLexeme} :
    Closes (l :: ls) ↔ l = mark comma ∨ l = mark greater := by
  simp [Closes]

theorem withBrackets_of_closes {t : TypeRef} {rest : List TypeLexeme} (h : Closes rest) :
    withBrackets t rest = some (t, rest) := by
  cases rest with
  | nil => rfl
  | cons l ls => rcases closes_cons_iff.mp h with rfl | rfl <;> rfl

/-- How a phrase is read in front of the lexemes that may follow it. -/
private def ReadsBack : Phrase → List TypeLexeme → Prop
  | .type t, ls => ∀ n rest, ls.length ≤ n → Closes rest → read? n (ls ++ rest) = some (t, rest)
  | .component t, ls => ∀ n rest, ls.length ≤ n → rest.head? ≠ some (mark less) →
      read? n (ls ++ rest) = withBrackets t rest
  | .args ts, ls => ∀ n rest, ls.length < n →
      readArgs? n (ls ++ mark greater :: rest) = some (ts, rest)

private theorem readsBack_of_derives {p : Phrase} {ls : List TypeLexeme} (h : Derives p ls) :
    ReadsBack p ls := by
  -- Every rule that reads a lexeme finds fuel for it, since the bound counts the lexemes.
  induction h with
  | wildcard =>
    rintro (_ | n) rest hn hrest
    · simp at hn
    · rw [List.singleton_append, read?]
      rintro w ks rfl
      rcases closes_cons_iff.mp hrest with h | h <;> cases h
  | extending _ ih =>
    rintro (_ | n) rest hn hrest
    · simp at hn
    · simp only [List.length_cons] at hn
      simp [read?, ih n rest (by omega) hrest]
  | void =>
    rintro (_ | n) rest hn hrest
    · simp at hn
    · simp [read?]
  | component _ ih =>
    intro n rest hn hrest
    rw [ih n rest hn ?_, withBrackets_of_closes hrest]
    intro hless
    rcases hrest _ hless with h | h <;> cases h
  | primitive p =>
    rintro (_ | n) rest hn hrest
    · simp at hn
    · have hvoid : p.keyword ≠ "void" := by cases p <;> decide
      simp [read?, hvoid]
  | @declared w name hdot hname =>
    rintro (_ | n) rest hn hrest
    · simp at hn
    · obtain ⟨hvoid, hkeyword⟩ := no_keyword_of_dot hdot
      simp only [List.singleton_append, read?, if_neg hvoid, hkeyword, if_pos hdot, hname]
      split
      · next h => cases h
      · next ks hks => simp at hrest
      · next heq _ =>
        cases heq
        rfl
  | @applied w name ts ls hdot hname _ ih =>
    rintro (_ | n) rest hn hrest
    · simp at hn
    · simp only [List.length_cons, List.length_append, List.length_nil] at hn
      obtain ⟨hvoid, hkeyword⟩ := no_keyword_of_dot hdot
      have hargs := ih n rest (by omega)
      simp [read?, hvoid, hkeyword, hdot, hname, hargs]
  | @typeVar w hw hvoid hkeyword =>
    rintro (_ | n) rest hn hrest
    · simp at hn
    · have hdot : '.' ∉ w.toList := dot_not_mem_of_isIdentifier hw
      simp [read?, hvoid, hkeyword, hdot, hw]
  | array _ ih =>
    intro n rest hn hrest
    simp only [List.length_append, List.length_cons, List.length_nil] at hn
    rw [List.append_assoc, ih n _ (by omega) (by simp)]
    rfl
  | last _ ih =>
    rintro (_ | n) rest hn
    · simp at hn
    · have hread := ih n (mark greater :: rest) (by omega) (closes_cons_iff.mpr (.inr rfl))
      simp [readArgs?, hread]
  | @more t ts ls ks _ _ ihType ihArgs =>
    rintro (_ | n) rest hn
    · simp at hn
    · simp only [List.length_append, List.length_cons] at hn
      have hread := ihType n (mark comma :: (ks ++ mark greater :: rest)) (by omega)
        (closes_cons_iff.mpr (.inl rfl))
      simp [readArgs?, hread, ihArgs n rest (by omega)]

/-- **The reader computes the grammar.** -/
theorem ofLexemes?_eq_some_iff {ls : List TypeLexeme} {t : TypeRef} :
    ofLexemes? ls = some t ↔ Derives (.type t) ls := by
  constructor
  · intro h
    unfold ofLexemes? at h
    split at h
    · next u hread =>
      obtain rfl := Option.some.inj h
      obtain ⟨front, hfront, hderives⟩ := read?_sound.1 _ _ hread
      simpa [hfront] using hderives
    · cases h
  · intro h
    have hread := readsBack_of_derives h (ls.length + 1) [] (by omega) closes_nil
    rw [List.append_nil] at hread
    simp [ofLexemes?, hread]

end TypeRef

end JavaBuilder.Java
