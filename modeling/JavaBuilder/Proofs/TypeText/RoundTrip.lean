import JavaBuilder.Proofs.TypeText.Grammar
import JavaBuilder.Proofs.TypeText.Lexing

/-!
# Type text, read and written

The types that text can express are those built from readable class names and identifiers. Reading
and writing are inverse on them, and what is read is always such a type or the trimmed text itself,
so reading what was written for a read type gives it back in every case.

Written types never run two words together: a class name or a variable is followed by a mark, a
space or the end. `Spells` carries exactly that through the recursion.
-/

namespace JavaBuilder.Java

open Unicode Name Text

namespace TypeRef

open TypeLexeme TypeMark

/-- A type that text can express. -/
inductive Expressible : TypeRef → Prop
  | primitive (p : Primitive) : Expressible (primitive p)
  /-- A class whose dotted name is read back. -/
  | declared {name : ClassName} {args : List TypeRef} (hname : ClassName.parse? name.text = some name)
      (hdot : '.' ∈ name.text.toList) (hargs : ∀ a ∈ args, Expressible a) :
      Expressible (declared name args)
  /-- A variable that is no keyword. -/
  | typeVar {name : String} (hname : isIdentifier name = true) (hvoid : name ≠ "void")
      (hkeyword : Primitive.ofKeyword? name = none) : Expressible (typeVar name)
  | wildcard : Expressible wildcard
  | extending {bound : TypeRef} (h : Expressible bound) : Expressible (extending bound)
  /-- Brackets follow a primitive type, a class, a variable or other brackets. -/
  | array {component : TypeRef} (hcomponent : component.isPrimitive ∨ component.isPlain)
      (h : Expressible component) : Expressible (array component)
  | void : Expressible void

theorem Expressible.isResolved {t : TypeRef} (h : Expressible t) : t.isResolved = true := by
  induction h with
  | declared _ _ _ ih => exact (allResolved_iff _).mpr ih
  | extending _ ih => exact ih
  | array _ _ ih => exact ih
  | _ => rfl

/-! ## What the grammar derives is expressible -/

/-- What a phrase stands for is built from the grammar. -/
private def PhraseExpressible : Phrase → Prop
  | .type t => Expressible t
  | .component t => Expressible t ∧ (t.isPrimitive ∨ t.isPlain)
  | .args ts => ∀ t ∈ ts, Expressible t

private theorem phraseExpressible_of_derives {p : Phrase} {ls : List TypeLexeme}
    (h : Derives p ls) : PhraseExpressible p := by
  have hname {w : String} {name : ClassName} (hdot : '.' ∈ w.toList)
      (h : ClassName.parse? w = some name) :
      ClassName.parse? name.text = some name ∧ '.' ∈ name.text.toList := by
    obtain ⟨-, rfl⟩ := ClassName.parse?_eq_some_iff.mp h
    exact ⟨h, hdot⟩
  induction h with
  | wildcard => exact .wildcard
  | extending _ ih => exact .extending ih
  | void => exact .void
  | component _ ih => exact ih.1
  | primitive p => exact ⟨.primitive p, .inl rfl⟩
  | declared hdot h =>
    exact ⟨.declared (hname hdot h).1 (hname hdot h).2 (by simp), .inr rfl⟩
  | applied hdot h _ ih =>
    exact ⟨.declared (hname hdot h).1 (hname hdot h).2 ih, .inr rfl⟩
  | typeVar hw hvoid hkeyword => exact ⟨.typeVar hw hvoid hkeyword, .inr rfl⟩
  | array _ ih => exact ⟨.array ih.2 ih.1, .inr rfl⟩
  | last _ ih =>
    intro t ht
    obtain rfl := List.mem_singleton.mp ht
    exact ih
  | more _ _ ihType ihArgs =>
    intro t ht
    rcases List.mem_cons.mp ht with rfl | ht
    · exact ihType
    · exact ihArgs t ht

theorem Derives.expressible {t : TypeRef} {ls : List TypeLexeme} (h : Derives (.type t) ls) :
    Expressible t := phraseExpressible_of_derives h

/-! ## The lexemes of written types -/

/-- The characters have these lexemes, in front of any text that no word of theirs runs into. -/
def Spells (cs : List Char) (ls : List TypeLexeme) : Prop :=
  ∀ ds ks, StopsWord ds → Lexes ds ks → Lexes (cs ++ ds) (ls ++ ks)

/-- The first character, if there is one, belongs to no word. -/
def Separates (cs : List Char) : Prop := ∃ c ds, cs = c :: ds ∧ isWordChar c = false

theorem Spells.append {as bs : List Char} {ks ls : List TypeLexeme} (ha : Spells as ks)
    (hb : Spells bs ls) (hsep : Separates bs) : Spells (as ++ bs) (ks ++ ls) := by
  intro ds ms hstop h
  obtain ⟨c, cs, rfl, hc⟩ := hsep
  rw [List.append_assoc, List.append_assoc]
  exact ha _ _ (stopsWord_cons hc) (hb ds ms hstop h)

theorem spells_mark (m : TypeMark) : Spells [m.char] [mark m] := fun _ _ _ h ↦ .mark m h

theorem Spells.cons_mark {cs : List Char} {ls : List TypeLexeme} (h : Spells cs ls) (m : TypeMark) :
    Spells (m.char :: cs) (mark m :: ls) := fun ds ks hstop hlex ↦ .mark m (h ds ks hstop hlex)

theorem Spells.cons_blank {cs : List Char} {ls : List TypeLexeme} (h : Spells cs ls) {c : Char}
    (hc : isBlank c = true) : Spells (c :: cs) ls :=
  fun ds ks hstop hlex ↦ .blank hc (h ds ks hstop hlex)

theorem spells_word {w : String} (hne : w ≠ "") (hw : ∀ c ∈ w.toList, isWordChar c = true) :
    Spells w.toList [word w] := by
  intro ds ks hstop h
  have hnil : w.toList ≠ [] := by simpa using hne
  simpa using Lexes.word hnil hw hstop h

theorem spells_fixed {w : String} (hne : w ≠ "") (hw : w.toList.all isWordChar = true) :
    Spells w.toList [word w] := spells_word hne (List.all_eq_true.mp hw)

theorem spells_identifier {w : String} (h : isIdentifier w = true) : Spells w.toList [word w] := by
  refine spells_word ?_ fun c hc ↦ isWordChar_of_isIdentifierPart (isIdentifierPart_of_mem h hc)
  rintro rfl
  exact absurd h (by decide)

/-- A dotted class name is one word. -/
theorem spells_className {name : ClassName} (h : ClassName.parse? name.text = some name) :
    Spells name.text.toList [word name.text] := by
  have hread := ClassName.parse?_text_iff.mp h
  have hword : ∀ c ∈ name.text.toList, isWordChar c = true := by
    intro c hc
    rw [ClassName.text, join, String.toList_ofList] at hc
    rcases mem_joinSegments hc with rfl | ⟨s, hs, hc⟩
    · decide
    · obtain ⟨segment, hsegment, rfl⟩ := List.mem_map.mp hs
      exact isWordChar_of_isIdentifierPart
        (isIdentifierPart_of_mem (hread.identifiers segment hsegment) hc)
  refine spells_word ?_ hword
  intro hempty
  have hnone : ClassName.parse? "" = none := by decide
  rw [hempty, hnone] at h
  cases h

/-- The written type derives from the grammar, as a component if brackets may follow it. -/
private def Written (t : TypeRef) : Prop :=
  ∃ ls, Spells t.text.toList ls ∧ Derives (.type t) ls ∧
    (t.isPrimitive ∨ t.isPlain → Derives (.component t) ls)

private theorem Written.of_component {t : TypeRef} {ls : List TypeLexeme}
    (hspells : Spells t.text.toList ls) (h : Derives (.component t) ls) : Written t :=
  ⟨ls, hspells, .component h, fun _ ↦ h⟩

/-- Type arguments as they are written up to the bracket that closes them. -/
private theorem exists_spells_args {t : TypeRef} {ts : List TypeRef} (ht : Written t)
    (hts : ∀ u ∈ ts, Written u) :
    ∃ ls, Spells (t.text ++ tailText ts ++ ">").toList (ls ++ [mark greater]) ∧
      Derives (.args (t :: ts)) ls := by
  induction ts generalizing t with
  | nil =>
    obtain ⟨ls, hspells, hderives, -⟩ := ht
    refine ⟨ls, ?_, .last hderives⟩
    have hclose := hspells.append (spells_mark greater) ⟨_, _, rfl, by simp⟩
    simpa [tailText, TypeMark.char] using hclose
  | cons u us ih =>
    obtain ⟨ls, hspells, hderives, -⟩ := ht
    obtain ⟨ks, hrest, hargs⟩ :=
      ih (hts u List.mem_cons_self) fun v hv ↦ hts v (List.mem_cons_of_mem u hv)
    refine ⟨ls ++ mark comma :: ks, ?_, .more hderives hargs⟩
    have hcomma := (hrest.cons_blank (c := ' ') (by decide)).cons_mark comma
    have hall := hspells.append hcomma ⟨_, _, rfl, by simp⟩
    simpa [tailText, TypeMark.char] using hall

private theorem Expressible.written {t : TypeRef} (h : Expressible t) : Written t := by
  induction h with
  | primitive p =>
    refine .of_component (spells_fixed ?_ ?_) (.primitive p) <;> cases p <;> decide
  | @declared name args hname hdot _ ih =>
    have hspells := spells_className hname
    cases args with
    | nil => exact .of_component hspells (.declared hdot hname)
    | cons a as =>
      obtain ⟨ls, hargs, hderives⟩ :=
        exists_spells_args (ih a List.mem_cons_self) fun u hu ↦ ih u (List.mem_cons_of_mem a hu)
      refine .of_component ?_ (.applied hdot hname hderives)
      have hall := hspells.append (hargs.cons_mark less) ⟨_, _, rfl, by simp⟩
      simpa [text, TypeMark.char] using hall
  | typeVar hname hvoid hkeyword =>
    exact .of_component (spells_identifier hname) (.typeVar hname hvoid hkeyword)
  | wildcard =>
    exact ⟨[mark question], spells_mark question, .wildcard,
      by simp [isPrimitive, primitive?, isPlain]⟩
  | extending _ ih =>
    obtain ⟨ls, hspells, hderives, -⟩ := ih
    have hword : Spells "extends".toList [word "extends"] := spells_fixed (by decide) (by decide)
    have hbound := hword.append (hspells.cons_blank (c := ' ') (by decide)) ⟨_, _, rfl, by decide⟩
    have hall := (hbound.cons_blank (c := ' ') (by decide)).cons_mark question
    exact ⟨mark question :: word "extends" :: ls, by simpa [text, TypeMark.char] using hall,
      .extending hderives, by simp [isPrimitive, primitive?, isPlain]⟩
  | array hcomponent _ ih =>
    obtain ⟨ls, hspells, -, hderives⟩ := ih
    refine .of_component ?_ (.array (hderives hcomponent))
    have hbrackets := (spells_mark closeBracket).cons_mark openBracket
    have hall := hspells.append hbrackets ⟨_, _, rfl, by simp⟩
    simpa [text, TypeMark.char] using hall
  | void =>
    exact ⟨[word "void"], spells_fixed (by decide) (by decide), .void,
      by simp [isPrimitive, primitive?, isPlain]⟩

/-! ## Reading -/

theorem ofText_of_derives {s : String} {ls : List TypeLexeme} {t : TypeRef}
    (hlex : Lexes s.toList ls) (h : Derives (.type t) ls) : ofText s = t := by
  simp [ofText, lex?_eq_some_iff.mpr hlex, ofLexemes?_eq_some_iff.mpr h]

theorem Expressible.ofText_text {t : TypeRef} (h : Expressible t) : ofText t.text = t := by
  obtain ⟨ls, hspells, hderives, -⟩ := h.written
  have hlex := hspells [] [] stopsWord_nil .nil
  rw [List.append_nil, List.append_nil] at hlex
  exact ofText_of_derives hlex hderives

/-- A text either derives from the grammar or is kept. -/
theorem ofText_cases (s : String) :
    (∃ ls, Lexes s.toList ls ∧ Derives (.type (ofText s)) ls) ∨
      (ofText s = unresolved (trim s) ∧
        ¬∃ ls, Lexes s.toList ls ∧ ∃ t, Derives (.type t) ls) := by
  by_cases h : ∃ ls, Lexes s.toList ls ∧ ∃ t, Derives (.type t) ls
  · obtain ⟨ls, hlex, t, hderives⟩ := h
    refine .inl ⟨ls, hlex, ?_⟩
    rwa [ofText_of_derives hlex hderives]
  · refine .inr ⟨?_, h⟩
    have hnone : (lex? s).bind ofLexemes? = none := by
      rw [Option.eq_none_iff_forall_ne_some]
      intro t ht
      obtain ⟨ls, hlex, hread⟩ := Option.bind_eq_some_iff.mp ht
      exact h ⟨ls, lex?_eq_some_iff.mp hlex, t, ofLexemes?_eq_some_iff.mp hread⟩
    rw [ofText, hnone, Option.getD_none]

/-- Text that derives from no type does not derive from one when it is trimmed. -/
theorem ofText_trim_of_kept {s : String} (h : ofText s = unresolved (trim s)) :
    ofText (trim s) = unresolved (trim s) := by
  rcases ofText_cases (trim s) with ⟨ls, hlex, hderives⟩ | ⟨hkept, -⟩
  · have hresolved := hderives.expressible.isResolved
    rw [← ofText_of_derives hlex.of_trim hderives, h] at hresolved
    cases hresolved
  · rwa [trim_trim] at hkept

end TypeRef

end JavaBuilder.Java
