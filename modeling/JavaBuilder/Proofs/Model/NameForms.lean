import JavaBuilder.Proofs.Model.Edits
import JavaBuilder.Proofs.Name.Constants

/-!
# Properties, edited and written

A property derives all its forms from a name and a type, and its accessor may then be named by the
convention of beans, by the property itself, or by an identifier of one's own, any number of times. None of
this reaches the other forms, so what a property holds besides its accessor and its convention is what it
held when it was made, and `Property.check` finds every form where it derives it again.

The same invariant is what reading a written property needs: it is read from its name, its type, its
convention and its accessor, in this order, so the accessor is the last word.
-/

namespace JavaBuilder

open Java Json Name Unicode

namespace Model

variable {p : Property} {n : String} {t : TypeRef}

/-! ## Edits -/

/-- One of the ways to name the accessor of a property. -/
inductive Property.Edit where
  | bean (bean : Bool)
  | getter (getter : String)
deriving DecidableEq, Repr

namespace Property.Edit

def apply (p : Property) : Edit → Property
  | bean b => p.withBean b
  | getter g => p.withGetter g

/-- An accessor is only named by an identifier. -/
def isLegal : Edit → Bool
  | bean _ => true
  | getter g => isIdentifier g

end Property.Edit

/-- The property after some edits. -/
def Property.edited (p : Property) (edits : List Property.Edit) : Property :=
  edits.foldl Property.Edit.apply p

/-! ## Derived properties -/

theorem isIdentifier_beanGetter (h : isAsciiIdentifier n.toList = true) :
    isIdentifier (beanGetter (capitalize n) t) = true := by
  obtain ⟨c, cs, hn, hcapitalize⟩ := exists_toList_capitalize h
  have hparts : ∀ d ∈ (capitalize n).toList, isIdentifierPart d = true := by
    have hmem := isAsciiPart_of_mem h
    rw [hn, List.forall_mem_cons] at hmem
    rw [hcapitalize, List.forall_mem_cons]
    exact ⟨isIdentifierPart_of_isAsciiPart (isAsciiPart_toUpper hmem.1), fun d hd ↦
      isIdentifierPart_of_isAsciiPart (hmem.2 d hd)⟩
  rw [beanGetter]
  split
  · exact ClassName.isIdentifier_append (by decide) hparts
  · exact ClassName.isIdentifier_append (by decide) hparts

/-- The property of a name and a type, but for its accessor and its convention. -/
structure Property.IsDerived (n : String) (t : TypeRef) (p : Property) : Prop where
  eq : p = { Property.of n t with getter := p.getter, bean := p.bean }
  getter : isIdentifier p.getter = true

namespace Property.IsDerived

theorem of (h : isAsciiIdentifier n.toList = true) : (Property.of n t).IsDerived n t :=
  ⟨rfl, isIdentifier_beanGetter h⟩

section

variable (hn : isAsciiIdentifier n.toList = true) (h : p.IsDerived n t)
include hn h

/-- An edit reaches the accessor and the convention only. -/
theorem apply {edit : Edit} (hedit : edit.isLegal = true) : (edit.apply p).IsDerived n t := by
  obtain ⟨heq, -⟩ := h
  cases edit with
  | getter g =>
    refine ⟨?_, hedit⟩
    rw [Edit.apply, withGetter, heq]
  | bean b =>
    refine ⟨?_, ?_⟩
    · rw [Edit.apply, withBean, heq]
    · rw [Edit.apply, withBean, heq]
      cases b with
      | true => exact isIdentifier_beanGetter hn
      | false => exact isIdentifier_of_isAsciiIdentifier hn

theorem edited {edits : List Edit} (hedits : ∀ edit ∈ edits, edit.isLegal = true) :
    (p.edited edits).IsDerived n t := by
  induction edits generalizing p with
  | nil => exact h
  | cons edit edits ih =>
    rw [List.forall_mem_cons] at hedits
    exact ih (h.apply hn hedits.1) hedits.2

theorem check : p.check = .ok () := by
  obtain ⟨heq, hgetter⟩ := h
  have hfault : p.fault? = none := by
    have hname : p.name = n := by rw [heq]; rfl
    rw [fault?, hname, hgetter, isIdentifier_of_isAsciiIdentifier hn, heq]
    simp [Property.of]
  rw [Property.check, hfault]

theorem isDecoded (ht : t.IsOfText) : p.IsDecoded where
  type := by rw [h.eq]; exact ht
  derived := by rw [h.eq]; rfl
  check := h.check hn

end

end Property.IsDerived

/-! ## Forms -/

/-- The forms of a property that follow from an identifier of ASCII. -/
structure Property.HasForms (n : String) (p : Property) : Prop where
  name : p.name = n
  capitalized : ∃ c cs, n.toList = c :: cs ∧ p.capitalized.toList = c.toUpper :: cs
  constant : p.constant.toList = constantText n.toList
  identifier : isIdentifier p.constant = true
  /-- The constant is in ASCII, and not in lower case. -/
  noLower : ∀ c ∈ p.constant.toList, isAscii c = true ∧ c.isLower = false

theorem Property.IsDerived.hasForms (hn : isAsciiIdentifier n.toList = true) (h : p.IsDerived n t) :
    p.HasForms n := by
  have hconstant : p.constant.toList = constantText n.toList := by
    rw [h.eq]
    exact toList_constantName hn
  have hascii := isAsciiIdentifier_constantText hn
  rw [← hconstant] at hascii
  refine ⟨by rw [h.eq]; rfl, ?_, hconstant, isIdentifier_of_isAsciiIdentifier hascii, fun c hc ↦
    ⟨?_, ?_⟩⟩
  · rw [h.eq]
    exact exists_toList_capitalize hn
  · exact isAscii_of_isAsciiPart (isAsciiPart_of_mem hascii c hc)
  · exact isLower_eq_false_of_mem_constantText hn c (hconstant ▸ hc)

/-! ## Texts -/

/-- A property is read member by member; what is derived is passed over. -/
theorem decodeBareProperty_written (h : p.IsDecoded) : decodeBareProperty p.json.reading = .ok p := by
  rw [decodeBareProperty, Property.json, asRecord_written]
  refine bind_eq_ok.mpr ⟨⟨some p.name, some p.type, some (some p.getter), some p.bean⟩, ?_, ?_⟩
  · cases hboxed : p.boxed
    all_goals
      simp [Property.members, optionalMember, typeJson, hboxed, decodeType, h.type.ofText_text, fillSlot,
        asString, asOption, asBool, passOver, Reading.isWhole, Functor.map, Except.map]
  · simp only [require, ok_bind, Option.getD_some, Option.elim_some, h.check_derived]
    exact congrArg Except.ok h.derived.symm

/-- **The forms of a property agree, and survive writing and reading**, however its accessor is named. -/
theorem edited_check_forms_text (hn : isAsciiIdentifier n.toList = true) (ht : t.IsOfText)
    (edits : List Property.Edit) (hedits : ∀ edit ∈ edits, edit.isLegal = true) :
    ((Property.of n t).edited edits).check = .ok () ∧
      ((Property.of n t).edited edits).HasForms n ∧
      Property.ofText ((Property.of n t).edited edits).json.text =
        .ok ((Property.of n t).edited edits) := by
  have h : ((Property.of n t).edited edits).IsDerived n t := (Property.IsDerived.of hn).edited hn hedits
  refine ⟨h.check hn, h.hasForms hn, ?_⟩
  rw [Property.ofText, decodeText_text]
  exact decodeBareProperty_written (h.isDecoded hn ht)

/-- An acronym, a digit before a capital, and an accessor of its own. -/
theorem edited_check_forms_text_acronym :
    let p := (Property.of "parseURLPath2X" (.ofText "java.util.List<String>")).edited
      [.bean false, .getter "path$"]
    p.check = .ok () ∧ p.capitalized = "ParseURLPath2X" ∧ p.constant = "PARSE_URL_PATH2_X" ∧
      Property.ofText p.json.text = .ok p := by
  have h := edited_check_forms_text (n := "parseURLPath2X") (by decide) ⟨"java.util.List<String>", rfl⟩
    [.bean false, .getter "path$"] (by decide)
  exact ⟨h.1, by decide, by decide, h.2.2⟩

end Model

end JavaBuilder
