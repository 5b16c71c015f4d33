import JavaBuilder.Proofs.Builder.Failure
import JavaBuilder.Proofs.Java.ClassNameOrder
import JavaBuilder.Proofs.Model.RoundTrip
import JavaBuilder.Proofs.Text.Segments

/-!
# Datatypes, edited and written

The datatype of a descriptor is named by convention and may then be edited. Whatever the edits are, its
names stay names that can be read and the classes in scope stay sorted, and that is all it takes to find
the datatype again in what is written of it.

A descriptor says by null that it has no builder factory, and a datatype by saying nothing. Each is read
back, since nothing means the constructor in the one and no factory in the other.
-/

namespace JavaBuilder

open Java Json Text Name

namespace Java.ClassName

/-! ## Names by convention -/

theorem IsRead.nested {name : ClassName} (h : name.IsRead) (simple : String)
    (hsimple : isIdentifier simple = true) : (name.nested simple).IsRead := by
  obtain ⟨hidentifiers, hlower, hcapital⟩ := isRead_iff.mp h
  refine isRead_iff.mpr ⟨?_, hlower, hcapital⟩
  intro s hs
  rw [simpleNames_nested, ← List.append_assoc, List.mem_append, List.mem_singleton] at hs
  rcases hs with hs | rfl
  · exact hidentifiers s hs
  · exact hsimple

theorem isIdentifier_append {x y : String} (hx : isIdentifier x = true)
    (hy : ∀ c ∈ y.toList, isIdentifierPart c = true) : isIdentifier (x ++ y) = true := by
  rw [isIdentifier] at hx ⊢
  rw [String.toList_append]
  cases hchars : x.toList with
  | nil =>
    rw [hchars] at hx
    cases hx
  | cons c cs =>
    rw [hchars, isIdentifierText, Bool.and_eq_true, List.all_eq_true] at hx
    rw [List.cons_append, isIdentifierText, Bool.and_eq_true, List.all_eq_true]
    exact ⟨hx.1, List.forall_mem_append.mpr ⟨hx.2, hy⟩⟩

theorem startsCapital_append {x y : String} (hx : startsCapital x = true) :
    startsCapital (x ++ y) = true := by
  rw [startsCapital] at hx ⊢
  rw [String.toList_append]
  cases hchars : x.toList with
  | nil =>
    rw [hchars] at hx
    cases hx
  | cons c cs =>
    rw [hchars] at hx
    exact hx

/-- The name of a generated builder goes on after that of the top-level class as an identifier may. -/
theorem IsRead.exists_generatedName_eq {name : ClassName} (h : name.IsRead) :
    ∃ rest, Model.Datatype.generatedName name = name.outer ++ rest ∧
      ∀ c ∈ rest.toList, isIdentifierPart c = true := by
  obtain ⟨rest, hrest⟩ := exists_joinSegments_cons '_' name.outer.toList (name.inner.map String.toList)
  refine ⟨String.ofList rest ++ "_Builder", ?_, fun c hc ↦ ?_⟩
  · rw [Model.Datatype.generatedName, join, simpleNames, List.map_cons, hrest, String.ofList_append,
      String.ofList_toList, String.append_assoc]
  · rw [String.toList_append, String.toList_ofList, List.mem_append] at hc
    rcases hc with hc | hc
    · have hmem : c ∈ joinSegments '_' (name.simpleNames.map String.toList) := by
        rw [simpleNames, List.map_cons, hrest]
        exact List.mem_append_right _ hc
      rcases mem_joinSegments hmem with rfl | ⟨t, ht, hc⟩
      · decide
      · obtain ⟨s, hs, rfl⟩ := List.mem_map.mp ht
        exact isIdentifierPart_of_mem ((isRead_iff.mp h).identifiers s (List.mem_append_right _ hs)) hc
    · have hsuffix : "_Builder".toList.all isIdentifierPart = true := by decide
      exact List.all_eq_true.mp hsuffix c hc

/-- The generated builder of a type that has been read has a name that can be read. -/
theorem IsRead.top_generatedName {name : ClassName} (h : name.IsRead) :
    (ClassName.top name.package (Model.Datatype.generatedName name)).IsRead := by
  obtain ⟨hidentifiers, hlower, hcapital⟩ := isRead_iff.mp h
  obtain ⟨rest, heq, hrest⟩ := h.exists_generatedName_eq
  rw [heq]
  refine isRead_iff.mpr ⟨fun s hs ↦ ?_, hlower, startsCapital_append hcapital⟩
  rcases List.mem_append.mp hs with hs | hs
  · exact hidentifiers s (List.mem_append_left _ hs)
  · obtain rfl := List.mem_singleton.mp hs
    exact isIdentifier_append (hidentifiers name.outer (by simp [simpleNames])) hrest

end Java.ClassName

namespace Model

/-! ## Datatypes that can be written -/

/-- All names of the datatype can be read, and the classes in scope are sorted. -/
structure Datatype.IsWritable (d : Datatype) : Prop where
  source : d.source.name.IsRead
  builder : d.builder.name.IsRead
  generated : d.generated.name.IsRead
  value : d.value.name.IsRead
  partialType : ∀ p ∈ d.partialType, p.name.IsRead
  propertyEnum : ∀ name ∈ d.propertyEnum, name.IsRead
  visible : ∀ name ∈ d.visible, name.IsRead
  sorted : d.visible.Pairwise (· < ·)

theorem decodeClass_written {c : GenericClass} (h : c.name.IsRead) :
    decodeClass (classJson c).reading = .ok c := by
  rw [decodeClass, classJson, asRecord_written]
  refine bind_eq_ok.mpr ⟨⟨some c.name, nonempty? c.params⟩, ?_, ?_⟩
  · refine (foldlM_member ⟨some c.name, none⟩ ?_).trans ?_
    · simp only [fillSlot_none (decodeName_written h)]
      rfl
    · refine foldlM_listMember (ClassSlots.mk (some c.name)) rfl ?_
      simp only [fillSlot_none (decodeStrings_written c.params)]
      rfl
  · simp only [getD_nonempty?]
    rfl

/-- What the slots of a written datatype hold in the end. -/
def Datatype.slots (d : Datatype) : DatatypeSlots where
  source := some d.source
  interface := some d.interface
  builder := some d.builder
  generated := some d.generated
  value := some d.value
  partialType := d.partialType.map some
  propertyEnum := d.propertyEnum.map some
  factory := d.factory.map some
  serializable := some d.serializable
  extensible := some d.extensible
  visible := nonempty? d.visible

theorem decodeDatatype_written {d : Datatype} (h : d.IsWritable) :
    decodeDatatype d.json.reading = .ok d := by
  have hpartial {c : GenericClass} (hc : c ∈ d.partialType) :=
    asOption_of_ne_null (by simp [classJson]) (decodeClass_written (h.partialType c hc))
  have henum {name : ClassName} (hname : name ∈ d.propertyEnum) :=
    asOption_of_ne_null (by simp [nameJson]) (decodeName_written (h.propertyEnum name hname))
  have hfactory (f : BuilderFactory) :=
    asOption_of_ne_null (by simp [BuilderFactory.json]) (decodeFactory_written f)
  have hvisible := asList_written fun name hname ↦ decodeName_written (h.visible name hname)
  rw [decodeDatatype, Datatype.json, asRecord_written]
  refine bind_eq_ok.mpr ⟨d.slots, ?_, ?_⟩
  · -- the slots after each stretch of members, of which some may be left out
    simp only [List.append_assoc]
    let named : DatatypeSlots :=
      { source := some d.source, interface := some d.interface, builder := some d.builder,
        generated := some d.generated, value := some d.value }
    let withPartial : DatatypeSlots := { named with partialType := d.slots.partialType }
    let withEnum : DatatypeSlots := { withPartial with propertyEnum := d.slots.propertyEnum }
    let withFactory : DatatypeSlots := { withEnum with factory := d.slots.factory }
    refine (foldlM_members named ?_).trans <| (foldlM_members withPartial ?_).trans <|
      (foldlM_members withEnum ?_).trans <| (foldlM_members withFactory ?_).trans <|
      (foldlM_members { d.slots with visible := none } rfl).trans ?_
    · simp only [List.foldlM_cons, List.foldlM_nil, fillSlot_none (asBool_written _),
        fillSlot_none (decodeClass_written h.source), fillSlot_none (decodeClass_written h.builder),
        fillSlot_none (decodeClass_written h.generated), fillSlot_none (decodeClass_written h.value),
        ok_bind, pure_bind]
      rfl
    · refine foldlM_optionalMember (fun o ↦ { named with partialType := o.map some }) rfl fun c hc ↦ ?_
      simp only [Option.map_none, fillSlot_none (hpartial hc)]
      rfl
    · refine foldlM_optionalMember (fun o ↦ { withPartial with propertyEnum := o.map some }) rfl
        fun name hname ↦ ?_
      simp only [Option.map_none, fillSlot_none (henum hname)]
      rfl
    · refine foldlM_optionalMember (fun o ↦ { withEnum with factory := o.map some }) rfl fun f _ ↦ ?_
      simp only [Option.map_none, fillSlot_none (hfactory f)]
      rfl
    · refine foldlM_listMember (fun o ↦ { d.slots with visible := o }) rfl ?_
      simp only [fillSlot_none hvisible]
      rfl
  · simp only [Datatype.slots, getD_nonempty?, getD_map_some, sortedSet_of_pairwise h.sorted]
    rfl

/-! ## Edits -/

/-- One of the ways to change a datatype. -/
inductive Datatype.Edit where
  | interface (interface : Bool)
  | factory (factory : Option BuilderFactory)
  | serializable (serializable : Bool)
  | extensible (extensible : Bool)
  | withoutEnum
deriving DecidableEq, Repr

def Datatype.Edit.apply (d : Datatype) : Edit → Datatype
  | interface b => d.withInterface b
  | factory f => d.withFactory f
  | serializable b => d.withSerializable b
  | extensible b => d.withExtensible b
  | withoutEnum => d.withoutEnum

/-- The datatype after some edits. -/
def Datatype.edited (d : Datatype) (edits : List Edit) : Datatype := edits.foldl Edit.apply d

namespace Datatype.IsWritable

variable {d : Datatype}

theorem hide (h : d.IsWritable) (name : ClassName) : (d.hide name).IsWritable :=
  { h with
    visible := fun m hm ↦ h.visible m (List.mem_of_mem_filter hm)
    sorted := h.sorted.filter _ }

theorem reveal (h : d.IsWritable) {name : ClassName} (hname : name.IsRead) :
    (d.reveal name).IsWritable :=
  { h with
    visible := by
      intro m hm
      rcases mem_insertSorted.mp hm with rfl | hm
      · exact hname
      · exact h.visible m hm
    sorted := pairwise_insertSorted (fun m hm ↦ hname.lt_of_ne_of_not_lt (h.visible m hm)) h.sorted }

theorem withExtensible (h : d.IsWritable) (extensible : Bool) :
    (d.withExtensible extensible).IsWritable := by
  unfold Datatype.withExtensible
  split
  · exact { h.hide _ with partialType := nofun }
  · have hpartial := h.generated.nested "Partial" (by decide)
    exact { h.reveal hpartial with partialType := by rintro _ ⟨⟩; exact hpartial }
  · exact { h with }

theorem withoutEnum (h : d.IsWritable) : d.withoutEnum.IsWritable := by
  unfold Datatype.withoutEnum
  split
  · exact { h.hide _ with propertyEnum := nofun }
  · exact h

/-- No edit takes away that a datatype can be written. -/
theorem apply (h : d.IsWritable) (edit : Edit) : (edit.apply d).IsWritable := by
  cases edit with
  | interface b => exact { h with }
  | factory f => exact { h with }
  | serializable b => exact { h with }
  | extensible b => exact h.withExtensible b
  | withoutEnum => exact h.withoutEnum

theorem edited (h : d.IsWritable) (edits : List Edit) : (d.edited edits).IsWritable := by
  induction edits generalizing d with
  | nil => exact h
  | cons edit edits ih => exact ih (h.apply edit)

theorem standard {c : GenericClass} (h : c.name.IsRead) : (Datatype.standard c).IsWritable := by
  have hgenerated := h.top_generatedName
  have hbuilder := h.nested "Builder" (by decide)
  have hvalue := hgenerated.nested "Value" (by decide)
  have hpartial := hgenerated.nested "Partial" (by decide)
  have henum := hgenerated.nested "Property" (by decide)
  have hread : ∀ name ∈ (Datatype.standard c).visible, name.IsRead := by
    intro name hname
    simp only [Datatype.standard, mem_sortedSet, List.mem_cons, List.not_mem_nil, or_false] at hname
    rcases hname with rfl | rfl | rfl | rfl <;> assumption
  refine ⟨h, hbuilder, hgenerated, hvalue, ?_, ?_, hread, ?_⟩
  · rintro _ ⟨⟩
    exact hpartial
  · rintro _ ⟨⟩
    exact henum
  · exact pairwise_sortedSet fun a ha b hb ↦
      (hread a (mem_sortedSet.mpr ha)).lt_of_ne_of_not_lt (hread b (mem_sortedSet.mpr hb))

end Datatype.IsWritable

/-- The datatype of a descriptor is a standard one that has been edited. -/
theorem Descriptor.conventional_eq_edited (d : Descriptor) :
    d.conventional = (Datatype.standard ⟨d.type, d.typeParameters⟩).edited
      [.interface d.interface, .factory d.factory, .serializable d.serializable,
        .extensible d.extensible] := rfl

/-! ## Texts -/

/-- **What is written of a descriptor or of its datatype is read again.** -/
theorem ofText_text_json {text : String} {d : Descriptor} (h : Descriptor.ofText text = .ok d) :
    Descriptor.ofText d.json.text = .ok d ∧
      (∀ config, Builder.generate config <$> Descriptor.ofText d.json.text =
        .ok (Builder.generate config d)) ∧
      ∃ t, d.datatype = .ok t ∧
        ∀ edits, Datatype.ofText (t.edited edits).json.text = .ok (t.edited edits) := by
  have hd := Descriptor.isDecoded_of_ofText h
  have hread : Descriptor.ofText d.json.text = .ok d := by
    rw [Descriptor.ofText, decodeText_text, decodeDescriptor_written hd]
  refine ⟨hread, fun config ↦ ?_, d.conventional, d.datatype_eq, fun edits ↦ ?_⟩
  · rw [hread]
    rfl
  · have hstandard : (Datatype.standard ⟨d.type, d.typeParameters⟩).IsWritable := .standard hd.type
    rw [Datatype.ofText, decodeText_text, d.conventional_eq_edited]
    exact decodeDatatype_written ((hstandard.edited _).edited edits)

/-- A descriptor without a builder factory, of a property with an annotation, a default and an accessor
that follows no convention. -/
theorem ofText_text_json_withoutFactory :
    ∃ d, Descriptor.ofText ("\x7b\"type\":\"A\",\"builderFactory\":null,\"properties\":[" ++
        "\x7b\"name\":\"x\",\"type\":\"int\",\"getterName\":\"y\"," ++
        "\"annotations\":[\x7b\"name\":\"N\",\"element_values\":\x7b\"v\":\"1\"\x7d\x7d]," ++
        "\"default\":\x7b\"kind\":\"constructor\"\x7d\x7d]\x7d") = .ok d ∧
      d.factory = none ∧ Descriptor.ofText d.json.text = .ok d := by
  have h : Descriptor.ofText ("\x7b\"type\":\"A\",\"builderFactory\":null,\"properties\":[" ++
      "\x7b\"name\":\"x\",\"type\":\"int\",\"getterName\":\"y\"," ++
      "\"annotations\":[\x7b\"name\":\"N\",\"element_values\":\x7b\"v\":\"1\"\x7d\x7d]," ++
      "\"default\":\x7b\"kind\":\"constructor\"\x7d\x7d]\x7d") =
      .ok ⟨.top [] "A", [], false, none, false, true,
        [⟨(Property.of "x" (.primitive .int)).withGetter "y", [⟨.top [] "N", [("v", "1")]⟩], none,
          some .constructor⟩]⟩ := by
    decide +kernel
  exact ⟨_, h, rfl, (ofText_text_json h).1⟩

end Model

end JavaBuilder
