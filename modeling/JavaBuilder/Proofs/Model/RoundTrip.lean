import JavaBuilder.Builder.Assembly
import JavaBuilder.Proofs.Json.Written
import JavaBuilder.Proofs.Model.Decoded

/-!
# Descriptors and datatypes, written and read

Writing and reading are not each other's mirror image. A property is written with all that follows from
it, and read from four of its members; what is empty or absent is left out in one place and written as
null in another, and each record has defaults of its own. They are inverse all the same on what has been
decoded, since there the names and types are those that text can express, what is sorted is sorted, and
what is derived is derived again.

A record is read member by member into slots, so each record is followed through its members in the order
in which they are written. What is left out leaves its slot empty, and an empty slot is filled in with just
what was left out.
-/

namespace JavaBuilder

open Java Json Text

namespace Json

variable {ε α σ : Type}

/-! ## Written values -/

theorem walkMembers_written (step : σ → String → Reading → Except (Fault ε) σ) (s : σ)
    (ms : List (String × Value)) : walkMembers step s (Value.readingMembers ms) =
      ms.foldlM (fun s m ↦ step s m.1 m.2.reading) s := by
  induction ms generalizing s with
  | nil => rfl
  | cons m ms ih =>
    rw [Value.readingMembers, walkMembers, List.foldlM_cons]
    exact bind_congr fun s ↦ ih s

theorem asRecord_written {fields : List String} {start : σ}
    {step : σ → String → Reading → Except (Fault ε) σ}
    {finish : (String → Fault ε) → σ → Except (Fault ε) α} (ms : List (String × Value)) :
    asRecord fields step start finish (Value.object ms).reading =
      ms.foldlM (fun s m ↦ step s m.1 m.2.reading) start >>= finish .missingField := by
  rw [Value.reading, asRecord, walkMembers_written]

theorem asList_written {f : Decoder ε α} {encode : α → Value} {as : List α}
    (h : ∀ a ∈ as, f (encode a).reading = .ok a) :
    asList f (Value.array (as.map encode)).reading = .ok as := by
  rw [Value.reading, asList]
  induction as with
  | nil => rfl
  | cons a as ih =>
    rw [List.forall_mem_cons] at h
    rw [List.map_cons, Value.readingItems, decodeItems, h.1, ih h.2]
    rfl

theorem asOption_of_ne_null {f : Decoder ε α} {r : Reading} {a : α} (hne : r ≠ .null)
    (h : f r = .ok a) : asOption f r = .ok (some a) := by
  unfold asOption
  split
  · exact absurd rfl hne
  · rw [h]
    rfl

end Json

namespace Model

/-! ## Names and types -/

theorem decodeName_written {n : ClassName} (h : n.IsRead) : decodeName (nameJson n).reading = .ok n := by
  have hparse := ClassName.parse?_text_iff.mpr (ClassName.isRead_iff.mp h)
  simp [decodeName, nameJson, asText, asString, hparse, bind, Except.bind, pure, Except.pure]

theorem decodeType_written {t : TypeRef} (h : t.IsOfText) :
    decodeType (typeJson t).reading = .ok t := by
  rw [typeJson, Value.reading, decodeType]
  exact congrArg Except.ok h.ofText_text

theorem asBool_written (b : Bool) : (asBool : Dec Bool) (Value.bool b).reading = .ok b := rfl

theorem decodeFactory_written (f : BuilderFactory) : decodeFactory f.json.reading = .ok f := by
  cases f <;> rfl

theorem decodeStrings_written (ss : List String) :
    (asList asString : Dec (List String)) (Value.array (ss.map .string)).reading = .ok ss :=
  asList_written fun _ _ ↦ rfl

/-! ## Members -/

def nonempty? {α : Type} (as : List α) : Option (List α) := if as.isEmpty then none else some as

theorem getD_nonempty? {α : Type} (as : List α) : (nonempty? as).getD [] = as := by
  cases as <;> rfl

theorem getD_map_some {α : Type} (o : Option α) : (o.map some).getD none = o := by
  cases o <;> rfl

theorem fillSlot_none {ε α : Type} {name : String} {f : Decoder ε α} {r : Reading} {a : α}
    (h : f r = .ok a) : fillSlot name none f r = .ok (some a) :=
  fillSlot_eq_ok_iff.mpr ⟨rfl, a, h, rfl⟩

section

variable {ε α σ : Type} {step : σ → String × Value → Except ε σ} {s : σ} {key : String}
  {encode : α → Value}

theorem foldlM_member {v : Value} {ms : List (String × Value)} (t : σ) (h : step s (key, v) = .ok t) :
    ((key, v) :: ms).foldlM step s = ms.foldlM step t := by
  rw [List.foldlM_cons, h]
  rfl

theorem foldlM_members {ms ns : List (String × Value)} (t : σ) (h : ms.foldlM step s = .ok t) :
    (ms ++ ns).foldlM step s = ns.foldlM step t := by
  rw [List.foldlM_append, h]
  rfl

/-- A list member leaves its slot empty where the list is. -/
theorem foldlM_listMember {as : List α} (fill : Option (List α) → σ) (hs : s = fill none)
    (hstep : step s (key, .array (as.map encode)) = .ok (fill (some as))) :
    (listMember key (as.map encode)).foldlM step s = .ok (fill (nonempty? as)) := by
  cases as with
  | nil => exact congrArg Except.ok hs
  | cons a as => exact (foldlM_member _ hstep).trans rfl

/-- A member for what may be absent leaves its slot empty where it is. -/
theorem foldlM_optionalMember {o : Option α} (fill : Option α → σ) (hs : s = fill none)
    (hstep : ∀ a ∈ o, step s (key, encode a) = .ok (fill (some a))) :
    (optionalMember key (o.map encode)).foldlM step s = .ok (fill o) := by
  cases o with
  | none => exact congrArg Except.ok hs
  | some a => exact (foldlM_member _ (hstep a rfl)).trans rfl

end

/-! ## Annotations, buildable types and defaults -/

theorem decodeElements_written {es : List (String × String)}
    (h : (es.map (·.1)).Pairwise (· < ·)) :
    decodeElements (Value.object (es.map fun e ↦ (e.1, .string e.2))).reading = .ok es := by
  have hput : ∀ fs : List (String × String),
      (es.map fun e ↦ (e.1, Value.string e.2)).foldlM
          (fun fs m ↦ do return putSorted m.1 (← asString m.2.reading) fs) fs =
        (Except.ok (es.foldl (fun fs e ↦ putSorted e.1 e.2 fs) fs) : Except DecodeFault _) := by
    clear h
    induction es with
    | nil => exact fun _ ↦ rfl
    | cons e es ih =>
      intro fs
      rw [List.map_cons, List.foldl_cons, ← ih]
      exact foldlM_member _ rfl
  rw [Value.reading, decodeElements, asTable, walkMembers_written, hput,
    foldl_putSorted_of_pairwise h, List.nil_append]

theorem decodeAnnotation_written {a : Annotation} (h : a.IsDecoded) :
    decodeAnnotation a.json.reading = .ok a := by
  rw [ decodeAnnotation, Annotation.json, asRecord_written]
  refine bind_eq_ok.mpr ⟨⟨some a.name, nonempty? a.elements⟩, ?_, ?_⟩
  · refine (foldlM_member ⟨some a.name, none⟩ ?_).trans ?_
    · simp only [fillSlot_none (decodeName_written h.name)]
      rfl
    · rw [nonempty?]
      split
      · rfl
      · refine (foldlM_member ⟨some a.name, some a.elements⟩ ?_).trans rfl
        simp only [fillSlot_none (decodeElements_written h.elements)]
        rfl
  · simp only [getD_nonempty?]
    rfl

theorem decodeBuildable_written {b : Buildable} (h : b.builder.IsOfText) :
    decodeBuildable b.json.reading = .ok b := by
  rw [decodeBuildable, Buildable.json, asRecord_written]
  refine bind_eq_ok.mpr ⟨⟨some b.builder, some b.factory, some b.supportsPartial⟩, ?_, rfl⟩
  refine (foldlM_member ⟨some b.builder, none, none⟩ ?_).trans
    ((foldlM_member ⟨some b.builder, some b.factory, none⟩ ?_).trans (foldlM_member _ ?_))
  · simp only [fillSlot_none (decodeType_written h)]
    rfl
  · simp only [fillSlot_none (decodeFactory_written b.factory)]
    rfl
  · rfl

theorem decodeDefault_written (room : Nat) (s : DefaultSource) :
    decodeDefault room s.json.reading = .ok s := by
  cases s <;> rfl

/-! ## Declarations -/

/-- The members of a property, as they are kept for it. -/
def Property.kept (p : Property) : List (String × Reading) := p.members.map fun m ↦ (m.1, m.2.reading)

/-- The property that is derived again has no faults. -/
theorem Property.IsDecoded.check_derived {p : Property} (h : p.IsDecoded) :
    (((Property.of p.name p.type).withBean p.bean).withGetter p.getter).check = .ok () := by
  rw [← h.derived, h.check]

/-- What is derived from a property is passed over, and derived again. -/
theorem decodeProperty_kept {p : Property} (h : p.IsDecoded) : decodeProperty p.kept = .ok p := by
  refine bind_eq_ok.mpr ⟨⟨some p.name, some p.type, some (some p.getter), some p.bean⟩, ?_, ?_⟩
  · cases hboxed : p.boxed
    all_goals
      simp [Property.kept, Property.members, optionalMember, hboxed, decodeType_written h.type, fillSlot,
        asString, asOption, asBool, Functor.map, Except.map]
  · simp only [require, ok_bind, Option.getD_some, Option.elim_some, h.check_derived]
    exact congrArg Except.ok h.derived.symm

/-- What the slots of a written declaration hold in the end. -/
def Declaration.slots (d : Declaration) : DeclarationSlots where
  annotations := nonempty? d.annotations
  buildable := d.buildable.map some
  default := d.default.map some
  kept := d.property.kept.reverse

theorem decodeDeclaration_written {d : Declaration} (h : d.IsDecoded) (room : Nat) :
    decodeDeclaration room d.json.reading = .ok d := by
  have hannotations := asList_written fun a ha ↦ decodeAnnotation_written (h.annotations a ha)
  have hbuildable {b : Buildable} (hb : b ∈ d.buildable) :=
    asOption_of_ne_null (by simp [Buildable.json]) (decodeBuildable_written (h.builder b hb))
  have hdefault (s : DefaultSource) :=
    asOption_of_ne_null (by cases s <;> simp [DefaultSource.json]) (decodeDefault_written (room - 1) s)
  rw [decodeDeclaration, Declaration.json, Value.reading, asTable, walkMembers_written]
  refine bind_eq_ok.mpr ⟨d.slots, ?_, ?_⟩
  · simp only [List.append_assoc]
    let withProperty : DeclarationSlots := { kept := d.slots.kept }
    let withAnnotations : DeclarationSlots := { withProperty with annotations := d.slots.annotations }
    refine (foldlM_members withProperty ?_).trans <| (foldlM_members withAnnotations ?_).trans <|
      (foldlM_members { d.slots with default := none } ?_).trans ?_
    · -- none of these members is the declaration's own, so all are kept, and the latest comes first
      cases hboxed : d.property.boxed
      all_goals
        simp only [Property.members, optionalMember, typeJson, hboxed, Declaration.slots, Property.kept,
          withProperty]
        rfl
    · refine foldlM_listMember (fun o ↦ { withProperty with annotations := o }) rfl ?_
      simp only [fillSlot_none hannotations]
      rfl
    · refine foldlM_optionalMember (fun o ↦ { withAnnotations with buildable := o.map some }) rfl
        fun b hb ↦ ?_
      simp only [Option.map_none, fillSlot_none (hbuildable hb)]
      rfl
    · refine foldlM_optionalMember (fun o ↦ { d.slots with default := o.map some }) rfl fun s _ ↦ ?_
      simp only [Option.map_none, fillSlot_none (hdefault s)]
      rfl
  · simp only [Declaration.slots, List.reverse_reverse, decodeProperty_kept h.property, getD_nonempty?,
      getD_map_some]
    rfl

/-! ## Descriptors -/

/-- What the slots of a written descriptor hold in the end. -/
def Descriptor.slots (d : Descriptor) : DescriptorSlots where
  type := some d.type
  typeParameters := nonempty? d.typeParameters
  interface := some d.interface
  factory := some d.factory
  serializable := some d.serializable
  extensible := some d.extensible
  properties := some d.properties

theorem asOption_decodeFactory_written (o : Option BuilderFactory) :
    asOption decodeFactory (o.elim .null (·.json)).reading = .ok o := by
  cases o with
  | none => rfl
  | some f => exact asOption_of_ne_null (by simp [BuilderFactory.json]) (decodeFactory_written f)

theorem decodeDescriptor_written {d : Descriptor} (h : d.IsDecoded) :
    decodeDescriptor d.json.reading = .ok d := by
  have hproperties := asList_written fun p hp ↦
    decodeDeclaration_written (h.properties p hp) (maxDepth - 3)
  rw [decodeDescriptor, Descriptor.json, asRecord_written]
  refine bind_eq_ok.mpr ⟨d.slots, ?_, ?_⟩
  · simp only [List.append_assoc]
    let named : DescriptorSlots := { type := some d.type }
    let withParameters : DescriptorSlots := { named with typeParameters := d.slots.typeParameters }
    refine (foldlM_members named ?_).trans <| (foldlM_members withParameters ?_).trans ?_
    · refine foldlM_member _ ?_
      simp only [fillSlot_none (decodeName_written h.type)]
      rfl
    · refine foldlM_listMember (fun o ↦ { named with typeParameters := o }) rfl ?_
      simp only [fillSlot_none (decodeStrings_written d.typeParameters)]
      rfl
    · simp only [List.foldlM_cons, List.foldlM_nil, fillSlot_none (asBool_written _),
        fillSlot_none (asOption_decodeFactory_written d.factory), fillSlot_none hproperties, ok_bind,
        pure_bind, withParameters, named]
      rfl
  · simp only [Descriptor.slots, getD_nonempty?]
    rfl

end Model

end JavaBuilder
