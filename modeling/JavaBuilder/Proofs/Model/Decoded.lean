import JavaBuilder.Model.Decode
import JavaBuilder.Proofs.Json.Decoding
import JavaBuilder.Proofs.Text.Order
import JavaBuilder.Proofs.TypeText.RoundTrip

/-!
# What a decoded descriptor is

A descriptor that comes from a text is no arbitrary one. Its class names and types have been read from
text, the elements of an annotation are sorted by their keys, and a property is the one that follows from
its name, its type, its convention and its accessor, and has been checked. None of this depends on the
text, and all that is proved about decoded descriptors is proved from it.
-/

namespace JavaBuilder

open Java Json Text

namespace Java.TypeRef

/-- The type has been read from text. -/
def IsOfText (t : TypeRef) : Prop := ∃ s, t = ofText s

theorem IsOfText.ofText_text {t : TypeRef} (h : t.IsOfText) : ofText t.text = t := by
  obtain ⟨s, rfl⟩ := h
  rcases ofText_cases s with ⟨ls, -, hderives⟩ | ⟨hkept, -⟩
  · exact hderives.expressible.ofText_text
  · rw [hkept]
    exact ofText_trim_of_kept hkept

/-- A read type has no unresolved text in it, unless it is such text. -/
theorem IsOfText.isResolved {t : TypeRef} (h : t.IsOfText) (hne : ∀ s, t ≠ unresolved s) :
    t.isResolved = true := by
  obtain ⟨s, rfl⟩ := h
  rcases ofText_cases s with ⟨ls, -, hderives⟩ | ⟨hkept, -⟩
  · exact hderives.expressible.isResolved
  · exact absurd hkept (hne _)

end Java.TypeRef

namespace Model

/-! ## Decoded parts -/

structure Annotation.IsDecoded (a : Annotation) : Prop where
  name : a.name.IsRead
  elements : (a.elements.map (·.1)).Pairwise (· < ·)

structure Property.IsDecoded (p : Property) : Prop where
  type : p.type.IsOfText
  derived : p = ((Property.of p.name p.type).withBean p.bean).withGetter p.getter
  check : p.check = .ok ()

structure Declaration.IsDecoded (d : Declaration) : Prop where
  property : d.property.IsDecoded
  annotations : ∀ a ∈ d.annotations, a.IsDecoded
  builder : ∀ b ∈ d.buildable, b.builder.IsOfText

structure Descriptor.IsDecoded (d : Descriptor) : Prop where
  type : d.type.IsRead
  properties : ∀ p ∈ d.properties, p.IsDecoded

/-! ## Decoding parts -/

theorem gives_decodeName : decodeName.Gives ClassName.IsRead := by
  refine .asText fun s n h ↦ ?_
  split at h
  · next m hm => exact ⟨s, Except.ok.inj h ▸ hm⟩
  · cases h

theorem gives_decodeType : decodeType.Gives TypeRef.IsOfText := by
  intro r t h
  obtain ⟨s, -, rfl⟩ := map_eq_ok.mp h
  exact ⟨s, rfl⟩

theorem gives_decodeElements :
    decodeElements.Gives fun es ↦ (es.map (·.1)).Pairwise (· < ·) := by
  refine .asTable (fun es key r es' h hes ↦ ?_) .nil
  obtain ⟨v, -, h⟩ := bind_eq_ok.mp h
  exact Except.ok.inj h ▸ pairwise_putSorted hes

/-- The invariant of the slots of an annotation. -/
private structure AnnotationSlots.Fits (s : AnnotationSlots) : Prop where
  name : ∀ n ∈ s.name, n.IsRead
  elements : ∀ es ∈ s.elements, (es.map (·.1)).Pairwise (· < ·)

theorem gives_decodeAnnotation : decodeAnnotation.Gives Annotation.IsDecoded := by
  refine .asRecord (I := AnnotationSlots.Fits) ?_ ⟨by simp, by simp⟩ ?_
  · intro s key r s' h hs
    split at h
    · obtain ⟨n, hn, h⟩ := bind_eq_ok.mp h
      exact Except.ok.inj h ▸ { hs with name := gives_decodeName.of_fillSlot hn }
    · obtain ⟨es, hes, h⟩ := bind_eq_ok.mp h
      exact Except.ok.inj h ▸ { hs with elements := gives_decodeElements.of_fillSlot hes }
    · obtain ⟨_, -, h⟩ := bind_eq_ok.mp h
      exact Except.ok.inj h ▸ hs
  · intro missing s a h hs
    obtain ⟨n, hn, h⟩ := bind_eq_ok.mp h
    obtain rfl := Except.ok.inj h
    refine ⟨hs.name n (require_eq_ok_iff.mp hn), ?_⟩
    cases helements : s.elements with
    | none => exact .nil
    | some es => exact hs.elements es helements

theorem gives_decodeBuildable : decodeBuildable.Gives fun b ↦ b.builder.IsOfText := by
  refine .asRecord (I := fun s ↦ ∀ t ∈ s.builder, TypeRef.IsOfText t) ?_ (by simp) ?_
  · intro s key r s' h hs
    split at h
    · obtain ⟨t, ht, h⟩ := bind_eq_ok.mp h
      exact Except.ok.inj h ▸ gives_decodeType.of_fillSlot ht
    · obtain ⟨_, -, h⟩ := bind_eq_ok.mp h
      exact Except.ok.inj h ▸ hs
    · obtain ⟨_, -, h⟩ := bind_eq_ok.mp h
      exact Except.ok.inj h ▸ hs
    · cases h
  · intro missing s b h hs
    obtain ⟨t, ht, h⟩ := bind_eq_ok.mp h
    exact Except.ok.inj h ▸ hs t (require_eq_ok_iff.mp ht)

/-! ## Properties and declarations -/

/-- Whether the accessor is named or not, the property follows from its parts. -/
private theorem Property.derived_elim (name : String) (type : TypeRef) (bean : Bool)
    (getter : Option String) :
    let p := (Property.of name type).withBean bean
    let q := getter.elim p p.withGetter
    q = ((Property.of q.name q.type).withBean q.bean).withGetter q.getter ∧ q.type = type := by
  cases getter <;> exact ⟨rfl, rfl⟩

theorem isDecoded_of_decodeProperty {fields : List (String × Reading)} {p : Property}
    (h : decodeProperty fields = .ok p) : p.IsDecoded := by
  obtain ⟨s, hs, h⟩ := bind_eq_ok.mp h
  have hslots : ∀ t ∈ s.type, TypeRef.IsOfText t := by
    refine foldlM_invariant (I := fun s : PropertySlots ↦ ∀ t ∈ s.type, TypeRef.IsOfText t) ?_ hs
      (by simp)
    -- Of all members, only that of the type touches the type.
    rintro s ⟨key, r⟩ s' h hs
    simp only at h
    split at h
    · obtain ⟨_, -, h⟩ := bind_eq_ok.mp h
      exact Except.ok.inj h ▸ hs
    · obtain ⟨t, ht, h⟩ := bind_eq_ok.mp h
      exact Except.ok.inj h ▸ gives_decodeType.of_fillSlot ht
    · obtain ⟨_, -, h⟩ := bind_eq_ok.mp h
      exact Except.ok.inj h ▸ hs
    · obtain ⟨_, -, h⟩ := bind_eq_ok.mp h
      exact Except.ok.inj h ▸ hs
    · exact Except.ok.inj h ▸ hs
  obtain ⟨name, -, h⟩ := bind_eq_ok.mp h
  obtain ⟨type, htype, h⟩ := bind_eq_ok.mp h
  have hread := hslots type (require_eq_ok_iff.mp htype)
  obtain ⟨hderived, hkept⟩ := Property.derived_elim name type (s.bean.getD true) (s.getter.getD none)
  simp only at h
  split at h
  · next hcheck =>
    obtain rfl := Except.ok.inj h
    exact ⟨hkept.symm ▸ hread, hderived, hcheck⟩
  · cases h

/-- The invariant of the slots of a declaration. Nothing is known of the fields kept for later. -/
private structure DeclarationSlots.Fits (s : DeclarationSlots) : Prop where
  annotations : ∀ as ∈ s.annotations, ∀ a ∈ as, a.IsDecoded
  buildable : ∀ o ∈ s.buildable, ∀ b ∈ o, b.builder.IsOfText

theorem gives_decodeDeclaration (room : Nat) :
    (decodeDeclaration room).Gives Declaration.IsDecoded := by
  intro r d h
  obtain ⟨s, hs, h⟩ := bind_eq_ok.mp h
  have hslots : s.Fits := by
    refine Decoder.Gives.asTable (I := DeclarationSlots.Fits) ?_ ⟨by simp, by simp⟩ hs
    intro s key r s' h hs
    split at h
    · obtain ⟨as, has, h⟩ := bind_eq_ok.mp h
      exact Except.ok.inj h ▸ { hs with annotations := gives_decodeAnnotation.asList.of_fillSlot has }
    · obtain ⟨o, ho, h⟩ := bind_eq_ok.mp h
      exact Except.ok.inj h ▸ { hs with buildable := gives_decodeBuildable.asOption.of_fillSlot ho }
    · obtain ⟨_, -, h⟩ := bind_eq_ok.mp h
      exact Except.ok.inj h ▸ ⟨hs.annotations, hs.buildable⟩
    · split at h
      · exact Except.ok.inj h ▸ ⟨hs.annotations, hs.buildable⟩
      · cases h
  obtain ⟨p, hp, h⟩ := bind_eq_ok.mp h
  obtain rfl := Except.ok.inj h
  refine ⟨isDecoded_of_decodeProperty hp, ?_, ?_⟩
  · cases hannotations : s.annotations with
    | none => exact nofun
    | some as => exact hslots.annotations as hannotations
  · cases hbuildable : s.buildable with
    | none => exact nofun
    | some o => exact hslots.buildable o hbuildable

/-! ## Descriptors -/

/-- The invariant of the slots of a descriptor. -/
private structure DescriptorSlots.Fits (s : DescriptorSlots) : Prop where
  type : ∀ n ∈ s.type, n.IsRead
  properties : ∀ ds ∈ s.properties, ∀ d ∈ ds, d.IsDecoded

theorem gives_decodeDescriptor : decodeDescriptor.Gives Descriptor.IsDecoded := by
  refine .asRecord (I := DescriptorSlots.Fits) ?_ ⟨by simp, by simp⟩ ?_
  · intro s key r s' h hs
    split at h
    · obtain ⟨n, hn, h⟩ := bind_eq_ok.mp h
      exact Except.ok.inj h ▸ { hs with type := gives_decodeName.of_fillSlot hn }
    iterate 5
      · obtain ⟨_, -, h⟩ := bind_eq_ok.mp h
        exact Except.ok.inj h ▸ ⟨hs.type, hs.properties⟩
    · obtain ⟨ds, hds, h⟩ := bind_eq_ok.mp h
      exact Except.ok.inj h ▸
        { hs with properties := (gives_decodeDeclaration _).asList.of_fillSlot hds }
    · cases h
  · intro missing s d h hs
    obtain ⟨n, hn, h⟩ := bind_eq_ok.mp h
    obtain rfl := Except.ok.inj h
    refine ⟨hs.type n (require_eq_ok_iff.mp hn), ?_⟩
    cases hproperties : s.properties with
    | none => exact nofun
    | some ds => exact hs.properties ds hproperties

/-- **What is known of a descriptor that a text gives.** -/
theorem Descriptor.isDecoded_of_ofText {text : String} {d : Descriptor}
    (h : Descriptor.ofText text = .ok d) : d.IsDecoded :=
  gives_decodeDescriptor (decodeText_eq_ok_iff.mp h).1

end Model

end JavaBuilder
