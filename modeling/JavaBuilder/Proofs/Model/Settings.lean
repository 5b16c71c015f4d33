import Mathlib.Data.List.Sort
import JavaBuilder.Proofs.Model.Edits

/-!
# What edits come to

The standard datatype of a source type can be edited step by step. Two of the steps touch several fields
at once: making a type extensible or not changes its flag, its partial class and the classes in scope, and
removing the enum of required properties changes the classes in scope as well. `IsConventional` says what
a datatype with given settings has to be, in all its fields, so that there is only one.

A step takes the conventional datatype of some settings to that of the changed settings. So a sequence of
steps comes to the conventional datatype of the values that were given last, in whatever order the steps
were made and however often.
-/

namespace JavaBuilder.Java.ClassName

open Text

theorem nested_ne_nested {a b : ClassName} {x y : String} (h : x ≠ y) : a.nested x ≠ b.nested y := by
  intro heq
  have hsimple := congrArg simpleName heq
  rw [simpleName_nested, simpleName_nested] at hsimple
  exact h hsimple

end JavaBuilder.Java.ClassName

namespace JavaBuilder.Model

open Java Text

/-! ## Settings -/

/-- What can be said of a datatype by edits. -/
structure Datatype.Settings where
  interface : Bool
  factory : Option BuilderFactory
  serializable : Bool
  extensible : Bool
  /-- The enum of required properties is there. -/
  hasEnum : Bool
deriving DecidableEq, Repr

namespace Datatype

/-- The settings that edits can change. -/
inductive Setting where
  | interface
  | factory
  | serializable
  | extensible
  | hasEnum
deriving DecidableEq, Repr

namespace Edit

def setting : Edit → Setting
  | interface _ => .interface
  | factory _ => .factory
  | serializable _ => .serializable
  | extensible _ => .extensible
  | withoutEnum => .hasEnum

/-- The value that an edit gives to the flag of interfaces. -/
def interface? : Edit → Option Bool
  | interface b => some b
  | _ => none

/-- The value that an edit gives to the builder factory. -/
def factory? : Edit → Option (Option BuilderFactory)
  | factory f => some f
  | _ => none

/-- The value that an edit gives to the flag of serializable builders. -/
def serializable? : Edit → Option Bool
  | serializable b => some b
  | _ => none

/-- The value that an edit gives to the flag of extensible types. -/
def extensible? : Edit → Option Bool
  | extensible b => some b
  | _ => none

end Edit

/-- The last value that edits give to a flag, or the first value that it has. -/
def lastValue {α : Type} (value? : Edit → Option α) (first : α) (edits : List Edit) : α :=
  (edits.reverse.findSome? value?).getD first

namespace Settings

/-- The settings of a standard datatype after some edits. -/
def after (edits : List Edit) : Settings where
  interface := lastValue Edit.interface? false edits
  factory := lastValue Edit.factory? (some .constructor) edits
  serializable := lastValue Edit.serializable? false edits
  extensible := lastValue Edit.extensible? true edits
  hasEnum := decide (.withoutEnum ∉ edits)

/-- The settings after one more edit. -/
def change (s : Settings) : Edit → Settings
  | .interface interface => { s with interface }
  | .factory factory => { s with factory }
  | .serializable serializable => { s with serializable }
  | .extensible extensible => { s with extensible }
  | .withoutEnum => { s with hasEnum := false }

end Settings

theorem lastValue_concat {α : Type} (value? : Edit → Option α) (first : α) (edits : List Edit)
    (e : Edit) : lastValue value? first (edits ++ [e]) =
      (value? e).getD (lastValue value? first edits) := by
  rw [lastValue, List.reverse_concat, List.findSome?_cons]
  cases value? e <;> rfl

namespace Settings

/-- Only the last values count. -/
theorem after_concat (edits : List Edit) (e : Edit) :
    after (edits ++ [e]) = (after edits).change e := by
  cases e <;> simp [after, change, lastValue_concat, Edit.interface?, Edit.factory?,
    Edit.serializable?, Edit.extensible?]

theorem change_comm (s : Settings) {e e' : Edit} (h : e.setting ≠ e'.setting) :
    (s.change e).change e' = (s.change e').change e := by
  cases e <;> cases e' <;> first | rfl | exact absurd rfl h

theorem change_change (s : Settings) (e : Edit) : (s.change e).change e = s.change e := by
  cases e <;> rfl

end Settings

/-! ## Conventional datatypes -/

/-- The classes nested in the generated builder are different ones, and what has type parameters has
those of the source type. An enum has none. -/
structure NestsClasses (c : GenericClass) (d : Datatype) : Prop where
  topLevel : d.generated.name.isTopLevel = true
  distinct : d.nestedNames.Nodup
  enclosing : ∀ name ∈ d.nestedNames, name.enclosing? = some d.generated.name
  params : ∀ x ∈ d.source :: d.builder :: d.generated :: d.value :: d.partialType.toList,
    x.params = c.params

/-- The datatype of a source type with these settings, named by convention. -/
structure IsConventional (c : GenericClass) (s : Settings) (d : Datatype) : Prop where
  source : d.source = c
  builder : d.builder = c.sibling (c.name.nested "Builder")
  generated : d.generated = c.sibling (.top c.name.package (generatedName c.name))
  value : d.value = c.sibling (d.generated.name.nested "Value")
  partialType : d.partialType =
    if s.extensible then some (c.sibling (d.generated.name.nested "Partial")) else none
  propertyEnum : d.propertyEnum =
    if s.hasEnum then some (d.generated.name.nested "Property") else none
  interface : d.interface = s.interface
  factory : d.factory = s.factory
  serializable : d.serializable = s.serializable
  extensible : d.extensible = s.extensible
  /-- Nothing but the builder and the classes nested in the generated one is in scope. -/
  visible : ∀ name, name ∈ d.visible ↔ name = d.builder.name ∨ name ∈ d.nestedNames
  sorted : d.visible.Pairwise (· < ·)

@[simp] theorem mem_visible_hide_iff {d : Datatype} {hidden name : ClassName} :
    name ∈ (d.hide hidden).visible ↔ name ∈ d.visible ∧ name ≠ hidden := by
  simp [hide]

@[simp] theorem mem_visible_reveal_iff {d : Datatype} {revealed name : ClassName} :
    name ∈ (d.reveal revealed).visible ↔ name = revealed ∨ name ∈ d.visible := by
  simp [reveal]

namespace IsConventional

variable {c : GenericClass} {s : Settings} {d d' : Datatype}

theorem unique (h : d.IsConventional c s) (h' : d'.IsConventional c s) : d = d' := by
  have hgenerated : d.generated = d'.generated := h.generated.trans h'.generated.symm
  have hbuilder : d.builder = d'.builder := h.builder.trans h'.builder.symm
  have hvalue : d.value = d'.value := by rw [h.value, h'.value, hgenerated]
  have hpartial : d.partialType = d'.partialType := by
    rw [h.partialType, h'.partialType, hgenerated]
  have henum : d.propertyEnum = d'.propertyEnum := by
    rw [h.propertyEnum, h'.propertyEnum, hgenerated]
  have hnested : d.nestedNames = d'.nestedNames := by
    rw [nestedNames, nestedNames, hvalue, hpartial, henum]
  -- Sorted lists with the same members are the same list.
  have hvisible : d.visible = d'.visible := by
    refine h.sorted.eq_of_mem_iff h'.sorted fun name ↦ ?_
    rw [h.visible, h'.visible, hbuilder, hnested]
  cases d
  cases d'
  simp only [Datatype.mk.injEq]
  exact ⟨h.source.trans h'.source.symm, h.interface.trans h'.interface.symm, hbuilder, hgenerated,
    hvalue, hpartial, henum, h.factory.trans h'.factory.symm, h.serializable.trans h'.serializable.symm,
    h.extensible.trans h'.extensible.symm, hvisible⟩

theorem mem_nestedNames_iff {name : ClassName} : name ∈ d.nestedNames ↔
    name = d.value.name ∨ (∃ p ∈ d.partialType, p.name = name) ∨ d.propertyEnum = some name := by
  simp [nestedNames]

theorem generated_name (h : d.IsConventional c s) :
    d.generated.name = .top c.name.package (generatedName c.name) := by
  rw [h.generated]
  rfl

theorem value_name (h : d.IsConventional c s) :
    d.value.name = d.generated.name.nested "Value" := by
  rw [h.value]
  rfl

theorem name_of_mem_partialType (h : d.IsConventional c s) {p : GenericClass} (hp : p ∈ d.partialType) :
    s.extensible = true ∧ p = c.sibling (d.generated.name.nested "Partial") := by
  rw [h.partialType] at hp
  split at hp
  · next hextensible => exact ⟨hextensible, (Option.some.inj hp).symm⟩
  · cases hp

theorem name_of_mem_propertyEnum (h : d.IsConventional c s) {name : ClassName}
    (hname : d.propertyEnum = some name) :
    s.hasEnum = true ∧ name = d.generated.name.nested "Property" := by
  rw [h.propertyEnum] at hname
  split at hname
  · next henum => exact ⟨henum, (Option.some.inj hname).symm⟩
  · cases hname

/-- All names in scope are of one package, so they can be compared. -/
theorem package_of_mem_visible (h : d.IsConventional c s) {name : ClassName} (hname : name ∈ d.visible) :
    name.package = c.name.package := by
  rcases (h.visible name).mp hname with rfl | hname
  · rw [h.builder]
    rfl
  · rcases mem_nestedNames_iff.mp hname with rfl | ⟨p, hp, rfl⟩ | hname
    · rw [h.value_name, h.generated_name]
      rfl
    · rw [(h.name_of_mem_partialType hp).2, h.generated_name]
      rfl
    · rw [(h.name_of_mem_propertyEnum hname).2, h.generated_name]
      rfl

theorem builder_name (h : d.IsConventional c s) : d.builder.name = c.name.nested "Builder" := by
  rw [h.builder]
  rfl

/-! ## Edits of a conventional datatype -/

/-- A class of another simple name than the builder and the value class stays apart from both. -/
theorem ne_nested (h : d.IsConventional c s) (simple : String) (hbuilder : simple ≠ "Builder")
    (hvalue : simple ≠ "Value") : d.builder.name ≠ d.generated.name.nested simple ∧
      d.value.name ≠ d.generated.name.nested simple := by
  rw [h.builder_name, h.value_name]
  exact ⟨ClassName.nested_ne_nested hbuilder.symm, ClassName.nested_ne_nested hvalue.symm⟩

/-- Without its partial class, a datatype has the classes in scope that it has when that is hidden. -/
theorem dropPartial (h : d.IsConventional c s) {p : GenericClass} (hp : d.partialType = some p) :
    IsConventional c { s with extensible := false }
      { d.hide p.name with extensible := false, partialType := none } := by
  obtain ⟨-, rfl⟩ := h.name_of_mem_partialType hp
  obtain ⟨hbuilder, hvalue⟩ := h.ne_nested "Partial" (by decide) (by decide)
  refine { h with partialType := rfl, extensible := rfl, visible := fun name ↦ ?_, sorted := ?_ }
  · change name ∈ (d.hide _).visible ↔ _
    rw [mem_visible_hide_iff, h.visible, mem_nestedNames_iff, mem_nestedNames_iff, hp]
    constructor
    · rintro ⟨hname | hname | ⟨q, ⟨⟩, rfl⟩ | hname, hne⟩
      · exact .inl hname
      · exact .inr (.inl hname)
      · exact absurd rfl hne
      · exact .inr (.inr (.inr hname))
    · rintro (rfl | rfl | ⟨q, ⟨⟩, -⟩ | hname)
      · exact ⟨.inl rfl, hbuilder⟩
      · exact ⟨.inr (.inl rfl), hvalue⟩
      · obtain ⟨-, rfl⟩ := h.name_of_mem_propertyEnum hname
        exact ⟨.inr (.inr (.inr hname)), ClassName.nested_ne_nested (by decide)⟩
  · exact h.sorted.filter _

/-- With a partial class, it has that in scope besides. -/
theorem addPartial (h : d.IsConventional c s) (hp : d.partialType = none) :
    let p := d.generated.sibling (d.generated.name.nested "Partial")
    IsConventional c { s with extensible := true }
      { d.reveal p.name with extensible := true, partialType := some p } := by
  intro p
  have hsibling : p = c.sibling (d.generated.name.nested "Partial") := by
    simp only [p]
    rw [h.generated]
    rfl
  refine { h with partialType := ?_, extensible := rfl, visible := fun name ↦ ?_, sorted := ?_ }
  · exact congrArg some hsibling
  · change name ∈ (d.reveal _).visible ↔ _
    rw [mem_visible_reveal_iff, h.visible, mem_nestedNames_iff, mem_nestedNames_iff, hp]
    constructor
    · rintro (rfl | hname | hname | ⟨q, ⟨⟩, -⟩ | hname)
      · exact .inr (.inr (.inl ⟨p, rfl, rfl⟩))
      · exact .inl hname
      · exact .inr (.inl hname)
      · exact .inr (.inr (.inr hname))
    · rintro (hname | hname | ⟨q, ⟨⟩, rfl⟩ | hname)
      · exact .inr (.inl hname)
      · exact .inr (.inr (.inl hname))
      · exact .inl rfl
      · exact .inr (.inr (.inr (.inr hname)))
  · refine pairwise_insertSorted (fun name hname ↦ ?_) h.sorted
    refine ClassName.lt_of_ne_of_not_lt fun _ ↦ ?_
    rw [h.package_of_mem_visible hname, hsibling, h.generated_name]
    rfl

theorem extensible_eq_isSome (h : d.IsConventional c s) : s.extensible = d.partialType.isSome := by
  rw [h.partialType]
  cases s.extensible <;> rfl

/-- The partial class is there and in scope exactly while the type is extensible. -/
theorem withExtensible (h : d.IsConventional c s) (b : Bool) :
    (d.withExtensible b).IsConventional c { s with extensible := b } := by
  have hkept (hb : s.extensible = b) :
      IsConventional c { s with extensible := b } { d with extensible := b } :=
    { h with partialType := hb ▸ h.partialType, extensible := rfl }
  rw [h.extensible_eq_isSome] at hkept
  unfold Datatype.withExtensible
  cases hp : d.partialType with
  | some p =>
    rw [hp] at hkept
    cases b with
    | false => exact h.dropPartial hp
    | true => exact hkept rfl
  | none =>
    rw [hp] at hkept
    cases b with
    | false => exact hkept rfl
    | true => exact h.addPartial hp

theorem withoutEnum (h : d.IsConventional c s) :
    d.withoutEnum.IsConventional c { s with hasEnum := false } := by
  unfold Datatype.withoutEnum
  split
  · next name hname =>
    obtain ⟨-, rfl⟩ := h.name_of_mem_propertyEnum hname
    obtain ⟨hbuilder, hvalue⟩ := h.ne_nested "Property" (by decide) (by decide)
    refine { h with propertyEnum := rfl, visible := fun name ↦ ?_, sorted := h.sorted.filter _ }
    change name ∈ (d.hide _).visible ↔ _
    rw [mem_visible_hide_iff, h.visible, mem_nestedNames_iff, mem_nestedNames_iff, hname]
    constructor
    · rintro ⟨hname | hname | hname | ⟨⟨⟩⟩, hne⟩
      · exact .inl hname
      · exact .inr (.inl hname)
      · exact .inr (.inr (.inl hname))
      · exact absurd rfl hne
    · rintro (rfl | rfl | ⟨p, hp, rfl⟩ | ⟨⟨⟩⟩)
      · exact ⟨.inl rfl, hbuilder⟩
      · exact ⟨.inr (.inl rfl), hvalue⟩
      · obtain ⟨-, rfl⟩ := h.name_of_mem_partialType hp
        exact ⟨.inr (.inr (.inl ⟨_, hp, rfl⟩)), ClassName.nested_ne_nested (by decide)⟩
  · next hnone => exact { h with propertyEnum := hnone.trans (by simp) }

/-- **One edit** makes the conventional datatype of the settings that it leaves. -/
theorem apply (h : d.IsConventional c s) (e : Edit) : (e.apply d).IsConventional c (s.change e) := by
  cases e with
  | interface b => exact { h with interface := rfl }
  | factory f => exact { h with factory := rfl }
  | serializable b => exact { h with serializable := rfl }
  | extensible b => exact h.withExtensible b
  | withoutEnum => exact h.withoutEnum

theorem standard (c : GenericClass) : (Datatype.standard c).IsConventional c (.after []) := by
  refine ⟨rfl, rfl, rfl, rfl, rfl, rfl, rfl, rfl, rfl, rfl, fun name ↦ ?_, ?_⟩
  · simp [Datatype.standard, nestedNames, GenericClass.sibling]
  · refine pairwise_sortedSet fun a ha b hb ↦ ClassName.lt_of_ne_of_not_lt fun _ ↦ ?_
    have hpackage : ∀ x ∈ [c.name.nested "Builder",
        (ClassName.top c.name.package (generatedName c.name)).nested "Value",
        (ClassName.top c.name.package (generatedName c.name)).nested "Partial",
        (ClassName.top c.name.package (generatedName c.name)).nested "Property"],
        x.package = c.name.package := by
      simp [ClassName.nested, ClassName.top]
    rw [hpackage a ha, hpackage b hb]

/-- **Any number of edits** make the conventional datatype of the last values. -/
theorem edited (c : GenericClass) (edits : List Edit) :
    ((Datatype.standard c).edited edits).IsConventional c (.after edits) := by
  induction edits using List.reverseRecOn with
  | nil => exact standard c
  | append_singleton edits e ih =>
    rw [Datatype.edited, List.foldl_concat, Settings.after_concat]
    exact ih.apply e

/-! ## What holds of conventional datatypes -/

theorem check_eq (h : d.IsConventional c s) : d.check = .ok () := by
  have hextensible : d.extensible = d.partialType.isSome :=
    h.extensible.trans h.extensible_eq_isSome
  have htop : d.generated.name.isTopLevel = true := by
    rw [h.generated_name]
    rfl
  have hnested : nestedFault? d.generated.name [] d.nestedNames = none := by
    rw [nestedNames, h.value_name, h.partialType, h.propertyEnum]
    cases s.extensible <;> cases s.hasEnum <;> simp [nestedFault?, GenericClass.sibling]
  rw [check, fault?, hextensible, htop, hnested]
  cases d.partialType <;> rfl

theorem nestsClasses (h : d.IsConventional c s) : d.NestsClasses c where
  topLevel := by
    rw [h.generated_name]
    rfl
  distinct := by
    rw [nestedNames, h.value_name, h.partialType, h.propertyEnum]
    cases s.extensible <;> cases s.hasEnum <;>
      simp +decide [GenericClass.sibling, ClassName.nested_ne_nested]
  enclosing := by
    intro name hname
    rcases mem_nestedNames_iff.mp hname with rfl | ⟨p, hp, rfl⟩ | hname
    · rw [h.value_name, ClassName.enclosing?_nested]
    · rw [(h.name_of_mem_partialType hp).2]
      exact ClassName.enclosing?_nested _ _
    · rw [(h.name_of_mem_propertyEnum hname).2, ClassName.enclosing?_nested]
  params := by
    intro x hx
    simp only [List.mem_cons, Option.mem_toList] at hx
    rcases hx with rfl | rfl | rfl | rfl | hx
    · rw [h.source]
    · rw [h.builder]
      rfl
    · rw [h.generated]
      rfl
    · rw [h.value]
      rfl
    · rw [(h.name_of_mem_partialType hx).2]
      rfl

end IsConventional

/-! ## Edits of the standard datatype -/

theorem edited_eq_of_after_eq (c : GenericClass) {edits edits' : List Edit}
    (h : Settings.after edits' = Settings.after edits) :
    (standard c).edited edits' = (standard c).edited edits := by
  have hedits' := IsConventional.edited c edits'
  rw [h] at hedits'
  exact hedits'.unique (.edited c edits)

/-- Two more edits come to what their changes of the settings come to. -/
theorem after_append_pair (edits : List Edit) (e e' : Edit) :
    Settings.after (edits ++ [e, e']) = ((Settings.after edits).change e).change e' := by
  rw [← Settings.after_concat, ← Settings.after_concat, List.append_assoc]
  rfl

/-- **Editing is closed and its order does not matter.** However the standard datatype of a source type
is edited, it passes the check, and it is the conventional one of the values that were given last to its
flags, without the enum if that was ever removed. So edits of different settings can change places, an
edit can be repeated, and a type that is made extensible again is what it was before. -/
theorem edited_follows_last_values (c : GenericClass) (edits : List Edit) :
    ((standard c).edited edits).check = .ok () ∧
    ((standard c).edited edits).IsConventional c (.after edits) ∧
    ((standard c).edited edits).NestsClasses c ∧
    (∀ edits', Settings.after edits' = .after edits →
      (standard c).edited edits' = (standard c).edited edits) ∧
    (∀ e e', e.setting ≠ e'.setting →
      (standard c).edited (edits ++ [e, e']) = (standard c).edited (edits ++ [e', e])) ∧
    (∀ e, (standard c).edited (edits ++ [e, e]) = (standard c).edited (edits ++ [e])) ∧
    (((standard c).edited edits).extensible = true →
      (standard c).edited (edits ++ [.extensible false, .extensible true]) =
        (standard c).edited edits) := by
  have hconventional := IsConventional.edited c edits
  refine ⟨hconventional.check_eq, hconventional, hconventional.nestsClasses, fun edits' ↦
    edited_eq_of_after_eq c, fun e e' hne ↦ ?_, fun e ↦ ?_, fun hextensible ↦ ?_⟩
  · refine edited_eq_of_after_eq c ?_
    rw [after_append_pair, after_append_pair, Settings.change_comm _ hne]
  · refine edited_eq_of_after_eq c ?_
    rw [after_append_pair, Settings.after_concat, Settings.change_change]
  · refine edited_eq_of_after_eq c ?_
    rw [after_append_pair]
    rw [hconventional.extensible] at hextensible
    simp only [Settings.change, ← hextensible]

/-- A nested generic type that loses its enum and is made extensible again. -/
theorem edited_follows_last_values_person :
    let c : GenericClass := ⟨⟨["com", "example"], "Outer", ["Person"]⟩, ["T"]⟩
    let edits : List Edit := [.withoutEnum, .extensible false, .serializable true, .extensible true]
    ((standard c).edited edits).visible =
        [⟨["com", "example"], "Outer", ["Person", "Builder"]⟩,
          ⟨["com", "example"], "Outer_Person_Builder", ["Partial"]⟩,
          ⟨["com", "example"], "Outer_Person_Builder", ["Value"]⟩] ∧
      (standard c).edited [.serializable true, .interface false, .withoutEnum] =
        (standard c).edited edits ∧
      (standard c).edited (edits ++ [.interface true, .factory none]) =
        (standard c).edited (edits ++ [.factory none, .interface true]) ∧
      (standard c).edited (edits ++ [.extensible false, .extensible true]) =
        (standard c).edited edits := by
  intro c edits
  obtain ⟨-, -, -, hafter, hcomm, -, hagain⟩ := edited_follows_last_values c edits
  exact ⟨by decide +kernel, hafter _ (by decide), hcomm _ _ (by decide), hagain rfl⟩

end Datatype

end JavaBuilder.Model
