import JavaBuilder.Json.Decode
import JavaBuilder.Model.Encode

/-!
# Decoding descriptors and datatypes

Descriptors and buildable types refuse fields they do not know; all other records pass them over. Of
a property only the name, the type, the accessor's name and the convention are read, and everything
else is derived again and checked.

The fields of a property stand among those of its declaration. They are kept until the declaration
ends, since only then is it known that no more follow, so a fault in them is found after all faults
in the declaration's own fields.
-/

namespace JavaBuilder.Model

open Java Json

/-- What a descriptor cannot mean. -/
inductive ContentFault where
  /-- The text is not the name of a class. -/
  | notClassName (text : String)
  | property (e : Error)

/-- The wording of a fault of content. -/
def ContentFault.message : ContentFault → String
  | notClassName text => "not a qualified class name: '" ++ text ++ "'"
  | property e => e.message

/-- Why a descriptor cannot be decoded. -/
abbrev DecodeFault := Fault ContentFault

def decodeMessage (f : DecodeFault) : String := f.message ContentFault.message

/-- A decoder of parts of a descriptor. -/
abbrev Dec (α : Type) := Decoder ContentFault α

def decodeName : Dec ClassName := asText fun s ↦
  match ClassName.parse? s with
  | some n => .ok n
  | none => .error (.notClassName s)

def decodeType : Dec TypeRef := fun r ↦ TypeRef.ofText <$> asString r

def decodeFactory : Dec BuilderFactory :=
  asChoice ([.constructor, .method].map fun f ↦ (f.name, f))

/-! ## Annotations and buildable types -/

structure AnnotationSlots where
  name : Option ClassName := none
  elements : Option (List (String × String)) := none

def decodeElements : Dec (List (String × String)) :=
  asTable (fun es key r ↦ do return Text.putSorted key (← asString r) es) []

def decodeAnnotation : Dec Annotation :=
  asRecord ["name", "element_values"]
    (fun s key r ↦ do
      match key with
      | "name" => return { s with name := ← fillSlot key s.name decodeName r }
      | "element_values" => return { s with elements := ← fillSlot key s.elements decodeElements r }
      | _ => do passOver r; return s)
    ({} : AnnotationSlots)
    fun missing s ↦ do return ⟨← require missing "name" s.name, s.elements.getD []⟩

structure BuildableSlots where
  builder : Option TypeRef := none
  factory : Option BuilderFactory := none
  supportsPartial : Option Bool := none

def decodeBuildable : Dec Buildable :=
  asRecord ["builderType", "builderFactory", "supportsPartial"]
    (fun s key r ↦ do
      match key with
      | "builderType" => return { s with builder := ← fillSlot key s.builder decodeType r }
      | "builderFactory" => return { s with factory := ← fillSlot key s.factory decodeFactory r }
      | "supportsPartial" =>
        return { s with supportsPartial := ← fillSlot key s.supportsPartial asBool r }
      | _ => throw (.unknownField key))
    ({} : BuildableSlots)
    fun missing s ↦ do
      return ⟨← require missing "builderType" s.builder, s.factory.getD .constructor,
        s.supportsPartial.getD false⟩

/-! ## Defaults -/

inductive DefaultKind where
  | constructor
  | initializer

def decodeKind : Dec DefaultKind :=
  asChoice [("constructor", .constructor), ("initializer", .initializer)]

/-- The expression that goes with a kind of default. -/
def decodeExpression (kind : DefaultKind) : Dec DefaultSource := fun r ↦
  match kind with
  | .constructor => do asNull r; return .constructor
  | .initializer => do return .initializer (← asString r)

/-- The next member that is a kind or an expression: whether it is the kind, and what follows. -/
def nextPart : Members → Except DecodeFault (Option (Bool × Reading × Members))
  | .done => .ok none
  | .broken _ => .error .malformed
  | .cons none _ _ => .error .malformed
  | .cons (some key) value rest =>
    if key = "kind" then .ok (some (true, value, rest))
    else if key = "expression" then .ok (some (false, value, rest))
    else do passOver value; nextPart rest

/-- No kind and no expression follows. -/
def noMoreParts (rest : Members) : Except DecodeFault Unit := do
  match ← nextPart rest with
  | none => return ()
  | some (isKind, _) => throw (.duplicateField (if isKind then "kind" else "expression"))

/-- A default, with room for so many nested values in an expression that comes before its kind. -/
def decodeDefault (room : Nat) : Dec DefaultSource
  | .object members => do
    match ← nextPart members with
    | none => throw (.missingField "kind")
    | some (true, value, rest) =>
      let kind ← decodeKind value
      match ← nextPart rest, kind with
      | none, .constructor => return .constructor
      | none, .initializer => throw (.missingField "expression")
      | some (true, _), _ => throw (.duplicateField "kind")
      | some (false, value, rest), _ =>
        let source ← decodeExpression kind value
        noMoreParts rest
        return source
    | some (false, expression, rest) =>
      if !expression.isKept room then throw .malformed
      match ← nextPart rest with
      | none => throw (.missingField "kind")
      | some (false, _) => throw (.duplicateField "expression")
      | some (true, value, rest) =>
        let source ← decodeExpression (← decodeKind value) expression
        noMoreParts rest
        return source
  | .array items =>
    match items with
    | .done => throw (.wrongLength 0)
    | .broken => throw .malformed
    | .cons value rest => do
      let kind ← decodeKind value
      match rest with
      | .done => throw (.wrongLength 1)
      | .broken => throw .malformed
      | .cons value rest =>
        let source ← decodeExpression kind value
        match rest with
        | .done => return source
        | _ => throw .malformed
  | r => throw r.mismatch

/-! ## Declarations -/

structure PropertySlots where
  name : Option String := none
  type : Option TypeRef := none
  getter : Option (Option String) := none
  bean : Option Bool := none

/-- The property of the fields kept for it. -/
def decodeProperty (fields : List (String × Reading)) : Except DecodeFault Property := do
  let s ← fields.foldlM (fun (s : PropertySlots) (key, r) ↦ do
    match key with
    | "name" => return { s with name := ← fillSlot key s.name asString r }
    | "type" => return { s with type := ← fillSlot key s.type decodeType r }
    | "getterName" => return { s with getter := ← fillSlot key s.getter (asOption asString) r }
    | "usingBeanConvention" => return { s with bean := ← fillSlot key s.bean asBool r }
    | _ => return s) {}
  let name ← require .missingField "name" s.name
  let type ← require .missingField "type" s.type
  let p := (Property.of name type).withBean (s.bean.getD true)
  let p := (s.getter.getD none).elim p p.withGetter
  match p.check with
  | .ok () => return p
  | .error e => throw (.content (.property e))

/-- A property that stands alone. -/
def decodeBareProperty : Dec Property :=
  asRecord ["name", "type", "getterName", "usingBeanConvention"]
    (fun s key r ↦ do
      match key with
      | "name" => return { s with name := ← fillSlot key s.name asString r }
      | "type" => return { s with type := ← fillSlot key s.type decodeType r }
      | "getterName" => return { s with getter := ← fillSlot key s.getter (asOption asString) r }
      | "usingBeanConvention" => return { s with bean := ← fillSlot key s.bean asBool r }
      | _ => do passOver r; return s)
    ({} : PropertySlots)
    fun missing s ↦ do
      let name ← require missing "name" s.name
      let type ← require missing "type" s.type
      let p := (Property.of name type).withBean (s.bean.getD true)
      let p := (s.getter.getD none).elim p p.withGetter
      match p.check with
      | .ok () => return p
      | .error e => throw (.content (.property e))

def Property.ofText (text : String) : Except DecodeFault Property :=
  decodeText decodeBareProperty text

/-- The slots of a declaration, and the fields kept for its property, latest first. -/
structure DeclarationSlots where
  annotations : Option (List Annotation) := none
  buildable : Option (Option Buildable) := none
  default : Option (Option DefaultSource) := none
  kept : List (String × Reading) := []

/-- A declaration, with room for so many nested values in the fields of its property. -/
def decodeDeclaration (room : Nat) : Dec Declaration := fun r ↦ do
  let s ← asTable
    (fun (s : DeclarationSlots) key r ↦ do
      match key with
      | "annotations" =>
        return { s with annotations := ← fillSlot key s.annotations (asList decodeAnnotation) r }
      | "buildable" =>
        return { s with buildable := ← fillSlot key s.buildable (asOption decodeBuildable) r }
      | "default" =>
        return { s with default := ← fillSlot key s.default (asOption (decodeDefault (room - 1))) r }
      | _ =>
        if r.isKept room then return { s with kept := (key, r) :: s.kept } else throw .malformed)
    {} r
  let property ← decodeProperty s.kept.reverse
  return ⟨property, s.annotations.getD [], s.buildable.getD none, s.default.getD none⟩

def Declaration.ofText (text : String) : Except DecodeFault Declaration :=
  decodeText (decodeDeclaration (maxDepth - 1)) text

/-! ## Descriptors -/

structure DescriptorSlots where
  type : Option ClassName := none
  typeParameters : Option (List String) := none
  interface : Option Bool := none
  factory : Option (Option BuilderFactory) := none
  serializable : Option Bool := none
  extensible : Option Bool := none
  properties : Option (List Declaration) := none

def decodeDescriptor : Dec Descriptor :=
  asRecord
    ["type", "typeParameters", "interface", "builderFactory", "serializable", "extensible",
      "properties"]
    (fun s key r ↦ do
      match key with
      | "type" => return { s with type := ← fillSlot key s.type decodeName r }
      | "typeParameters" =>
        return { s with typeParameters := ← fillSlot key s.typeParameters (asList asString) r }
      | "interface" => return { s with interface := ← fillSlot key s.interface asBool r }
      | "builderFactory" =>
        return { s with factory := ← fillSlot key s.factory (asOption decodeFactory) r }
      | "serializable" => return { s with serializable := ← fillSlot key s.serializable asBool r }
      | "extensible" => return { s with extensible := ← fillSlot key s.extensible asBool r }
      | "properties" =>
        return { s with
          properties := ← fillSlot key s.properties
            (asList (decodeDeclaration (maxDepth - 3))) r }
      | _ => throw (.unknownField key))
    ({} : DescriptorSlots)
    fun missing s ↦ do
      return {
        type := ← require missing "type" s.type
        typeParameters := s.typeParameters.getD []
        interface := s.interface.getD false
        factory := s.factory.getD (some .constructor)
        serializable := s.serializable.getD false
        extensible := s.extensible.getD true
        properties := s.properties.getD [] }

def Descriptor.ofText (text : String) : Except DecodeFault Descriptor :=
  decodeText decodeDescriptor text

/-! ## Datatypes -/

/-- The slots of a class with its type parameters. -/
structure ClassSlots where
  name : Option ClassName := none
  params : Option (List String) := none

/-- A class with its type parameters. -/
def decodeClass : Dec GenericClass :=
  asRecord ["name", "params"]
    (fun s key r ↦ do
      match key with
      | "name" => return { s with name := ← fillSlot key s.name decodeName r }
      | "params" => return { s with params := ← fillSlot key s.params (asList asString) r }
      | _ => do passOver r; return s)
    ({} : ClassSlots)
    fun missing s ↦ do return ⟨← require missing "name" s.name, s.params.getD []⟩

structure DatatypeSlots where
  source : Option GenericClass := none
  interface : Option Bool := none
  builder : Option GenericClass := none
  generated : Option GenericClass := none
  value : Option GenericClass := none
  partialType : Option (Option GenericClass) := none
  propertyEnum : Option (Option ClassName) := none
  factory : Option (Option BuilderFactory) := none
  serializable : Option Bool := none
  extensible : Option Bool := none
  visible : Option (List ClassName) := none

def decodeDatatype : Dec Datatype :=
  asRecord
    ["source_type", "interface_type", "builder", "generated_builder", "value_type", "partial_type",
      "property_enum", "builder_factory", "builder_serializable", "extensible",
      "visible_nested_types"]
    (fun s key r ↦ do
      match key with
      | "source_type" => return { s with source := ← fillSlot key s.source decodeClass r }
      | "interface_type" => return { s with interface := ← fillSlot key s.interface asBool r }
      | "builder" => return { s with builder := ← fillSlot key s.builder decodeClass r }
      | "generated_builder" => return { s with generated := ← fillSlot key s.generated decodeClass r }
      | "value_type" => return { s with value := ← fillSlot key s.value decodeClass r }
      | "partial_type" =>
        return { s with partialType := ← fillSlot key s.partialType (asOption decodeClass) r }
      | "property_enum" =>
        return { s with propertyEnum := ← fillSlot key s.propertyEnum (asOption decodeName) r }
      | "builder_factory" =>
        return { s with factory := ← fillSlot key s.factory (asOption decodeFactory) r }
      | "builder_serializable" =>
        return { s with serializable := ← fillSlot key s.serializable asBool r }
      | "extensible" => return { s with extensible := ← fillSlot key s.extensible asBool r }
      | "visible_nested_types" =>
        return { s with visible := ← fillSlot key s.visible (asList decodeName) r }
      | _ => do passOver r; return s)
    ({} : DatatypeSlots)
    fun missing s ↦ do
      return {
        source := ← require missing "source_type" s.source
        interface := s.interface.getD false
        builder := ← require missing "builder" s.builder
        generated := ← require missing "generated_builder" s.generated
        value := ← require missing "value_type" s.value
        partialType := s.partialType.getD none
        propertyEnum := s.propertyEnum.getD none
        factory := s.factory.getD none
        serializable := s.serializable.getD false
        extensible := s.extensible.getD false
        visible := Text.sortedSet (s.visible.getD []) }

def Datatype.ofText (text : String) : Except DecodeFault Datatype := decodeText decodeDatatype text

end JavaBuilder.Model
