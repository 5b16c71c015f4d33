import JavaBuilder.Proofs.Builder.ReadNames
import JavaBuilder.Proofs.Layout.KeptText
import JavaBuilder.Proofs.Text.Segments

/-!
# Generated code keeps to its features

Generated code takes classes from its input as they are. Of all other classes it uses only those that
its features offer: the classes of Guava where Guava is there, those of the language only from the
level on that has them, and the class `java.util.Optional` at no level. The same goes for the diamond:
no text of the generated file has one before the level that knows it, unless the input brings it.

Both are instances of the walk over the class of a plan. The first allows every name and asks only where
the classes are from, so it holds of every input. The second asks for names that can stand between
brackets.
-/

namespace JavaBuilder

open Unicode Name Text Java Model

/-! ## Classes and features -/

namespace Java

/-- The features offer the class of this name. -/
structure Features.Offers (f : Features) (name : String) : Prop where
  guava : ∀ {x : String}, name = "com.google.common." ++ x → f.guava = true
  objects : name = "java.util.Objects" → Level.java7 ≤ f.level
  functional : ∀ {x : String}, name = "java.util.function." ++ x → Level.java8 ≤ f.level
  optional : name ≠ "java.util.Optional"

mutual

/-- The classes that a type refers to are all it is made of, if variables and text are allowed. -/
theorem TypeRef.uses_of_types {ok : Allowed} (hvar : ∀ x, ok.typeVar x)
    (hunresolved : ∀ x, ok.unresolved x) : (t : TypeRef) → (∀ c ∈ t.code.types, ok.type c) → t.Uses ok
  | primitive _, _ | wildcard, _ | void, _ => trivial
  | declared name [], h => ⟨h name (by simp [TypeRef.code, Code.types]), trivial⟩
  | declared name (a :: as), h => by
    have htypes : Code.types (TypeRef.code (declared name (a :: as))) =
        name :: (a.code.types ++ Code.types (tailCode as)) := by
      simp [TypeRef.code, Code.types]
    rw [htypes, List.forall_mem_cons, List.forall_mem_append] at h
    exact ⟨h.1, uses_of_types hvar hunresolved a h.2.1, usesAll_of_types hvar hunresolved as h.2.2⟩
  | typeVar x, _ => hvar x
  | extending t, h => by
    have htypes : Code.types (extending t).code = t.code.types := by simp [TypeRef.code, Code.types]
    exact uses_of_types hvar hunresolved t (htypes ▸ h)
  | array t, h => by
    have htypes : Code.types (array t).code = t.code.types := by simp [TypeRef.code, Code.types]
    exact uses_of_types hvar hunresolved t (htypes ▸ h)
  | unresolved x, _ => hunresolved x

theorem TypeRef.usesAll_of_types {ok : Allowed} (hvar : ∀ x, ok.typeVar x)
    (hunresolved : ∀ x, ok.unresolved x) :
    (ts : List TypeRef) → (∀ c ∈ Code.types (tailCode ts), ok.type c) → TypeRef.UsesAll ok ts
  | [], _ => trivial
  | t :: ts, h => by
    have htypes : Code.types (tailCode (t :: ts)) = t.code.types ++ Code.types (tailCode ts) := by
      simp [tailCode, Code.types]
    rw [htypes, List.forall_mem_append] at h
    exact ⟨uses_of_types hvar hunresolved t h.1, usesAll_of_types hvar hunresolved ts h.2⟩

end

theorem TypeRef.exists_of_isClass {t : TypeRef} {dotted : String} (h : t.isClass dotted = true) :
    ∃ c ∈ t.code.types, c.text = dotted := by
  cases t with
  | declared name args =>
    have hname : name.text = dotted := by simpa [isClass, erasure?] using h
    refine ⟨name, ?_, hname⟩
    cases args <;> simp [code, Code.types]
  | _ => cases h

end Java

/-! ## The classes of the input -/

namespace Model

/-- The classes of a datatype that have type parameters. -/
def Datatype.generics (d : Datatype) : List GenericClass :=
  [d.source, d.builder, d.generated, d.value] ++ d.partialType.toList

def Datatype.classes (d : Datatype) : List ClassName :=
  d.generics.map (·.name) ++ d.propertyEnum.toList

/-- The classes that a declaration names: in the type of its property, as markers of a property that may
be null, and in the type of its builder. -/
def Declaration.classes (x : Declaration) : List ClassName :=
  x.property.type.code.types ++ x.nullMarkers ++
    x.buildable.elim [] fun b ↦ b.builder.code.types

end Model

namespace Builder

variable {chain : Chain} {config : Config} {f : Features} {d : Datatype} {ds : List Declaration}
  {ctx : Context} {strategies : List Strategy} {g : Generated} {c : ClassName} {names : List String}

/-- The names of all classes in the input. -/
def inputNames (d : Datatype) (ds : List Declaration) : List String :=
  (d.classes ++ ds.flatMap (·.classes)).map (·.text)

theorem allowsDatatype_of_generics {ok : Allowed} (h : ∀ t ∈ d.generics, t.Uses ok)
    (henum : ∀ name ∈ d.propertyEnum,
      ok.type name ∧ ok.name name.simpleName ∧ ok.method name.simpleName)
    (hsource : ok.comment d.source.name.simpleName ∧ ok.string d.source.name.simpleName) :
    AllowsDatatype ok d where
  source := h _ (by simp [Datatype.generics])
  builder := h _ (by simp [Datatype.generics])
  generated := h _ (by simp [Datatype.generics])
  value := h _ (by simp [Datatype.generics])
  partialType p hp := h p (List.mem_append_right _ (Option.mem_toList.mpr hp))
  propertyEnum := henum
  sourceName := hsource

/-! ## The fixed vocabulary -/

/-- The name of a library class can be cut at its dots. -/
theorem segments_of_text (h : isLibrary c = true) {ss : List String} (hne : ss ≠ [])
    (htext : c.text = Text.join '.' ss) : c.package ++ c.simpleNames = ss.flatMap (split '.') := by
  have hidentifiers : ∀ s ∈ c.package ++ c.simpleNames, isIdentifier s = true :=
    fun s hs ↦ isIdentifier_of_isWord (List.all_eq_true.mp h s hs)
  rw [← split_join_flatMap '.' hne, ← htext, ClassName.split_text hidentifiers]

/-- A library class whose name starts with some segments is in the package that they name. -/
theorem isPrefixOf_of_text (h : isLibrary c = true) {ss : List String}
    (hss : ss.flatMap (split '.') = ss) {x : String} (htext : c.text = Text.join '.' (ss ++ [x])) :
    ss.isPrefixOf (c.package ++ c.simpleNames) = true := by
  rw [segments_of_text h (by simp) htext, List.flatMap_append, hss]
  exact List.isPrefixOf_iff_prefix.mpr (List.prefix_append ss _)

theorem isGuava_of_text (h : isLibrary c = true) {x : String}
    (htext : c.text = "com.google.common." ++ x) : isGuava c = true := by
  have hjoin : "com.google.common." ++ x = Text.join '.' (["com", "google", "common"] ++ [x]) :=
    String.toList_inj.mp (by simp [Text.join, joinSegments])
  exact isPrefixOf_of_text h (by decide) (htext.trans hjoin)

theorem isFunctional_of_text (h : isLibrary c = true) {x : String}
    (htext : c.text = "java.util.function." ++ x) : isFunctional c = true := by
  have hjoin : "java.util.function." ++ x = Text.join '.' (["java", "util", "function"] ++ [x]) :=
    String.toList_inj.mp (by simp [Text.join, joinSegments])
  exact isPrefixOf_of_text h (by decide) (htext.trans hjoin)

/-- No class is in both packages. -/
theorem not_isGuava_of_isFunctional (h : isFunctional c = true) : isGuava c = false := by
  obtain ⟨ss, hss⟩ := List.isPrefixOf_iff_prefix.mp h
  rw [isGuava, ← hss]
  rfl

/-- A library class is offered as soon as the library it is from is there. -/
theorem offers_of_isLibrary (h : isLibrary c = true) (hguava : isGuava c = true → f.guava = true)
    (hobjects : c.package ++ c.simpleNames = ["java", "util", "Objects"] → f.hasObjects = true)
    (hfunctional : isFunctional c = true → f.hasLambdas = true)
    (hoptional : c.package ++ c.simpleNames ≠ ["java", "util", "Optional"]) : f.Offers c.text where
  guava htext := hguava (isGuava_of_text h htext)
  objects htext := by
    have hjoin : c.text = Text.join '.' ["java", "util", "Objects"] := htext
    exact of_decide_eq_true (hobjects (segments_of_text h (by simp) hjoin))
  functional htext := of_decide_eq_true (hfunctional (isFunctional_of_text h htext))
  optional htext := by
    have hjoin : c.text = Text.join '.' ["java", "util", "Optional"] := htext
    exact hoptional (segments_of_text h (by simp) hjoin)

/-- What generated code may use: classes of these names, and those that the features offer. -/
def offered (f : Features) (names : List String) : Allowed where
  name _ := True
  method _ := True
  literal _ := True
  string _ := True
  verbatim _ := True
  static c _ := c.text ∈ names ∨ f.Offers c.text
  type c := c.text ∈ names ∨ f.Offers c.text
  typeVar _ := True
  unresolved _ := True
  comment _ := True
  diamond := True

theorem isClosed_offered : (offered f names).IsClosed := ⟨id, fun h ↦ absurd trivial h⟩

theorem allowsFixed_offered : AllowsFixed (offered f names) f where
  name _ := trivial
  method _ := trivial
  literal _ := trivial
  type h := by
    simp only [isBasic, Bool.and_eq_true, Bool.not_eq_true', decide_eq_false_iff_not, List.mem_cons,
      List.not_mem_nil, or_false, not_or] at h
    obtain ⟨⟨⟨hlibrary, hguava⟩, hfunctional⟩, hobjects, hoptional⟩ := h
    exact .inr (offers_of_isLibrary hlibrary (by simp [hguava]) (absurd · hobjects)
      (by simp [hfunctional]) hoptional)
  objects h := .inr (offers_of_isLibrary (by decide) (absurd · (by decide)) (fun _ ↦ h)
    (absurd · (by decide)) (by decide))
  functional hlambdas := fun {c} h ↦ by
    obtain ⟨hlibrary, hfunctional⟩ := Bool.and_eq_true _ _ ▸ h
    obtain ⟨ss, hss⟩ := List.isPrefixOf_iff_prefix.mp hfunctional
    refine .inr (offers_of_isLibrary hlibrary ?_ ?_ (fun _ ↦ hlambdas) ?_)
    · simp [not_isGuava_of_isFunctional hfunctional]
    · simp [← hss]
    · simp [← hss]
  guava hguava := fun {c} h ↦ by
    obtain ⟨hlibrary, hisGuava⟩ := Bool.and_eq_true _ _ ▸ h
    obtain ⟨ss, hss⟩ := List.isPrefixOf_iff_prefix.mp hisGuava
    refine .inr (offers_of_isLibrary hlibrary (fun _ ↦ hguava) ?_ (fun hfunctional ↦ ?_) ?_)
    · simp [← hss]
    · simp [not_isGuava_of_isFunctional hfunctional] at hisGuava
    · simp [← hss]
  diamond _ := trivial
  comment _ := trivial
  string _ := trivial
  append _ _ := trivial

theorem allowsNames_offered : AllowsNames (offered f names) where
  name _ := trivial
  method _ := trivial
  static hc _ := hc
  comment _ := trivial
  string _ := trivial

/-! ## The input is allowed -/

theorem mem_inputNames_of_classes (h : c ∈ d.classes) : c.text ∈ inputNames d ds :=
  List.mem_map_of_mem (List.mem_append_left _ h)

theorem mem_inputNames_of_declaration {x : Declaration} (hx : x ∈ ds) (h : c ∈ x.classes) :
    c.text ∈ inputNames d ds :=
  List.mem_map_of_mem (List.mem_append_right _ (List.mem_flatMap.mpr ⟨x, hx, h⟩))

theorem allowsDatatype_offered : AllowsDatatype (offered f (inputNames d ds)) d := by
  have hgeneric : ∀ t ∈ d.generics, t.Uses (offered f (inputNames d ds)) := fun t ht ↦
    ⟨.inl (mem_inputNames_of_classes (List.mem_append_left _ (List.mem_map_of_mem ht))), trivial,
      fun _ _ ↦ trivial⟩
  refine allowsDatatype_of_generics hgeneric (fun name hname ↦ ?_) ⟨trivial, trivial⟩
  have hmem : name ∈ d.classes := List.mem_append_right _ (Option.mem_toList.mpr hname)
  exact ⟨.inl (mem_inputNames_of_classes hmem), trivial, trivial⟩

theorem allowsDeclaration_offered {x : Declaration} (hx : x ∈ ds) :
    AllowsDeclaration (offered f (inputNames d ds)) x := by
  have hclass : ∀ c ∈ x.classes, (offered f (inputNames d ds)).type c :=
    fun c hc ↦ .inl (mem_inputNames_of_declaration hx hc)
  exact {
    type := TypeRef.uses_of_types (fun _ ↦ trivial) (fun _ ↦ trivial) _ fun c hc ↦
      hclass c (by simp [Declaration.classes, hc])
    optional := fun kind hkind ↦ by
      -- The class of an optional has the name of the class in the type, if not its segments.
      obtain ⟨c, hc, htext⟩ := TypeRef.exists_of_isClass hkind
      exact .inl (htext ▸ mem_inputNames_of_declaration hx (by simp [Declaration.classes, hc]))
    markers := fun n hn ↦ hclass n (by simp [Declaration.classes, hn])
    builder := fun b hb _ ↦ TypeRef.uses_of_types (fun _ ↦ trivial) (fun _ ↦ trivial) _ fun c hc ↦
      hclass c (by
        obtain hb : x.buildable = some b := hb
        simp [Declaration.classes, hb, hc])
    initializer := fun _ _ ↦ trivial }

/-- **Classes of generated code.** They are those of the input and what the features offer. -/
theorem IsPlan.types_offered (h : IsPlan chain f d ds ctx strategies) (annotate docs : Bool) :
    ∀ c ∈ ((builderClass ctx strategies annotate).code docs).types,
      c.text ∈ inputNames d ds ∨ f.Offers c.text := by
  have huses : (builderClass ctx strategies annotate).Uses (offered f (inputNames d ds)) :=
    h.uses allowsFixed_offered allowsNames_offered allowsDatatype_offered
      (fun x hx _ ↦ allowsDeclaration_offered hx) annotate
  exact (TopClass.keeps_code isClosed_offered docs huses).types

end Builder

/-! ## Names without brackets -/

namespace Java

theorem not_mem_of_isOrdinaryText {x : String} (h : IsOrdinary x) : '<' ∉ x.toList ∧ '>' ∉ x.toList :=
  ⟨fun hmem ↦ absurd (h _ hmem) (by decide), fun hmem ↦ absurd (h _ hmem) (by decide)⟩

theorem IsOrdinary.isSolid {x : String} (h : IsOrdinary x) : IsSolid x.toList :=
  .of_not_mem (not_mem_of_isOrdinaryText h).1 (not_mem_of_isOrdinaryText h).2

theorem isBracketFree_of_isIdentifier {x : String} (h : isIdentifier x = true) : IsBracketFree x :=
  have hname := name_of_isIdentifier h
  ⟨hname.2, not_mem_of_isOrdinaryText hname.1⟩

theorem ClassName.IsRead.isBracketFree {name : ClassName} (h : name.IsRead) : name.IsBracketFree :=
  fun x hx ↦ isBracketFree_of_isIdentifier (h.isSpelled x hx)

/-- What code without a diamond may be made of: all names can stand between brackets, and source text
has no diamond of its own. -/
def bracketFree : Allowed where
  name x := Text.IsSolid x.toList
  method x := Text.IsSolid x.toList
  literal x := Text.IsSolid x.toList
  string x := Text.IsSolid x.toList
  verbatim x := ¬Text.diamond <:+: x.toList
  static c x := c.IsBracketFree ∧ Text.IsSolid x.toList
  type := ClassName.IsBracketFree
  typeVar := IsBracketFree
  unresolved := IsBracketFree
  comment x := Text.IsSolid x.toList
  diamond := False

theorem isSolid_bracketFree : bracketFree.IsSolid where
  name h := h
  method h := h
  literal h := h
  string h := h.inner
  verbatim h := h
  static h := h.2
  type h := h
  typeVar h := h
  unresolved h := h
  comment h := h

end Java

namespace Model

/-- All names of a datatype can stand between brackets. -/
structure Datatype.IsBracketFree (d : Datatype) : Prop where
  classes : ∀ c ∈ d.classes, c.IsBracketFree
  params : ∀ c ∈ d.generics, ∀ x ∈ c.params, Java.IsBracketFree x

/-- All names of a declaration can stand between brackets, and its initializer has no diamond. Of text
that is not a type nothing is asked. -/
structure Declaration.IsBracketFree (x : Declaration) : Prop where
  type : (∀ y, x.property.type ≠ .unresolved y) → x.property.type.Uses bracketFree
  markers : ∀ n ∈ x.nullMarkers, n.IsBracketFree
  builder : ∀ b ∈ x.buildable, b.builder.isResolved = true → b.builder.Uses bracketFree
  initializer : ∀ y, x.default = some (.initializer y) → ¬diamond <:+: y.toList

theorem Datatype.IsRead.isRead_of_mem_generics {d : Datatype} (h : d.IsRead) :
    ∀ c ∈ d.generics, c.IsRead := by
  simp only [generics, List.cons_append, List.nil_append, List.forall_mem_cons, Option.mem_toList]
  exact ⟨h.source, h.builder, h.generated, h.value, h.partialType⟩

theorem Datatype.IsRead.isRead_of_mem_classes {d : Datatype} (h : d.IsRead) {name : ClassName}
    (hname : name ∈ d.classes) : name.IsRead := by
  rcases List.mem_append.mp hname with hname | hname
  · obtain ⟨c, hc, rfl⟩ := List.mem_map.mp hname
    exact (h.isRead_of_mem_generics c hc).name
  · exact h.propertyEnum name (Option.mem_toList.mp hname)

/-- Names that have been read can stand between brackets. -/
theorem Datatype.IsRead.isBracketFree {d : Datatype} (h : d.IsRead) : d.IsBracketFree where
  classes _ hname := (h.isRead_of_mem_classes hname).isBracketFree
  params c hc x hx := isBracketFree_of_isIdentifier ((h.isRead_of_mem_generics c hc).params x hx)

theorem Declaration.IsRead.isBracketFree {x : Declaration} (h : x.IsRead)
    (hinitializer : ∀ y, x.default = some (.initializer y) → ¬diamond <:+: y.toList) :
    x.IsBracketFree where
  type := h.uses_type ClassName.IsRead.isBracketFree isBracketFree_of_isIdentifier
  markers n hn := show bracketFree.type n from
    h.type_of_mem_nullMarkers ClassName.IsRead.isBracketFree hn
  builder _ hb := h.uses_builder ClassName.IsRead.isBracketFree isBracketFree_of_isIdentifier hb
  initializer := hinitializer

end Model

namespace Builder

variable {chain : Chain} {config : Config} {f : Features} {d : Datatype} {ds : List Declaration}
  {ctx : Context} {strategies : List Strategy} {g : Generated}

theorem isSolid_fixedLiteral {x : String} (h : x ∈ fixedLiterals) : IsSolid x.toList := by
  have hfixed : ∀ x ∈ fixedLiterals, IsSolid x.toList := by decide
  exact hfixed x h

theorem isBracketFree_of_isLibrary {c : ClassName} (h : isLibrary c = true) : c.IsBracketFree :=
  fun x hx ↦ isBracketFree_of_isIdentifier (isSpelled_of_isLibrary h x hx)

theorem allowsFixed_bracketFree (h : f.hasDiamond = false) : AllowsFixed bracketFree f where
  name h := (IsOrdinary.of_isIdentifier (isIdentifier_of_isWord (isFixedName_iff.mp h).1)).isSolid
  method h := (IsOrdinary.of_isIdentifier (isIdentifier_of_isWord h)).isSolid
  literal h := isSolid_fixedLiteral h
  type h := isBracketFree_of_isLibrary (isLibrary_of_isBasic h)
  objects _ := isBracketFree_of_isLibrary (by decide)
  functional _ := fun h ↦ isBracketFree_of_isLibrary (Bool.and_eq_true _ _ ▸ h).1
  guava _ := fun h ↦ isBracketFree_of_isLibrary (Bool.and_eq_true _ _ ▸ h).1
  diamond hdiamond := by simp [h] at hdiamond
  comment h := (isPhrase_iff.mp h).2
  string h := (isPhrase_iff.mp h).2
  append := isSolid_append

theorem allowsNames_bracketFree : AllowsNames bracketFree where
  name h := h.1.isSolid
  method h := h.1.isSolid
  static hc h := ⟨hc, h.1.isSolid⟩
  comment h := h.isSolid
  string h := h.isSolid

theorem isSolid_simpleName {c : ClassName} (h : c.IsBracketFree) : IsSolid c.simpleName.toList :=
  (h _ (List.mem_append_right _ c.simpleName_mem_simpleNames)).isSolid

theorem allowsDatatype_bracketFree (h : d.IsBracketFree) : AllowsDatatype bracketFree d := by
  have hclass : ∀ c ∈ d.classes, c.IsBracketFree ∧ IsSolid c.simpleName.toList :=
    fun c hc ↦ ⟨h.classes c hc, isSolid_simpleName (h.classes c hc)⟩
  have hgeneric : ∀ t ∈ d.generics, t.Uses bracketFree := fun t ht ↦
    have hname := hclass _ (List.mem_append_left _ (List.mem_map_of_mem ht))
    ⟨hname.1, hname.2, h.params t ht⟩
  have hsource := hgeneric d.source (by simp [Datatype.generics])
  refine allowsDatatype_of_generics hgeneric (fun name hname ↦ ?_)
    ⟨hsource.simpleName, hsource.simpleName⟩
  have henum := hclass name (List.mem_append_right _ (Option.mem_toList.mpr hname))
  exact ⟨henum.1, henum.2, henum.2⟩

theorem allowsDeclaration_bracketFree {x : Declaration} (h : x.IsBracketFree)
    (hresolved : ∀ y, x.property.type ≠ .unresolved y) : AllowsDeclaration bracketFree x where
  type := h.type hresolved
  optional kind _ := by cases kind <;> exact isBracketFree_of_isLibrary (by decide)
  markers := h.markers
  builder := h.builder
  initializer := h.initializer

/-- **No diamond before its level.** -/
theorem IsPlan.not_diamond (h : IsPlan chain f d ds ctx strategies) (hd : d.IsBracketFree)
    (hds : ∀ x ∈ ds, x.IsBracketFree) (hdiamond : f.hasDiamond = false) (annotate docs : Bool)
    (style : LayoutStyle) :
    ¬diamond <:+:
      ((unitOf d).render style ((builderClass ctx strategies annotate).code docs)).toList := by
  have huses : (builderClass ctx strategies annotate).Uses bracketFree :=
    h.uses (allowsFixed_bracketFree hdiamond) allowsNames_bracketFree (allowsDatatype_bracketFree hd)
      (fun x hx ↦ allowsDeclaration_bracketFree (hds x hx)) annotate
  have hclosed : bracketFree.IsClosed := ⟨And.left, fun _ ↦ isSolid_bracketFree⟩
  have hunit : (unitOf d).type.IsBracketFree :=
    hd.classes _ (by simp [unitOf, Datatype.classes, Datatype.generics])
  have hheader : ∀ x ∈ (unitOf d).header, IsSolid x.toList := fun x hx ↦ by
    obtain rfl := Option.some.inj hx
    decide
  have hkeeps := TopClass.keeps_code hclosed docs huses
  exact CompilationUnit.not_diamond_render isSolid_bracketFree id hkeeps hunit hheader style

/-- **Generated code keeps to its features.** Every class that it refers to is one of the input or one
that the features offer, and before the level that knows the diamond there is none in the file, given
that the names of the input can stand between brackets and no initializer has one. -/
theorem generateWith_keepsToFeatures (h : generateWith chain config d ds = .ok g) :
    ∃ ctx strategies, plan chain config.features d ds = .ok (ctx, strategies) ∧
      g.text = (unitOf d).render config.style
        ((builderClass ctx strategies config.annotate).code config.docs) ∧
      (∀ c ∈ ((builderClass ctx strategies config.annotate).code config.docs).types,
        c.text ∈ inputNames d ds ∨ config.features.Offers c.text) ∧
      (d.IsBracketFree → (∀ x ∈ ds, x.IsBracketFree) → "<>".toList <:+: g.text.toList →
        Level.java7 ≤ config.features.level) := by
  obtain ⟨ctx, strategies, hplan, hg⟩ := generateWith_eq_ok_iff.mp h
  have htext : g.text = (unitOf d).render config.style
      ((builderClass ctx strategies config.annotate).code config.docs) := by rw [hg]
  refine ⟨ctx, strategies, plan_eq_ok_iff.mpr hplan, htext,
    hplan.types_offered config.annotate config.docs, fun hd hds hdiamond ↦ ?_⟩
  -- Below the level of the diamond there is none in the file.
  by_contra hlevel
  rw [htext] at hdiamond
  exact hplan.not_diamond hd hds (decide_eq_false hlevel) _ _ _ hdiamond

/-- A class at the lowest level, where a list is instantiated with its type arguments, and comparisons
and null checks do without `java.util.Objects`. -/
theorem generateWith_keepsToFeatures_person :
    let d := Datatype.standard ⟨.top ["com", "example"] "Person", ["T"]⟩
    let ds : List Declaration :=
      [.plain (.of "name" (.ofText "java.lang.String")),
        .plain (.of "friends" (.ofText "java.util.List<T>"))]
    ∃ g ctx strategies,
      generateWith .standard ⟨⟨.java6, false⟩, true, true, ⟨.two, .lf⟩⟩ d ds = .ok g ∧
      plan .standard ⟨.java6, false⟩ d ds = .ok (ctx, strategies) ∧
      (∀ c ∈ ((builderClass ctx strategies true).code true).types, c.text ≠ "java.util.Objects") ∧
      ¬"<>".toList <:+: g.text.toList := by
  intro d ds
  have hd : d.IsBracketFree := ⟨by decide, by decide⟩
  have hplain : ∀ {name text : String},
      (Declaration.plain (.of name (.ofText text))).IsBracketFree := fun {_ text} ↦
    Declaration.IsRead.isBracketFree
      ⟨⟨text, rfl⟩, fun _ h ↦ (nomatch h), fun _ h ↦ (nomatch h), fun _ h ↦ (nomatch h)⟩
      fun _ h ↦ (nomatch h)
  have hds : ∀ x ∈ ds, x.IsBracketFree := by
    simp only [ds, List.forall_mem_cons]
    exact ⟨hplain, hplain, by simp⟩
  obtain ⟨g, hg⟩ : ∃ g, generateWith .standard ⟨⟨.java6, false⟩, true, true, ⟨.two, .lf⟩⟩ d ds =
      .ok g := ⟨_, rfl⟩
  obtain ⟨ctx, strategies, hplan, -, htypes, hdiamond⟩ := generateWith_keepsToFeatures hg
  refine ⟨g, ctx, strategies, hg, hplan, fun c hc htext ↦ ?_, fun hin ↦ ?_⟩
  · rcases htypes c hc with hinput | hoffers
    · rw [htext] at hinput
      revert hinput
      decide
    · exact absurd (hoffers.objects htext) (by decide)
  · exact absurd (hdiamond hd hds hin) (by decide)

end Builder

end JavaBuilder
