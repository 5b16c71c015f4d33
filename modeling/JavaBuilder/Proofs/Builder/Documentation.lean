import JavaBuilder.Proofs.Builder.FeatureGating
import JavaBuilder.Proofs.Layout.DocumentedClass

/-!
# Documentation changes comments only

Whether documentation is written is asked when the class of a plan is printed, and by nothing before. So
there is a class with documentation if and only if there is one without it, and it is the same class. Its
text changes by whole comments, as long as no name of the input and no source text breaks a line.
-/

namespace JavaBuilder

open Unicode Name Text Java Model

/-! ## Names without line breaks -/

namespace Java

theorem IsOrdinary.isMarkedLine {x : String} (h : IsOrdinary x) (hne : x ≠ "") :
    IsMarkedLine x.toList := by
  obtain ⟨c, hc⟩ := List.exists_mem_of_ne_nil x.toList (by simpa using hne)
  refine ⟨not_mem_of_isOrdinary h, c, hc, ?_⟩
  have hdelimiters : (docOpening ++ docClosing).any isOrdinary = false := by decide
  have hnot : c ∉ docOpening ++ docClosing := fun hmem ↦
    List.any_eq_false.mp hdelimiters c hmem (h c hc)
  simpa [isMark] using hnot

theorem newline_notMem_of_isIdentifier {x : String} (h : isIdentifier x = true) : '\n' ∉ x.toList :=
  not_mem_of_isOrdinary (.of_isIdentifier h)

theorem ClassName.IsRead.isUnbroken {name : ClassName} (h : name.IsRead) : name.IsUnbroken :=
  fun x hx ↦ newline_notMem_of_isIdentifier (h.isSpelled x hx)

end Java

namespace Model

/-- No name of a datatype has a line break. The name of its enum, which is declared for itself, has a mark
as well. -/
structure Datatype.IsUnbroken (d : Datatype) : Prop where
  classes : ∀ c ∈ d.classes, c.IsUnbroken
  params : ∀ c ∈ d.generics, ∀ x ∈ c.params, '\n' ∉ x.toList
  enum : ∀ name ∈ d.propertyEnum, IsMarkedLine name.simpleName.toList

/-- No name of a declaration has a line break, and neither has its initializer. Of text that is not a type
nothing is asked. -/
structure Declaration.IsUnbroken (x : Declaration) : Prop where
  type : (∀ y, x.property.type ≠ .unresolved y) → x.property.type.Uses unbroken
  markers : ∀ n ∈ x.nullMarkers, n.IsUnbroken
  builder : ∀ b ∈ x.buildable, b.builder.isResolved = true → b.builder.Uses unbroken
  initializer : ∀ y, x.default = some (.initializer y) → '\n' ∉ y.toList

/-- Names that have been read have no line break. -/
theorem Datatype.IsRead.isUnbroken {d : Datatype} (h : d.IsRead) : d.IsUnbroken where
  classes _ hname := (h.isRead_of_mem_classes hname).isUnbroken
  params c hc x hx := newline_notMem_of_isIdentifier ((h.isRead_of_mem_generics c hc).params x hx)
  enum name hname := by
    have hsimple := name_of_isIdentifier (h.propertyEnum name hname).isSpelled.simpleName
    exact hsimple.1.isMarkedLine hsimple.2

theorem Declaration.IsRead.isUnbroken {x : Declaration} (h : x.IsRead)
    (hinitializer : ∀ y, x.default = some (.initializer y) → '\n' ∉ y.toList) : x.IsUnbroken where
  type := h.uses_type ClassName.IsRead.isUnbroken newline_notMem_of_isIdentifier
  markers n hn := show unbroken.type n from h.type_of_mem_nullMarkers ClassName.IsRead.isUnbroken hn
  builder _ hb := h.uses_builder ClassName.IsRead.isUnbroken newline_notMem_of_isIdentifier hb
  initializer := hinitializer

end Model

namespace Builder

variable {chain : Chain} {config : Config} {f : Features} {d : Datatype} {ds : List Declaration}
  {ctx : Context} {strategies : List Strategy} {g : Generated}

/-! ## The class of a plan -/

theorem allowsFixed_unbroken : AllowsFixed unbroken f where
  name h :=
    have hname := name_of_isIdentifier (isIdentifier_of_isWord (isFixedName_iff.mp h).1)
    hname.1.isMarkedLine hname.2
  method h := newline_notMem_of_isIdentifier (isIdentifier_of_isWord h)
  literal h := by
    have hfixed : ∀ x ∈ fixedLiterals, IsMarkedLine x.toList := by decide
    exact hfixed _ h
  type h x hx := newline_notMem_of_isIdentifier
    (isSpelled_of_isLibrary (isLibrary_of_isBasic h) x hx)
  objects _ := (by decide : (javaUtil "Objects").IsUnbroken)
  functional _ := fun h x hx ↦ newline_notMem_of_isIdentifier
    (isSpelled_of_isLibrary (Bool.and_eq_true _ _ ▸ h).1 x hx)
  guava _ := fun h x hx ↦ newline_notMem_of_isIdentifier
    (isSpelled_of_isLibrary (Bool.and_eq_true _ _ ▸ h).1 x hx)
  diamond _ := trivial
  comment h := (isPhrase_iff.mp h).1
  string _ := trivial
  append _ _ := trivial

theorem allowsNames_unbroken : AllowsNames unbroken where
  name h := h.1.isMarkedLine h.2
  method h := not_mem_of_isOrdinary h.1
  static hc h := ⟨hc, not_mem_of_isOrdinary h.1⟩
  comment h := not_mem_of_isOrdinary h
  string _ := trivial

theorem allowsDatatype_unbroken (h : d.IsUnbroken) : AllowsDatatype unbroken d := by
  have hsimple : ∀ c ∈ d.classes, '\n' ∉ c.simpleName.toList := fun c hc ↦
    h.classes c hc _ (List.mem_append_right _ c.simpleName_mem_simpleNames)
  have hgeneric : ∀ t ∈ d.generics, t.Uses unbroken := fun t ht ↦
    have hmem : t.name ∈ d.classes := List.mem_append_left _ (List.mem_map_of_mem ht)
    ⟨h.classes _ hmem, hsimple _ hmem, h.params t ht⟩
  have hsource := hgeneric d.source (by simp [Datatype.generics])
  refine allowsDatatype_of_generics hgeneric (fun name hname ↦ ?_) ⟨hsource.simpleName, trivial⟩
  have hmem : name ∈ d.classes := List.mem_append_right _ (Option.mem_toList.mpr hname)
  exact ⟨h.classes _ hmem, h.enum name hname, hsimple _ hmem⟩

theorem allowsDeclaration_unbroken {x : Declaration} (h : x.IsUnbroken)
    (hresolved : ∀ y, x.property.type ≠ .unresolved y) : AllowsDeclaration unbroken x where
  type := h.type hresolved
  optional kind _ := by
    have hkinds : ∀ kind : OptionalKind, kind.type.IsUnbroken := by
      intro kind
      cases kind <;> decide
    exact hkinds kind
  markers := h.markers
  builder := h.builder
  initializer := h.initializer

/-- Documentation puts comments between the lines of the class of a plan. -/
theorem IsPlan.documents (h : IsPlan chain f d ds ctx strategies) (hd : d.IsUnbroken)
    (hds : ∀ x ∈ ds, x.IsUnbroken) (annotate : Bool) :
    Code.Documents ((builderClass ctx strategies annotate).code true)
      ((builderClass ctx strategies annotate).code false) :=
  TopClass.documents_code (h.uses allowsFixed_unbroken allowsNames_unbroken
    (allowsDatatype_unbroken hd) (fun x hx ↦ allowsDeclaration_unbroken (hds x hx)) annotate)

/-- **Documentation changes comments only.** The same class is generated with documentation and without
it. The text without it is the text with it after every comment has been dropped, from the line that opens
it to the next line that closes it. It has no such lines itself, and with documentation every comment is
closed before the next one is opened. -/
theorem generateWith_docs (h : generateWith chain config d ds = .ok g) (hd : d.IsUnbroken)
    (hds : ∀ x ∈ ds, x.IsUnbroken) :
    ∃ ctx strategies, plan chain config.features d ds = .ok (ctx, strategies) ∧
      let body (docs : Bool) := (builderClass ctx strategies config.annotate).code docs
      let lines (docs : Bool) := textLines (body docs).qualified.toList
      (∀ docs, generateWith chain { config with docs } d ds =
        .ok { g with text := (unitOf d).render config.style (body docs) }) ∧
      (body false).qualified.toList = (withoutDocs (lines true)).flatMap (· ++ ['\n']) ∧
      docOpening ∉ lines false ∧ docClosing ∉ lines false ∧ ClosesDocs (lines true) := by
  obtain ⟨ctx, strategies, hplan, hg⟩ := generateWith_eq_ok_iff.mp h
  refine ⟨ctx, strategies, plan_eq_ok_iff.mpr hplan, fun docs ↦ ?_, ?_⟩
  · rw [generateWith_eq_ok_iff]
    exact ⟨ctx, strategies, hplan, by rw [hg]⟩
  · obtain ⟨on, off, hdocs, hon, hoff⟩ := hplan.documents hd hds config.annotate
    have hcode := hdocs.isCodeLine
    have honLines : textLines (Code.chars _) = on := hon ▸ textLines_flatMap_newline hdocs.newline
    have hoffLines : textLines (Code.chars _) = off :=
      hoff ▸ textLines_flatMap_newline fun l hl ↦ (hcode l hl).newline
    simp only [Code.chars] at hoff honLines hoffLines
    simp only [honLines, hoffLines, hdocs.withoutDocs_eq]
    exact ⟨hoff, fun hmem ↦ (hcode _ hmem).opening rfl, fun hmem ↦ (hcode _ hmem).closing rfl,
      hdocs.closesDocs⟩

/-- A class of a list and of a number whose initializer has a star in it. -/
theorem generateWith_docs_person :
    let d := Datatype.standard ⟨.top ["com", "example"] "Person", ["T"]⟩
    let ds : List Declaration :=
      [.plain (.of "friends" (.ofText "java.util.List<T>")),
        ⟨.of "age" (.primitive .int), [], none, some (.initializer "6 * 7")⟩]
    ∃ g g' ctx strategies,
      generateWith .standard ⟨⟨.java8, false⟩, true, true, ⟨.two, .lf⟩⟩ d ds = .ok g ∧
      generateWith .standard ⟨⟨.java8, false⟩, false, true, ⟨.two, .lf⟩⟩ d ds = .ok g' ∧
      plan .standard ⟨.java8, false⟩ d ds = .ok (ctx, strategies) ∧
      docOpening ∉ textLines ((builderClass ctx strategies true).code false).qualified.toList := by
  intro d ds
  have hd : d.IsUnbroken := ⟨by decide, by decide, by decide⟩
  have hfriends : (Declaration.plain (.of "friends" (.ofText "java.util.List<T>"))).IsUnbroken :=
    Declaration.IsRead.isUnbroken
      ⟨⟨"java.util.List<T>", rfl⟩, fun _ h ↦ (nomatch h), fun _ h ↦ (nomatch h),
        fun _ h ↦ (nomatch h)⟩
      fun _ h ↦ (nomatch h)
  have hage : Declaration.IsUnbroken
      ⟨.of "age" (.primitive .int), [], none, some (.initializer "6 * 7")⟩ :=
    ⟨fun _ ↦ trivial, fun _ h ↦ (nomatch h), fun _ h ↦ (nomatch h), fun y h ↦ by
      obtain rfl := DefaultSource.initializer.inj (Option.some.inj h)
      decide⟩
  have hds : ∀ x ∈ ds, x.IsUnbroken := by
    simp only [ds, List.forall_mem_cons]
    exact ⟨hfriends, hage, by simp⟩
  obtain ⟨g, hg⟩ : ∃ g, generateWith .standard ⟨⟨.java8, false⟩, true, true, ⟨.two, .lf⟩⟩ d ds =
      .ok g := ⟨_, rfl⟩
  obtain ⟨ctx, strategies, hplan, hdocs, -, hnone, -⟩ := generateWith_docs hg hd hds
  exact ⟨g, _, ctx, strategies, hg, hdocs false, hplan, hnone⟩

end Builder

end JavaBuilder
