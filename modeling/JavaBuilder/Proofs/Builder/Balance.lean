import JavaBuilder.Proofs.Builder.ReadNames
import JavaBuilder.Proofs.Layout.UnitText

/-!
# Generated code has balanced braces

Whatever strategies the properties have, and whatever features, documentation and style are asked for,
the class of a plan can be printed, and code that can be printed has balanced braces.
-/

namespace JavaBuilder.Builder

open Java Model

variable {chain : Chain} {config : Config} {d : Datatype} {ds : List Declaration} {g : Generated}

/-- **The braces of a generated class are balanced.** Given names that have been read from text, the
text of the class is nowhere closed more than it is open, it is open from the line that declares the
class to its last line, and closed at the end. So the layout never saturates, and the file ends with a
lone brace in the first column. -/
theorem generateWith_balanced (hd : d.IsRead) (hds : ∀ x ∈ ds, x.IsRead)
    (h : generateWith chain config d ds = .ok g) :
    ∃ ctx strategies, plan chain config.features d ds = .ok (ctx, strategies) ∧
      ∃ x : ClassText, x.IsBalanced ∧
        (unitOf d).Closes ((builderClass ctx strategies config.annotate).code config.docs) x ∧
        g.text = (unitOf d).render config.style
          ((builderClass ctx strategies config.annotate).code config.docs) ∧
        ∃ before, g.text =
          before ++ config.style.lineEnd.text ++ "\x7d" ++ config.style.lineEnd.text := by
  obtain ⟨ctx, strategies, hplan, hg⟩ := generateWith_eq_ok_iff.mp h
  have huses := hplan.uses_printable hd hds config.annotate
  have hpackage : IsOrdinary (unitOf d).type.packageText := ClassName.isOrdinary_join fun s hs ↦
    hd.generated.name.isSpelled s (List.mem_append_left _ hs)
  have hheader : ∀ x ∈ (unitOf d).header, '\n' ∉ x.toList := by
    intro x hx
    obtain rfl := Option.some.inj hx
    decide
  obtain ⟨x, hbalanced, hcloses⟩ :=
    CompilationUnit.exists_classText huses config.docs hheader hpackage
  have htext : g.text = (unitOf d).render config.style
      ((builderClass ctx strategies config.annotate).code config.docs) := by rw [hg]
  refine ⟨ctx, strategies, plan_eq_ok_iff.mpr hplan, x, hbalanced, hcloses, htext, ?_⟩
  rw [htext]
  exact hcloses.lastLine config.style

/-- A generic class with three strategies, one of them initialized by source text. -/
theorem generateWith_balanced_person :
    let d := Datatype.standard ⟨.top ["com", "example"] "Person", ["T"]⟩
    let ds : List Declaration :=
      [.plain (.of "name" (.ofText "java.lang.String")),
        .plain (.of "friends" (.ofText "java.util.List<T>")),
        ⟨.of "age" (.ofText "int"), [], none, some (.initializer "18")⟩]
    ∃ g, generateWith .standard ⟨.standard, true, true, ⟨.two, .crlf⟩⟩ d ds = .ok g ∧
      ∃ x : ClassText, x.IsBalanced ∧ ∃ before, g.text = before ++ "\r\n" ++ "\x7d" ++ "\r\n" := by
  intro d ds
  have hd : d.IsRead := by
    refine ⟨⟨⟨"com.example.Person", by decide⟩, by decide⟩,
      ⟨⟨"com.example.Person.Builder", by decide⟩, by decide⟩,
      ⟨⟨"com.example.Person_Builder", by decide⟩, by decide⟩,
      ⟨⟨"com.example.Person_Builder.Value", by decide⟩, by decide⟩, fun p hp ↦ ?_, fun name hname ↦ ?_⟩
    · obtain rfl := Option.some.inj hp
      exact ⟨⟨"com.example.Person_Builder.Partial", by decide⟩, by decide⟩
    · obtain rfl := Option.some.inj hname
      exact ⟨"com.example.Person_Builder.Property", by decide⟩
  have hplain : ∀ {name text : String}, (Declaration.plain (.of name (.ofText text))).IsRead :=
    fun {_ text} ↦ ⟨⟨text, rfl⟩, fun _ h ↦ (nomatch h), fun _ h ↦ (nomatch h), fun _ h ↦ (nomatch h)⟩
  have hds : ∀ x ∈ ds, x.IsRead := by
    simp only [ds, List.forall_mem_cons]
    refine ⟨hplain, hplain, ⟨⟨"int", rfl⟩, by simp, by simp, fun x hx ↦ ?_⟩, by simp⟩
    obtain rfl := DefaultSource.initializer.inj (Option.some.inj hx)
    decide
  obtain ⟨g, hg⟩ : ∃ g, generateWith .standard ⟨.standard, true, true, ⟨.two, .crlf⟩⟩ d ds = .ok g :=
    ⟨_, rfl⟩
  obtain ⟨-, -, -, x, hx, -, -, before, htext⟩ := generateWith_balanced hd hds hg
  exact ⟨g, hg, x, hx, before, htext⟩

end JavaBuilder.Builder
