import JavaBuilder.Proofs.Java.Writing

/-!
# Types as code and as text

A type is printed twice: as text, where nothing can be told apart any more, and as code, where its
classes are still references and can be imported. The two printers are separate recursions over the
type, and agree: the code spelled in full is the text, and its references are the classes of the type in
the order in which they stand there.

`Code.Prints` says this of written code, after anything that has been written before.
-/

namespace JavaBuilder.Java

/-! ## Printed code -/

/-- Written after anything else, the code adds a text and references to classes. -/
structure Code.Prints (c : Code) (text : String) (classes : List ClassName) : Prop where
  qualified (w : Writer) : (w.code c).tokens.qualified = w.tokens.qualified ++ text
  types (w : Writer) : (w.code c).tokens.types = w.tokens.types ++ classes

theorem Code.prints_iff {c : Code} {text : String} {classes : List ClassName} :
    c.Prints text classes ↔ c.qualified = text ∧ c.types = classes := by
  constructor
  · intro h
    have htext := h.qualified .empty
    have htypes := h.types .empty
    rw [Writer.qualified_tokens_code] at htext
    rw [Writer.types_tokens_code] at htypes
    exact ⟨String.append_right_inj _ |>.mp htext, List.append_cancel_left htypes⟩
  · rintro ⟨rfl, rfl⟩
    exact ⟨fun w ↦ w.qualified_tokens_code c, fun w ↦ w.types_tokens_code c⟩

/-! ## Types -/

namespace TypeRef

mutual

/-- The classes in a type, from left to right. Text that is not a type has none. -/
def classes : TypeRef → List ClassName
  | declared name args => name :: allClasses args
  | extending bound => bound.classes
  | array component => component.classes
  | primitive _ | typeVar _ | wildcard | void | unresolved _ => []

/-- The classes in several types, one after the other. -/
def allClasses : List TypeRef → List ClassName
  | [] => []
  | t :: ts => t.classes ++ allClasses ts

end

mutual

theorem qualified_code : (t : TypeRef) → t.code.qualified = t.text
  | primitive _ | typeVar _ | wildcard | void | unresolved _ =>
    (Code.qualified_text _ []).trans String.append_empty
  | declared name [] => by
    rw [code, Code.qualified_type, Code.qualified_nil, String.append_empty, text]
  | declared name (a :: as) => by
    rw [code, Code.qualified_type, Code.qualified_text, Code.qualified_append, qualified_code a,
      qualified_tailCode as, text]
    simp only [String.append_assoc]
  | extending bound => by rw [code, Code.qualified_text, qualified_code bound, text]
  | array component => by
    rw [code, Code.qualified_append, qualified_code component, Code.qualified_text,
      Code.qualified_nil, String.append_empty, text]

theorem qualified_tailCode : (ts : List TypeRef) → (tailCode ts).qualified = tailText ts ++ ">"
  | [] => rfl
  | t :: ts => by
    rw [tailCode, Code.qualified_text, Code.qualified_append, qualified_code t,
      qualified_tailCode ts, tailText]
    simp only [String.append_assoc]

end

mutual

theorem types_code : (t : TypeRef) → t.code.types = t.classes
  | primitive _ | typeVar _ | wildcard | void | unresolved _ => rfl
  | declared _ [] => rfl
  | declared name (a :: as) => by
    change name :: Code.types (a.code ++ tailCode as) = name :: (a.classes ++ allClasses as)
    rw [Code.types_append, types_code a, types_tailCode as]
  | extending bound => types_code bound
  | array component => by
    rw [code, Code.types_append, types_code component]
    exact List.append_nil _

theorem types_tailCode : (ts : List TypeRef) → (tailCode ts).types = allClasses ts
  | [] => rfl
  | t :: ts => by
    change Code.types (t.code ++ tailCode ts) = t.classes ++ allClasses ts
    rw [Code.types_append, types_code t, types_tailCode ts]

end

/-- Types after the first one follow a comma each. -/
theorem text_tailText (t : TypeRef) (ts : List TypeRef) :
    t.text ++ tailText ts = ", ".intercalate ((t :: ts).map text) := by
  induction ts generalizing t with
  | nil => rw [tailText, String.append_empty]; rfl
  | cons u us ih =>
    rw [List.map_cons, List.map_cons, String.intercalate_cons_cons, ← List.map_cons, ← ih, tailText]
    simp only [String.append_assoc]

/-- Type arguments stand in angle brackets, if there are any. -/
theorem text_declared (name : ClassName) (args : List TypeRef) : (declared name args).text =
    name.text ++ if args = [] then "" else "<" ++ ", ".intercalate (args.map text) ++ ">" := by
  cases args with
  | nil => rw [text, if_pos rfl, String.append_empty]
  | cons a as =>
    rw [text, if_neg (List.cons_ne_nil a as), ← text_tailText]
    simp only [String.append_assoc]

end TypeRef

/-! ## Generic classes -/

namespace GenericClass

variable (c : GenericClass)

theorem qualified_code : c.code.qualified = c.type.text := by
  have hparams : (c.params.map .typeVar).map TypeRef.text = c.params := by
    rw [List.map_map]
    exact List.map_id _
  rw [type, TypeRef.text_declared, hparams, code, Code.qualified_type, Code.qualified_text,
    Code.qualified_nil, String.append_empty, paramsText]
  simp only [List.isEmpty_iff, List.map_eq_nil_iff]

theorem isGeneric_iff : c.isGeneric = true ↔ c.params ≠ [] := by
  rw [isGeneric, Bool.not_eq_true', List.isEmpty_eq_false_iff]

theorem qualified_wildcardCode : c.wildcardCode.qualified = c.wildcardType.text := by
  have hmarks : (c.params.map fun _ ↦ TypeRef.wildcard).map TypeRef.text =
      c.params.map fun _ ↦ "?" := List.map_map
  rw [wildcardType, TypeRef.text_declared, hmarks, wildcardCode]
  by_cases h : c.params = []
  · rw [if_neg (c.isGeneric_iff.not.mpr (not_not.mpr h)), if_pos (List.map_eq_nil_iff.mpr h),
      Code.qualified_type, Code.qualified_nil]
  · rw [if_pos (c.isGeneric_iff.mpr h), if_neg (List.map_eq_nil_iff.not.mpr h),
      Code.qualified_type, Code.qualified_text, Code.qualified_nil, String.append_empty]

/-- The diamond stands in place of type parameters, if there are any. -/
theorem qualified_newCode_diamond :
    (c.newCode true).qualified = c.name.text ++ if c.params = [] then "" else "<>" := by
  rw [newCode, Bool.true_and]
  by_cases h : c.params = []
  · rw [if_neg (c.isGeneric_iff.not.mpr (not_not.mpr h)), if_pos h, qualified_code, type,
      TypeRef.text_declared, if_pos (List.map_eq_nil_iff.mpr h)]
  · rw [if_pos (c.isGeneric_iff.mpr h), if_neg h, Code.qualified_type, Code.qualified_text,
      Code.qualified_nil, String.append_empty]

/-- Without the diamond, an instantiation is the class with its type parameters. -/
theorem newCode_false : c.newCode false = c.code := if_neg Bool.false_ne_true

/-- In every form, the class is the only reference. -/
theorem types_code : c.code.types = [c.name] := rfl

theorem types_wildcardCode : c.wildcardCode.types = [c.name] := by
  rw [wildcardCode]
  split <;> rfl

theorem types_newCode (diamond : Bool) : (c.newCode diamond).types = [c.name] := by
  rw [newCode]
  split <;> rfl

end GenericClass

/-- **Code and text agree.** The code of a type is its text with the classes in it as references. A
generic class has its type parameters behind it, a wildcard for each of them, or the diamond, and is the
only reference in each case. -/
theorem TypeRef.code_prints_text : (∀ t : TypeRef, t.code.Prints t.text t.classes) ∧
    ∀ c : GenericClass,
      c.code.Prints c.type.text [c.name] ∧
      c.wildcardCode.Prints c.wildcardType.text [c.name] ∧
      (c.newCode false).Prints c.type.text [c.name] ∧
      (c.newCode true).Prints (c.name.text ++ if c.params = [] then "" else "<>") [c.name] := by
  simp only [Code.prints_iff]
  refine ⟨fun t ↦ ⟨t.qualified_code, t.types_code⟩, fun c ↦ ⟨?_, ?_, ?_, ?_⟩⟩
  · exact ⟨c.qualified_code, c.types_code⟩
  · exact ⟨c.qualified_wildcardCode, c.types_wildcardCode⟩
  · rw [c.newCode_false]
    exact ⟨c.qualified_code, c.types_code⟩
  · exact ⟨c.qualified_newCode_diamond, c.types_newCode true⟩

end JavaBuilder.Java
