import Mathlib.Data.List.Chain
import JavaBuilder.Java.Code

/-!
# Writing in normal form

A writer joins a text to the text before it, so what it does with a token depends on the token before.
It makes no difference in the end: two texts one after the other are written like the text of both
(`Writer.text_text`), and from that it follows that writing what another writer has written is the same
as doing again what has been done to the other one (`Writer.append_code`).

Everything that can be done to a writer writes a sequence of tokens (`Writer.step_eq_code`), so it is
enough to know what a writer does with those. The text of a template is said without its pieces: it is
the template with an argument in place of each placeholder, read once from left to right, so whatever
is put in is not looked at again.
-/

namespace JavaBuilder.Java

namespace Token

def isText : Token → Bool
  | text _ => true
  | type _ => false

end Token

namespace Code

/-- No text is empty, and no two texts stand next to each other. -/
structure IsNormal (c : Code) : Prop where
  nonempty : .text "" ∉ c
  apart : c.IsChain fun a b ↦ ¬(a.isText ∧ b.isText)

theorem isNormal_nil : IsNormal [] := ⟨List.not_mem_nil, .nil⟩

theorem qualified_append (c d : Code) : qualified (c ++ d) = qualified c ++ qualified d := by
  simp [qualified, spell]

theorem qualified_text (s : String) (c : Code) : qualified (.text s :: c) = s ++ qualified c := by
  simp [qualified, spell, Token.spell]

theorem qualified_type (name : ClassName) (c : Code) :
    qualified (.type name :: c) = name.text ++ qualified c := by
  simp [qualified, spell, Token.spell]

end Code

namespace Writer

variable (w v : Writer)

/-! ## Tokens -/

theorem text_empty : w.text "" = w := if_pos rfl

theorem text_joined (c : Code) (s t : String) :
    (⟨c ++ [.text t]⟩ : Writer).text s = ⟨c ++ [.text (t ++ s)]⟩ := by
  by_cases hs : s = ""
  · rw [hs, text_empty, String.append_empty]
  · simp [text, hs]

/-- After anything but a text, a text starts a new token. -/
theorem text_apart {w : Writer} {s : String} (hs : s ≠ "")
    (h : ∀ a ∈ w.tokens.getLast?, a.isText = false) : w.text s = ⟨w.tokens ++ [.text s]⟩ := by
  rw [text, if_neg hs]
  split
  · next t hlast => cases h _ hlast
  · rfl

theorem text_cases (s : String) :
    s = "" ∨ (∃ c t, w = ⟨c ++ [.text t]⟩) ∨ s ≠ "" ∧ ∀ a ∈ w.tokens.getLast?, a.isText = false := by
  by_cases hs : s = ""
  · exact .inl hs
  obtain ⟨c⟩ := w
  rcases List.eq_nil_or_concat' c with rfl | ⟨c, a, rfl⟩
  · exact .inr (.inr ⟨hs, by simp⟩)
  cases a with
  | text t => exact .inr (.inl ⟨c, t, rfl⟩)
  | type name => exact .inr (.inr ⟨hs, by simp [Token.isText]⟩)

/-- Two texts one after the other are written like the text of both. -/
theorem text_text (s t : String) : (w.text s).text t = w.text (s ++ t) := by
  rcases w.text_cases s with rfl | ⟨c, u, rfl⟩ | ⟨hs, hlast⟩
  · rw [text_empty, String.empty_append]
  · rw [text_joined, text_joined, text_joined, String.append_assoc]
  · have hst : s ++ t ≠ "" := fun h ↦ hs (String.append_eq_empty_iff.mp h).1
    rw [text_apart hs hlast, text_joined, text_apart hst hlast]

theorem code_append (c d : Code) : w.code (c ++ d) = (w.code c).code d := List.foldl_append

/-! ### Normal form -/

variable {w}

theorem isNormal_text (h : w.tokens.IsNormal) (s : String) : (w.text s).tokens.IsNormal := by
  rcases w.text_cases s with rfl | ⟨c, t, rfl⟩ | ⟨hs, hlast⟩
  · rwa [text_empty]
  · rw [text_joined]
    obtain ⟨hnonempty, hapart⟩ := h
    simp only [List.mem_append, List.mem_singleton, not_or, Token.text.injEq] at hnonempty
    constructor
    · simp only [List.mem_append, List.mem_singleton, not_or, Token.text.injEq]
      exact ⟨hnonempty.1, fun heq ↦ hnonempty.2 (String.append_eq_empty_iff.mp heq.symm).1.symm⟩
    · rw [List.isChain_append] at hapart ⊢
      -- the last token was a text before and is one now
      exact ⟨hapart.1, List.isChain_singleton _, by simpa [Token.isText] using hapart.2.2⟩
  · rw [text_apart hs hlast]
    constructor
    · simpa [hs.symm] using h.nonempty
    · rw [List.isChain_append]
      refine ⟨h.apart, List.isChain_singleton _, fun a ha b _ hboth ↦ ?_⟩
      rw [hlast a ha] at hboth
      cases hboth.1

theorem isNormal_type (h : w.tokens.IsNormal) (name : ClassName) :
    (w.type name).tokens.IsNormal := by
  constructor
  · simpa [type] using h.nonempty
  · rw [type, List.isChain_append]
    exact ⟨h.apart, List.isChain_singleton _, by simp [Token.isText]⟩

/-- **Whatever is written, the tokens stay in normal form.** -/
theorem isNormal_code (h : w.tokens.IsNormal) (c : Code) : (w.code c).tokens.IsNormal := by
  induction c generalizing w with
  | nil => exact h
  | cons a c ih =>
    cases a with
    | text s => exact ih (isNormal_text h s)
    | type name => exact ih (isNormal_type h name)

/-! ### Text and classes -/

variable (w)

theorem qualified_tokens_text (s : String) :
    (w.text s).tokens.qualified = w.tokens.qualified ++ s := by
  rcases w.text_cases s with rfl | ⟨c, t, rfl⟩ | ⟨hs, hlast⟩
  · rw [text_empty, String.append_empty]
  · simp only [text_joined, Code.qualified_append, Code.qualified_text, Code.qualified_nil,
      String.append_empty, String.append_assoc]
  · rw [text_apart hs hlast, Code.qualified_append, Code.qualified_text, Code.qualified_nil,
      String.append_empty]

theorem types_tokens_text (s : String) : (w.text s).tokens.types = w.tokens.types := by
  rcases w.text_cases s with rfl | ⟨c, t, rfl⟩ | ⟨hs, hlast⟩
  · rw [text_empty]
  · simp [text_joined, Code.types]
  · simp [text_apart hs hlast, Code.types]

/-- The text of a writer is the text of what has been written. -/
theorem qualified_tokens_code (c : Code) :
    (w.code c).tokens.qualified = w.tokens.qualified ++ c.qualified := by
  induction c generalizing w with
  | nil => rw [Code.qualified_nil, String.append_empty]; rfl
  | cons a c ih =>
    change ((w.token a).code c).tokens.qualified = _
    rw [ih]
    cases a with
    | text s => rw [token, qualified_tokens_text, Code.qualified_text, String.append_assoc]
    | type name =>
      rw [token, type, Code.qualified_append, Code.qualified_type, Code.qualified_type,
        Code.qualified_nil, String.append_empty, String.append_assoc]

/-- The classes of a writer are the classes of what has been written. -/
theorem types_tokens_code (c : Code) : (w.code c).tokens.types = w.tokens.types ++ c.types := by
  induction c generalizing w with
  | nil => exact (List.append_nil _).symm
  | cons a c ih =>
    change ((w.token a).code c).tokens.types = _
    rw [ih]
    cases a with
    | text s => rw [token, types_tokens_text]; rfl
    | type name => simp [token, type, Code.types]

/-! ### Appending -/

theorem append_text (s : String) : w.append (v.text s) = (w.append v).text s := by
  rcases v.text_cases s with rfl | ⟨c, t, rfl⟩ | ⟨hs, hlast⟩
  · rw [text_empty, text_empty]
  · rw [text_joined, append, append, code_append, code_append]
    exact (text_text _ t s).symm
  · rw [text_apart hs hlast, append, code_append]
    rfl

theorem append_type (name : ClassName) : w.append (v.type name) = (w.append v).type name := by
  rw [append, type, code_append]
  rfl

/-- **Appending is replaying.** What is written to a writer and then appended could have been written
after all that has been appended before. -/
theorem append_code (c : Code) : w.append (v.code c) = (w.append v).code c := by
  induction c generalizing v with
  | nil => rfl
  | cons a c ih =>
    change w.append ((v.token a).code c) = ((w.append v).token a).code c
    rw [ih]
    cases a with
    | text s => rw [token, append_text, token]
    | type name => rw [token, append_type, token]

/-! ## Templates -/

/-- The number of placeholders in a template. -/
def placeholders : List Char → ℕ
  | [] => 0
  | '\x7b' :: '\x7d' :: cs => placeholders cs + 1
  | _ :: cs => placeholders cs

/-- A template with a text in place of each placeholder. -/
def filled : List Char → List (List Char) → List Char
  | [], _ => []
  | '\x7b' :: '\x7d' :: cs, a :: as => a ++ filled cs as
  | c :: cs, as => c :: filled cs as

/-- A template with an argument for each placeholder. -/
structure Filling where
  template : String
  args : List Code
  fits : args.length = placeholders template.toList

/-- The text of a template with its arguments in place. -/
def Filling.text (f : Filling) : String :=
  String.ofList (filled f.template.toList (f.args.map (·.qualified.toList)))

/-- The tokens of the pieces of a template with the arguments in between. -/
def interleaved : List (List Char) → List Code → Code
  | [], _ => []
  | p :: ps, [] => .text (String.ofList p) :: interleaved ps []
  | [p], _ :: _ => [.text (String.ofList p)]
  | p :: q :: ps, a :: as => .text (String.ofList p) :: (a ++ interleaved (q :: ps) as)

theorem pieces_eq_code (ps : List (List Char)) (args : List Code) :
    w.pieces ps args = w.code (interleaved ps args) := by
  fun_induction pieces w ps args with
  | case1 => rfl
  | case2 w p ps ih => exact ih
  | case3 => rfl
  | case4 w p q ps a as ih =>
    rw [ih, interleaved]
    exact (code_append (w.text (String.ofList p)) a (interleaved (q :: ps) as)).symm

theorem templatePieces_ne_nil (cs : List Char) : templatePieces cs ≠ [] := by
  fun_induction templatePieces cs <;> simp

/-- A character in front of the first piece is a character in front of everything. -/
theorem qualified_interleaved_cons (c : Char) (p : List Char) (ps : List (List Char))
    (args : List Code) : (interleaved ((c :: p) :: ps) args).qualified.toList =
      c :: (interleaved (p :: ps) args).qualified.toList := by
  cases args with
  | nil => simp [interleaved, Code.qualified_text]
  | cons a as => cases ps <;> simp [interleaved, Code.qualified_text]

/-- The pieces of a template with the arguments in between are the template with the arguments in
place of the placeholders. -/
theorem qualified_interleaved (cs : List Char) (args : List Code) (h : args.length = placeholders cs) :
    (interleaved (templatePieces cs) args).qualified.toList =
      filled cs (args.map (·.qualified.toList)) := by
  fun_induction templatePieces cs generalizing args with
  | case1 =>
    obtain rfl := List.length_eq_zero_iff.mp h
    rfl
  | case2 cs ih =>
    obtain ⟨a, as, rfl⟩ := List.exists_cons_of_length_eq_add_one h
    obtain ⟨q, ps, hpieces⟩ := List.exists_cons_of_ne_nil (templatePieces_ne_nil cs)
    have hrest := ih as (Nat.succ.inj h)
    rw [hpieces] at hrest ⊢
    simp [interleaved, Code.qualified_text, Code.qualified_append, filled, hrest]
  | case3 c cs hplain hnil => exact absurd hnil (templatePieces_ne_nil cs)
  | case4 c cs hplain p ps hpieces ih =>
    have hcount : placeholders (c :: cs) = placeholders cs := by
      rw [placeholders]
      exact hplain
    have hfilled : filled (c :: cs) (args.map (·.qualified.toList)) =
        c :: filled cs (args.map (·.qualified.toList)) := by
      rw [filled]
      exact fun cs' a as _ hc hcs ↦ hplain cs' hc hcs
    rw [qualified_interleaved_cons, ← hpieces, ih args (h.trans hcount), hfilled]

/-! ## Steps -/

/-- Something that is done to a writer. -/
inductive Step where
  | template (f : Filling)
  /-- A template and the end of a line. -/
  | line (f : Filling)
  | text (s : String)
  | type (name : ClassName)
  /-- Appending a writer to which these steps have been done. -/
  | append (steps : List Step)

mutual

def step (w : Writer) : Step → Writer
  | .template f => w.template f.template f.args
  | .line f => w.line f.template f.args
  | .text s => w.text s
  | .type name => w.type name
  | .append steps => w.append (empty.run steps)

/-- Do steps one after the other. -/
def run (w : Writer) : List Step → Writer
  | [] => w
  | s :: steps => (w.step s).run steps

end

namespace Step

mutual

/-- The text that a step writes, with every class spelled in full. -/
def written : Step → String
  | template f => f.text
  | line f => f.text ++ "\n"
  | text s => s
  | type name => name.text
  | append steps => writtenAll steps

/-- The texts of steps, one after the other. -/
def writtenAll : List Step → String
  | [] => ""
  | s :: steps => s.written ++ writtenAll steps

end

theorem writtenAll_eq_join (steps : List Step) : writtenAll steps = String.join (steps.map written) := by
  induction steps with
  | nil => rfl
  | cons s steps ih => rw [writtenAll, ih, List.map_cons, String.join_cons]

def code : Step → Code
  | template f => interleaved (templatePieces f.template.toList) f.args
  | line f => interleaved (templatePieces f.template.toList) f.args ++ [.text "\n"]
  | text s => [.text s]
  | type name => [.type name]
  | append steps => (empty.run steps).tokens

end Step

/-- A step writes a sequence of tokens, whatever has been written before. -/
theorem step_eq_code (s : Step) : w.step s = w.code s.code := by
  cases s with
  | template f => rw [step, template, pieces_eq_code, Step.code]
  | line f => rw [step, line, template, pieces_eq_code, Step.code, code_append]; rfl
  | text s => rw [step]; rfl
  | type name => rw [step]; rfl
  | append steps => rw [step]; rfl

theorem run_eq_code (steps : List Step) : w.run steps = w.code (steps.flatMap Step.code) := by
  induction steps generalizing w with
  | nil => rw [run]; rfl
  | cons s steps ih => rw [run, ih, step_eq_code, List.flatMap_cons, code_append]

theorem Filling.qualified_eq (f : Filling) :
    (interleaved (templatePieces f.template.toList) f.args).qualified = f.text := by
  rw [text, ← qualified_interleaved _ _ f.fits, String.ofList_toList]

mutual

theorem qualified_code : (s : Step) → s.code.qualified = s.written
  | .template f => f.qualified_eq
  | .line f => by
    rw [Step.code, Code.qualified_append, f.qualified_eq, Code.qualified_text, Step.written,
      Code.qualified_nil, String.append_empty]
  | .text s => (Code.qualified_text s []).trans String.append_empty
  | .type name => (Code.qualified_type name []).trans String.append_empty
  | .append steps => by
    rw [Step.code, run_eq_code, qualified_tokens_code, qualified_flatMap_code steps, Step.written]
    exact String.empty_append

theorem qualified_flatMap_code : (steps : List Step) →
    Code.qualified (steps.flatMap Step.code) = Step.writtenAll steps
  | [] => rfl
  | s :: steps => by
    rw [List.flatMap_cons, Code.qualified_append, qualified_code s, qualified_flatMap_code steps,
      Step.writtenAll]

end

/-- **Writing in normal form.** A writer to which any steps have been done has neither an empty text nor
two texts next to each other. Appending it leaves what the steps leave that are done directly. Its text
is the texts of the steps, one after the other. -/
theorem run_writes_normal_form (steps : List Step) :
    (empty.run steps).tokens.IsNormal ∧
      (∀ w : Writer, w.append (empty.run steps) = w.run steps) ∧
      (empty.run steps).tokens.qualified = String.join (steps.map Step.written) := by
  refine ⟨?_, fun w ↦ ?_, ?_⟩
  · rw [run_eq_code]
    exact isNormal_code Code.isNormal_nil _
  · rw [run_eq_code, append_code, run_eq_code]
    rfl
  · rw [run_eq_code, qualified_tokens_code, qualified_flatMap_code, Step.writtenAll_eq_join]
    exact String.empty_append

/-- A placeholder that is put in stays, and texts are joined across the border of a writer. -/
example (name : ClassName) :
    (empty.run [.text "f(", .append [.template ⟨"\x7b\x7d, \x7b\x7d",
      [[.text "\x7b\x7d"], [.type name]], rfl⟩], .text ")"]).tokens =
      [.text "f(\x7b\x7d, ", .type name, .text ")"] := by
  cbv

end Writer

end JavaBuilder.Java
