import JavaBuilder.Proofs.Java.Uses

/-!
# The parts of code

All expressions that occur somewhere in a statement and all variables that it declares, so that it can
be said of code that it does, or does not, refer to something. Whatever occurs in code that is made of
what is allowed is made of it as well, so a reference to what is not allowed occurs nowhere.
-/

namespace JavaBuilder.Java

namespace Expr

mutual

/-- The expressions in an expression, itself left out. -/
@[simp] def inner : Expr → List Expr
  | var _ | own _ | enclosing _ | this | null | literal _ | string _ | verbatim _ => []
  | static _ _ | classOf _ => []
  | field e _ | cast _ e | not e | paren e | instanceOf e _ => e :: e.inner
  | ownCall _ args | staticCall _ _ _ _ args | create _ _ args | newArray _ args => allParts args
  | call e _ _ args => (e :: e.inner) ++ allParts args
  | binary _ _ l r => (l :: l.inner) ++ (r :: r.inner)
  | conditional c a b => (c :: c.inner) ++ ((a :: a.inner) ++ (b :: b.inner))

/-- The expressions of a list, each with the expressions in it. -/
@[simp] def allParts : List Expr → List Expr
  | [] => []
  | e :: es => (e :: e.inner) ++ allParts es

end

/-- The expression and the expressions in it. -/
@[simp] def parts (e : Expr) : List Expr := e :: e.inner

variable {ok : Allowed} {x : Expr}

mutual

theorem uses_of_mem_inner : (e : Expr) → e.Uses ok → x ∈ e.inner → x.Uses ok
  | var _, _, hx | own _, _, hx | enclosing _, _, hx | this, _, hx | null, _, hx | literal _, _, hx
  | string _, _, hx | verbatim _, _, hx | static _ _, _, hx | classOf _, _, hx => nomatch hx
  | field e _, h, hx | instanceOf e _, h, hx => uses_of_mem_parts e h.1 hx
  | cast _ e, h, hx => uses_of_mem_parts e h.2 hx
  | not e, h, hx | paren e, h, hx => uses_of_mem_parts e h hx
  | ownCall _ args, h, hx | newArray _ args, h, hx => uses_of_mem_allParts args h.2 hx
  | create _ _ args, h, hx => uses_of_mem_allParts args h.2.2 hx
  | staticCall _ _ _ _ args, h, hx => uses_of_mem_allParts args h.2.2.2 hx
  | call e _ _ args, h, hx => by
    rcases List.mem_append.mp hx with hx | hx
    · exact uses_of_mem_parts e h.1 hx
    · exact uses_of_mem_allParts args h.2.2 hx
  | binary _ _ l r, h, hx => by
    rcases List.mem_append.mp hx with hx | hx
    · exact uses_of_mem_parts l h.1 hx
    · exact uses_of_mem_parts r h.2 hx
  | conditional c a b, h, hx => by
    rcases List.mem_append.mp hx with hx | hx
    · exact uses_of_mem_parts c h.1 hx
    · rcases List.mem_append.mp hx with hx | hx
      · exact uses_of_mem_parts a h.2.1 hx
      · exact uses_of_mem_parts b h.2.2 hx

theorem uses_of_mem_parts (e : Expr) (h : e.Uses ok) (hx : x ∈ e.parts) : x.Uses ok := by
  rcases List.mem_cons.mp hx with rfl | hx
  · exact h
  · exact uses_of_mem_inner e h hx

theorem uses_of_mem_allParts : (es : List Expr) → UsesAll ok es → x ∈ allParts es → x.Uses ok
  | [], _, hx => nomatch hx
  | e :: es, h, hx => by
    rcases List.mem_append.mp hx with hx | hx
    · exact uses_of_mem_parts e h.1 hx
    · exact uses_of_mem_allParts es h.2 hx

end

theorem UsesValue.of_mem_parts {e : Expr} (h : e.UsesValue ok) (hx : x ∈ e.parts) :
    x.UsesValue ok := by
  rcases h with h | ⟨s, rfl, hs⟩
  · exact .inl (uses_of_mem_parts e h hx)
  · obtain rfl := List.mem_singleton.mp hx
    exact .inr ⟨s, rfl, hs⟩

end Expr

namespace Stmt

mutual

/-- The expressions in a statement. -/
@[simp] def parts : Stmt → List Expr
  | declare _ _ e | eval e | ret e => e.parts
  | assign l r => l.parts ++ r.parts
  | throwNew _ args => Expr.allParts args
  | ifThen e b | forEach _ _ e b => e.parts ++ allParts b
  | ifElse e a b => e.parts ++ (allParts a ++ allParts b)
  | remark _ => []

/-- The expressions in statements. -/
@[simp] def allParts : List Stmt → List Expr
  | [] => []
  | s :: ss => s.parts ++ allParts ss

end

variable {ok : Allowed} {x : Expr}

@[simp] theorem allParts_append (ss ts : List Stmt) :
    allParts (ss ++ ts) = allParts ss ++ allParts ts := by
  induction ss with
  | nil => rfl
  | cons s ss ih => simp [ih]

theorem mem_allParts_iff {ss : List Stmt} : x ∈ allParts ss ↔ ∃ s ∈ ss, x ∈ s.parts := by
  induction ss with
  | nil => simp
  | cons s ss ih => simp [ih]

theorem mem_allParts_flatMap {α : Type} {e : Expr} {as : List α} {f : α → List Stmt} :
    e ∈ allParts (as.flatMap f) ↔ ∃ a ∈ as, e ∈ allParts (f a) := by
  induction as with
  | nil => simp
  | cons a as ih => simp [ih]

mutual

/-- **What occurs in code that is made of what is allowed is made of it.** -/
theorem usesValue_of_mem_parts : (s : Stmt) → s.Uses ok → x ∈ s.parts → x.UsesValue ok
  | declare _ _ e, h, hx => .inl (Expr.uses_of_mem_parts e h.2.2 hx)
  | eval e, h, hx | ret e, h, hx => .inl (Expr.uses_of_mem_parts e h hx)
  | assign l r, h, hx => by
    rcases List.mem_append.mp hx with hx | hx
    · exact .inl (Expr.uses_of_mem_parts l h.1 hx)
    · exact h.2.of_mem_parts hx
  | throwNew _ args, h, hx => .inl (Expr.uses_of_mem_allParts args h.2 hx)
  | ifThen e b, h, hx => by
    rcases List.mem_append.mp hx with hx | hx
    · exact .inl (Expr.uses_of_mem_parts e h.1 hx)
    · exact usesValue_of_mem_allParts b h.2 hx
  | forEach _ _ e b, h, hx => by
    rcases List.mem_append.mp hx with hx | hx
    · exact .inl (Expr.uses_of_mem_parts e h.2.2.1 hx)
    · exact usesValue_of_mem_allParts b h.2.2.2 hx
  | ifElse e a b, h, hx => by
    rcases List.mem_append.mp hx with hx | hx
    · exact .inl (Expr.uses_of_mem_parts e h.1 hx)
    · rcases List.mem_append.mp hx with hx | hx
      · exact usesValue_of_mem_allParts a h.2.1 hx
      · exact usesValue_of_mem_allParts b h.2.2 hx
  | remark _, _, hx => nomatch hx

theorem usesValue_of_mem_allParts : (ss : List Stmt) → UsesAll ok ss → x ∈ allParts ss →
    x.UsesValue ok
  | [], _, hx => nomatch hx
  | s :: ss, h, hx => by
    rcases List.mem_append.mp hx with hx | hx
    · exact usesValue_of_mem_parts s h.1 hx
    · exact usesValue_of_mem_allParts ss h.2 hx

end

/-! ## Variables -/

mutual

/-- The variables that a statement declares, in it or in its blocks. -/
@[simp] def declared : Stmt → List String
  | declare _ x _ => [x]
  | forEach _ x _ b => x :: allDeclared b
  | ifThen _ b => allDeclared b
  | ifElse _ a b => allDeclared a ++ allDeclared b
  | assign _ _ | eval _ | ret _ | throwNew _ _ | remark _ => []

/-- The variables that statements declare. -/
@[simp] def allDeclared : List Stmt → List String
  | [] => []
  | s :: ss => s.declared ++ allDeclared ss

end

@[simp] theorem allDeclared_append (ss ts : List Stmt) :
    allDeclared (ss ++ ts) = allDeclared ss ++ allDeclared ts := by
  induction ss with
  | nil => rfl
  | cons s ss ih => simp [ih]

theorem mem_allDeclared_flatMap {α : Type} {x : String} {as : List α} {f : α → List Stmt} :
    x ∈ allDeclared (as.flatMap f) ↔ ∃ a ∈ as, x ∈ allDeclared (f a) := by
  induction as with
  | nil => simp
  | cons a as ih => simp [ih]

mutual

/-- **Variables declared in code that is made of what is allowed have allowed names.** -/
theorem name_of_mem_declared {y : String} : (s : Stmt) → s.Uses ok → y ∈ s.declared → ok.name y
  | declare _ _ _, h, hy => List.mem_singleton.mp hy ▸ h.2.1
  | forEach _ _ _ b, h, hy => by
    rcases List.mem_cons.mp hy with rfl | hy
    · exact h.2.1
    · exact name_of_mem_allDeclared b h.2.2.2 hy
  | ifThen _ b, h, hy => name_of_mem_allDeclared b h.2 hy
  | ifElse _ a b, h, hy => by
    rcases List.mem_append.mp hy with hy | hy
    · exact name_of_mem_allDeclared a h.2.1 hy
    · exact name_of_mem_allDeclared b h.2.2 hy
  | assign _ _, _, hy | eval _, _, hy | ret _, _, hy | throwNew _ _, _, hy
  | remark _, _, hy => nomatch hy

theorem name_of_mem_allDeclared {y : String} : (ss : List Stmt) → UsesAll ok ss →
    y ∈ allDeclared ss → ok.name y
  | [], _, hy => nomatch hy
  | s :: ss, h, hy => by
    rcases List.mem_append.mp hy with hy | hy
    · exact name_of_mem_declared s h.1 hy
    · exact name_of_mem_allDeclared ss h.2 hy

end

end Stmt

/-- The parameters and local variables of a method. -/
def Method.locals (m : Method) : List String := m.params.map (·.name) ++ Stmt.allDeclared m.body

end JavaBuilder.Java
