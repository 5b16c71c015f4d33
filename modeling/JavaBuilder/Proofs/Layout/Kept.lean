import JavaBuilder.Proofs.Java.Uses
import JavaBuilder.Proofs.Layout.Reading
import JavaBuilder.Proofs.Text.Diamond

/-!
# Printed code keeps to what is allowed

Code that is made of what is allowed refers to no other classes. Where the diamond is not allowed it has
none, however its classes are spelled: the brackets of type arguments have a type between them, and no
other text has half a diamond to offer. The proofs follow the printing functions, one case for each form
of code.
-/

namespace JavaBuilder.Java

open Text

/-- A name that can stand between brackets: it is not empty and has none. -/
def IsBracketFree (x : String) : Prop := x ≠ "" ∧ '<' ∉ x.toList ∧ '>' ∉ x.toList

instance (x : String) : Decidable (IsBracketFree x) :=
  inferInstanceAs (Decidable (x ≠ "" ∧ '<' ∉ x.toList ∧ '>' ∉ x.toList))

/-- All segments of a class name can stand between brackets. -/
def ClassName.IsBracketFree (name : ClassName) : Prop :=
  ∀ x ∈ name.package ++ name.simpleNames, Java.IsBracketFree x

instance (name : ClassName) : Decidable name.IsBracketFree :=
  inferInstanceAs (Decidable (∀ x ∈ name.package ++ name.simpleNames, Java.IsBracketFree x))

/-- Nothing that is allowed brings a diamond into a text. Source text is never at the end of one. -/
structure Allowed.IsSolid (ok : Allowed) : Prop where
  name : ∀ {x}, ok.name x → Text.IsSolid x.toList
  method : ∀ {x}, ok.method x → Text.IsSolid x.toList
  literal : ∀ {x}, ok.literal x → Text.IsSolid x.toList
  string : ∀ {x}, ok.string x → ¬Text.diamond <:+: x.toList
  verbatim : ∀ {x}, ok.verbatim x → ¬Text.diamond <:+: x.toList
  static : ∀ {c x}, ok.static c x → Text.IsSolid x.toList
  type : ∀ {c}, ok.type c → c.IsBracketFree
  typeVar : ∀ {x}, ok.typeVar x → IsBracketFree x
  unresolved : ∀ {x}, ok.unresolved x → IsBracketFree x
  comment : ∀ {x}, ok.comment x → Text.IsSolid x.toList

/-- The classes of static members are allowed, and where the diamond is not, nothing else brings one. -/
structure Allowed.IsClosed (ok : Allowed) : Prop where
  static : ∀ {c x}, ok.static c x → ok.type c
  solid : ¬ok.diamond → ok.IsSolid

/-! ## Pieces of text -/

theorem IsBracketFree.isSolid {x : String} (h : IsBracketFree x) : IsSolid x.toList :=
  .of_not_mem h.2.1 h.2.2

theorem isSolid_append {x y : String} (hx : IsSolid x.toList) (hy : IsSolid y.toList) :
    IsSolid (x ++ y).toList := by
  rw [String.toList_append]
  exact hx.append hy

theorem isSolid_join {ss : List String} (h : ∀ x ∈ ss, IsSolid x.toList) :
    IsSolid (String.join ss).toList := by
  rw [String.toList_join]
  exact .flatMap h

theorem isBracketFree_join {ss : List String} (hne : ss ≠ []) (h : ∀ x ∈ ss, IsBracketFree x) :
    IsBracketFree (Text.join '.' ss) := by
  have hchars : ∀ c ∈ ['<', '>'], c ∉ (Text.join '.' ss).toList := by
    intro c hc hmem
    rw [Text.join, String.toList_ofList] at hmem
    rcases Text.mem_joinSegments hmem with rfl | ⟨cs, hcs, hmem⟩
    · revert hc
      decide
    · obtain ⟨x, hx, rfl⟩ := List.mem_map.mp hcs
      rcases List.mem_pair.mp hc with rfl | rfl
      · exact (h x hx).2.1 hmem
      · exact (h x hx).2.2 hmem
  exact ⟨Code.join_ne_empty hne fun x hx ↦ (h x hx).1, hchars _ (by simp), hchars _ (by simp)⟩

theorem isSolid_intercalate {sep : String} (hsep : IsSolid sep.toList) {xs : List String}
    (h : ∀ x ∈ xs, IsSolid x.toList) : IsSolid (sep.intercalate xs).toList := by
  induction xs with
  | nil => simpa using IsSolid.nil
  | cons x xs ih =>
    have hxs := ih fun y hy ↦ h y (List.mem_cons_of_mem x hy)
    cases xs with
    | nil => simpa using h x (by simp)
    | cons y ys =>
      rw [String.intercalate_cons_cons]
      exact isSolid_append (isSolid_append (h x (by simp)) hsep) hxs

theorem isSolid_brackets {xs : List String} (hne : xs ≠ []) (h : ∀ x ∈ xs, IsBracketFree x) :
    IsSolid ("<" ++ ", ".intercalate xs ++ ">").toList := by
  obtain ⟨x, xs, rfl⟩ := List.exists_cons_of_ne_nil hne
  have hinner : IsSolid (", ".intercalate (x :: xs)).toList :=
    isSolid_intercalate (by decide) fun y hy ↦ (h y hy).isSolid
  have hfirst : (", ".intercalate (x :: xs)).toList ≠ [] := by
    have hx : x.toList ≠ [] := by simpa using (h x (by simp)).1
    cases xs with
    | nil => simpa using hx
    | cons y ys => simp [String.intercalate_cons_cons, hx]
  rw [String.toList_append, String.toList_append]
  exact hinner.bracket hfirst

theorem isSolid_newLine (n : Nat) : IsSolid (newLine n).toList := by
  have hspaces : IsSolid (String.join (List.replicate n " ")).toList := isSolid_join fun x hx ↦ by
    rw [List.eq_of_mem_replicate hx]
    decide
  exact isSolid_append (by decide) hspaces

/-- A character is written as it is, or by an escape, and no escape has a bracket. -/
theorem escapeChar_cases (c : Char) :
    escapeChar c = [c] ∨ IsSolid (escapeChar c) ∧ escapeChar c ≠ [] := by
  unfold escapeChar
  split_ifs
  all_goals first
    | exact .inl rfl
    | exact .inr (by decide)

theorem not_diamond_flatMap_escapeChar {cs : List Char} (h : ¬diamond <:+: cs) :
    ¬diamond <:+: cs.flatMap escapeChar := by
  induction cs with
  | nil => exact h
  | cons c cs ih =>
    have hrest := ih fun hcs ↦ h (List.infix_cons hcs)
    rw [List.flatMap_cons]
    rcases escapeChar_cases c with hc | ⟨hc, -⟩
    · -- A diamond can only be completed by what comes next, which then stands for itself as well.
      rw [hc]
      refine not_diamond_append (not_diamond_singleton c) hrest ?_
      by_contra! hmeet
      obtain rfl : c = '<' := by simpa using hmeet.1
      cases cs with
      | nil => cases hmeet.2
      | cons d cs =>
        rw [List.flatMap_cons] at hmeet
        rcases escapeChar_cases d with hd | ⟨hd, hne⟩
        · obtain rfl : d = '>' := by simpa [hd] using hmeet.2
          exact h ⟨[], cs, rfl⟩
        · exact hd.head (List.head?_append_of_ne_nil _ hne ▸ hmeet.2)
    · exact not_diamond_append hc.inner hrest (.inl hc.last)

theorem isSolid_stringLiteral {x : String} (h : ¬diamond <:+: x.toList) :
    IsSolid (stringLiteral x).toList := by
  rw [stringLiteral, String.toList_ofList, literalChars]
  have hquote : IsSolid ['"'] := by decide
  exact hquote.enclose (by simp) (not_diamond_flatMap_escapeChar h) hquote (by simp)

/-! ## Pieces of code -/

namespace Code

/-- The code keeps to what is allowed: it refers to no other classes, and where the diamond is not
allowed it is solid, however its classes are spelled. -/
structure Keeps (ok : Allowed) (c : Code) : Prop where
  types : ∀ name ∈ c.types, ok.type name
  solid : ¬ok.diamond → ∀ t : ImportTable, IsSolid (t.spelled c)

variable {ok : Allowed} {c d : Code} {x : String}

theorem keeps_nil : Keeps ok [] := ⟨by simp [types], fun _ t ↦ by simpa using IsSolid.nil⟩

theorem Keeps.append (hc : Keeps ok c) (hd : Keeps ok d) : Keeps ok (c ++ d) where
  types name hname := by
    rw [types_append, List.mem_append] at hname
    exact hname.elim (hc.types name) (hd.types name)
  solid h t := by
    rw [ImportTable.spelled_append]
    exact (hc.solid h t).append (hd.solid h _)

theorem Keeps.cons {a : Token} (ha : Keeps ok [a]) (hc : Keeps ok c) : Keeps ok (a :: c) :=
  ha.append hc

theorem keeps_text (h : ¬ok.diamond → IsSolid x.toList) : Keeps ok [.text x] :=
  ⟨by simp [types], fun hd t ↦ by simpa using h hd⟩

theorem keeps_fixed (h : IsSolid x.toList) : Keeps ok [.text x] := keeps_text fun _ ↦ h

theorem keeps_flatMap {α : Type} {f : α → Code} {xs : List α} (h : ∀ x ∈ xs, Keeps ok (f x)) :
    Keeps ok (xs.flatMap f) := by
  induction xs with
  | nil => exact keeps_nil
  | cons x xs ih =>
    rw [List.flatMap_cons]
    exact (h x (by simp)).append (ih fun y hy ↦ h y (List.mem_cons_of_mem x hy))

theorem keeps_separated {sep : String} {cs : List Code} (hsep : IsSolid sep.toList)
    (h : ∀ c ∈ cs, Keeps ok c) : Keeps ok (separated sep cs) := by
  induction cs with
  | nil => exact keeps_nil
  | cons c cs ih =>
    cases cs with
    | nil => exact h c (by simp)
    | cons d ds =>
      have hrest := ih fun e he ↦ h e (List.mem_cons_of_mem c he)
      exact (h c (by simp)).append ((keeps_fixed hsep).cons hrest)

theorem Keeps.bracket (h : Keeps ok c) (hne : ¬ok.diamond → ∀ t : ImportTable, t.spelled c ≠ []) :
    Keeps ok (.text "<" :: (c ++ [.text ">"])) where
  types name hname := h.types name (by simpa [Code.types] using hname)
  solid hd t := by
    rw [ImportTable.spelled_cons_text, ImportTable.spelled_append, ImportTable.spelled_text]
    exact (h.solid hd t).bracket (hne hd t)

end Code

/-! ## Types -/

variable {ok : Allowed}

theorem Code.spelled_type_isBracketFree {name : ClassName} (h : name.IsBracketFree)
    (t : ImportTable) : t.spelled [.type name] ≠ [] ∧ IsSolid (t.spelled [.type name]) := by
  obtain ⟨ss, hne, hmem, hspelled⟩ := Code.spelled_type_eq_join t name
  have hjoin : IsBracketFree (Text.join '.' ss) := isBracketFree_join hne fun x hx ↦ h x (hmem x hx)
  rw [hspelled]
  exact ⟨by simpa using hjoin.1, hjoin.isSolid⟩

theorem Code.keeps_type (hok : ok.IsClosed) {name : ClassName} (h : ok.type name) :
    Keeps ok [.type name] where
  types n hn := by
    obtain rfl : n = name := by simpa [types] using hn
    exact h
  solid hd t := (spelled_type_isBracketFree ((hok.solid hd).type h) t).2

namespace TypeRef

open Code

theorem tailCode_eq (ts : List TypeRef) :
    tailCode ts = (ts.flatMap fun t ↦ .text ", " :: t.code) ++ [.text ">"] := by
  induction ts with
  | nil => rfl
  | cons t ts ih => simp [tailCode, ih]

theorem spelled_code_ne_nil (hs : ok.IsSolid) (t : TypeRef) (h : t.Uses ok) (table : ImportTable) :
    table.spelled t.code ≠ [] := by
  cases t with
  | primitive p => cases p <;> simp [code, text, Primitive.keyword]
  | declared name args =>
    have hname := (spelled_type_isBracketFree (hs.type h.1) table).1
    cases args with
    | nil => exact hname
    | cons a as =>
      rw [code, ← List.singleton_append, ImportTable.spelled_append]
      exact List.append_ne_nil_of_left_ne_nil hname _
  | typeVar x => simpa [code, text] using (hs.typeVar h).1
  | unresolved x => simpa [code, text] using (hs.unresolved h).1
  | array t => simp [code, ImportTable.spelled_append]
  | _ => simp [code, text]

theorem keeps_bracketed (hok : ok.IsClosed) {t : TypeRef} {ts : List TypeRef} (h : t.Uses ok)
    (ht : Keeps ok t.code) (hts : Keeps ok (ts.flatMap fun t ↦ .text ", " :: t.code)) :
    Keeps ok (.text "<" :: (t.code ++ tailCode ts)) := by
  rw [tailCode_eq, ← List.append_assoc]
  refine (ht.append hts).bracket fun hd table ↦ ?_
  rw [ImportTable.spelled_append]
  exact List.append_ne_nil_of_left_ne_nil (spelled_code_ne_nil (hok.solid hd) t h table) _

mutual

theorem keeps_code (hok : ok.IsClosed) : (t : TypeRef) → t.Uses ok → Keeps ok t.code
  | primitive p, _ => by
    cases p <;> exact keeps_fixed (by decide)
  | declared _ [], h => keeps_type hok h.1
  | declared _ (a :: as), h =>
    (keeps_type hok h.1).cons
      (keeps_bracketed hok h.2.1 (keeps_code hok a h.2.1) (keeps_flatMap_code hok as h.2.2))
  | typeVar _, h => keeps_text fun hd ↦ ((hok.solid hd).typeVar h).isSolid
  | wildcard, _ => keeps_fixed (by decide)
  | extending bound, h => (keeps_fixed (by decide)).cons (keeps_code hok bound h)
  | array component, h => (keeps_code hok component h).append (keeps_fixed (by decide))
  | void, _ => keeps_fixed (by decide)
  | unresolved _, h => keeps_text fun hd ↦ ((hok.solid hd).unresolved h).isSolid

theorem keeps_flatMap_code (hok : ok.IsClosed) : (ts : List TypeRef) → TypeRef.UsesAll ok ts →
    Keeps ok (ts.flatMap fun t ↦ .text ", " :: t.code)
  | [], _ => keeps_nil
  | t :: ts, h =>
    ((keeps_fixed (by decide)).cons (keeps_code hok t h.1)).append (keeps_flatMap_code hok ts h.2)

end

theorem keeps_newCode (hok : ok.IsClosed) {t : TypeRef} (h : t.Uses ok) {diamond : Bool}
    (hdiamond : diamond = true → ok.diamond) : Keeps ok (t.newCode diamond) := by
  unfold newCode
  split
  · next name a as =>
    split
    · next hd =>
      exact (keeps_type hok h.1).cons (keeps_text fun hnot ↦ absurd (hdiamond hd) hnot)
    · exact keeps_code hok _ h
  · exact keeps_code hok _ h

end TypeRef

open Code

variable (hok : ok.IsClosed)

include hok

theorem keeps_typeArgsCode {ts : List TypeRef} (h : TypeRef.UsesAll ok ts) :
    Keeps ok (typeArgsCode ts) := by
  cases ts with
  | nil => exact keeps_nil
  | cons t ts =>
    exact TypeRef.keeps_bracketed hok h.1 (TypeRef.keeps_code hok t h.1)
      (TypeRef.keeps_flatMap_code hok ts h.2)

/-! ## Names -/

theorem keeps_name {x : String} (h : ok.name x) : Keeps ok [.text x] :=
  keeps_text fun hd ↦ (hok.solid hd).name h

theorem keeps_method {x : String} (h : ok.method x) : Keeps ok [.text x] :=
  keeps_text fun hd ↦ (hok.solid hd).method h

theorem keeps_comment {x : String} (h : ok.comment x) : Keeps ok [.text x] :=
  keeps_text fun hd ↦ (hok.solid hd).comment h

omit hok

theorem Code.Keeps.text_append {x y : String} (hx : Keeps ok [.text x]) (hy : Keeps ok [.text y]) :
    Keeps ok [.text (x ++ y)] := by
  refine keeps_text fun hd ↦ isSolid_append ?_ ?_
  · simpa using hx.solid hd (.ofUnit default [])
  · simpa using hy.solid hd (.ofUnit default [])

/-! ## Expressions -/

theorem isSolid_around (op : BinaryOp) (wrap : Wrap) : IsSolid (wrap.around op).toList := by
  cases wrap with
  | same => cases op <;> decide
  | next spaces =>
    -- The symbol of a comparison may be the end of a diamond, but there is a space in front of it.
    have hsymbol : ¬diamond <:+: op.symbol.toList := by cases op <;> decide
    rw [Wrap.around, String.toList_append, String.toList_append, List.append_assoc]
    exact (isSolid_newLine spaces).enclose (by simp [newLine]) hsymbol (by decide) (by decide)

theorem keeps_opening (layout : ArgLayout) : Keeps ok [.text layout.opening] := by
  cases layout with
  | inline => exact keeps_fixed (by decide)
  | hanging => exact keeps_fixed (isSolid_append (by decide) (isSolid_newLine 4))
  | stacked => exact keeps_fixed (isSolid_append (by decide) (isSolid_newLine 8))

theorem isSolid_separator (layout : ArgLayout) : IsSolid layout.separator.toList := by
  cases layout with
  | inline | hanging => decide
  | stacked => exact isSolid_append (by decide) (isSolid_newLine 8)

namespace Expr

mutual

theorem keeps_code (hok : ok.IsClosed) : (e : Expr) → e.Uses ok → Keeps ok e.code
  | var _, h | own _, h | enclosing _, h => keeps_name hok h
  | this, _ | null, _ => keeps_fixed (by decide)
  | literal _, h => keeps_text fun hd ↦ (hok.solid hd).literal h
  | string _, h => keeps_text fun hd ↦ isSolid_stringLiteral ((hok.solid hd).string h)
  | verbatim _, h => absurd h not_false
  | field e _, h =>
    (keeps_code hok e h.1).append ((keeps_fixed (by decide)).text_append (keeps_name hok h.2))
  | static _ _, h =>
    (keeps_type hok (hok.static h)).cons
      ((keeps_fixed (by decide)).text_append (keeps_text fun hd ↦ (hok.solid hd).static h))
  | classOf _, h => (keeps_type hok h).cons (keeps_fixed (by decide))
  | ownCall _ args, h => (keeps_method hok h.1).cons (keeps_argsCode hok .inline args h.2)
  | call e _ layout args, h =>
    (keeps_code hok e h.1).append
      (((keeps_fixed (by decide)).text_append (keeps_method hok h.2.1)).cons
        (keeps_argsCode hok layout args h.2.2))
  | staticCall _ targs _ layout args, h => by
    refine (keeps_type hok h.1).cons ((keeps_fixed (by decide)).cons ?_)
    exact (keeps_typeArgsCode hok h.2.1).append
      ((keeps_method hok h.2.2.1).cons (keeps_argsCode hok layout args h.2.2.2))
  | create _ _ args, h =>
    (keeps_fixed (by decide)).cons
      ((TypeRef.keeps_newCode hok h.1 h.2.1).append (keeps_argsCode hok .inline args h.2.2))
  | newArray _ es, h => by
    refine (keeps_fixed (by decide)).cons ((keeps_type hok h.1).cons ?_)
    exact (keeps_fixed (by decide)).cons ((keeps_listCode hok es h.2).append (keeps_fixed (by decide)))
  | cast t e, h => by
    refine (keeps_fixed (by decide)).cons ?_
    exact (t.keeps_code hok h.1).append ((keeps_fixed (by decide)).cons (keeps_code hok e h.2))
  | not e, h => (keeps_fixed (by decide)).cons (keeps_code hok e h)
  | paren e, h =>
    (keeps_fixed (by decide)).cons ((keeps_code hok e h).append (keeps_fixed (by decide)))
  | instanceOf e _, h =>
    (keeps_code hok e h.1).append ((keeps_fixed (by decide)).cons (keeps_type hok h.2))
  | binary op wrap l r, h =>
    (keeps_code hok l h.1).append
      ((keeps_fixed (isSolid_around op wrap)).cons (keeps_code hok r h.2))
  | conditional c a b, h =>
    (keeps_code hok c h.1).append ((keeps_fixed (by decide)).cons
      ((keeps_code hok a h.2.1).append
        ((keeps_fixed (by decide)).cons (keeps_code hok b h.2.2))))

theorem keeps_argsCode (hok : ok.IsClosed) (layout : ArgLayout) : (es : List Expr) →
    UsesAll ok es → Keeps ok (argsCode layout es)
  | [], _ => keeps_fixed (by decide)
  | e :: es, h =>
    (keeps_opening layout).cons
      (((keeps_code hok e h.1).append
        (keeps_tailCode hok (isSolid_separator layout) es h.2)).append (keeps_fixed (by decide)))

theorem keeps_tailCode (hok : ok.IsClosed) {sep : String} (hsep : IsSolid sep.toList) :
    (es : List Expr) → UsesAll ok es → Keeps ok (tailCode sep es)
  | [], _ => keeps_nil
  | e :: es, h =>
    (keeps_fixed hsep).cons ((keeps_code hok e h.1).append (keeps_tailCode hok hsep es h.2))

theorem keeps_listCode (hok : ok.IsClosed) : (es : List Expr) → UsesAll ok es →
    Keeps ok (listCode ", " es)
  | [], _ => keeps_nil
  | e :: es, h => (keeps_code hok e h.1).append (keeps_tailCode hok (by decide) es h.2)

end

/-- A value that is assigned stands between an equals sign and the end of the line, so source text may
start and end with any character. -/
theorem UsesValue.keeps_code (hok : ok.IsClosed) {e : Expr} (h : e.UsesValue ok) :
    Keeps ok (.text " = " :: (e.code ++ [.text ";\n"])) := by
  rcases h with h | ⟨x, rfl, hx⟩
  · exact (keeps_fixed (by decide)).cons ((e.keeps_code hok h).append (keeps_fixed (by decide)))
  · refine ⟨by simp [code, types], fun hd t ↦ ?_⟩
    have hequals : IsSolid " = ".toList := by decide
    simpa [code] using hequals.enclose (by decide) ((hok.solid hd).verbatim hx)
      (show IsSolid ";\n".toList by decide) (by decide)

end Expr

/-! ## Statements -/

namespace Stmt

theorem keeps_closing : Keeps ok closing := keeps_fixed (by decide)

theorem keeps_semicolon : Keeps ok [.text ";\n"] := keeps_fixed (by decide)

include hok in
theorem keeps_spaced {x : String} (h : ok.name x) {after : String} (hafter : IsSolid after.toList) :
    Keeps ok [.text (" " ++ x ++ after)] :=
  ((keeps_fixed (by decide)).text_append (keeps_name hok h)).text_append (keeps_fixed hafter)

mutual

theorem keeps_code (hok : ok.IsClosed) : (st : Stmt) → st.Uses ok → Keeps ok st.code
  | declare t _ e, h =>
    (t.keeps_code hok h.1).append
      ((keeps_spaced hok h.2.1 (by decide)).cons ((e.keeps_code hok h.2.2).append keeps_semicolon))
  | assign l _, h => (l.keeps_code hok h.1).append (h.2.keeps_code hok)
  | eval e, h => (e.keeps_code hok h).append keeps_semicolon
  | ret e, h => (keeps_fixed (by decide)).cons ((e.keeps_code hok h).append keeps_semicolon)
  | throwNew _ args, h => by
    refine (keeps_fixed (by decide)).cons ((keeps_type hok h.1).cons ?_)
    exact (Expr.keeps_argsCode hok .inline args h.2).append keeps_semicolon
  | ifThen e b, h =>
    (keeps_fixed (by decide)).cons ((e.keeps_code hok h.1).append
      ((keeps_fixed (by decide)).cons ((keeps_blockCode hok b h.2).append keeps_closing)))
  | ifElse e a b, h => by
    refine (keeps_fixed (by decide)).cons ((e.keeps_code hok h.1).append ?_)
    refine (keeps_fixed (by decide)).cons ((keeps_blockCode hok a h.2.1).append ?_)
    exact (keeps_fixed (by decide)).cons ((keeps_blockCode hok b h.2.2).append keeps_closing)
  | forEach t _ e b, h => by
    refine (keeps_fixed (by decide)).cons ((t.keeps_code hok h.1).append ?_)
    refine (keeps_spaced hok h.2.1 (by decide)).cons ((e.keeps_code hok h.2.2.1).append ?_)
    exact (keeps_fixed (by decide)).cons ((keeps_blockCode hok b h.2.2.2).append keeps_closing)
  | remark _, h =>
    ((keeps_fixed (by decide)).text_append (keeps_comment hok h)).text_append
      (keeps_fixed (by decide))

theorem keeps_blockCode (hok : ok.IsClosed) : (ss : List Stmt) → UsesAll ok ss →
    Keeps ok (blockCode ss)
  | [], _ => keeps_nil
  | st :: ss, h => (keeps_code hok st h.1).append (keeps_blockCode hok ss h.2)

end

end Stmt

end JavaBuilder.Java
