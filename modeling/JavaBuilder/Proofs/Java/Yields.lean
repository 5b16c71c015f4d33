import JavaBuilder.Proofs.Java.Evaluation

/-!
# Expressions without effects

Most expressions of generated code read and compare. Such an expression *yields* its value: it has
the value and leaves the state as it was, so the expressions around it can be evaluated one part
after the other in one and the same state. There is a rule here for each way in which the methods of
values and the merging methods build an expression, and statements that only compute are run by what
their expressions yield.
-/

namespace JavaBuilder.Java

variable {ρ : Type} [DecidableEq ρ] {w : World ρ} {self : ρ} {st : State ρ}

/-- The expression has a value and changes nothing. -/
def Expr.Yields (w : World ρ) (self : ρ) (st : State ρ) (e : Expr) (v : Datum ρ) : Prop :=
  e.eval w self st = .ok (v, st)

namespace Expr.Yields

/-! ## Names and fields -/

theorem own {name : String} {v : Datum ρ} (h : w.resolve self st name = some v) :
    Yields w self st (.own name) v := by
  rw [Yields, eval, h]
  rfl

theorem var {name : String} {v : Datum ρ} (h : w.resolve self st name = some v) :
    Yields w self st (.var name) v := by
  rw [Yields, eval, h]
  rfl

theorem enclosing {name : String} {v : Datum ρ} (h : w.resolve self st name = some v) :
    Yields w self st (.enclosing name) v := by
  rw [Yields, eval, h]
  rfl

theorem string (s : String) : Yields w self st (.string s) (.text s) := rfl

theorem null : Yields w self st .null .null := rfl

theorem field {e : Expr} {o : ρ} {name : String} {v : Datum ρ}
    (he : Yields w self st e (.object o)) (hv : w.field o name = some v) :
    Yields w self st (.field e name) v := by
  rw [Yields, eval, he]
  simp [bind, Except.bind, World.fieldOf, hv, orStuck, pure, Except.pure]

/-- No local variable of the list captures a field that is referred to beside them. -/
theorem ownField {name : String} {locals : List String} {v : Datum ρ}
    (hl : ∀ x ∉ locals, st.locals.lookup x = none) (hv : w.field self name = some v) :
    Yields w self st (Expr.ownField name locals) v := by
  rw [Expr.ownField]
  split
  · exact field rfl hv
  · next hx => exact own (by simp [World.resolve, hl name hx, hv])

/-! ## Operators -/

theorem paren {e : Expr} {v : Datum ρ} (he : Yields w self st e v) :
    Yields w self st (.paren e) v := by
  rw [Yields, eval]
  exact he

theorem not {e : Expr} {b : Bool} (he : Yields w self st e (.boolean b)) :
    Yields w self st (.not e) (.boolean !b) := by
  rw [Yields, eval, he]
  rfl

/-- The right operand matters only if the left one is true. -/
theorem and {wrap : Wrap} {l r : Expr} {a b : Bool} (hl : Yields w self st l (.boolean a))
    (hr : a = true → Yields w self st r (.boolean b)) :
    Yields w self st (.binary .and wrap l r) (.boolean (a && b)) := by
  rw [Yields, eval, hl]
  cases a with
  | false => rfl
  | true =>
    simp only [bind, Except.bind, Datum.truth, if_true, (show r.eval w self st = _ from hr rfl)]
    rfl

/-- The right operand matters only if the left one is false. -/
theorem or {wrap : Wrap} {l r : Expr} {a b : Bool} (hl : Yields w self st l (.boolean a))
    (hr : a = false → Yields w self st r (.boolean b)) :
    Yields w self st (.binary .or wrap l r) (.boolean (a || b)) := by
  rw [Yields, eval, hl]
  cases a with
  | true => rfl
  | false =>
    simp only [bind, Except.bind, Datum.truth, Bool.false_eq_true, if_false,
      (show r.eval w self st = _ from hr rfl)]
    rfl

theorem operate {op : BinaryOp} {wrap : Wrap} {l r : Expr} {a b v : Datum ρ}
    (hl : Yields w self st l a) (hr : Yields w self st r b) (h : w.operate op a b = some v) :
    Yields w self st (.binary op wrap l r) v := by
  have hop : op ≠ .and ∧ op ≠ .or := by
    constructor <;> rintro rfl <;> simp [World.operate] at h
  rw [Yields, eval, hl]
  · simp [bind, Except.bind, (show r.eval w self st = _ from hr), h, orStuck, pure, Except.pure]
  · exact hop.1
  · exact hop.2

theorem eq {l r : Expr} {a b : Datum ρ} {t : Bool} (hl : Yields w self st l a)
    (hr : Yields w self st r b) (h : a.identical b = some t) :
    Yields w self st (Expr.eq l r) (.boolean t) :=
  operate hl hr (by simp [World.operate, h])

theorem ne {l r : Expr} {a b : Datum ρ} {t : Bool} (hl : Yields w self st l a)
    (hr : Yields w self st r b) (h : a.identical b = some t) :
    Yields w self st (Expr.ne l r) (.boolean !t) :=
  operate hl hr (by simp [World.operate, h])

theorem plus {wrap : Wrap} {l r : Expr} {s : String} {v : Datum ρ}
    (hl : Yields w self st l (.text s)) (hr : Yields w self st r v) :
    Yields w self st (.binary .plus wrap l r) (.text (s ++ w.textOf v)) :=
  operate hl hr (by simp [World.operate])

theorem conditional {c a b : Expr} {t : Bool} {v : Datum ρ}
    (hc : Yields w self st c (.boolean t))
    (h : Yields w self st (if t then a else b) v) :
    Yields w self st (.conditional c a b) v := by
  rw [Yields, eval, hc]
  cases t <;> exact h

theorem instanceOf {e : Expr} {c : ClassName} {o : ρ} (he : Yields w self st e (.object o)) :
    Yields w self st (.instanceOf e c) (.boolean (w.isInstance o c)) := by
  rw [Yields, eval, he]
  rfl

theorem cast {e : Expr} {t : TypeRef} {c : ClassName} {o : ρ}
    (he : Yields w self st e (.object o)) (ht : t.erasure? = some c)
    (hi : w.isInstance o c = true) : Yields w self st (.cast t e) (.object o) := by
  rw [Yields, eval, he]
  simp [bind, Except.bind, World.castTo, ht, hi, pure, Except.pure]

/-! ## Calls -/

theorem all {es : List Expr} {vs : List (Datum ρ)} (h : List.Forall₂ (Yields w self st) es vs) :
    evalAll w self es st = .ok (vs, st) := by
  induction h with
  | nil => rfl
  | cons he _ ih =>
    rw [evalAll, he]
    simp [bind, Except.bind, ih, pure, Except.pure]

theorem call {e : Expr} {method : String} {layout : ArgLayout} {args : List Expr}
    {target v : Datum ρ} {vs : List (Datum ρ)} (he : Yields w self st e target)
    (hargs : List.Forall₂ (Yields w self st) args vs)
    (h : w.invoke target method vs st = .ok (v, st)) :
    Yields w self st (.call e method layout args) v := by
  rw [Yields, eval, he]
  simp [bind, Except.bind, all hargs, h]

theorem getter {e : Expr} {method : String} {o : ρ} {v : Datum ρ}
    (he : Yields w self st e (.object o)) (h : w.call o method [] = .ok v) :
    Yields w self st (invoke e method []) v :=
  call he .nil (by simp [World.invoke, World.send, h, Except.map])

theorem equals {l r : Expr} {o : ρ} {v : Datum ρ} (hl : Yields w self st l (.object o))
    (hr : Yields w self st r v) :
    Yields w self st (invoke l "equals" [r]) (.boolean (w.equals o v)) :=
  call hl (.cons hr .nil) (by simp [World.invoke, World.send, Except.map])

theorem contains {l r : Expr} {s : Finset EnumConstant} {c : EnumConstant}
    (hl : Yields w self st l (.constants s)) (hr : Yields w self st r (.constant c)) :
    Yields w self st (invoke l "contains" [r]) (.boolean (decide (c ∈ s))) :=
  call hl (.cons hr .nil) (by simp [World.invoke, World.sendConstants, Except.map])

theorem staticCall {owner : ClassName} {targs : List TypeRef} {method : String}
    {layout : ArgLayout} {args : List Expr} {vs : List (Datum ρ)} {v : Datum ρ}
    (hargs : List.Forall₂ (Yields w self st) args vs)
    (h : w.invokeStatic owner method args vs = .ok v) :
    Yields w self st (.staticCall owner targs method layout args) v := by
  rw [Yields, eval, all hargs]
  simp [bind, Except.bind, h, pure, Except.pure]

end Expr.Yields

/-! ## Statements -/

namespace Stmt

theorem run_ret {e : Expr} {v : Datum ρ} (h : e.Yields w self st v) :
    (ret e).run w self st = .ok (some v, st) := by
  rw [run, h]
  rfl

theorem run_declare {type : TypeRef} {name : String} {e : Expr} {v : Datum ρ}
    (h : e.Yields w self st v) :
    (declare type name e).run w self st = .ok (none, st.declare name v) := by
  rw [run, h]
  rfl

/-- An expression is evaluated for what it changes. -/
theorem run_eval {e : Expr} {v : Datum ρ} {st' : State ρ}
    (h : e.eval w self st = .ok (v, st')) : (eval e).run w self st = .ok (none, st') := by
  rw [run, h]
  rfl

omit [DecidableEq ρ] in
theorem leave_self (st : State ρ) : st.leave st = st := by
  simp [State.leave]

theorem run_ifThen_false {e : Expr} {body : List Stmt} (h : e.Yields w self st (.boolean false)) :
    (ifThen e body).run w self st = .ok (none, st) := by
  rw [run, h]
  rfl

theorem run_ifThen_true {e : Expr} {body : List Stmt} {r : Option (Datum ρ)} {inner : State ρ}
    (h : e.Yields w self st (.boolean true)) (hb : runAll w self body st = .ok (r, inner)) :
    (ifThen e body).run w self st = .ok (r, st.leave inner) := by
  rw [run, h]
  simp [bind, Except.bind, Datum.truth, hb, pure, Except.pure]

theorem runAll_cons_returns {s : Stmt} {ss : List Stmt} {v : Datum ρ} {st' : State ρ}
    (h : s.run w self st = .ok (some v, st')) :
    runAll w self (s :: ss) st = .ok (some v, st') := by
  rw [runAll, h]
  rfl

theorem runAll_cons {s : Stmt} {ss : List Stmt} {st' : State ρ}
    (h : s.run w self st = .ok (none, st')) :
    runAll w self (s :: ss) st = runAll w self ss st' := by
  rw [runAll, h]
  rfl

theorem runAll_append {ss ts : List Stmt} {st' : State ρ}
    (h : runAll w self ss st = .ok (none, st')) :
    runAll w self (ss ++ ts) st = runAll w self ts st' := by
  induction ss generalizing st with
  | nil =>
    cases h
    rfl
  | cons s ss ih =>
    rw [runAll] at h
    cases hs : s.run w self st with
    | error f => simp [hs, bind, Except.bind] at h
    | ok p =>
      obtain ⟨r, mid⟩ := p
      cases r with
      | some v => simp [hs, bind, Except.bind, pure, Except.pure] at h
      | none =>
        rw [List.cons_append, runAll_cons hs]
        exact ih (by simpa [hs, bind, Except.bind] using h)

theorem runAll_ret {e : Expr} {ss : List Stmt} {v : Datum ρ} (h : e.Yields w self st v) :
    runAll w self (ret e :: ss) st = .ok (some v, st) :=
  runAll_cons_returns (run_ret h)

end Stmt

theorem Method.returns_of_runAll {m : Method} {args : List (Datum ρ)} {v : Datum ρ}
    {t : State ρ}
    (h : Stmt.runAll w self m.body (.start ((m.params.map (·.name)).zip args))
      = .ok (some v, t)) :
    m.returns w self args = .ok v := by
  rw [returns, h]
  rfl

end JavaBuilder.Java
