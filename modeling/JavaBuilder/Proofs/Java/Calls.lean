import JavaBuilder.Proofs.Java.Parts

/-!
# The calls of code

Which methods code calls, on what and with which arguments, and what it does besides asking questions.
A class that calls its own methods must declare them, under the name and with as many parameters as the
call has arguments; static methods belong to other classes, and calls of them are left out here.

Code *acts by one call* if of all that it does, nothing is done for its effect but that call. The tests
and arguments around it may ask for values, as long as they do not ask the object itself.
-/

namespace JavaBuilder.Java

/-! ## Calls -/

/-- What a method is called on. -/
inductive Receiver where
  /-- The object that the code belongs to. -/
  | self
  /-- A field of that object. -/
  | ownField (name : String)
  /-- A parameter or local variable. -/
  | var (name : String)
  | other
deriving DecidableEq

namespace Receiver

/-- An expression as the receiver of a call. -/
@[simp] def of : Expr → Receiver
  | .this => self
  | .own x | .field .this x => ownField x
  | .var x => var x
  | _ => other

/-- The object itself, or something it holds. -/
@[simp] def isOwn : Receiver → Bool
  | self | ownField _ => true
  | var _ | other => false

theorem of_ownField (x : String) (locals : List String) :
    of (.ownField x locals) = ownField x := by
  unfold Expr.ownField
  split <;> rfl

end Receiver

/-- A call of a method of an object. -/
structure Call where
  on : Receiver
  method : String
  args : List Expr

namespace Call

/-- Ask the object in a variable. -/
def read (x method : String) : Call := ⟨.var x, method, []⟩

/-- One of the methods has the name, and a parameter for each argument. -/
def IsDeclared (methods : List Method) (c : Call) : Prop :=
  ∃ m ∈ methods, m.name = c.method ∧ m.params.length = c.args.length

end Call

namespace Expr

/-- The call, if the expression is one. -/
@[simp] def call? : Expr → Option Call
  | ownCall m args => some ⟨.self, m, args⟩
  | call e m _ args => some ⟨.of e, m, args⟩
  | _ => none

def allCalls (es : List Expr) : List Call := (allParts es).filterMap call?

def calls (e : Expr) : List Call := e.parts.filterMap call?

section

variable {e l r : Expr} {es args : List Expr} {m x : String}

@[simp] theorem allCalls_nil : allCalls [] = [] := rfl

@[simp] theorem allCalls_cons : allCalls (e :: es) = e.calls ++ allCalls es :=
  List.filterMap_append

@[simp] theorem calls_var : (var x).calls = [] := rfl

@[simp] theorem calls_own : (own x).calls = [] := rfl

@[simp] theorem calls_this : this.calls = [] := rfl

@[simp] theorem calls_null : null.calls = [] := rfl

@[simp] theorem calls_literal : (literal x).calls = [] := rfl

@[simp] theorem calls_string : (string x).calls = [] := rfl

@[simp] theorem calls_static {owner : ClassName} : (static owner x).calls = [] := rfl

@[simp] theorem calls_field : (field e x).calls = e.calls := rfl

@[simp] theorem calls_cast {t : TypeRef} : (cast t e).calls = e.calls := rfl

@[simp] theorem calls_not : (not e).calls = e.calls := rfl

@[simp] theorem calls_paren : (paren e).calls = e.calls := rfl

@[simp] theorem calls_binary {op : BinaryOp} {w : Wrap} :
    (binary op w l r).calls = l.calls ++ r.calls :=
  List.filterMap_append

@[simp] theorem calls_eq : (eq l r).calls = l.calls ++ r.calls := calls_binary

@[simp] theorem calls_ne : (ne l r).calls = l.calls ++ r.calls := calls_binary

@[simp] theorem calls_ownCall : (ownCall m args).calls = ⟨.self, m, args⟩ :: allCalls args := rfl

@[simp] theorem calls_invoke :
    (e.invoke m args).calls = ⟨.of e, m, args⟩ :: (e.calls ++ allCalls args) := by
  rw [invoke, calls, parts, inner, List.filterMap_cons, call?, List.filterMap_append]
  rfl

@[simp] theorem calls_staticCall {owner : ClassName} {targs : List TypeRef} {layout : ArgLayout} :
    (staticCall owner targs m layout args).calls = allCalls args := rfl

@[simp] theorem calls_invokeStatic {owner : ClassName} :
    (invokeStatic owner m args).calls = allCalls args := rfl

@[simp] theorem calls_ownField {locals : List String} : (ownField x locals).calls = [] := by
  unfold ownField
  split <;> rfl

end

end Expr

namespace Stmt

def calls (s : Stmt) : List Call := s.parts.filterMap Expr.call?

def allCalls (ss : List Stmt) : List Call := (allParts ss).filterMap Expr.call?

section

variable {e l r : Expr} {s : Stmt} {ss ts : List Stmt} {t : TypeRef} {x : String}

@[simp] theorem allCalls_nil : allCalls [] = [] := rfl

@[simp] theorem allCalls_cons : allCalls (s :: ss) = s.calls ++ allCalls ss :=
  List.filterMap_append

@[simp] theorem allCalls_append : allCalls (ss ++ ts) = allCalls ss ++ allCalls ts := by
  rw [allCalls, allParts_append, List.filterMap_append, allCalls, allCalls]

@[simp] theorem calls_declare : (declare t x e).calls = e.calls := rfl

@[simp] theorem calls_assign : (assign l r).calls = l.calls ++ r.calls := List.filterMap_append

@[simp] theorem calls_eval : (eval e).calls = e.calls := rfl

@[simp] theorem calls_ret : (ret e).calls = e.calls := rfl

@[simp] theorem calls_throwNew {type : ClassName} {args : List Expr} :
    (throwNew type args).calls = Expr.allCalls args := rfl

@[simp] theorem calls_ifThen : (ifThen e ss).calls = e.calls ++ allCalls ss :=
  List.filterMap_append

@[simp] theorem calls_forEach : (forEach t x e ss).calls = e.calls ++ allCalls ss :=
  List.filterMap_append

@[simp] theorem calls_ifElse : (ifElse e ss ts).calls = e.calls ++ (allCalls ss ++ allCalls ts) := by
  rw [calls, parts, List.filterMap_append, List.filterMap_append]
  rfl

end

end Stmt

namespace Method

/-- What the method calls on its own object is among the methods. -/
def CallsDeclared (methods : List Method) (m : Method) : Prop :=
  ∀ k ∈ Stmt.allCalls m.body, k.on = .self → k.IsDeclared methods

variable {methods : List Method} {m : Method} {c : Call}

theorem callsDeclared_of_ne_self (h : ∀ k ∈ Stmt.allCalls m.body, k.on ≠ .self) :
    m.CallsDeclared methods := fun k hk hself ↦ absurd hself (h k hk)

theorem callsDeclared_of_eq_or (h : ∀ k ∈ Stmt.allCalls m.body, k = c ∨ k.on ≠ .self)
    (hc : c.IsDeclared methods) : m.CallsDeclared methods := by
  intro k hk hself
  rcases h k hk with rfl | hne
  · exact hc
  · exact absurd hself hne

end Method

namespace Stmt

/-! ## Acting by one call -/

mutual

/-- The statements without blocks that a statement consists of. -/
def simple : Stmt → List Stmt
  | declare t x e => [declare t x e]
  | assign l r => [assign l r]
  | eval e => [eval e]
  | ret e => [ret e]
  | throwNew type args => [throwNew type args]
  | remark text => [remark text]
  | ifThen _ ss | forEach _ _ _ ss => allSimple ss
  | ifElse _ ss ts => allSimple ss ++ allSimple ts

/-- The statements without blocks that statements consist of. -/
def allSimple : List Stmt → List Stmt
  | [] => []
  | s :: ss => s.simple ++ allSimple ss

end

/-- One call is all that the statements do, under whatever conditions: no variable or field is assigned,
nothing is returned, and no other call is made on the object or on one of its fields. To find out about
conditions and arguments, they may only ask variables as listed, and what these have answered. -/
structure ActsBy (c : Call) (reads : List Call) (ss : List Stmt) : Prop where
  simple : ∃ e, allSimple ss = [eval e] ∧ e.call? = some c
  own : (allCalls ss).filter (·.on.isOwn) = [c]
  reads : ∀ k ∈ allCalls ss, k = c ∨ k ∈ reads ∨ k.on = .other

section

variable {c : Call} {reads : List Call} {e : Expr} {ss : List Stmt}

/-- Nothing that is asked belongs to the object. -/
theorem filter_isOwn_eq_nil (hreads : ∀ k ∈ reads, k.on.isOwn = false) {cs : List Call}
    (h : ∀ k ∈ cs, k ∈ reads ∨ k.on = .other) : cs.filter (·.on.isOwn) = [] := by
  rw [List.filter_eq_nil_iff]
  intro k hk hown
  rcases h k hk with hread | hother
  · rw [hreads k hread] at hown
    cases hown
  · rw [hother] at hown
    cases hown

theorem actsBy_eval (hcall : e.call? = some c) (hown : c.on.isOwn = true)
    (hreads : ∀ k ∈ reads, k.on.isOwn = false)
    (h : ∀ k ∈ e.inner.filterMap Expr.call?, k ∈ reads ∨ k.on = .other) : ActsBy c reads [eval e] where
  simple := ⟨e, rfl, hcall⟩
  own := by
    have hcalls : e.calls = c :: e.inner.filterMap Expr.call? := by
      rw [Expr.calls, Expr.parts, List.filterMap_cons, hcall]
    rw [allCalls_cons, calls_eval, allCalls_nil, List.append_nil, hcalls, List.filter_cons, if_pos hown,
      filter_isOwn_eq_nil hreads h]
  reads := by
    intro k hk
    rw [allCalls_cons, calls_eval, allCalls_nil, List.append_nil, Expr.calls, Expr.parts,
      List.filterMap_cons, hcall] at hk
    exact (List.mem_cons.mp hk).imp_right (h k)

theorem ActsBy.ifThen (hacts : ActsBy c reads ss) (hreads : ∀ k ∈ reads, k.on.isOwn = false)
    (h : ∀ k ∈ e.calls, k ∈ reads ∨ k.on = .other) : ActsBy c reads [.ifThen e ss] where
  simple := by
    obtain ⟨e, hsimple, hcall⟩ := hacts.simple
    exact ⟨e, by rw [allSimple, Stmt.simple, hsimple, allSimple, List.append_nil], hcall⟩
  own := by
    rw [allCalls_cons, calls_ifThen, allCalls_nil, List.append_nil, List.filter_append,
      filter_isOwn_eq_nil hreads h, hacts.own, List.nil_append]
  reads := by
    intro k hk
    rw [allCalls_cons, calls_ifThen, allCalls_nil, List.append_nil] at hk
    rcases List.mem_append.mp hk with hk | hk
    · exact .inr (h k hk)
    · exact hacts.reads k hk

end

end Stmt

end JavaBuilder.Java
