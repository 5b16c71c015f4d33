import JavaBuilder.Proofs.Builder.StoredValues

/-!
# The text of values

`toString` of the value class is written in four ways: as a constant, as a concatenation, with a
joiner that leaves out nulls, and step by step with a variable that holds the separator. All four
give the same text: the entries of the fields that are shown, with commas between them. What an
entry is preceded by is the only state of the stepwise form, so `entriesAfter` takes the first
separator as an argument, and the other forms start from a text that already has its first entry.

The joiner is a static field of the class around the value class, and the value class refers to it
by its simple name. A field of the value class with that name hides it, so the text is right only
where there is none.
-/

namespace JavaBuilder.Builder

open Java Expr.Yields

variable {ρ : Type}

/-! ## Entries -/

def entryText (w : World ρ) (o : ρ) (s : StoredField) : String :=
  s.label ++ "=" ++ w.textOf (stored w o s.field)

/-- The entries of the fields that are shown. -/
def entries (w : World ρ) (o : ρ) (shown : StoredField → Bool) (fields : List StoredField) :
    List String :=
  (fields.filter shown).map (entryText w o)

/-- Entries with a separator before each, of which only the first one is open. -/
def entriesAfter (separator : String) : List String → String
  | [] => ""
  | e :: es => separator ++ e ++ entriesAfter ", " es

theorem intercalate_cons_eq (e : String) (es : List String) :
    ", ".intercalate (e :: es) = e ++ entriesAfter ", " es := by
  induction es generalizing e with
  | nil => simp [entriesAfter]
  | cons e' es ih =>
    rw [String.intercalate_cons_cons, ih, entriesAfter, String.append_assoc, String.append_assoc]

theorem entriesAfter_empty (es : List String) : entriesAfter "" es = ", ".intercalate es := by
  cases es with
  | nil => simp [entriesAfter]
  | cons e es => rw [intercalate_cons_eq, entriesAfter, String.empty_append]

/-- The field of an object is not null. -/
def isPresent (w : World ρ) (o : ρ) (s : StoredField) : Bool := !(stored w o s.field).isNull

theorem isPresent_of_not_nullable {w : World ρ} {o : ρ} {s : StoredField}
    (hs : s.kind.isNullable = false) (h : s.kind.Holds (stored w o s.field)) :
    isPresent w o s = true := by
  rw [isPresent]
  cases hk : s.kind with
  | nullable => simp [hk, FieldKind.isNullable] at hs
  | nonNull =>
    rw [hk] at h
    obtain ⟨p, hp⟩ := h
    rw [hp]
    rfl
  | primitive p =>
    rw [hk] at h
    cases p <;> obtain ⟨x, hx⟩ := h <;> rw [hx] <;> rfl

variable [DecidableEq ρ] {w : World ρ} {o : ρ} {fields : List StoredField} {opening : String}
  {withUnset : Bool}

theorem identical_null (w : World ρ) (o : ρ) (s : StoredField) :
    (stored w o s.field).identical .null = some (!isPresent w o s) := by
  rw [isPresent, Bool.not_not]
  cases stored w o s.field <;> rfl

/-- A field by its simple name, where there are no variables. -/
theorem yields_own (ho : Stores w fields withUnset o) {s : StoredField} (hs : s ∈ fields) :
    (Expr.own s.field).Yields w o (.start []) (stored w o s.field) :=
  own (by simp [World.resolve, State.start, (ho.stored hs).1])

/-! ## Concatenation -/

/-- Each further field appends its entry after a comma. -/
theorem yields_concat {fs : List StoredField} (ho : Stores w fields withUnset o)
    (hfs : ∀ s ∈ fs, s ∈ fields) {e : Expr} {t : String}
    (he : e.Yields w o (.start []) (.text t)) :
    (fs.foldl (fun acc s ↦ plus (plusNext acc (.string (", " ++ s.label ++ "="))) (.own s.field))
      e).Yields w o (.start []) (.text (t ++ entriesAfter ", " (fs.map (entryText w o)))) := by
  induction fs generalizing e t with
  | nil => simpa [entriesAfter] using he
  | cons s ss ih =>
    rw [List.forall_mem_cons] at hfs
    have hstep : (plus (plusNext e (.string (", " ++ s.label ++ "="))) (.own s.field)).Yields w o
        (.start []) (.text (t ++ w.textOf (.text (", " ++ s.label ++ "=")) ++
          w.textOf (stored w o s.field))) :=
      Expr.Yields.plus (Expr.Yields.plus he (string _)) (yields_own ho hfs.1)
    have htext : t ++ entriesAfter ", " ((s :: ss).map (entryText w o)) =
        t ++ w.textOf (.text (", " ++ s.label ++ "=")) ++ w.textOf (stored w o s.field) ++
          entriesAfter ", " (ss.map (entryText w o)) := by
      simp only [List.map_cons, entriesAfter, entryText, World.textOf, String.append_assoc]
    rw [List.foldl_cons, htext]
    exact ih hfs.2 hstep

theorem yields_concatText (ho : Stores w fields withUnset o) :
    (concatText opening fields).Yields w o (.start [])
      (.text (opening ++ ", ".intercalate (fields.map (entryText w o)) ++ "\x7d")) := by
  cases fields with
  | nil => simpa [concatText] using string (opening ++ "\x7d")
  | cons s ss =>
    have hfirst : (plus (.string (opening ++ s.label ++ "=")) (.own s.field)).Yields w o
        (.start []) (.text (opening ++ s.label ++ "=" ++ w.textOf (stored w o s.field))) :=
      Expr.Yields.plus (string _) (yields_own ho List.mem_cons_self)
    have hall := yields_concat ho (fun s' hs' ↦ List.mem_cons_of_mem s hs') hfirst
    have htext : opening ++ ", ".intercalate ((s :: ss).map (entryText w o)) ++ "\x7d" =
        opening ++ s.label ++ "=" ++ w.textOf (stored w o s.field) ++
          entriesAfter ", " (ss.map (entryText w o)) ++ w.textOf (.text "\x7d") := by
      simp only [List.map_cons, intercalate_cons_eq, entryText, World.textOf, String.append_assoc]
    rw [htext]
    exact Expr.Yields.plus hall (string "\x7d")

/-! ## The joiner -/

/-- The class around holds the joiner, as its declaration makes it. -/
def HasJoiner (w : World ρ) (o : ρ) : Prop :=
  ∃ e v, joinerDecl.value = some e ∧ e.Yields w o (.start []) v ∧
    w.enclosing joinerDecl.name = some v

/-- The joiner puts commas between the texts that are not null. -/
theorem HasJoiner.enclosing_eq (h : HasJoiner w o) :
    w.enclosing joinerField = some (.joiner ", " true) := by
  obtain ⟨e, v, he, hv, hw⟩ := h
  obtain rfl := Option.some.inj he
  have hon : (Expr.invokeStatic (guavaBase "Joiner") "on" [.string ", "]).Yields w o (.start [])
      (.joiner ", " false) := staticCall (.cons (string ", ") .nil) rfl
  have hskip : (Expr.invoke (.invokeStatic (guavaBase "Joiner") "on" [.string ", "]) "skipNulls"
      []).Yields w o (.start []) (.joiner ", " true) := call hon .nil rfl
  have hvalue : v = .joiner ", " true := by
    have := hv.symm.trans hskip
    simpa using this
  exact hvalue ▸ hw

/-- What a field gives the joiner. -/
def joinedEntry (w : World ρ) (o : ρ) (s : StoredField) : Datum ρ :=
  if isPresent w o s then .text (entryText w o s) else .null

theorem yields_joinerEntry (ho : Stores w fields withUnset o) {s : StoredField} (hs : s ∈ fields) :
    (joinerEntry s).Yields w o (.start []) (joinedEntry w o s) := by
  have hown := yields_own ho hs
  have hentry : (plus (.string (s.label ++ "=")) (.own s.field)).Yields w o (.start [])
      (.text (entryText w o s)) := Expr.Yields.plus (string (s.label ++ "=")) hown
  rw [joinerEntry, joinedEntry]
  by_cases hk : s.kind.isNullable = true
  · rw [if_pos hk]
    refine paren (conditional (ne hown null (identical_null w o s)) ?_)
    cases isPresent w o s with
    | true => exact hentry
    | false => exact null
  · -- A field that cannot be null is not asked, and is there.
    rw [if_neg hk, isPresent_of_not_nullable (Bool.eq_false_iff.mpr hk) (ho.stored hs).2]
    exact hentry

omit [DecidableEq ρ] in
/-- The entries that the joiner does not leave out. -/
theorem joined_entries (w : World ρ) (o : ρ) (fields : List StoredField) :
    ((fields.map (joinedEntry w o)).filter (!·.isNull)).map w.textOf =
      entries w o (isPresent w o) fields := by
  induction fields with
  | nil => rfl
  | cons s ss ih =>
    rw [entries] at ih ⊢
    rw [List.map_cons, joinedEntry, List.filter_cons, List.filter_cons]
    cases isPresent w o s with
    | true => exact congrArg (entryText w o s :: ·) ih
    | false => exact ih

/-- The fields joined by the joiner, where no field hides it. -/
theorem yields_joinedText (ho : Stores w fields withUnset o) (hj : HasJoiner w o)
    (hfree : w.field o joinerField = none) :
    (joinedText opening fields).Yields w o (.start [])
      (.text (opening ++ ", ".intercalate (entries w o (isPresent w o) fields) ++ "\x7d")) := by
  have hjoiner : (Expr.enclosing joinerField).Yields w o (.start []) (.joiner ", " true) :=
    enclosing (by simp [World.resolve, State.start, hfree, hj.enclosing_eq])
  have hargs : List.Forall₂ (Expr.Yields w o (.start [])) (fields.map joinerEntry)
      (fields.map (joinedEntry w o)) := by
    rw [List.forall₂_map_left_iff, List.forall₂_map_right_iff, List.forall₂_same]
    exact fun s hs ↦ yields_joinerEntry ho hs
  have hjoin : (Expr.call (.enclosing joinerField) "join" .stacked
      (fields.map joinerEntry)).Yields w o (.start [])
        (.text (", ".intercalate (entries w o (isPresent w o) fields))) := by
    refine call hjoiner hargs ?_
    rw [← joined_entries]
    simp [World.invoke, World.sendJoiner, Except.map]
  exact Expr.Yields.plus (Expr.Yields.plus (string opening) hjoin) (string "\x7d")

/-! ## Step by step -/

/-- The state in which a text is built step by step. -/
def textState (text separator : String) : State ρ :=
  ⟨[("separator", .text separator), ("result", .buffer 0)], [text], []⟩

omit [DecidableEq ρ] in
theorem lookup_textState (text separator : String) {x : String} (hx : x ∉ builderLocals) :
    (textState text separator : State ρ).locals.lookup x = none := by
  simp only [builderLocals, List.mem_cons, List.not_mem_nil, or_false, not_or] at hx
  simp [textState, List.lookup_cons, beq_false_of_ne hx.1, beq_false_of_ne hx.2]

theorem yields_ownField (ho : Stores w fields withUnset o) {s : StoredField} (hs : s ∈ fields)
    (text separator : String) :
    (Expr.ownField s.field builderLocals).Yields w o (textState text separator)
      (stored w o s.field) :=
  ownField (fun _ ↦ lookup_textState text separator) (ho.stored hs).1

theorem eval_append {e arg : Expr} {st : State ρ} {text separator : String} {v : Datum ρ}
    (he : e.eval w o st = .ok (.buffer 0, textState text separator))
    (harg : arg.Yields w o (textState text separator) v) :
    (Expr.invoke e "append" [arg]).eval w o st =
      .ok (.buffer 0, textState (text ++ w.textOf v) separator) := by
  rw [Expr.invoke, Expr.eval, he]
  simp only [bind, Except.bind, all (.cons harg .nil)]
  rfl

/-- The entry of a field goes behind the separator, which is a comma from then on. -/
theorem runAll_appendEntry (ho : Stores w fields withUnset o) {s : StoredField} (hs : s ∈ fields)
    (text separator : String) :
    Stmt.runAll w o
      [.eval (.invoke (.invoke (.invoke (.var "result") "append" [.var "separator"]) "append"
        [.string (s.label ++ "=")]) "append" [.ownField s.field builderLocals]),
      .assign (.var "separator") (.string ", ")] (textState text separator) =
        .ok (none, textState (text ++ separator ++ entryText w o s) ", ") := by
  have hresult : (Expr.var "result").eval w o (textState text separator) =
      .ok (.buffer 0, textState text separator) := rfl
  have hseparator : (Expr.var "separator").Yields w o (textState text separator)
      (.text separator) := rfl
  have happend := eval_append (eval_append (eval_append hresult hseparator)
    (string (s.label ++ "="))) (yields_ownField ho hs _ separator)
  have htext : text ++ separator ++ entryText w o s =
      text ++ w.textOf (.text separator) ++ w.textOf (.text (s.label ++ "=")) ++
        w.textOf (stored w o s.field) := by
    simp only [entryText, World.textOf, String.append_assoc]
  rw [Stmt.runAll_cons (Stmt.run_eval happend), htext]
  rfl

theorem runAll_appendField (ho : Stores w fields withUnset o) {s : StoredField} (hs : s ∈ fields)
    {condition : StoredField → Option Expr} {shown : StoredField → Bool} {text separator : String}
    (hnone : condition s = none → shown s = true)
    (hsome : ∀ test, condition s = some test →
      test.Yields w o (textState text separator) (.boolean (shown s))) :
    Stmt.runAll w o (appendField condition s) (textState text separator) =
      .ok (none, if shown s then textState (text ++ separator ++ entryText w o s) ", "
        else textState text separator) := by
  have hadd := runAll_appendEntry ho hs text separator
  rw [appendField]
  cases hc : condition s with
  | none =>
    rw [hnone hc]
    exact hadd
  | some test =>
    have htest := hsome test hc
    cases hs : shown s with
    | true =>
      rw [hs] at htest
      exact Stmt.runAll_cons (Stmt.run_ifThen_true htest hadd)
    | false =>
      rw [hs] at htest
      exact Stmt.runAll_cons (Stmt.run_ifThen_false htest)

/-- The conditions of a stepwise text decide which fields are shown. -/
def Decides (w : World ρ) (o : ρ) (condition : StoredField → Option Expr)
    (shown : StoredField → Bool) (fields : List StoredField) : Prop :=
  ∀ s ∈ fields, (condition s = none → shown s = true) ∧
    ∀ test, condition s = some test → ∀ text separator : String,
      test.Yields w o (textState text separator) (.boolean (shown s))

/-- The invariant of the steps: the entries shown so far, the first one after the separator with
which the steps began. -/
theorem runAll_appendFields (ho : Stores w fields withUnset o) {fs : List StoredField}
    (hfs : ∀ s ∈ fs, s ∈ fields) {condition : StoredField → Option Expr}
    {shown : StoredField → Bool} (h : Decides w o condition shown fs) (text separator : String) :
    ∃ separator', Stmt.runAll w o (fs.flatMap (appendField condition)) (textState text separator) =
      .ok (none, textState (text ++ entriesAfter separator (entries w o shown fs)) separator') := by
  induction fs generalizing text separator with
  | nil => exact ⟨separator, by simp [entries, entriesAfter, Stmt.runAll]⟩
  | cons s ss ih =>
    rw [List.forall_mem_cons] at hfs
    obtain ⟨⟨hnone, hsome⟩, hss⟩ := List.forall_mem_cons.mp h
    have hstep := runAll_appendField ho hfs.1 hnone fun test ht ↦ hsome test ht text separator
    rw [List.flatMap_cons, Stmt.runAll_append hstep, entries, List.filter_cons]
    cases hs : shown s with
    | false =>
      -- Nothing is written, so the next entry still goes after the same separator.
      exact ih hfs.2 hss text separator
    | true =>
      obtain ⟨separator', hrest⟩ := ih hfs.2 hss (text ++ separator ++ entryText w o s) ", "
      refine ⟨separator', ?_⟩
      rw [if_pos rfl, if_pos rfl, hrest]
      simp only [entries, List.map_cons, entriesAfter, String.append_assoc]

theorem runAll_stepwiseText (ho : Stores w fields withUnset o)
    {condition : StoredField → Option Expr} {shown : StoredField → Bool}
    (h : Decides w o condition shown fields) :
    ∃ st, Stmt.runAll w o (stepwiseText opening condition fields) (.start []) =
      .ok (some (.text (opening ++ ", ".intercalate (entries w o shown fields) ++ "\x7d")), st) := by
  obtain ⟨separator, hfields⟩ := runAll_appendFields ho (fun _ ↦ id) h opening ""
  rw [entriesAfter_empty] at hfields
  have hdeclare : ∀ rest, Stmt.runAll w o
      (.declare (.declared (javaLang "StringBuilder") []) "result"
        (.create (.declared (javaLang "StringBuilder") []) false [.string opening]) ::
      .declare (.declared (javaLang "String") []) "separator" (.string "") :: rest) (.start []) =
        Stmt.runAll w o rest (textState opening "") := fun rest ↦ rfl
  have hresult (text : String) : (Expr.var "result").eval w o (textState text separator) =
      .ok (.buffer 0, textState text separator) := rfl
  have hlast := eval_append (hresult (opening ++ ", ".intercalate (entries w o shown fields)))
    (string "\x7d")
  refine ⟨textState (opening ++ ", ".intercalate (entries w o shown fields) ++
    w.textOf (.text "\x7d")) separator, ?_⟩
  rw [stepwiseText, hdeclare, Stmt.runAll_append hfields]
  refine Stmt.runAll_cons_returns ?_
  rw [Stmt.run, Expr.invoke, Expr.eval, hlast]
  rfl

/-! ## Which fields are shown -/

theorem decides_presentCheck (ho : Stores w fields withUnset o) :
    Decides w o presentCheck (isPresent w o) fields := by
  intro s hs
  rw [presentCheck]
  by_cases hk : s.kind.isNullable = true
  · rw [if_pos hk]
    refine ⟨nofun, fun test htest text separator ↦ ?_⟩
    obtain rfl := Option.some.inj htest
    rw [← Bool.not_not (isPresent w o s)]
    exact ne (yields_ownField ho hs text separator) null (identical_null w o s)
  · rw [if_neg hk]
    exact ⟨fun _ ↦ isPresent_of_not_nullable (Bool.eq_false_iff.mpr hk) (ho.stored hs).2, nofun⟩

/-- The constants of the properties that are unset on a partial value. -/
def unsetConstants (w : World ρ) (o : ρ) : Finset EnumConstant :=
  match stored w o unsetField with
  | .constants m => m
  | _ => ∅

/-- The field of a partial value is shown: if it is tracked, it is not unset, and else not null. -/
def isSet (w : World ρ) (o : ρ) (s : StoredField) : Bool :=
  match s.constant with
  | some (.static enum name) => decide (⟨enum, name⟩ ∉ unsetConstants w o)
  | _ => isPresent w o s

/-- Fields are tracked by enum constants, and only where the unset properties are stored. -/
def TracksByConstants (fields : List StoredField) (withUnset : Bool) : Prop :=
  ∀ s ∈ fields, ∀ e, s.constant = some e → withUnset = true ∧ ∃ enum name, e = .static enum name

theorem decides_partialCheck (ho : Stores w fields withUnset o)
    (hc : TracksByConstants fields withUnset) : Decides w o partialCheck (isSet w o) fields := by
  intro s hs
  rw [partialCheck, isSet]
  cases hconstant : s.constant with
  | none => exact decides_presentCheck ho s hs
  | some e =>
    obtain ⟨rfl, enum, name, rfl⟩ := hc s hs e hconstant
    refine ⟨nofun, fun test htest text separator ↦ ?_⟩
    obtain rfl := Option.some.inj htest
    obtain ⟨m, hm, hstored⟩ := ho.storedUnset
    have hunset : (Expr.own unsetField).Yields w o (textState text separator) (.constants m) :=
      own (by simp [World.resolve,
        lookup_textState text separator (show unsetField ∉ builderLocals by decide), hm])
    have hconstants : unsetConstants w o = m := by
      rw [unsetConstants, hstored]
    change (Expr.not (isUnset (.static enum name))).Yields w o _
      (.boolean (decide (⟨enum, name⟩ ∉ unsetConstants w o)))
    rw [hconstants, decide_not]
    exact not (contains hunset rfl)

/-! ## Both classes -/

omit [DecidableEq ρ] in
theorem filter_isPresent (ho : Stores w fields withUnset o)
    (hnull : fields.any (·.kind.isNullable) = false) :
    fields.filter (isPresent w o) = fields := by
  rw [List.filter_eq_self]
  intro s hs
  rw [List.any_eq_false] at hnull
  exact isPresent_of_not_nullable (Bool.eq_false_iff.mpr (hnull s hs)) (ho.stored hs).2

/-- `toString` of the value class, in the form that the features and the fields call for. -/
theorem valueToString_returns {f : Features} {source : ClassName}
    (ho : Stores w fields withUnset o)
    (hj : needsJoiner f fields = true → HasJoiner w o ∧ w.field o joinerField = none) :
    (valueToString f source fields).returns w o [] =
      .ok (.text (source.simpleName ++ "\x7b" ++
        ", ".intercalate (entries w o (isPresent w o) fields) ++ "\x7d")) := by
  rw [valueToString, toStringMethod]
  cases hnull : fields.any (·.kind.isNullable) with
  | false =>
    refine Method.returns_of_runAll (t := .start []) (Stmt.runAll_ret ?_)
    rw [entries, filter_isPresent ho hnull]
    exact yields_concatText ho
  | true =>
    cases hneeds : needsJoiner f fields with
    | true =>
      obtain ⟨hjoiner, hfree⟩ := hj hneeds
      exact Method.returns_of_runAll (t := .start [])
        (Stmt.runAll_ret (yields_joinedText ho hjoiner hfree))
    | false =>
      obtain ⟨t, ht⟩ := runAll_stepwiseText ho (decides_presentCheck ho)
      exact Method.returns_of_runAll ht

theorem partialToString_returns {source : ClassName} (ho : Stores w fields withUnset o)
    (hc : TracksByConstants fields withUnset) :
    (partialToString source fields).returns w o [] =
      .ok (.text ("partial " ++ source.simpleName ++ "\x7b" ++
        ", ".intercalate (entries w o (isSet w o) fields) ++ "\x7d")) := by
  rw [partialToString, toStringMethod]
  cases hempty : fields.isEmpty with
  | true =>
    rw [List.isEmpty_iff] at hempty
    refine Method.returns_of_runAll (t := .start []) (Stmt.runAll_ret ?_)
    simpa [hempty, entries] using string _
  | false =>
    obtain ⟨t, ht⟩ := runAll_stepwiseText ho (decides_partialCheck ho hc)
    exact Method.returns_of_runAll ht

/-- Both classes print what they show and nothing else. The text of a value does not depend on the
features, provided that no field hides the joiner where there is one. -/
theorem valueToString_partialToString_agree (ho : Stores w fields withUnset o)
    (hj : ∀ f, needsJoiner f fields = true → HasJoiner w o ∧ w.field o joinerField = none)
    (hc : TracksByConstants fields withUnset) (source : ClassName) :
    (∀ f : Features, (valueToString f source fields).returns w o [] =
      .ok (.text (source.simpleName ++ "\x7b" ++
        ", ".intercalate (entries w o (isPresent w o) fields) ++ "\x7d"))) ∧
    (partialToString source fields).returns w o [] =
      .ok (.text ("partial " ++ source.simpleName ++ "\x7b" ++
        ", ".intercalate (entries w o (isSet w o) fields) ++ "\x7d")) :=
  ⟨fun f ↦ valueToString_returns ho (hj f), partialToString_returns ho hc⟩

/-- A person who has a name, no nickname, and nothing unset. -/
def ann : World Bool :=
  { World.ofFields fun o field ↦
      match o, field with
      | true, "name" => some (.object false)
      | true, "nickname" => some .null
      | true, "_unsetProperties" => some (.constants ∅)
      | _, _ => none with
    enclosing := fun name ↦ if name = joinerField then some (.joiner ", " true) else none
    print := fun _ ↦ "Ann" }

/-- A name that is set and a nickname that is null, printed by both classes at every level. -/
theorem valueToString_partialToString_agree_ann :
    let source : ClassName := .top ["com", "example"] "Person"
    let fields : List StoredField :=
      [⟨"name", "name", .nonNull, some (.static (source.nested "Property") "NAME")⟩,
        ⟨"nickname", "nickname", .nullable, none⟩]
    (Stores ann fields true true ∧ TracksByConstants fields true ∧ HasJoiner ann true) ∧
      (∀ f : Features, (valueToString f source fields).returns ann true [] =
        .ok (.text "Person\x7bname=Ann\x7d")) ∧
      (partialToString source fields).returns ann true [] =
        .ok (.text "partial Person\x7bname=Ann\x7d") := by
  intro source fields
  have hstores : Stores ann fields true true :=
    ⟨by simp [fields, ann, World.ofFields, FieldKind.Holds], fun _ ↦ ⟨∅, rfl⟩⟩
  have hconstants : TracksByConstants fields true := by
    simp [TracksByConstants, fields]
  have hjoiner : HasJoiner ann true := ⟨_, _, rfl, rfl, rfl⟩
  exact ⟨⟨hstores, hconstants, hjoiner⟩,
    valueToString_partialToString_agree hstores (fun _ _ ↦ ⟨hjoiner, rfl⟩) hconstants source⟩

/-- An instance with a field that has the name of the joiner, whose method `join` answers null. -/
def joinerHidden : World Bool :=
  { World.ofFields fun o field ↦
      match o, field with
      | true, "COMMA_JOINER" => some (.object false)
      | true, "nickname" => some .null
      | _, _ => none with
    enclosing := fun name ↦ if name = joinerField then some (.joiner ", " true) else none
    call := fun _ _ _ ↦ .ok .null
    print := fun _ ↦ "x" }

/-- A field with the name of the joiner is asked to join instead. Without the joiner the text is
right. -/
theorem valueToString_asks_field_to_join :
    let source : ClassName := .top ["com", "example"] "Person"
    let fields : List StoredField :=
      [⟨"COMMA_JOINER", "COMMA_JOINER", .nonNull, none⟩, ⟨"nickname", "nickname", .nullable, none⟩]
    let text := source.simpleName ++ "\x7b" ++
      ", ".intercalate (entries joinerHidden true (isPresent joinerHidden true) fields) ++ "\x7d"
    (Stores joinerHidden fields false true ∧ HasJoiner joinerHidden true) ∧
      (valueToString ⟨.java8, false⟩ source fields).returns joinerHidden true [] =
        .ok (.text text) ∧
      (valueToString ⟨.java8, true⟩ source fields).returns joinerHidden true [] ≠
        .ok (.text text) := by
  intro source fields text
  have hstores : Stores joinerHidden fields false true :=
    ⟨by simp [fields, joinerHidden, World.ofFields, FieldKind.Holds], nofun⟩
  have hjoiner : HasJoiner joinerHidden true := ⟨_, _, rfl, rfl, rfl⟩
  have hasked : (valueToString ⟨.java8, true⟩ source fields).returns joinerHidden true [] =
      .ok (.text "Person\x7bnull\x7d") := rfl
  have htext : text = "Person\x7bCOMMA_JOINER=x\x7d" := rfl
  refine ⟨⟨hstores, hjoiner⟩, valueToString_returns hstores (by simp [needsJoiner]), ?_⟩
  rw [hasked, htext]
  simp

end JavaBuilder.Builder
