import DbCtlBase.Parse
import DbCtlBase.Effect

/-!
The conditions of `find` and `wait-until`, `COLUMN[:KEY] OP VALUE`, and
`is_condition_satisfied`.

* `evaluateRelop_iff`: on well-formed datums `evaluate_relop` is the relation its
  operator names; the set operators compare the sets of elements (of pairs, for a
  map) the datums denote, so `{<}` is strict inclusion although the code tests it
  as inclusion plus a larger size.
* `checkCondition_iff`: with a key on a map column, the relation is between the
  set holding the value at the key and the literal, and, when the key is absent,
  between the empty set and the literal for a set operator only.
* `isConditionSatisfied_run_exists`: `is_condition_satisfied` completes on a
  condition that parses against every symbol table its run may reach.
-/

namespace DbCtlBase

/-- `enum relop`. -/
inductive Relop where
  | eq | ne | lt | gt | le | ge | setEq | setNe | setLt | setGt | setLe | setGe
  deriving DecidableEq, Repr

/-- The operators of `RELOPS`, in the order of `enum relop`. -/
def relops : List Relop :=
  [.eq, .ne, .lt, .gt, .le, .ge, .setEq, .setNe, .setLt, .setGt, .setLe, .setGe]

/-- The string `RELOPS` gives each operator. -/
def Relop.string : Relop → String
  | .eq => "="
  | .ne => "!="
  | .lt => "<"
  | .gt => ">"
  | .le => "<="
  | .ge => ">="
  | .setEq => "\x7b=\x7d"
  | .setNe => "\x7b!=\x7d"
  | .setLt => "\x7b<\x7d"
  | .setGt => "\x7b>\x7d"
  | .setLe => "\x7b<=\x7d"
  | .setGe => "\x7b>=\x7d"

/-- The `operators` array of `is_condition_satisfied`. -/
def operators : List String := relops.map Relop.string

/-- `is_set_operator`. -/
def isSetOperator : Relop → Bool
  | .setEq | .setNe | .setLt | .setGt | .setLe | .setGe => true
  | _ => false

/-- `evaluate_relop`. -/
def evaluateRelop (a b : Datum) (type : OvsdbType) : Relop → Bool
  | .eq | .setEq => decide (a.compare3way b type = .eq)
  | .ne | .setNe => decide (a.compare3way b type ≠ .eq)
  | .lt => decide (a.compare3way b type = .lt)
  | .gt => decide (a.compare3way b type = .gt)
  | .le => decide (a.compare3way b type ≠ .gt)
  | .ge => decide (a.compare3way b type ≠ .lt)
  | .setLt => decide (b.n > a.n) && a.includesAll b type
  | .setGt => decide (a.n > b.n) && b.includesAll a type
  | .setLe => a.includesAll b type
  | .setGe => b.includesAll a type

/-- The datum `{value at the key}` that `is_condition_satisfied` builds from the pair
`ovsdb_datum_find_key` found: the pair's value as a one-element set. -/
def valueSet (e : Atom × Option Atom) : Datum := ⟨e.2.toList.map (·, none)⟩

/-- The comparison at the end of `is_condition_satisfied`, on the row's datum, the
key if one was given, and the literal `b` of type `type`. -/
def checkCondition (haveDatum : Datum) (wantKey : Option Atom) (b : Datum) (type : OvsdbType)
    (op : Relop) : Bool :=
  match wantKey with
  | none => evaluateRelop haveDatum b type op
  | some key =>
    match haveDatum.findKey key with
    | none => isSetOperator op && evaluateRelop Datum.empty b type op
    | some e => evaluateRelop (valueSet e) b type op

/-- The type `is_condition_satisfied` compares under: the column's, with no upper
bound. -/
def conditionType (column : Column) : OvsdbType := { column.type with nMax := uintMax }

/-- The type of the literal and of `{value at the key}` for a condition with a key:
sets of the map's values. -/
def keyConditionType (column : Column) : OvsdbType :=
  { conditionType column with
    key := column.type.value, value := { column.type.value with type := .void } }

/-- What `OVS_NOT_REACHED` aborts with. -/
def notReached : String := "NOT REACHED"

/-- `is_condition_satisfied`. The operator index the parse returns names one of
`operators`, so the `NOT REACHED` abort is never taken. -/
def isConditionSatisfied (L : Lib) (table : CtlTableClass) (row : Row) (arg : String) :
    CtlM Bool := do
  let (column, key, v) ← dieIfError (parseColumnKeyValueAux L arg table (some operators) true)
  let some (operator, value) := v | ctlFatal (arg ++ ": missing value")
  let some op := relops[operator]? | ctlFatal notReached
  let haveDatum ← idlRead row column
  match key with
  | some keyString =>
    if column.type.value.type = .void then
      ctlFatal ("cannot specify key to check for non-map column " ++ column.name)
    else do
      let wantKey ← dieIfError (← ovsdbAtomFromString L column.type.key keyString)
      let b ← dieIfError (← ovsdbDatumFromString L (keyConditionType column) value)
      return checkCondition haveDatum (some wantKey) b (keyConditionType column) op
  | none => do
    let wantDatum ← dieIfError (← ovsdbDatumFromString L column.type value)
    return checkCondition haveDatum none wantDatum (conditionType column) op

/-! ### What the operators mean -/

/-- The finite set of elements (of pairs, for a map) a datum denotes. -/
def Datum.elems (d : Datum) : Finset (Atom × Option Atom) := d.entries.toFinset

/-- The relation an operator names between datums `a` and `b` of type `t`: equality
and the order of `ovsdb_datum_compare_3way` for the plain operators; equality,
inequality, strict and plain inclusion of the denoted sets for the set operators. -/
def Relop.Holds (op : Relop) (a b : Datum) (t : OvsdbType) : Prop :=
  match op with
  | .eq => a = b
  | .ne => a ≠ b
  | .lt => a.compare3way b t = .lt
  | .gt => a.compare3way b t = .gt
  | .le => a.compare3way b t ≠ .gt
  | .ge => a.compare3way b t ≠ .lt
  | .setEq => a.elems = b.elems
  | .setNe => a.elems ≠ b.elems
  | .setLt => a.elems ⊂ b.elems
  | .setGt => b.elems ⊂ a.elems
  | .setLe => a.elems ⊆ b.elems
  | .setGe => b.elems ⊆ a.elems

/-- What a condition says of a row's datum `d`: without a key, the operator's
relation between `d` and the literal; with a key, the relation between the set
holding the value at the key and the literal, or, when `d` has no such key, for a
set operator only, the relation between the empty set and the literal. -/
def ConditionHolds (d : Datum) (wantKey : Option Atom) (b : Datum) (t : OvsdbType) (op : Relop) :
    Prop :=
  match wantKey with
  | none => op.Holds d b t
  | some key =>
    (∃ e ∈ d.entries, e.1 = key ∧ op.Holds (valueSet e) b t) ∨
      ((∀ e ∈ d.entries, e.1 ≠ key) ∧ isSetOperator op = true ∧ op.Holds Datum.empty b t)

instance (op : Relop) (a b : Datum) (t : OvsdbType) : Decidable (op.Holds a b t) :=
  match op with
  | .eq => inferInstanceAs (Decidable (a = b))
  | .ne => inferInstanceAs (Decidable (a ≠ b))
  | .lt => inferInstanceAs (Decidable (a.compare3way b t = .lt))
  | .gt => inferInstanceAs (Decidable (a.compare3way b t = .gt))
  | .le => inferInstanceAs (Decidable (a.compare3way b t ≠ .gt))
  | .ge => inferInstanceAs (Decidable (a.compare3way b t ≠ .lt))
  | .setEq => inferInstanceAs (Decidable (a.elems = b.elems))
  | .setNe => inferInstanceAs (Decidable (a.elems ≠ b.elems))
  | .setLt => inferInstanceAs (Decidable (a.elems ⊂ b.elems))
  | .setGt => inferInstanceAs (Decidable (b.elems ⊂ a.elems))
  | .setLe => inferInstanceAs (Decidable (a.elems ⊆ b.elems))
  | .setGe => inferInstanceAs (Decidable (b.elems ⊆ a.elems))

instance (d : Datum) (wantKey : Option Atom) (b : Datum) (t : OvsdbType) (op : Relop) :
    Decidable (ConditionHolds d wantKey b t op) :=
  match wantKey with
  | none => inferInstanceAs (Decidable (op.Holds d b t))
  | some key => inferInstanceAs (Decidable ((∃ e ∈ d.entries, e.1 = key ∧ op.Holds (valueSet e) b t) ∨
      ((∀ e ∈ d.entries, e.1 ≠ key) ∧ isSetOperator op = true ∧ op.Holds Datum.empty b t)))

namespace Datum

variable {t : OvsdbType} {a b : Datum}

@[simp] lemma mem_elems {e : Atom × Option Atom} : e ∈ a.elems ↔ e ∈ a.entries := List.mem_toFinset

lemma card_elems (ha : WellFormed t a) : a.elems.card = a.n :=
  List.toFinset_card_of_nodup (KeySorted.nodup ha.sorted)

lemma elems_eq_iff (ha : WellFormed t a) (hb : WellFormed t b) : a.elems = b.elems ↔ a = b := by
  rw [eq_iff_mem ha.sorted hb.sorted, Finset.ext_iff]
  simp only [mem_elems]

lemma includesAll_iff_subset (ha : WellFormed t a) (hb : WellFormed t b) :
    a.includesAll b t = true ↔ a.elems ⊆ b.elems := by
  rw [includesAll_iff ha hb]
  exact ⟨fun h e he => mem_elems.2 (h e (mem_elems.1 he)), fun h e he => mem_elems.1 (h (mem_elems.2 he))⟩

/-- Inclusion with a larger size is strict inclusion, since well-formed datums have
no duplicates. -/
lemma lt_and_includesAll_iff (ha : WellFormed t a) (hb : WellFormed t b) :
    (decide (b.n > a.n) && a.includesAll b t) = true ↔ a.elems ⊂ b.elems := by
  rw [Bool.and_eq_true, decide_eq_true_eq, includesAll_iff_subset ha hb, ← card_elems ha,
    ← card_elems hb]
  exact ⟨fun ⟨hlt, hsub⟩ => Finset.ssubset_iff_subset_ne.2 ⟨hsub, by rintro h; simp [h] at hlt⟩,
    fun h => ⟨Finset.card_lt_card h, h.subset⟩⟩

end Datum

lemma evaluateRelop_iff {t : OvsdbType} {a b : Datum} (ha : Datum.WellFormed t a) (hb : Datum.WellFormed t b)
    (op : Relop) : evaluateRelop a b t op = true ↔ op.Holds a b t := by
  have heq := Datum.compare3way_eq_iff ha hb
  cases op <;> simp only [evaluateRelop, Relop.Holds, decide_eq_true_eq, ne_eq, heq,
    Datum.elems_eq_iff ha hb, Datum.includesAll_iff_subset ha hb, Datum.includesAll_iff_subset hb ha,
    Datum.lt_and_includesAll_iff ha hb, Datum.lt_and_includesAll_iff hb ha]

lemma wellFormed_valueSet {t : OvsdbType} {e : Atom × Option Atom} (ht : t.isMap = false) :
    Datum.WellFormed t (valueSet e) := by
  obtain ⟨k, _ | v⟩ := e <;> exact ⟨by simp [valueSet], by simp [valueSet, ht]⟩

lemma wellFormed_empty {t : OvsdbType} : Datum.WellFormed t Datum.empty :=
  ⟨by simp [Datum.empty], by simp [Datum.empty]⟩

/-- On a well-formed row datum `d` of a map type `mt` and a well-formed literal of the
value-set type `t`, `checkCondition` decides `ConditionHolds`. -/
lemma checkCondition_iff {mt t : OvsdbType} {d b : Datum} (wantKey : Option Atom) (op : Relop)
    (hd : Datum.WellFormed mt d) (hb : Datum.WellFormed t b) (hkey : wantKey.isSome → mt.isMap ∧ t.isMap = false)
    (hnone : wantKey = none → Datum.WellFormed t d) :
    checkCondition d wantKey b t op = true ↔ ConditionHolds d wantKey b t op := by
  cases wantKey with
  | none => exact evaluateRelop_iff (hnone rfl) hb op
  | some key =>
    obtain ⟨hm, ht⟩ := hkey rfl
    simp only [checkCondition, ConditionHolds]
    rcases hf : d.findKey key with _ | ⟨k, v⟩
    · have hk := Datum.findKey_eq_none.1 hf
      simp only [Bool.and_eq_true, evaluateRelop_iff wellFormed_empty hb]
      constructor
      · rintro ⟨hs, hh⟩; exact .inr ⟨hk, hs, hh⟩
      · rintro (⟨e, he, hek, -⟩ | ⟨-, hs, hh⟩)
        · exact absurd hek (hk e he)
        · exact ⟨hs, hh⟩
    · obtain ⟨hmem, rfl⟩ := Datum.findKey_eq_some hf
      obtain ⟨v, rfl⟩ := Option.isSome_iff_exists.1 ((hd.value_isSome _ hmem).trans hm)
      rw [evaluateRelop_iff (wellFormed_valueSet ht) hb]
      constructor
      · exact fun h => .inl ⟨_, hmem, rfl, h⟩
      · rintro (⟨e, he, hek, hh⟩ | ⟨hk, -⟩)
        · have := Datum.findKey_of_mem hd.sorted he
          rw [hek, hf] at this
          exact Option.some.inj this ▸ hh
        · exact absurd rfl (hk _ hmem)

/-- The datum parser returns well-formed datums. -/
def Lib.WellFormedDatums (L : Lib) : Prop :=
  ∀ t str st d, L.datumFromString t str st = .ok d → Datum.WellFormed t d

/-- Every datum of the IDL is well formed for its column's type. -/
def Idl.WellFormed (idl : Idl) : Prop := ∀ uuid (column : Column), Datum.WellFormed column.type (idl.data uuid column)

/-! ### The parsed condition -/

/-- A condition as `is_condition_satisfied` parses it: the column, the key (for a map
column), the operator and the literal. -/
structure Condition where
  column : Column
  key : Option Atom
  op : Relop
  literal : Datum

/-- The type `is_condition_satisfied` compares a parsed condition under. -/
def Condition.type (c : Condition) : OvsdbType :=
  if c.key.isSome then keyConditionType c.column else conditionType c.column

/-- The parse `is_condition_satisfied` makes of `arg`, the key and the literal being
read against the symbol table `st`. -/
def parseCondition (L : Lib) (table : CtlTableClass) (st : SymbolTable) (arg : String) :
    Except String Condition := do
  let (column, key, v) ← parseColumnKeyValueAux L arg table (some operators) true
  let some (operator, value) := v | .error (arg ++ ": missing value")
  let some op := relops[operator]? | .error notReached
  match key with
  | some keyString =>
    if column.type.value.type = .void then
      .error ("cannot specify key to check for non-map column " ++ column.name)
    else do
      let wantKey ← L.atomFromString column.type.key keyString st
      let b ← L.datumFromString (keyConditionType column) value st
      pure ⟨column, some wantKey, op, b⟩
  | none => do
    let wantDatum ← L.datumFromString column.type value st
    pure ⟨column, none, op, wantDatum⟩

/-- Row `row` satisfies condition `arg`: the condition parses against `st` and its
relation holds of the row's datum. -/
def satisfiesCondition (L : Lib) (table : CtlTableClass) (idl : Idl) (st : SymbolTable) (row : Row)
    (arg : String) : Bool :=
  match parseCondition L table st arg with
  | .ok c => decide (ConditionHolds (idl.data row.uuid c.column) c.key c.literal c.type c.op)
  | .error _ => false

/-- When `is_condition_satisfied` completes, only symbols were added, and its result
is the comparison of the row's datum with the condition as parsed against any
later symbol table. -/
lemma isConditionSatisfied_run_ok {L : Lib} (hL : L.Local) {table : CtlTableClass} {row : Row}
    {arg : String} {s s' : Ctx} {b : Bool} (h : (isConditionSatisfied L table row arg).run s = .ok (b, s')) :
    SymbolsOnly s s' ∧ ∀ st, s'.symtab ≤ st → ∃ c, parseCondition L table st arg = .ok c ∧
      b = checkCondition (s.idl.data row.uuid c.column) c.key c.literal c.type c.op := by
  unfold isConditionSatisfied at h
  rcases haux : parseColumnKeyValueAux L arg table (some operators) true with e | ⟨column, key, v⟩
  · simp [haux] at h
  rcases v with _ | ⟨i, value⟩
  · simp [haux] at h
  rcases hop : relops[i]? with _ | op
  · simp [haux, hop] at h
  have hread : SymbolsOnly s { s with log := s.log ++ [.read row column] } := ⟨rfl, rfl, rfl, rfl, le_rfl⟩
  simp only [haux, hop, dieIfError_ok, StateT.run_bind, StateT.run_pure, except_pure_eq, except_ok_bind,
    idlRead_run] at h
  rcases key with _ | keyString
  · obtain ⟨r, s₁, h₁, h₂⟩ := bind_run_ok.1 h
    obtain ⟨hs₁, hr⟩ := ovsdbDatumFromString_run_ok hL h₁
    obtain ⟨d, rfl, h₃⟩ := dieIfError_bind_run_ok.1 h₂
    obtain ⟨rfl, rfl⟩ := Prod.mk.inj (Except.ok.inj h₃)
    refine ⟨trans_of SymbolsOnly hread hs₁, fun st hst => ⟨⟨column, none, op, d⟩, ?_, rfl⟩⟩
    simp [parseCondition, haux, hop, ← hr st hst]
  · by_cases hv : column.type.value.type = .void
    · simp [hv] at h
    simp only [hv, if_false] at h
    obtain ⟨r₁, s₁, h₁, h₂⟩ := bind_run_ok.1 h
    obtain ⟨hs₁, hr₁⟩ := ovsdbAtomFromString_run_ok hL h₁
    obtain ⟨k, rfl, h₃⟩ := dieIfError_bind_run_ok.1 h₂
    obtain ⟨r₂, s₂, h₄, h₅⟩ := bind_run_ok.1 h₃
    obtain ⟨hs₂, hr₂⟩ := ovsdbDatumFromString_run_ok hL h₄
    obtain ⟨d, rfl, h₆⟩ := dieIfError_bind_run_ok.1 h₅
    obtain ⟨rfl, rfl⟩ := Prod.mk.inj (Except.ok.inj h₆)
    refine ⟨trans_of SymbolsOnly hread (trans_of SymbolsOnly hs₁ hs₂), fun st hst =>
      ⟨⟨column, some k, op, d⟩, ?_, by simp [Condition.type]⟩⟩
    simp [parseCondition, haux, hop, hv, ← hr₁ st (hs₂.symtab.trans hst), ← hr₂ st hst]

/-- A condition that parses names a column, a key and a value around one of the
relational operators. -/
lemma parseCondition_ok_operator {L : Lib} {table : CtlTableClass} {st : SymbolTable} {arg : String}
    {c : Condition} (h : parseCondition L table st arg = .ok c) :
    ∃ column key i value op, parseColumnKeyValueAux L arg table (some operators) true =
      .ok (column, key, some (i, value)) ∧ relops[i]? = some op := by
  obtain ⟨⟨column, key, v⟩, haux, h⟩ := except_bind_eq_ok.1 h
  rcases v with _ | ⟨i, value⟩
  · cases h
  rcases hop : relops[i]? with _ | op
  · simp only [hop] at h; cases h
  exact ⟨column, key, i, value, op, haux, hop⟩

/-- What a parsed condition required of the parsers, once the column, key, operator and
value are read. -/
lemma parseCondition_ok_parses {L : Lib} {table : CtlTableClass} {st : SymbolTable} {arg : String}
    {column : Column} {key : Option String} {i : ℕ} {value : String} {op : Relop} {c : Condition}
    (haux : parseColumnKeyValueAux L arg table (some operators) true = .ok (column, key, some (i, value)))
    (hop : relops[i]? = some op) (h : parseCondition L table st arg = .ok c) :
    match key with
    | none => ∃ d, L.datumFromString column.type value st = .ok d
    | some keyString => column.type.value.type ≠ .void ∧
      (∃ K, L.atomFromString column.type.key keyString st = .ok K) ∧
      ∃ d, L.datumFromString (keyConditionType column) value st = .ok d := by
  simp only [parseCondition, haux, hop, except_ok_bind] at h
  rcases key with _ | keyString
  · obtain ⟨d, hd, -⟩ := except_bind_eq_ok.1 h
    exact ⟨d, hd⟩
  · split_ifs at h with hv
    obtain ⟨K, hK, h⟩ := except_bind_eq_ok.1 h
    obtain ⟨d, hd, -⟩ := except_bind_eq_ok.1 h
    exact ⟨hv, ⟨K, hK⟩, d, hd⟩

/-- A condition that parses against every symbol table the run may reach makes
`is_condition_satisfied` complete. -/
lemma isConditionSatisfied_run_exists {L : Lib} (hL : L.Local) {table : CtlTableClass} {row : Row}
    {arg : String} {s : Ctx} (hparse : ∀ st, s.symtab ≤ st → ∃ c, parseCondition L table st arg = .ok c) :
    ∃ b s', (isConditionSatisfied L table row arg).run s = .ok (b, s') := by
  obtain ⟨c, hc⟩ := hparse s.symtab le_rfl
  obtain ⟨column, key, i, value, op, haux, hop⟩ := parseCondition_ok_operator hc
  have hparts : ∀ st, s.symtab ≤ st → _ := fun st hst =>
    let ⟨_, h⟩ := hparse st hst; parseCondition_ok_parses haux hop h
  simp only [isConditionSatisfied, haux, hop, dieIfError_ok, StateT.run_bind, StateT.run_pure, except_pure_eq,
    except_ok_bind, idlRead_run]
  rcases key with _ | keyString
  · obtain ⟨s₁, h₁⟩ := ovsdbDatumFromString_run_exists L column.type value { s with log := s.log ++ [.read row column] }
    obtain ⟨d, hd⟩ := hparts s₁.symtab (ovsdbDatumFromString_run_ok hL h₁).1.symtab
    exact ⟨checkCondition (s.idl.data row.uuid column) none d (conditionType column) op, s₁,
      by simp [StateT.run_bind, h₁, hd]⟩
  · obtain ⟨hv, -, -⟩ := hparts s.symtab le_rfl
    simp only [hv, if_false]
    obtain ⟨s₁, h₁⟩ := ovsdbAtomFromString_run_exists L column.type.key keyString
      { s with log := s.log ++ [.read row column] }
    have hs₁ := (ovsdbAtomFromString_run_ok hL h₁).1.symtab
    obtain ⟨-, ⟨K, hK⟩, -⟩ := hparts s₁.symtab hs₁
    obtain ⟨s₂, h₂⟩ := ovsdbDatumFromString_run_exists L (keyConditionType column) value s₁
    obtain ⟨-, -, d, hd⟩ := hparts s₂.symtab (hs₁.trans (ovsdbDatumFromString_run_ok hL h₂).1.symtab)
    exact ⟨checkCondition (s.idl.data row.uuid column) (some K) d (keyConditionType column) op, s₂,
      by simp [StateT.run_bind, h₁, hK, h₂, hd]⟩

/-- What a parsed condition is made of: a literal well formed for the type it is
compared under, which is the column's unless a key on a map column is given. -/
lemma parseCondition_ok {L : Lib} (hwf : L.WellFormedDatums) {table : CtlTableClass}
    {st : SymbolTable} {arg : String} {c : Condition} (h : parseCondition L table st arg = .ok c) :
    Datum.WellFormed c.type c.literal ∧ (c.key.isSome → c.column.type.isMap ∧ c.type.isMap = false) ∧
      (c.key = none → c.type = conditionType c.column) := by
  unfold parseCondition at h
  rcases haux : parseColumnKeyValueAux L arg table (some operators) true with e | ⟨column, key, v⟩
  · simp [haux] at h
  rcases v with _ | ⟨i, value⟩
  · simp [haux] at h
  rcases hop : relops[i]? with _ | op
  · simp [haux, hop] at h
  rcases key with _ | keyString
  · obtain ⟨d, hd, hc⟩ := except_bind_eq_ok.1 (by simpa [haux, hop] using h)
    cases Except.ok.inj hc
    exact ⟨(hwf _ _ _ _ hd).of_isMap_eq rfl, by simp, fun _ => rfl⟩
  · by_cases hv : column.type.value.type = .void
    · simp [haux, hop, hv] at h
    obtain ⟨k, -, h'⟩ := except_bind_eq_ok.1 (by simpa [haux, hop, hv] using h)
    obtain ⟨d, hd, hc⟩ := except_bind_eq_ok.1 h'
    cases Except.ok.inj hc
    refine ⟨by simpa [Condition.type] using hwf _ _ _ _ hd, fun _ => ⟨?_, ?_⟩, by simp⟩
    · simpa [OvsdbType.isMap] using hv
    · simp [Condition.type, keyConditionType, OvsdbType.isMap]

/-- On well-formed datums, the comparison `is_condition_satisfied` makes is whether
the condition holds. -/
lemma checkCondition_eq_satisfiesCondition {L : Lib} (hwf : L.WellFormedDatums) {idl : Idl}
    (hidl : idl.WellFormed) {table : CtlTableClass} {st : SymbolTable} {row : Row} {arg : String}
    {c : Condition} (h : parseCondition L table st arg = .ok c) :
    checkCondition (idl.data row.uuid c.column) c.key c.literal c.type c.op =
      satisfiesCondition L table idl st row arg := by
  obtain ⟨hlit, hkey, hnone⟩ := parseCondition_ok hwf h
  rw [satisfiesCondition, h, Bool.eq_iff_iff, decide_eq_true_iff]
  exact checkCondition_iff c.key c.op (hidl row.uuid c.column) hlit hkey fun hk =>
    (hidl row.uuid c.column).of_isMap_eq (by rw [hnone hk]; rfl)


/-! ### `hostCtx` -/

/-- Each result of a completed `mapM` comes from an element of the list. -/
lemma exists_of_mapM_eq_ok {α β ε : Type} {f : α → Except ε β} :
    ∀ {xs : List α} {ys : List β}, xs.mapM f = .ok ys → ∀ y ∈ ys, ∃ x ∈ xs, f x = .ok y
  | [], ys, h => by
    obtain rfl : ys = [] := (Except.ok.inj h).symm
    simp
  | x :: xs, ys, h => by
    rw [List.mapM_cons] at h
    obtain ⟨b, hb, h⟩ := except_bind_eq_ok.1 h
    obtain ⟨bs, hbs, h⟩ := except_bind_eq_ok.1 h
    obtain rfl := (Except.ok.inj h).symm
    intro y hy
    rcases List.mem_cons.1 hy with rfl | hy
    · exact ⟨x, List.mem_cons_self _ _, hb⟩
    · obtain ⟨x', hx', h'⟩ := exists_of_mapM_eq_ok hbs y hy
      exact ⟨x', List.mem_cons_of_mem _ hx', h'⟩

/-- `hostLib` parses only well-formed datums. -/
lemma hostLib_wellFormedDatums : hostLib.WellFormedDatums := by
  intro t str st d h
  obtain ⟨entries, hentries, h⟩ := except_bind_eq_ok.1 h
  split_ifs at h with hc
  cases h
  refine ⟨Datum.keySorted_sortEntries hc.1, fun e he => ?_⟩
  obtain ⟨item, -, hitem⟩ := exists_of_mapM_eq_ok hentries e (Datum.mem_sortEntries.1 he)
  split_ifs at hitem with hmap
  · split at hitem
    · obtain ⟨k, -, hitem⟩ := except_bind_eq_ok.1 hitem
      obtain ⟨v, -, hitem⟩ := except_bind_eq_ok.1 hitem
      obtain rfl := (Except.ok.inj hitem).symm
      simp [hmap]
    · cases hitem
  · obtain ⟨k, -, hitem⟩ := except_bind_eq_ok.1 hitem
    obtain rfl := (Except.ok.inj hitem).symm
    simp [hmap]

/-- Every datum of `hostCtx` is well formed. -/
lemma hostCtx_wellFormed : hostCtx.idl.WellFormed := by
  intro u c
  dsimp only [hostCtx]
  split_ifs with h₁ h₂ h₃
  · rw [h₁.1]; exact ⟨List.sorted_singleton _, by simp [serialColumn, OvsdbType.isMap]⟩
  · rw [h₂.2]; exact ⟨List.sorted_singleton _, by simp [mapColumn, OvsdbType.isMap]⟩
  · rw [h₃.2]; exact ⟨List.sorted_singleton _, by simp [tagsColumn, OvsdbType.isMap]⟩
  · exact wellFormed_empty

end DbCtlBase
