import DbCtlBase.Row
import DbCtlBase.Condition

/-!
The commands that write the database: `set`, `add`, `remove`, `clear`, `create`
and `destroy`.

* `setColumn_keyForm_spec`: `COLUMN:KEY=VALUE` writes the row's map with the pair
  for `KEY` replaced by the new one, and fails only when the key or the value does
  not parse. The union it writes is not checked against `n_max`:
  `cmdSet_keyForm_exceeds_nMax` puts two pairs in a column that holds at most one.
* `cmdAdd_run_ok`, `cmdRemove_run_ok`: what a completed `add` or `remove` parsed,
  checked and wrote.
* `cmdAdd_cmdRemove_spec`: `add` writes the union of the row's datum and its
  arguments, in which an existing key keeps its value; `remove` writes the datum
  without the pairs its arguments name; and `remove` undoes an `add` of values the
  datum did not have.
* `cmdClear_spec`: `clear` fails with the first of its table, record and columns that
  does not resolve or whose column is read-only or not allowed to be empty, and
  otherwise writes the empty datum into each column it names.
-/

namespace DbCtlBase

/-- `check_mutable`. -/
def checkMutable (L : Lib) (row : Row) (column : Column) : CtlM Unit :=
  if L.isMutable row column then pure ()
  else ctlFatal ("cannot modify read-only column " ++ column.name ++ " in table " ++ row.table)

/-- `set_column`: `COLUMN=VALUE` writes the parsed datum; `COLUMN:KEY=VALUE` writes the
pair, united with the row's current map. -/
def setColumn (L : Lib) (table : CtlTableClass) (row : Row) (arg : String) : CtlM Unit := do
  let (column, key, v) ← dieIfError (parseColumnKeyValueAux L arg table none true)
  let some (_, valueString) := v | ctlFatal (arg ++ ": missing value")
  checkMutable L row column
  match key with
  | some keyString =>
    if column.type.value.type = .void then
      ctlFatal ("cannot specify key to set for non-map column " ++ column.name)
    else do
      let key ← dieIfError (← ovsdbAtomFromString L column.type.key keyString)
      let value ← dieIfError (← ovsdbAtomFromString L column.type.value valueString)
      let datum := Datum.union ⟨[(key, some value)]⟩ (← idlRead row column)
      txnVerify row column
      txnWrite row column datum
  | none => do
    let datum ← dieIfError (← ovsdbDatumFromString L column.type valueString)
    txnWrite row column datum

/-- `cmd_set`. -/
def cmdSet (L : Lib) (tables : List CtlTableClass) (args : CmdArgs) : CtlM Unit := do
  let mustExist := !args.hasOption "--if-exists"
  let table ← dieIfError (getTable tables (args.arg 1))
  match ← getRow L table (args.arg 2) mustExist with
  | none => pure ()
  | some row => (args.argv.drop 3).forM (setColumn L table row)

/-- `ctl_set_column`: `set_column` in the table `tableName` names, for the commands an
embedding adds. -/
def ctlSetColumn (L : Lib) (tables : List CtlTableClass) (tableName : String) (row : Row) (arg : String) :
    CtlM Unit := do
  setColumn L (← dieIfError (getTable tables tableName)) row arg

/-- The type `cmd_add` and `cmd_remove` parse their arguments with: the column's, with
at least one element and no upper bound. -/
def addType (type : OvsdbType) : OvsdbType := { type with nMin := 1, nMax := uintMax }

/-- `"values"` or `"pairs"`, as the messages of `cmd_add` and `cmd_remove` count. -/
def elementsName (type : OvsdbType) : String :=
  if type.value.type = .void then "values" else "pairs"

/-- The loop of `cmd_add`: each argument is parsed and united into `old`. -/
def addLoop (L : Lib) (type : OvsdbType) : Datum → List String → CtlM Datum
  | old, [] => pure old
  | old, arg :: args => do
    let add ← dieIfError (← ovsdbDatumFromString L (addType type) arg)
    addLoop L type (old.union add) args

/-- `cmd_add`. -/
def cmdAdd (L : Lib) (tables : List CtlTableClass) (args : CmdArgs) : CtlM Unit := do
  let mustExist := !args.hasOption "--if-exists"
  let table ← dieIfError (getTable tables (args.arg 1))
  let column ← dieIfError (getColumn table (args.arg 3))
  match ← getRow L table (args.arg 2) mustExist with
  | none => pure ()
  | some row => do
    checkMutable L row column
    let type := column.type
    let old ← addLoop L type (← idlRead row column) (args.argv.drop 4)
    if old.n > type.nMax then
      ctlFatal ("\"add\" operation would put " ++ toString old.n ++ " " ++ elementsName type ++
        " in column " ++ column.name ++ " of table " ++ table.cls.name ++
        " but the maximum number is " ++ toString type.nMax)
    else do
      txnVerify row column
      txnWrite row column old

/-- The type of the fallback parse of `cmd_remove` for a map: a set of keys. -/
def keysType (type : OvsdbType) : OvsdbType := { type with value := { type.value with type := .void } }

/-- One argument of `cmd_remove`: a datum of the column's type, or, for a map that does
not parse so, a set of keys; with the type it was parsed as. -/
def parseRemoveArg (L : Lib) (type : OvsdbType) (arg : String) : CtlM (Datum × OvsdbType) := do
  match ← ovsdbDatumFromString L (addType type) arg with
  | .ok rm => pure (rm, addType type)
  | .error e =>
    if (addType type).isMap then do
      let rm ← dieIfError (← ovsdbDatumFromString L (keysType (addType type)) arg)
      pure (rm, keysType (addType type))
    else ctlFatal e

/-- The loop of `cmd_remove`: each argument is parsed and subtracted from `old`. -/
def removeLoop (L : Lib) (type : OvsdbType) : Datum → List String → CtlM Datum
  | old, [] => pure old
  | old, arg :: args => do
    let (rm, rmType) ← parseRemoveArg L type arg
    removeLoop L type (old.subtract rm rmType) args

/-- `cmd_remove`. -/
def cmdRemove (L : Lib) (tables : List CtlTableClass) (args : CmdArgs) : CtlM Unit := do
  let mustExist := !args.hasOption "--if-exists"
  let table ← dieIfError (getTable tables (args.arg 1))
  let column ← dieIfError (getColumn table (args.arg 3))
  match ← getRow L table (args.arg 2) mustExist with
  | none => pure ()
  | some row => do
    checkMutable L row column
    let type := column.type
    let old ← removeLoop L type (← idlRead row column) (args.argv.drop 4)
    if old.n < type.nMin then
      ctlFatal ("\"remove\" operation would put " ++ toString old.n ++ " " ++ elementsName type ++
        " in column " ++ column.name ++ " of table " ++ table.cls.name ++
        " but the minimum number is " ++ toString type.nMin)
    else do
      txnVerify row column
      txnWrite row column old

/-- One `COLUMN` argument of `cmd_clear`. -/
def clearColumn (L : Lib) (table : CtlTableClass) (row : Row) (arg : String) : CtlM Unit := do
  let column ← dieIfError (getColumn table arg)
  checkMutable L row column
  if column.type.nMin > 0 then
    ctlFatal ("\"clear\" operation cannot be applied to column " ++ column.name ++ " of table " ++
      table.cls.name ++ ", which is not allowed to be empty")
  else txnWrite row column Datum.empty

/-- `cmd_clear`. -/
def cmdClear (L : Lib) (tables : List CtlTableClass) (args : CmdArgs) : CtlM Unit := do
  let mustExist := !args.hasOption "--if-exists"
  let table ← dieIfError (getTable tables (args.arg 1))
  match ← getRow L table (args.arg 2) mustExist with
  | none => pure ()
  | some row => (args.argv.drop 3).forM (clearColumn L table row)

/-- The `--id` part of `cmd_create`: the UUID `@name` gives the new row; a row of a root
table counts as referenced. -/
def createDefineId (table : CtlTableClass) (id : Option String) : CtlM (Option Uuid) :=
  match id with
  | none => pure none
  | some id => do
    let (symbol, _) ← createSymbol id
    (if table.cls.isRoot then putSymbol id { symbol with strongRef := true } else pure ())
    return some symbol.uuid

/-- `cmd_create`. -/
def cmdCreate (L : Lib) (tables : List CtlTableClass) (args : CmdArgs) : CtlM Unit := do
  let table ← dieIfError (getTable tables (args.arg 1))
  let uuid ← createDefineId table (args.optionValue "--id")
  let row ← txnInsert table.cls uuid
  (args.argv.drop 2).forM (setColumn L table row)
  putOutput (L.uuidToString row.uuid)

/-- One `RECORD` argument of `cmd_destroy`. -/
def destroyRecord (L : Lib) (table : CtlTableClass) (mustExist : Bool) (recordId : String) :
    CtlM Unit := do
  match ← getRow L table recordId mustExist with
  | some row => txnDelete row
  | none => pure ()

/-- `cmd_destroy`. -/
def cmdDestroy (L : Lib) (tables : List CtlTableClass) (args : CmdArgs) : CtlM Unit := do
  let mustExist := !args.hasOption "--if-exists"
  let deleteAll := args.hasOption "--all"
  let table ← dieIfError (getTable tables (args.arg 1))
  if deleteAll && args.argv.length > 2 then
    ctlFatal "--all and records argument should not be specified together"
  else if deleteAll && !mustExist then
    ctlFatal "--all and --if-exists should not be specified together"
  else if deleteAll then (← idlRows table.cls).forM txnDelete
  else (args.argv.drop 2).forM (destroyRecord L table mustExist)

/-! ### `set` -/

lemma checkMutable_run_ok {L : Lib} {row : Row} {column : Column} {s s' : Ctx} {u : Unit}
    (h : (checkMutable L row column).run s = .ok (u, s')) : L.isMutable row column = true ∧ s' = s := by
  unfold checkMutable at h
  split at h
  · exact ⟨‹_›, (Prod.mk.inj (Except.ok.inj h)).2.symm⟩
  · cases h

/-- `check_mutable` fails or changes nothing. -/
lemma moves_checkMutable {R : Ctx → Ctx → Prop} [IsRefl Ctx R] (L : Lib) (row : Row) (column : Column) :
    Moves R (checkMutable L row column) := by
  unfold checkMutable
  split
  · exact Moves.pure _
  · exact Moves.ctlFatal _

/-- `set_column` on `COLUMN:KEY=VALUE`: a completed run reads the row's map `m`,
verifies it and writes `m` with `(KEY, VALUE)` in place of any pair for `KEY`, a
well-formed map when `m` is one. On a mutable map column it fails only with the
error of the key's or the value's parse. -/
theorem setColumn_keyForm_spec (L : Lib) (hL : L.Local) (table : CtlTableClass) (row : Row)
    (arg : String) (column : Column) (keyString valueString : String) (op : ℕ)
    (hparse : parseColumnKeyValueAux L arg table none true =
      .ok (column, some keyString, some (op, valueString)))
    (s : Ctx) (hm : Datum.WellFormed column.type (s.idl.data row.uuid column)) :
    (∀ s', (setColumn L table row arg).run s = .ok ((), s') → ∃ K V d,
      (∀ st, s'.symtab ≤ st → L.atomFromString column.type.key keyString st = .ok K ∧
        L.atomFromString column.type.value valueString st = .ok V) ∧
      s'.log = s.log ++ [.read row column, .verify row column, .write row column d] ∧
      s'.idl = s.idl.write row column d ∧ Datum.WellFormed column.type d ∧
      ∀ e, e ∈ d.entries ↔ e = (K, some V) ∨ (e ∈ (s.idl.data row.uuid column).entries ∧ e.1 ≠ K)) ∧
    (∀ msg, (setColumn L table row arg).run s = .error msg → L.isMutable row column = true →
      column.type.isMap = true → ∃ st, L.atomFromString column.type.key keyString st = .error msg ∨
        L.atomFromString column.type.value valueString st = .error msg) := by
  refine ⟨fun s' h => ?_, fun msg h hmut hmap => ?_⟩
  · simp only [setColumn, hparse, dieIfError_ok, pure_bind] at h
    obtain ⟨_, s₁, hm₁, h₁⟩ := bind_run_ok.1 h
    obtain ⟨-, rfl⟩ := checkMutable_run_ok hm₁
    by_cases hv : column.type.value.type = .void
    · simp [hv] at h₁
    simp only [hv, if_false] at h₁
    obtain ⟨_, s₂, hk, h₂⟩ := bind_run_ok.1 h₁
    obtain ⟨K, rfl, h₃⟩ := dieIfError_bind_run_ok.1 h₂
    obtain ⟨_, s₃, hv', h₄⟩ := bind_run_ok.1 h₃
    obtain ⟨V, rfl, h₅⟩ := dieIfError_bind_run_ok.1 h₄
    obtain ⟨hs₂, hK⟩ := ovsdbAtomFromString_run_ok hL hk
    obtain ⟨hs₃, hV⟩ := ovsdbAtomFromString_run_ok hL hv'
    simp only [StateT.run_bind, idlRead_run, txnVerify_run, txnWrite_run, except_ok_bind,
      Except.ok.injEq, Prod.mk.injEq, true_and] at h₅
    subst h₅
    have hsingle : Datum.WellFormed column.type ⟨[(K, some V)]⟩ :=
      ⟨List.sorted_singleton _, by simpa [OvsdbType.isMap] using hv⟩
    rw [hs₃.idl, hs₂.idl] at *
    refine ⟨K, V, _, fun st hst => ⟨(hK st (hs₃.symtab.trans hst)).symm, (hV st hst).symm⟩,
      by simp [ovsdbAtomFromString_log hk, ovsdbAtomFromString_log hv'], rfl,
      Datum.wellFormed_union hsingle hm, fun e => ?_⟩
    simp [Datum.mem_union, eq_comm, and_comm]
  · obtain ⟨s₂, hk⟩ := ovsdbAtomFromString_run_exists L column.type.key keyString s
    obtain ⟨s₃, hv'⟩ := ovsdbAtomFromString_run_exists L column.type.value valueString s₂
    have hv : ¬column.type.value.type = .void := by simpa [OvsdbType.isMap] using hmap
    simp only [setColumn, hparse, dieIfError_ok, pure_bind, checkMutable, hmut, if_true, hv,
      if_false, StateT.run_bind, StateT.run_pure, except_ok_bind, hk] at h
    rcases hK : L.atomFromString column.type.key keyString s₂.symtab with e | K
    · simp [hK] at h
      exact ⟨s₂.symtab, .inl (h ▸ hK)⟩
    rcases hV : L.atomFromString column.type.value valueString s₃.symtab with e | V
    · simp [hK, hV, hv'] at h
      exact ⟨s₃.symtab, .inr (h ▸ hV)⟩
    · simp [hK, hV, hv'] at h

theorem setColumn_keyForm_spec_mapCtx :
    (∃ s', (setColumn simpleLib mapCtlTable mapRow "C:b=2").run mapCtx = .ok ((), s') ∧ ∃ K V d,
      (∀ st, s'.symtab ≤ st → simpleLib.atomFromString mapColumn.type.key "b" st = .ok K ∧
        simpleLib.atomFromString mapColumn.type.value "2" st = .ok V) ∧
      s'.log = mapCtx.log ++ [.read mapRow mapColumn, .verify mapRow mapColumn, .write mapRow mapColumn d] ∧
      s'.idl = mapCtx.idl.write mapRow mapColumn d ∧ Datum.WellFormed mapColumn.type d ∧
      ∀ e, e ∈ d.entries ↔ e = (K, some V) ∨ (e ∈ (mapCtx.idl.data mapRow.uuid mapColumn).entries ∧ e.1 ≠ K)) ∧
    (∃ s', (setColumn simpleLib mapCtlTable mapRow "C:a=5").run mapCtx = .ok ((), s') ∧ ∃ K V d,
      (∀ st, s'.symtab ≤ st → simpleLib.atomFromString mapColumn.type.key "a" st = .ok K ∧
        simpleLib.atomFromString mapColumn.type.value "5" st = .ok V) ∧
      s'.log = mapCtx.log ++ [.read mapRow mapColumn, .verify mapRow mapColumn, .write mapRow mapColumn d] ∧
      s'.idl = mapCtx.idl.write mapRow mapColumn d ∧ Datum.WellFormed mapColumn.type d ∧
      ∀ e, e ∈ d.entries ↔ e = (K, some V) ∨ (e ∈ (mapCtx.idl.data mapRow.uuid mapColumn).entries ∧ e.1 ≠ K)) ∧
    ∀ msg, (setColumn simpleLib mapCtlTable mapRow "C:b=2").run mapCtx = .error msg →
      simpleLib.isMutable mapRow mapColumn = true → mapColumn.type.isMap = true →
      ∃ st, simpleLib.atomFromString mapColumn.type.key "b" st = .error msg ∨
        simpleLib.atomFromString mapColumn.type.value "2" st = .error msg :=
  have hL : simpleLib.Local := ⟨fun _ _ _ _ _ => rfl, fun _ _ _ _ _ => rfl⟩
  ⟨⟨_, rfl, (setColumn_keyForm_spec simpleLib hL mapCtlTable mapRow "C:b=2" mapColumn "b" "2" 0 rfl mapCtx
      ⟨by decide, by decide⟩).1 _ rfl⟩,
    ⟨_, rfl, (setColumn_keyForm_spec simpleLib hL mapCtlTable mapRow "C:a=5" mapColumn "a" "5" 0 rfl mapCtx
      ⟨by decide, by decide⟩).1 _ rfl⟩,
    (setColumn_keyForm_spec simpleLib hL mapCtlTable mapRow "C:b=2" mapColumn "b" "2" 0 rfl mapCtx
      ⟨by decide, by decide⟩).2⟩

/-- `set T . C:b=2` on a row whose map `C`, of at most one pair, holds `a=1`: the
command completes and writes the two pairs `a=1` and `b=2`. -/
theorem cmdSet_keyForm_exceeds_nMax :
    ((cmdSet simpleLib [mapCtlTable] ⟨[], ["set", "T", ".", "C:b=2"]⟩).run mapCtx).toOption.map
        (·.2.log) =
      some [.iterate mapTable, .read mapRow mapColumn, .verify mapRow mapColumn,
        .write mapRow mapColumn ⟨[(.string "a", some (.integer 1)), (.string "b", some (.integer 2))]⟩] ∧
    (mapCtx.idl.data mapRow.uuid mapColumn).n ≤ mapColumn.type.nMax ∧
    mapColumn.type.nMax < (⟨[(.string "a", some (.integer 1)), (.string "b", some (.integer 2))]⟩ : Datum).n := by
  decide

/-! ### `add` and `remove` -/

/-- The loop of `cmd_add` unites into `D` the datums its arguments parse as, in order,
and changes nothing but the symbol table. -/
lemma addLoop_run_ok {L : Lib} (hL : L.Local) {type : OvsdbType} : ∀ {D : Datum} {args : List String}
    {s s' : Ctx} {D' : Datum}, (addLoop L type D args).run s = .ok (D', s') →
      SymbolsOnly s s' ∧ s'.log = s.log ∧ ∃ Vs, List.Forall₂ (fun arg V => ∀ st, s'.symtab ≤ st →
        L.datumFromString (addType type) arg st = .ok V) args Vs ∧ D' = Vs.foldl Datum.union D
  | D, [], s, s', D', h => by
    cases h
    exact ⟨refl_of SymbolsOnly s, rfl, [], .nil, rfl⟩
  | D, arg :: args, s, s', D', h => by
    obtain ⟨r, s₁, h₁, h₂⟩ := bind_run_ok.1 h
    obtain ⟨V, rfl, h₃⟩ := dieIfError_bind_run_ok.1 h₂
    obtain ⟨hs₁, hV⟩ := ovsdbDatumFromString_run_ok hL h₁
    obtain ⟨hs', hlog, Vs, hVs, rfl⟩ := addLoop_run_ok hL h₃
    refine ⟨trans_of SymbolsOnly hs₁ hs', hlog.trans (ovsdbDatumFromString_log h₁), V :: Vs,
      .cons (fun st hst => (hV st (hs'.symtab.trans hst)).symm) hVs, rfl⟩

/-- What `cmd_remove` parses an argument as against the symbol table `st`: a datum of
the column's type, or for a map that does not parse so a set of keys, with the type
it was parsed as. -/
def parseRemoveArgSpec (L : Lib) (type : OvsdbType) (arg : String) (st : SymbolTable) :
    Except String (Datum × OvsdbType) :=
  match L.datumFromString (addType type) arg st with
  | .ok rm => .ok (rm, addType type)
  | .error e =>
    if (addType type).isMap then
      (L.datumFromString (keysType (addType type)) arg st).map (·, keysType (addType type))
    else .error e

lemma parseRemoveArgSpec_ok {L : Lib} {type : OvsdbType} {arg : String} {st : SymbolTable}
    {r : Datum × OvsdbType} (h : parseRemoveArgSpec L type arg st = .ok r) :
    L.datumFromString r.2 arg st = .ok r.1 ∧ (r.2.isMap = true → r.2 = addType type) := by
  unfold parseRemoveArgSpec at h
  split at h
  · cases h
    exact ⟨‹_›, fun _ => rfl⟩
  · split_ifs at h
    rcases hk : L.datumFromString (keysType (addType type)) arg st with e | rm <;>
      simp only [hk, Except.map, reduceCtorEq, Except.ok.injEq] at h
    subst h
    exact ⟨hk, fun h => by simp [keysType, OvsdbType.isMap] at h⟩

lemma parseRemoveArg_run_ok {L : Lib} (hL : L.Local) {type : OvsdbType} {arg : String} {s s' : Ctx}
    {r : Datum × OvsdbType} (h : (parseRemoveArg L type arg).run s = .ok (r, s')) :
    SymbolsOnly s s' ∧ s'.log = s.log ∧ ∀ st, s'.symtab ≤ st → parseRemoveArgSpec L type arg st = .ok r := by
  obtain ⟨r₁, s₁, h₁, h₂⟩ := bind_run_ok.1 h
  obtain ⟨hs₁, hr₁⟩ := ovsdbDatumFromString_run_ok hL h₁
  have hlog₁ := ovsdbDatumFromString_log h₁
  rcases r₁ with e | rm
  · by_cases hmap : (addType type).isMap = true
    · simp only [hmap, if_true] at h₂
      obtain ⟨r₂, s₂, h₃, h₄⟩ := bind_run_ok.1 h₂
      obtain ⟨rm, rfl, h₅⟩ := dieIfError_bind_run_ok.1 h₄
      cases h₅
      obtain ⟨hs₂, hr₂⟩ := ovsdbDatumFromString_run_ok hL h₃
      refine ⟨trans_of SymbolsOnly hs₁ hs₂, (ovsdbDatumFromString_log h₃).trans hlog₁, fun st hst => ?_⟩
      simp [parseRemoveArgSpec, ← hr₁ st (hs₂.symtab.trans hst), hmap, ← hr₂ st hst, Except.map]
    · simp [hmap] at h₂
  · cases h₂
    exact ⟨hs₁, hlog₁, fun st hst => by simp [parseRemoveArgSpec, ← hr₁ st hst]⟩

/-- The loop of `cmd_remove` subtracts from `D` the datums its arguments parse as, in
order, and changes nothing but the symbol table. -/
lemma removeLoop_run_ok {L : Lib} (hL : L.Local) {type : OvsdbType} : ∀ {D : Datum} {args : List String}
    {s s' : Ctx} {D' : Datum}, (removeLoop L type D args).run s = .ok (D', s') →
      SymbolsOnly s s' ∧ s'.log = s.log ∧ ∃ Rs, List.Forall₂ (fun arg r => ∀ st, s'.symtab ≤ st →
        parseRemoveArgSpec L type arg st = .ok r) args Rs ∧
        D' = Rs.foldl (fun d r => d.subtract r.1 r.2) D
  | D, [], s, s', D', h => by
    cases h
    exact ⟨refl_of SymbolsOnly s, rfl, [], .nil, rfl⟩
  | D, arg :: args, s, s', D', h => by
    obtain ⟨r, s₁, h₁, h₂⟩ := bind_run_ok.1 h
    obtain ⟨hs₁, hlog₁, hr⟩ := parseRemoveArg_run_ok hL h₁
    obtain ⟨hs', hlog, Rs, hRs, rfl⟩ := removeLoop_run_ok hL h₂
    exact ⟨trans_of SymbolsOnly hs₁ hs', hlog.trans hlog₁, r :: Rs,
      .cons (fun st hst => hr st (hs'.symtab.trans hst)) hRs, rfl⟩

lemma cmdAdd_run_ok {L : Lib} (hL : L.Local) {tables : List CtlTableClass} {args : CmdArgs} {s s' : Ctx}
    (h : (cmdAdd L tables args).run s = .ok ((), s')) :
    ∃ table column l, getTable tables (args.arg 1) = .ok table ∧
      getColumn table (args.arg 3) = .ok column ∧ (∀ op ∈ l, op.isWrite = false) ∧
      ((getRowSpec L s.idl table (args.arg 2) (!args.hasOption "--if-exists") = .ok none ∧
          s' = { s with log := s.log ++ l }) ∨
        ∃ row Vs, getRowSpec L s.idl table (args.arg 2) (!args.hasOption "--if-exists") = .ok (some row) ∧
          L.isMutable row column = true ∧
          List.Forall₂ (fun arg V => ∀ st, s'.symtab ≤ st →
            L.datumFromString (addType column.type) arg st = .ok V) (args.argv.drop 4) Vs ∧
          (Vs.foldl Datum.union (s.idl.data row.uuid column)).n ≤ column.type.nMax ∧
          s.symtab ≤ s'.symtab ∧
          s'.log = s.log ++ l ++ [.read row column, .verify row column,
            .write row column (Vs.foldl Datum.union (s.idl.data row.uuid column))] ∧
          s'.idl = s.idl.write row column (Vs.foldl Datum.union (s.idl.data row.uuid column))) := by
  obtain ⟨table, ht, h₁⟩ := dieIfError_bind_run_ok.1 h
  obtain ⟨column, hc, h₂⟩ := dieIfError_bind_run_ok.1 h₁
  obtain ⟨row, s₁, hrow, h₃⟩ := bind_run_ok.1 h₂
  obtain ⟨hspec, l, hl, rfl⟩ := getRow_run_ok hrow
  refine ⟨table, column, l, ht, hc, hl, ?_⟩
  rcases row with _ | row
  · cases h₃
    exact .inl ⟨hspec, rfl⟩
  obtain ⟨_, s₂, hm, h₄⟩ := bind_run_ok.1 h₃
  obtain ⟨hmut, rfl⟩ := checkMutable_run_ok hm
  obtain ⟨D, s₃, hr, h₅⟩ := bind_run_ok.1 h₄
  simp only [idlRead_run, Except.ok.injEq, Prod.mk.injEq] at hr
  obtain ⟨rfl, rfl⟩ := hr
  obtain ⟨old, s₄, ha, h₆⟩ := bind_run_ok.1 h₅
  obtain ⟨hs₄, hlog₄, Vs, hVs, rfl⟩ := addLoop_run_ok hL ha
  by_cases hn : (Vs.foldl Datum.union (s.idl.data row.uuid column)).n > column.type.nMax
  · simp [hn] at h₆
  simp only [hn, if_false, StateT.run_bind, txnVerify_run, txnWrite_run, except_ok_bind,
    Except.ok.injEq, Prod.mk.injEq, true_and] at h₆
  subst h₆
  refine .inr ⟨row, Vs, hspec, hmut, hVs, not_lt.1 hn, hs₄.symtab, ?_, ?_⟩
  · simp [hlog₄]
  · simp [hs₄.idl]

lemma cmdRemove_run_ok {L : Lib} (hL : L.Local) {tables : List CtlTableClass} {args : CmdArgs}
    {s s' : Ctx} (h : (cmdRemove L tables args).run s = .ok ((), s')) :
    ∃ table column l, getTable tables (args.arg 1) = .ok table ∧
      getColumn table (args.arg 3) = .ok column ∧ (∀ op ∈ l, op.isWrite = false) ∧
      ((getRowSpec L s.idl table (args.arg 2) (!args.hasOption "--if-exists") = .ok none ∧
          s' = { s with log := s.log ++ l }) ∨
        ∃ row Rs, getRowSpec L s.idl table (args.arg 2) (!args.hasOption "--if-exists") = .ok (some row) ∧
          L.isMutable row column = true ∧
          List.Forall₂ (fun arg r => ∀ st, s'.symtab ≤ st →
            parseRemoveArgSpec L column.type arg st = .ok r) (args.argv.drop 4) Rs ∧
          column.type.nMin ≤ (Rs.foldl (fun d r => d.subtract r.1 r.2) (s.idl.data row.uuid column)).n ∧
          s.symtab ≤ s'.symtab ∧
          s'.log = s.log ++ l ++ [.read row column, .verify row column,
            .write row column (Rs.foldl (fun d r => d.subtract r.1 r.2) (s.idl.data row.uuid column))] ∧
          s'.idl = s.idl.write row column
            (Rs.foldl (fun d r => d.subtract r.1 r.2) (s.idl.data row.uuid column))) := by
  obtain ⟨table, ht, h₁⟩ := dieIfError_bind_run_ok.1 h
  obtain ⟨column, hc, h₂⟩ := dieIfError_bind_run_ok.1 h₁
  obtain ⟨row, s₁, hrow, h₃⟩ := bind_run_ok.1 h₂
  obtain ⟨hspec, l, hl, rfl⟩ := getRow_run_ok hrow
  refine ⟨table, column, l, ht, hc, hl, ?_⟩
  rcases row with _ | row
  · cases h₃
    exact .inl ⟨hspec, rfl⟩
  obtain ⟨_, s₂, hm, h₄⟩ := bind_run_ok.1 h₃
  obtain ⟨hmut, rfl⟩ := checkMutable_run_ok hm
  obtain ⟨D, s₃, hr, h₅⟩ := bind_run_ok.1 h₄
  simp only [idlRead_run, Except.ok.injEq, Prod.mk.injEq] at hr
  obtain ⟨rfl, rfl⟩ := hr
  obtain ⟨old, s₄, ha, h₆⟩ := bind_run_ok.1 h₅
  obtain ⟨hs₄, hlog₄, Rs, hRs, rfl⟩ := removeLoop_run_ok hL ha
  by_cases hn : (Rs.foldl (fun d r => d.subtract r.1 r.2) (s.idl.data row.uuid column)).n < column.type.nMin
  · simp [hn] at h₆
  simp only [hn, if_false, StateT.run_bind, txnVerify_run, txnWrite_run, except_ok_bind,
    Except.ok.injEq, Prod.mk.injEq, true_and] at h₆
  subst h₆
  refine .inr ⟨row, Rs, hspec, hmut, hRs, not_lt.1 hn, hs₄.symtab, ?_, ?_⟩
  · simp [hlog₄]
  · simp [hs₄.idl]

/-- Argument `r` of `cmd_remove` removes the pair `e`: for a datum parsed as a map, the
pair itself; for a set, or keys parsed in place of a map, any pair with its key. -/
def RemovedBy (e : Atom × Option Atom) (r : Datum × OvsdbType) : Prop :=
  if r.2.isMap then e ∈ r.1.entries else ∃ f ∈ r.1.entries, f.1 = e.1

/-- `ovsdb_datum_find` of a pair of the row's datum in a parsed argument is
`RemovedBy`. -/
lemma find_eq_true_iff_removedBy {e : Atom × Option Atom} {r : Datum × OvsdbType}
    (hr : Datum.WellFormed r.2 r.1) (he : r.2.isMap = true → e.2.isSome = true) :
    Datum.find e r.1 r.2 = true ↔ RemovedBy e r := by
  unfold RemovedBy
  split_ifs with hm
  · exact Datum.find_iff_mem hr ((he hm).trans hm.symm)
  · exact Datum.find_of_not_isMap (by simpa using hm)

private lemma exists_of_forall₂_of_mem {α β : Type} {R : α → β → Prop} :
    ∀ {as : List α} {bs : List β}, List.Forall₂ R as bs → ∀ b ∈ bs, ∃ a ∈ as, R a b
  | _, _, .nil, _, hb => absurd hb (List.not_mem_nil _)
  | _, _, .cons h hs, b, hb => by
    rcases List.mem_cons.1 hb with rfl | hb
    · exact ⟨_, List.mem_cons_self _ _, h⟩
    · obtain ⟨a, ha, hr⟩ := exists_of_forall₂_of_mem hs b hb
      exact ⟨a, List.mem_cons_of_mem _ ha, hr⟩

private lemma forall₂_eq_map {α β γ : Type} {R : α → β → Prop} {S : α → γ → Prop} {f : β → γ}
    (hRS : ∀ a b c, R a b → S a c → c = f b) :
    ∀ {as : List α} {bs : List β} {cs : List γ}, List.Forall₂ R as bs → List.Forall₂ S as cs → cs = bs.map f
  | _, _, _, .nil, .nil => rfl
  | _, _, _, .cons h hs, .cons h' hs' => by rw [List.map_cons, hRS _ _ _ h h', forall₂_eq_map hRS hs hs']

/-- The pairs a run of `cmd_remove`'s subtractions keeps of a well-formed datum `D`: those
that no argument removes. -/
lemma mem_foldl_subtract_iff {L : Lib} (hwf : L.WellFormedDatums) {type : OvsdbType} {D : Datum}
    (hD : Datum.WellFormed type D) {args : List String} {Rs : List (Datum × OvsdbType)} {st : SymbolTable}
    (hRs : List.Forall₂ (fun arg r => ∀ st', st ≤ st' → parseRemoveArgSpec L type arg st' = .ok r) args Rs)
    (e : Atom × Option Atom) :
    e ∈ (Rs.foldl (fun d r => d.subtract r.1 r.2) D).entries ↔ e ∈ D.entries ∧ ∀ r ∈ Rs, ¬RemovedBy e r := by
  rw [Datum.mem_foldl_subtract]
  refine and_congr_right fun heD => forall₂_congr fun r hr => ?_
  obtain ⟨arg, -, hparse⟩ := exists_of_forall₂_of_mem hRs r hr
  obtain ⟨hd, hmap⟩ := parseRemoveArgSpec_ok (hparse _ le_rfl)
  rw [← Bool.not_eq_true, find_eq_true_iff_removedBy (hwf _ _ _ _ hd) fun hm => ?_]
  rw [hD.value_isSome e heD, ← hm, hmap hm]
  rfl

/-- **`add` writes the union, `remove` the difference, and `remove` undoes `add`**: a
completed `cmd_add` whose record resolves to a row reads, verifies and writes, once, the
row's datum `D` united with the datums `V₁ … Vₙ` its arguments parse as, in which a pair
is kept when its key is in neither `D` nor an earlier `Vᵢ`; a completed `cmd_remove` writes
`D` without the pairs its arguments remove, a map argument that parses only as keys
removing every pair with those keys; either writes nothing when `--if-exists` lets its
record name no row. A `remove` of the values an `add` put into a row that lacked them, on
the same row, writes the row's datum back. -/
theorem cmdAdd_cmdRemove_spec (L : Lib) (hL : L.Local) (hwf : L.WellFormedDatums)
    (tables : List CtlTableClass) (s : Ctx) (hidl : s.idl.WellFormed) :
    (∀ args s', (cmdAdd L tables args).run s = .ok ((), s') → ∃ table column l,
      getTable tables (args.arg 1) = .ok table ∧ getColumn table (args.arg 3) = .ok column ∧
      (∀ op ∈ l, op.isWrite = false) ∧
      ((getRowSpec L s.idl table (args.arg 2) (!args.hasOption "--if-exists") = .ok none ∧
          s' = { s with log := s.log ++ l }) ∨
        ∃ row Vs, getRowSpec L s.idl table (args.arg 2) (!args.hasOption "--if-exists") = .ok (some row) ∧
          List.Forall₂ (fun arg V => ∀ st, s'.symtab ≤ st →
            L.datumFromString (addType column.type) arg st = .ok V) (args.argv.drop 4) Vs ∧
          s'.log = s.log ++ l ++ [.read row column, .verify row column,
            .write row column (Vs.foldl Datum.union (s.idl.data row.uuid column))] ∧
          s'.idl = s.idl.write row column (Vs.foldl Datum.union (s.idl.data row.uuid column)) ∧
          ∀ e, e ∈ (Vs.foldl Datum.union (s.idl.data row.uuid column)).entries ↔
            e ∈ (s.idl.data row.uuid column).entries ∨ ∃ pre V post, Vs = pre ++ V :: post ∧ e ∈ V.entries ∧
              ∀ f ∈ (s.idl.data row.uuid column).entries ++ pre.flatMap Datum.entries, f.1 ≠ e.1)) ∧
    (∀ args s', (cmdRemove L tables args).run s = .ok ((), s') → ∃ table column l,
      getTable tables (args.arg 1) = .ok table ∧ getColumn table (args.arg 3) = .ok column ∧
      (∀ op ∈ l, op.isWrite = false) ∧
      ((getRowSpec L s.idl table (args.arg 2) (!args.hasOption "--if-exists") = .ok none ∧
          s' = { s with log := s.log ++ l }) ∨
        ∃ row Rs, getRowSpec L s.idl table (args.arg 2) (!args.hasOption "--if-exists") = .ok (some row) ∧
          List.Forall₂ (fun arg r => ∀ st, s'.symtab ≤ st →
            parseRemoveArgSpec L column.type arg st = .ok r) (args.argv.drop 4) Rs ∧
          s'.log = s.log ++ l ++ [.read row column, .verify row column,
            .write row column (Rs.foldl (fun d r => d.subtract r.1 r.2) (s.idl.data row.uuid column))] ∧
          s'.idl = s.idl.write row column (Rs.foldl (fun d r => d.subtract r.1 r.2) (s.idl.data row.uuid column)) ∧
          ∀ e, e ∈ (Rs.foldl (fun d r => d.subtract r.1 r.2) (s.idl.data row.uuid column)).entries ↔
            e ∈ (s.idl.data row.uuid column).entries ∧ ∀ r ∈ Rs, ¬RemovedBy e r)) ∧
    (∀ options T R C vals s₁ s₂ table column row,
      (cmdAdd L tables ⟨options, "add" :: T :: R :: C :: vals⟩).run s = .ok ((), s₁) →
      (cmdRemove L tables ⟨options, "remove" :: T :: R :: C :: vals⟩).run s₁ = .ok ((), s₂) →
      getTable tables T = .ok table → getColumn table C = .ok column →
      getRowSpec L s.idl table R (!(options.lookup "--if-exists").isSome) = .ok (some row) →
      getRowSpec L s₁.idl table R (!(options.lookup "--if-exists").isSome) = .ok (some row) →
      (∀ arg ∈ vals, ∀ V, L.datumFromString (addType column.type) arg s₁.symtab = .ok V →
        ∀ e ∈ V.entries, e ∉ (s.idl.data row.uuid column).entries) →
      s₂.idl.data row.uuid column = s.idl.data row.uuid column) := by
  refine ⟨fun args s' h => ?_, fun args s' h => ?_, ?_⟩
  · obtain ⟨table, column, l, ht, hc, hl, hnone | ⟨row, Vs, hrow, -, hVs, -, -, hlog, hidl'⟩⟩ := cmdAdd_run_ok hL h
    · exact ⟨table, column, l, ht, hc, hl, .inl hnone⟩
    exact ⟨table, column, l, ht, hc, hl, .inr ⟨row, Vs, hrow, hVs, hlog, hidl', fun e => Datum.mem_foldl_union⟩⟩
  · obtain ⟨table, column, l, ht, hc, hl, hnone | ⟨row, Rs, hrow, -, hRs, -, -, hlog, hidl'⟩⟩ :=
      cmdRemove_run_ok hL h
    · exact ⟨table, column, l, ht, hc, hl, .inl hnone⟩
    exact ⟨table, column, l, ht, hc, hl, .inr ⟨row, Rs, hrow, hRs, hlog, hidl',
      mem_foldl_subtract_iff hwf (hidl _ _) hRs⟩⟩
  · intro options T R C vals s₁ s₂ table column row h₁ h₂ hT hC hrow₁ hrow₂ hdisj
    obtain ⟨table₁, column₁, -, ht₁, hc₁, -, ⟨hnone, -⟩ | ⟨row₁, Vs, hr₁, -, hVs, -, -, -, hidl₁⟩⟩ :=
      cmdAdd_run_ok hL h₁
    all_goals obtain rfl := Except.ok.inj (hT.symm.trans ht₁)
    all_goals obtain rfl := Except.ok.inj (hC.symm.trans hc₁)
    · cases hnone.symm.trans hrow₁
    obtain rfl := Option.some.inj (Except.ok.inj (hrow₁.symm.trans hr₁))
    obtain ⟨table₂, column₂, -, ht₂, hc₂, -, ⟨hnone, -⟩ | ⟨row₂, Rs, hr₂, -, hRs, -, hst, -, hidl₂⟩⟩ :=
      cmdRemove_run_ok hL h₂
    all_goals obtain rfl := Except.ok.inj (hT.symm.trans ht₂)
    all_goals obtain rfl := Except.ok.inj (hC.symm.trans hc₂)
    · cases hnone.symm.trans hrow₂
    obtain rfl := Option.some.inj (Except.ok.inj (hrow₂.symm.trans hr₂))
    have hRs' : Rs = Vs.map (·, addType column.type) := forall₂_eq_map (fun arg V r hV hr => by
      have := hr _ le_rfl
      rwa [parseRemoveArgSpec, hV _ hst, Except.ok.injEq, eq_comm] at this) hVs hRs
    have hV : ∀ V ∈ Vs, ∃ arg ∈ vals, L.datumFromString (addType column.type) arg s₁.symtab = .ok V :=
      fun V hV => let ⟨arg, harg, h⟩ := exists_of_forall₂_of_mem hVs V hV; ⟨arg, harg, h _ le_rfl⟩
    rw [hidl₂, hidl₁, hRs']
    simp only [Idl.write, and_self, if_true]
    exact Datum.foldl_subtract_foldl_union (t := column.type) rfl (hidl _ _)
      (fun V hV' => let ⟨_, _, h⟩ := hV V hV'; (hwf _ _ _ _ h).of_isMap_eq rfl)
      (fun V hV' => let ⟨arg, harg, h⟩ := hV V hV'; hdisj arg harg V h)

theorem cmdAdd_cmdRemove_spec_hostCtx :
    ∃ s₁ s₂, (cmdAdd hostLib hostTables ⟨[], ["add", "Host", ".", "tags", "y"]⟩).run hostCtx = .ok ((), s₁) ∧
      (cmdRemove hostLib hostTables ⟨[], ["remove", "Host", ".", "tags", "y"]⟩).run s₁ = .ok ((), s₂) ∧
      s₁.idl.data hostRow.uuid tagsColumn ≠ hostCtx.idl.data hostRow.uuid tagsColumn ∧
      s₂.idl.data hostRow.uuid tagsColumn = hostCtx.idl.data hostRow.uuid tagsColumn := by
  have hdisj : ∀ arg ∈ ["y"], ∀ st V, hostLib.datumFromString (addType tagsColumn.type) arg st = .ok V →
      ∀ e ∈ V.entries, e ∉ (hostCtx.idl.data hostRow.uuid tagsColumn).entries := by
    intro arg harg st V hV
    obtain rfl := List.mem_singleton.1 harg
    obtain rfl : V = ⟨[(.string "y", none)]⟩ := (Except.ok.inj hV).symm
    decide
  exact ⟨_, _, rfl, rfl, by decide, (cmdAdd_cmdRemove_spec hostLib hostLib_local hostLib_wellFormedDatums
    hostTables hostCtx hostCtx_wellFormed).2.2 [] "Host" "." "tags" ["y"] _ _ hostCtlTable tagsColumn hostRow
    rfl rfl rfl rfl rfl rfl fun arg harg => hdisj arg harg _⟩

/-! ### `clear` -/

/-- The column one `COLUMN` argument of `cmd_clear` empties in `row`, or the error that
stops `cmd_clear` there: the column must resolve, be mutable in `row` and be allowed to be
empty. -/
def clearedColumn (L : Lib) (table : CtlTableClass) (row : Row) (arg : String) : Except String Column := do
  let column ← getColumn table arg
  if !L.isMutable row column then
    .error ("cannot modify read-only column " ++ column.name ++ " in table " ++ row.table)
  else if column.type.nMin > 0 then
    .error ("\"clear\" operation cannot be applied to column " ++ column.name ++ " of table " ++
      table.cls.name ++ ", which is not allowed to be empty")
  else .ok column

lemma clearColumn_run (L : Lib) (table : CtlTableClass) (row : Row) (arg : String) (s : Ctx) :
    (clearColumn L table row arg).run s = (clearedColumn L table row arg).map fun column =>
      ((), { s with idl := s.idl.write row column Datum.empty, log := s.log ++ [.write row column Datum.empty] }) := by
  unfold clearColumn clearedColumn checkMutable
  rcases getColumn table arg with e | column
  · rfl
  · by_cases hm : L.isMutable row column <;> by_cases hn : column.type.nMin > 0 <;>
      simp [hm, hn, StateT.run_bind, Except.map]

/-- The column loop of `cmd_clear` stops at the first argument `clearedColumn` refuses,
and otherwise writes the empty datum into each column named, in order. -/
lemma clearColumns_run (L : Lib) (table : CtlTableClass) (row : Row) :
    ∀ (args : List String) (s : Ctx), ∃ l, (args.forM (clearColumn L table row)).run s =
      (args.mapM (clearedColumn L table row)).map fun columns =>
        ((), { s with idl := columns.foldl (·.write row · Datum.empty) s.idl, log := s.log ++ l })
  | [], s => ⟨[], by rw [List.mapM_nil, List.append_nil]; rfl⟩
  | arg :: args, s => by
    rw [List.forM_cons', StateT.run_bind, clearColumn_run, List.mapM_cons]
    rcases clearedColumn L table row arg with e | column
    · exact ⟨[], rfl⟩
    obtain ⟨l, h⟩ := clearColumns_run L table row args
      { s with idl := s.idl.write row column Datum.empty, log := s.log ++ [.write row column Datum.empty] }
    refine ⟨.write row column Datum.empty :: l, ?_⟩
    simp only [Except.map, except_ok_bind]
    rw [h]
    rcases args.mapM (clearedColumn L table row) with e | columns
    · rfl
    · simp [Except.map, pure, Except.pure]

/-- **`clear` empties the columns it names**: `cmd_clear` fails exactly when its table
does not resolve, its record does not (unless `--if-exists`), or one of its columns does
not resolve, is read-only in the row or is not allowed to be empty, with the error of the
first that fails; otherwise, when the record names a row, it writes the empty datum into
each column named, in order, and it changes nothing else but the log. -/
theorem cmdClear_spec (L : Lib) (tables : List CtlTableClass) (args : CmdArgs) (s : Ctx) :
    ∃ l, (cmdClear L tables args).run s = (do
      let table ← getTable tables (args.arg 1)
      match ← getRowSpec L s.idl table (args.arg 2) !(args.hasOption "--if-exists") with
      | none => pure ((), { s with log := s.log ++ l })
      | some row => do
        let columns ← (args.argv.drop 3).mapM (clearedColumn L table row)
        pure ((), { s with idl := columns.foldl (·.write row · Datum.empty) s.idl, log := s.log ++ l })) := by
  rcases hT : getTable tables (args.arg 1) with e | table
  · exact ⟨[], by simp [cmdClear, hT, StateT.run_bind]⟩
  obtain ⟨l₁, -, h₁⟩ := getRow_readsAs table (args.arg 2) L (!args.hasOption "--if-exists") (rowIdOps_true table) s
  have hget : (getRow L table (args.arg 2) !(args.hasOption "--if-exists")).run s =
      (getRowSpec L s.idl table (args.arg 2) !(args.hasOption "--if-exists")).map
        fun a => (a, { s with log := s.log ++ l₁ }) := h₁
  simp only [cmdClear, hT, dieIfError_ok, StateT.run_bind, StateT.run_pure, pure_bind, except_ok_bind, hget]
  rcases getRowSpec L s.idl table (args.arg 2) !(args.hasOption "--if-exists") with e | _ | row
  · exact ⟨[], rfl⟩
  · exact ⟨l₁, rfl⟩
  obtain ⟨l₂, h₂⟩ := clearColumns_run L table row (args.argv.drop 3) { s with log := s.log ++ l₁ }
  refine ⟨l₁ ++ l₂, ?_⟩
  simp only [Except.map, except_ok_bind]
  rw [h₂]
  rcases (args.argv.drop 3).mapM (clearedColumn L table row) with e | columns
  · rfl
  · simp [Except.map, pure, Except.pure]

/-! ### `destroy --all` -/

/-- `ovsdb_idl_first_row`. -/
def idlFirstRow (tc : TableClass) : CtlM (Option Row) := do
  logOp (.iterate tc)
  return ((← get).idl.rowsOf tc).head?

/-- `ovsdb_idl_next_row`: the row after `row` among the rows of its table. -/
def idlNextRow (row : Row) : CtlM (Option Row) := do
  return ((((← get).idl.rows.filter (·.table = row.table)).dropWhile (· ≠ row)).drop 1).head?

/-- The `--all` loop of `cmd_destroy` as the source writes it, from `row` on: the next
row is fetched before `row` is deleted, then the loop goes on from it; `fuel` bounds
the iterations. -/
def destroyRows : ℕ → Option Row → CtlM Unit
  | _, none => pure ()
  | 0, some _ => ctlFatal notReached
  | fuel + 1, some row => do
    let next ← idlNextRow row
    txnDelete row
    destroyRows fuel next

/-- The whole `--all` loop: from the first row of `tc`, with an iteration for each row
of the IDL. -/
def destroyAllLoop (tc : TableClass) : CtlM Unit := do
  let fuel := (← get).idl.rows.length
  destroyRows fuel (← idlFirstRow tc)

@[simp] lemma txnDelete_run (row : Row) (s : Ctx) :
    (txnDelete row).run s = .ok ((), { s with
      log := s.log ++ [.delete row], idl.rows := s.idl.rows.filter (· ≠ row) }) := rfl

@[simp] lemma idlNextRow_run (row : Row) (s : Ctx) :
    (idlNextRow row).run s =
      .ok ((((s.idl.rows.filter (·.table = row.table)).dropWhile (· ≠ row)).drop 1).head?, s) := rfl

/-- The IDL without the rows `rows`. -/
def Idl.without (idl : Idl) (rows : List Row) : Idl := { idl with rows := idl.rows.filter (· ∉ rows) }

/-- Deleting the rows of a list, one after the other: a delete each, in order. -/
lemma forM_txnDelete_run : ∀ (rows : List Row) (s : Ctx),
    (rows.forM txnDelete).run s =
      .ok ((), { s with log := s.log ++ rows.map .delete, idl := s.idl.without rows })
  | [], s => by simp [Idl.without]
  | row :: rows, s => by
    simp only [List.forM, StateT.run_bind, txnDelete_run, except_ok_bind, forM_txnDelete_run]
    simp [Idl.without, List.filter_filter, Bool.and_comm]

/-- The invariant of the source's loop: while it stands on the first of the rows `rest`
of table `name` still in the IDL, it deletes each of them once, in order. -/
lemma destroyRows_run {name : String} : ∀ (rest : List Row) (fuel : ℕ) (s : Ctx),
    s.idl.rows.filter (·.table = name) = rest → rest.Nodup → rest.length ≤ fuel →
      (destroyRows fuel rest.head?).run s =
        .ok ((), { s with log := s.log ++ rest.map .delete, idl := s.idl.without rest })
  | [], _, s, _, _, _ => by simp [destroyRows, Idl.without]
  | row :: rest, fuel + 1, s, hrows, hnodup, hfuel => by
    have hrow : row.table = name :=
      of_decide_eq_true (List.mem_filter.1 (hrows ▸ List.mem_cons_self row rest : row ∈ _)).2
    have hnext : ((s.idl.rows.filter (·.table = row.table)).dropWhile (· ≠ row)).drop 1 = rest := by
      rw [hrow, hrows, List.dropWhile_cons_of_neg (by simp), List.drop_one, List.tail_cons]
    have hrows' : (s.idl.rows.filter (· ≠ row)).filter (·.table = name) = rest := by
      rw [List.filter_comm, hrows, List.filter_cons_of_neg (by simp),
        List.filter_eq_self.2 fun r hr => by simpa using ne_of_mem_of_not_mem hr (List.nodup_cons.1 hnodup).1]
    simp only [destroyRows, StateT.run_bind, idlNextRow_run, hnext, except_ok_bind, txnDelete_run]
    rw [destroyRows_run rest fuel _ hrows' (List.nodup_cons.1 hnodup).2 (by simpa using hfuel)]
    simp [Idl.without, List.filter_filter, Bool.and_comm]

/-- The source's loop deletes every row of `tc`, each once and in order, when the rows
of `tc` are distinct, as the rows of an IDL table are. -/
lemma destroyAllLoop_run {tc : TableClass} {s : Ctx} (hnodup : (s.idl.rowsOf tc).Nodup) :
    (destroyAllLoop tc).run s = .ok ((), { s with
      log := s.log ++ .iterate tc :: (s.idl.rowsOf tc).map .delete, idl := s.idl.without (s.idl.rowsOf tc) }) := by
  simp only [destroyAllLoop, idlFirstRow, StateT.run_bind, logOp_run, except_ok_bind, StateT.run_get,
    StateT.run_pure, except_pure_eq]
  rw [destroyRows_run (s.idl.rowsOf tc) _ { s with log := s.log ++ [.iterate tc] } rfl hnodup
    (List.length_filter_le _ _)]
  simp

lemma Idl.rowsOf_without_rowsOf (idl : Idl) (tc : TableClass) :
    (idl.without (idl.rowsOf tc)).rowsOf tc = [] := by
  simp only [Idl.rowsOf, Idl.without, List.filter_filter, List.filter_eq_nil_iff]
  intro r hr
  simp [hr]

/-- `destroy --all T`, as it completes: the rows of `T` present when it starts, each
deleted once and in iteration order, then no row of `T` left in the transaction's
view, rows of other tables untouched; and the source's loop, which fetches the next
row before deleting the current one, ends in the same state. -/
theorem cmdDestroy_all_deletes_rows (L : Lib) (tables : List CtlTableClass) (args : CmdArgs)
    (s s' : Ctx) (hall : args.hasOption "--all" = true) (h : (cmdDestroy L tables args).run s = .ok ((), s')) :
    ∃ table, getTable tables (args.arg 1) = .ok table ∧
      s' = { s with log := s.log ++ .iterate table.cls :: (s.idl.rowsOf table.cls).map .delete,
                    idl := s.idl.without (s.idl.rowsOf table.cls) } ∧
      s'.idl.rowsOf table.cls = [] ∧
      ((s.idl.rowsOf table.cls).Nodup → (destroyAllLoop table.cls).run s = .ok ((), s')) := by
  obtain ⟨table, hget, h₁⟩ := dieIfError_bind_run_ok.1 h
  simp only [hall, Bool.true_and, Bool.not_eq_true', Bool.not_eq_eq_eq_not, Bool.not_true] at h₁
  split_ifs at h₁
  · simp at h₁
  · simp at h₁
  obtain ⟨rows, s₁, hrows, h₂⟩ := bind_run_ok.1 h₁
  obtain ⟨rfl, rfl⟩ := Prod.mk.inj (Except.ok.inj ((idlRows_run _ _).symm.trans hrows))
  obtain ⟨-, rfl⟩ := Prod.mk.inj (Except.ok.inj ((forM_txnDelete_run _ _).symm.trans h₂))
  refine ⟨table, hget, by simp [Idl.rowsOf], Idl.rowsOf_without_rowsOf _ _, fun hnodup => ?_⟩
  rw [destroyAllLoop_run hnodup]
  simp [Idl.rowsOf]

theorem cmdDestroy_all_deletes_rows_ports :
    hostCtx.idl.rowsOf portTable = portRows ∧
      ∃ s', (cmdDestroy hostLib hostTables ⟨[("--all", none)], ["destroy", "Port"]⟩).run hostCtx = .ok ((), s') ∧
      ∃ table, getTable hostTables "Port" = .ok table ∧
        s' = { hostCtx with
          log := hostCtx.log ++ .iterate table.cls :: (hostCtx.idl.rowsOf table.cls).map .delete,
          idl := hostCtx.idl.without (hostCtx.idl.rowsOf table.cls) } ∧
        s'.idl.rowsOf table.cls = [] ∧
        ((hostCtx.idl.rowsOf table.cls).Nodup → (destroyAllLoop table.cls).run hostCtx = .ok ((), s')) :=
  ⟨by decide, _, rfl, cmdDestroy_all_deletes_rows hostLib hostTables ⟨[("--all", none)], ["destroy", "Port"]⟩ hostCtx _
    rfl rfl⟩

end DbCtlBase
