import DbCtlBase.Session

/-!
What a command's pre-pass declares to the IDL, against what its run pass touches.

Each pre-pass (`pre_get_table`, `pre_parse_column_key_value`, `pre_list_columns`,
`pre_cmd_show`, ...) resolves the same table and column names as the run pass, with
the same fuzzy matching, and declares what it finds; the run pass then iterates,
looks up, reads, verifies and writes only those.

* `moves_declared_cmdGet`, ..., `moves_declared_cmdShow`: given the pre-pass's
  declarations, each run pass logs only declared calls.
* `cmdCreate_run_ok`: `create` inserts one row and touches no other row.
* `ctlCommandPre_declares`: for every verb but `create`, whatever the pre-pass
  declares covers the run pass.
* `ctlCommand_runs_declared`: whenever both passes of a command complete, every
  call of the run pass was declared by the pre-pass, or is on a row the run pass
  inserted.
* `runStream_declared`: the same for a whole stream, whose pre-passes (`preStream`) all
  run before its first run pass.
* `preStream_onlyDeclares`: the pre-passes themselves change nothing but the log, to
  which they add only `ovsdb_idl_add_table` and `ovsdb_idl_add_column` calls: they read
  no row, write nothing, define no symbol and print nothing.
-/

namespace DbCtlBase

/-- The row an IDL call reads, verifies or writes. -/
def IdlOp.row? : IdlOp → Option Row
  | .read row _ => some row
  | .verify row _ => some row
  | .write row _ _ => some row
  | _ => none

/-! ### The log of the commands' other primitives -/

section Logs

variable {P : IdlOp → Prop} {α : Type}

/-- A step after `dieIfError r` needs its property only where `r` succeeded. -/
lemma moves_dieIfError_bind {R : Ctx → Ctx → Prop} {β : Type} {r : Except String α} {f : α → CtlM β}
    (h : ∀ a, r = .ok a → Moves R (f a)) : Moves R (dieIfError r >>= f) := by
  rcases r with e | a
  · intro s b s' hr
    simp [StateT.run_bind] at hr
  · exact h a rfl

lemma moves_logs_of_log_eq {x : CtlM α} (h : ∀ s a s', x.run s = .ok (a, s') → s'.log = s.log) :
    Moves (Logs P) x :=
  fun s a s' hr => Logs.of_log_eq (h s a s' hr)

lemma moves_logs_putOutput (str : String) : Moves (Logs P) (putOutput str) :=
  moves_logs_of_log_eq fun s a s' h => by cases h; rfl

lemma moves_logs_setTryAgain : Moves (Logs P) setTryAgain :=
  moves_logs_of_log_eq fun s a s' h => by cases h; rfl

lemma moves_logs_setTable (out : OutTable) : Moves (Logs P) (setTable out) :=
  moves_logs_of_log_eq fun s a s' h => by cases h; rfl

lemma moves_logs_addTableRow (cells : List Cell) : Moves (Logs P) (addTableRow cells) :=
  moves_logs_of_log_eq fun s a s' h => by cases h; rfl

lemma moves_logs_checkMutable (L : Lib) (row : Row) (column : Column) : Moves (Logs P) (checkMutable L row column) := by
  unfold checkMutable
  split
  · exact Moves.pure _
  · exact Moves.ctlFatal _

lemma moves_logs_createSymbol (id : String) : Moves (Logs P) (createSymbol id) := by
  unfold createSymbol
  split
  · exact Moves.ctlFatal _
  · exact Moves.bind Moves.get fun _ => Moves.bind moves_logs_symbolTableInsert fun symbol => by
      split
      · exact Moves.ctlFatal _
      · exact Moves.bind moves_logs_putSymbol fun _ => Moves.pure _

lemma moves_logs_getDefineId (id : Option String) (row : Row) : Moves (Logs P) (getDefineId id row) := by
  rcases id with _ | id
  · exact Moves.pure _
  · exact Moves.bind (moves_logs_createSymbol _) fun ⟨_, _⟩ => by
      dsimp only
      split
      · exact Moves.ctlFatal _
      · exact moves_logs_putSymbol

lemma moves_logs_createDefineId (table : CtlTableClass) (id : Option String) :
    Moves (Logs P) (createDefineId table id) := by
  rcases id with _ | id
  · exact Moves.pure _
  · exact Moves.bind (moves_logs_createSymbol _) fun ⟨_, _⟩ => Moves.bind (by
      split
      · exact moves_logs_putSymbol
      · exact Moves.pure _) fun _ => Moves.pure _

lemma moves_logs_txnVerify {row : Row} {column : Column} (h : P (.verify row column)) :
    Moves (Logs P) (txnVerify row column) :=
  moves_logs_logOp h

end Logs

/-- The run pass's `parse_column_key_value` resolves the column the pre-pass's
`pre_parse_column_key_value` resolved. -/
lemma parseColumnName_of_parseColumnKeyValueAux {L : Lib} {arg : String} {table : CtlTableClass}
    {allowedOperators : Option (List String)} {valuep : Bool} {column : Column} {key : Option String}
    {v : Option (ℕ × String)}
    (h : parseColumnKeyValueAux L arg table allowedOperators valuep = .ok (column, key, v)) :
    ∃ rest, parseColumnName L arg table = .ok (column, rest) := by
  obtain ⟨p, ⟨columnName, rest, hlex, hne, hget, -⟩, -⟩ := parseColumnKeyValueAux_eq_ok.1 h
  exact ⟨rest, parseColumnName_eq_ok.2 ⟨columnName, hlex, hne, hget⟩⟩

/-! ### Run passes against the pre-pass's declarations -/

section Declared

variable (L : Lib) {decls : List IdlOp}

lemma moves_declared_getRow {table : CtlTableClass} (htab : TableDeclared decls table) (recordId : String)
    (mustExist : Bool) : Moves (Logs (Declared decls)) (getRow L table recordId mustExist) :=
  (getRow_readsAs table recordId L mustExist htab.rowIdOps).moves_logs

lemma moves_declared_idlRead {row : Row} {column : Column} (h : .addColumn column ∈ decls) :
    Moves (Logs (Declared decls)) (idlRead row column) :=
  (readsAs_idlRead (P := Declared decls) h).moves_logs

lemma moves_declared_getColumnValue {table : CtlTableClass} (recordId : String) (row : Row) (mustExist : Bool)
    {arg : String} (hcol : isUuidArg arg = false → ArgColumnDeclared L table decls arg) :
    Moves (Logs (Declared decls)) (getColumnValue L table recordId row mustExist arg) := by
  unfold getColumnValue
  by_cases hu : isUuidArg arg = true
  · rw [if_pos hu]
    exact moves_logs_putOutput _
  rw [if_neg hu]
  refine moves_dieIfError_bind fun ⟨column, key, v⟩ hparse => ?_
  obtain ⟨rest, hname⟩ := parseColumnName_of_parseColumnKeyValueAux hparse
  have hc := hcol (by simpa using hu) column rest hname
  refine Moves.bind (moves_logs_txnVerify hc) fun _ => Moves.bind (moves_declared_idlRead hc) fun datum => ?_
  rcases key with _ | keyString
  · exact moves_logs_putOutput _
  dsimp only
  split
  · exact Moves.ctlFatal _
  refine Moves.bind moves_logs_ovsdbAtomFromString fun r => Moves.bind (Moves.dieIfError r) fun key => ?_
  rcases datum.findKey key with _ | e
  · dsimp only
    split
    · exact Moves.ctlFatal _
    · exact moves_logs_putOutput _
  · exact moves_logs_putOutput _

lemma moves_declared_listRecord (row : Option Row) {columns : List (Option Column)}
    (hcols : ∀ column, some column ∈ columns → .addColumn column ∈ decls) :
    Moves (Logs (Declared decls)) (listRecord row columns) := by
  rcases row with _ | row
  · exact Moves.pure _
  exact Moves.bind ((listCells_readsAs row columns hcols).moves_logs) fun _ => moves_logs_addTableRow _

lemma moves_declared_isConditionSatisfied {table : CtlTableClass} (row : Row) {arg : String}
    (hcol : ArgColumnDeclared L table decls arg) :
    Moves (Logs (Declared decls)) (isConditionSatisfied L table row arg) := by
  refine moves_dieIfError_bind fun ⟨column, key, v⟩ hparse => ?_
  obtain ⟨rest, hname⟩ := parseColumnName_of_parseColumnKeyValueAux hparse
  rcases v with _ | ⟨operator, value⟩
  · exact Moves.ctlFatal _
  dsimp only
  rcases relops[operator]? with _ | op
  · exact Moves.ctlFatal _
  refine Moves.bind (moves_declared_idlRead (hcol column rest hname)) fun haveDatum => ?_
  rcases key with _ | keyString
  · exact Moves.bind moves_logs_ovsdbDatumFromString fun r =>
      Moves.bind (Moves.dieIfError r) fun _ => Moves.pure _
  dsimp only
  split
  · exact Moves.ctlFatal _
  · exact Moves.bind moves_logs_ovsdbAtomFromString fun r => Moves.bind (Moves.dieIfError r) fun _ =>
      Moves.bind moves_logs_ovsdbDatumFromString fun r => Moves.bind (Moves.dieIfError r) fun _ =>
        Moves.pure _

lemma moves_declared_allConditions {table : CtlTableClass} (row : Row) :
    ∀ {conditions : List String}, (∀ arg ∈ conditions, ArgColumnDeclared L table decls arg) →
      Moves (Logs (Declared decls)) (allConditions L table row conditions)
  | [], _ => Moves.pure _
  | arg :: args, h => Moves.bind (moves_declared_isConditionSatisfied L row (h arg (List.mem_cons_self _ _)))
      fun b => by
        cases b
        · exact Moves.pure _
        · exact moves_declared_allConditions row fun a ha => h a (List.mem_cons_of_mem _ ha)

/-- `set_column` on `row` moves along `R` when its parses do, and its read, its verify and,
once `check_mutable` has passed, its write of the column `arg` names. -/
lemma moves_setColumn_of {R : Ctx → Ctx → Prop} [IsRefl Ctx R] [IsTrans Ctx R] {table : CtlTableClass}
    {row : Row} {arg : String} (hatom : ∀ base str, Moves R (ovsdbAtomFromString L base str))
    (hdatum : ∀ t str, Moves R (ovsdbDatumFromString L t str))
    (hcolumn : ∀ column rest, parseColumnName L arg table = .ok (column, rest) →
      Moves R (idlRead row column) ∧ Moves R (txnVerify row column) ∧
        (L.isMutable row column = true → ∀ d, Moves R (txnWrite row column d))) :
    Moves R (setColumn L table row arg) := by
  refine moves_dieIfError_bind fun ⟨column, key, v⟩ hparse => ?_
  obtain ⟨rest, hname⟩ := parseColumnName_of_parseColumnKeyValueAux hparse
  obtain ⟨hread, hverify, hwrite⟩ := hcolumn column rest hname
  rcases v with _ | ⟨_, valueString⟩
  · exact Moves.ctlFatal _
  refine Moves.bind_of (moves_checkMutable L _ _) (Q := fun _ => L.isMutable row column = true)
    (fun _ _ _ h => (checkMutable_run_ok h).1) fun _ hmut => ?_
  rcases key with _ | keyString
  · exact Moves.bind (hdatum _ _) fun r => Moves.bind (Moves.dieIfError r) fun _ => hwrite hmut _
  dsimp only
  split
  · exact Moves.ctlFatal _
  · exact Moves.bind (hatom _ _) fun r => Moves.bind (Moves.dieIfError r) fun _ =>
      Moves.bind (hatom _ _) fun r => Moves.bind (Moves.dieIfError r) fun _ =>
        Moves.bind hread fun _ => Moves.bind hverify fun _ => hwrite hmut _

/-- `set_column` touches only the column its argument names, on `row`, and writes it only
once `check_mutable` has passed. -/
lemma moves_setColumn_of_mutable {table : CtlTableClass} {row : Row} {arg : String} {P : IdlOp → Prop}
    (hP : ∀ column rest, parseColumnName L arg table = .ok (column, rest) →
      P (.read row column) ∧ P (.verify row column) ∧
        (L.isMutable row column = true → ∀ d, P (.write row column d))) :
    Moves (Logs P) (setColumn L table row arg) :=
  moves_setColumn_of L (fun _ _ => moves_logs_ovsdbAtomFromString) (fun _ _ => moves_logs_ovsdbDatumFromString)
    fun column rest h =>
      have ⟨hread, hverify, hwrite⟩ := hP column rest h
      ⟨moves_logs_idlRead hread, moves_logs_txnVerify hverify, fun hmut _ => moves_logs_txnWrite (hwrite hmut _)⟩

/-- `set_column` touches only the column its argument names, on `row`. -/
lemma moves_setColumn {table : CtlTableClass} {row : Row} {arg : String} {P : IdlOp → Prop}
    (hP : ∀ column rest, parseColumnName L arg table = .ok (column, rest) →
      P (.read row column) ∧ P (.verify row column) ∧ ∀ d, P (.write row column d)) :
    Moves (Logs P) (setColumn L table row arg) :=
  moves_setColumn_of_mutable L fun column rest h =>
    have ⟨hread, hverify, hwrite⟩ := hP column rest h
    ⟨hread, hverify, fun _ => hwrite⟩

lemma moves_logs_addLoop {P : IdlOp → Prop} (type : OvsdbType) :
    ∀ (old : Datum) (args : List String), Moves (Logs P) (addLoop L type old args)
  | _, [] => Moves.pure _
  | old, _ :: args => Moves.bind moves_logs_ovsdbDatumFromString fun r =>
      Moves.bind (Moves.dieIfError r) fun add => moves_logs_addLoop type (old.union add) args

lemma moves_logs_parseRemoveArg {P : IdlOp → Prop} (type : OvsdbType) (arg : String) :
    Moves (Logs P) (parseRemoveArg L type arg) := by
  refine Moves.bind moves_logs_ovsdbDatumFromString fun r => ?_
  rcases r with e | rm
  · dsimp only
    split
    · exact Moves.bind moves_logs_ovsdbDatumFromString fun r =>
        Moves.bind (Moves.dieIfError r) fun _ => Moves.pure _
    · exact Moves.ctlFatal _
  · exact Moves.pure _

lemma moves_logs_removeLoop {P : IdlOp → Prop} (type : OvsdbType) :
    ∀ (old : Datum) (args : List String), Moves (Logs P) (removeLoop L type old args)
  | _, [] => Moves.pure _
  | old, arg :: args => Moves.bind (moves_logs_parseRemoveArg L type arg) fun ⟨rm, rmType⟩ =>
      moves_logs_removeLoop type (old.subtract rm rmType) args

lemma moves_getTable_bind {R : Ctx → Ctx → Prop} {β : Type} {tables : List CtlTableClass}
    {tableName : String} {table : CtlTableClass} (hget : getTable tables tableName = .ok table)
    {f : CtlTableClass → CtlM β} (h : Moves R (f table)) :
    Moves R (dieIfError (getTable tables tableName) >>= f) :=
  moves_dieIfError_bind fun _ ht => by cases hget.symm.trans ht; exact h

variable {tables : List CtlTableClass} {args : CmdArgs} {table : CtlTableClass}
  (hget : getTable tables (args.arg 1) = .ok table) (htab : TableDeclared decls table)
include hget htab

lemma moves_declared_cmdGet
    (hargs : ∀ arg ∈ args.argv.drop 3, isUuidArg arg = false → ArgColumnDeclared L table decls arg) :
    Moves (Logs (Declared decls)) (cmdGet L tables args) := by
  unfold cmdGet
  dsimp only
  split
  · exact Moves.ctlFatal _
  refine moves_getTable_bind hget (Moves.bind (moves_declared_getRow L htab _ _) fun row => ?_)
  rcases row with _ | row
  · exact Moves.pure _
  · exact Moves.bind (moves_logs_getDefineId _ _) fun _ =>
      Moves.forM _ fun arg harg => moves_declared_getColumnValue L _ _ _ (hargs arg harg)

lemma moves_declared_cmdList {columns : List (Option Column)}
    (hcolumns : parseColumnNames (args.optionValue "--columns") table = .ok columns)
    (hcols : ∀ column, some column ∈ columns → .addColumn column ∈ decls) :
    Moves (Logs (Declared decls)) (cmdList L tables args) := by
  unfold cmdList
  refine moves_getTable_bind hget (moves_dieIfError_bind fun _ hc => ?_)
  cases hcolumns.symm.trans hc
  refine Moves.bind (moves_logs_setTable _) fun _ => ?_
  split
  · exact Moves.forM _ fun _ _ => Moves.bind (moves_declared_getRow L htab _ _) fun row =>
      moves_declared_listRecord row hcols
  · exact Moves.bind (moves_logs_idlRows htab.cls) fun rows =>
      Moves.forM _ fun row _ => moves_declared_listRecord (some row) hcols

lemma moves_declared_cmdFind {columns : List (Option Column)}
    (hcolumns : parseColumnNames (args.optionValue "--columns") table = .ok columns)
    (hcols : ∀ column, some column ∈ columns → .addColumn column ∈ decls)
    (hargs : ∀ arg ∈ args.argv.drop 2, ArgColumnDeclared L table decls arg) :
    Moves (Logs (Declared decls)) (cmdFind L tables args) := by
  unfold cmdFind
  refine moves_getTable_bind hget (moves_dieIfError_bind fun _ hc => ?_)
  cases hcolumns.symm.trans hc
  refine Moves.bind (moves_logs_setTable _) fun _ => Moves.bind (moves_logs_idlRows htab.cls) fun rows =>
    Moves.forM _ fun row _ => Moves.bind (moves_declared_allConditions L row hargs) fun b => ?_
  cases b
  · exact Moves.pure _
  · exact moves_declared_listRecord (some row) hcols

lemma moves_declared_cmdWaitUntil (hargs : ∀ arg ∈ args.argv.drop 3, ArgColumnDeclared L table decls arg) :
    Moves (Logs (Declared decls)) (cmdWaitUntil L tables args) := by
  unfold cmdWaitUntil
  refine moves_getTable_bind hget (Moves.bind (moves_declared_getRow L htab _ _) fun row => ?_)
  rcases row with _ | row
  · exact moves_logs_setTryAgain
  · refine Moves.bind (moves_declared_allConditions L row hargs) fun b => ?_
    cases b
    · exact moves_logs_setTryAgain
    · exact Moves.pure _

lemma moves_declared_cmdSet (hargs : ∀ arg ∈ args.argv.drop 3, ArgColumnDeclared L table decls arg) :
    Moves (Logs (Declared decls)) (cmdSet L tables args) := by
  unfold cmdSet
  refine moves_getTable_bind hget (Moves.bind (moves_declared_getRow L htab _ _) fun row => ?_)
  rcases row with _ | row
  · exact Moves.pure _
  · exact Moves.forM _ fun arg harg => moves_setColumn L fun column rest hc =>
      have h := hargs arg harg column rest hc
      ⟨h, h, fun _ => h⟩

lemma moves_declared_cmdAdd {column : Column} (hcolumn : getColumn table (args.arg 3) = .ok column)
    (hc : .addColumn column ∈ decls) : Moves (Logs (Declared decls)) (cmdAdd L tables args) := by
  unfold cmdAdd
  refine moves_getTable_bind hget (moves_dieIfError_bind fun _ hc' => ?_)
  cases hcolumn.symm.trans hc'
  refine Moves.bind (moves_declared_getRow L htab _ _) fun row => ?_
  rcases row with _ | row
  · exact Moves.pure _
  refine Moves.bind (moves_logs_checkMutable _ _ _) fun _ => Moves.bind (moves_declared_idlRead hc)
    fun _ => Moves.bind (moves_logs_addLoop L _ _ _) fun old => ?_
  split
  · exact Moves.ctlFatal _
  · exact Moves.bind (moves_logs_txnVerify hc) fun _ => moves_logs_txnWrite hc

lemma moves_declared_cmdRemove {column : Column} (hcolumn : getColumn table (args.arg 3) = .ok column)
    (hc : .addColumn column ∈ decls) : Moves (Logs (Declared decls)) (cmdRemove L tables args) := by
  unfold cmdRemove
  refine moves_getTable_bind hget (moves_dieIfError_bind fun _ hc' => ?_)
  cases hcolumn.symm.trans hc'
  refine Moves.bind (moves_declared_getRow L htab _ _) fun row => ?_
  rcases row with _ | row
  · exact Moves.pure _
  refine Moves.bind (moves_logs_checkMutable _ _ _) fun _ => Moves.bind (moves_declared_idlRead hc)
    fun _ => Moves.bind (moves_logs_removeLoop L _ _ _) fun old => ?_
  split
  · exact Moves.ctlFatal _
  · exact Moves.bind (moves_logs_txnVerify hc) fun _ => moves_logs_txnWrite hc

lemma moves_declared_cmdClear
    (hargs : ∀ arg ∈ args.argv.drop 3, ∀ column, getColumn table arg = .ok column → .addColumn column ∈ decls) :
    Moves (Logs (Declared decls)) (cmdClear L tables args) := by
  unfold cmdClear
  refine moves_getTable_bind hget (Moves.bind (moves_declared_getRow L htab _ _) fun row => ?_)
  rcases row with _ | row
  · exact Moves.pure _
  refine Moves.forM _ fun arg harg => moves_dieIfError_bind fun column hc =>
    Moves.bind (moves_logs_checkMutable _ _ _) fun _ => ?_
  split
  · exact Moves.ctlFatal _
  · exact moves_logs_txnWrite (hargs arg harg column hc)

lemma moves_declared_cmdDestroy : Moves (Logs (Declared decls)) (cmdDestroy L tables args) := by
  unfold cmdDestroy
  refine moves_getTable_bind hget ?_
  split
  · exact Moves.ctlFatal _
  split
  · exact Moves.ctlFatal _
  split
  · exact Moves.bind (moves_logs_idlRows htab.cls) fun rows => Moves.forM _ fun _ _ => moves_logs_txnDelete trivial
  · refine Moves.forM _ fun _ _ => Moves.bind (moves_declared_getRow L htab _ _) fun row => ?_
    rcases row with _ | row
    · exact Moves.pure _
    · exact moves_logs_txnDelete trivial

end Declared

/-! ### `show` -/

/-- What `pre_cmd_show` declares for one show table. -/
structure ShowTableDeclared (decls : List IdlOp) (showTable : CmdShowTable) : Prop where
  table : .addTable showTable.table ∈ decls
  nameColumn : ∀ c, showTable.nameColumn = some c → .addColumn c ∈ decls
  columns : ∀ c, some c ∈ showTable.columns → .addColumn c ∈ decls
  wrefTable : ∀ t, showTable.wrefTable.table = some t → .addTable t ∈ decls
  wrefNameColumn : ∀ c, showTable.wrefTable.nameColumn = some c → .addColumn c ∈ decls
  wrefColumn : ∀ c, showTable.wrefTable.wrefColumn = some c → .addColumn c ∈ decls

lemma ShowTableDeclared.mono {decls decls' : List IdlOp} {showTable : CmdShowTable} (hsub : decls ⊆ decls')
    (h : ShowTableDeclared decls showTable) : ShowTableDeclared decls' showTable :=
  ⟨hsub h.table, fun c hc => hsub (h.nameColumn c hc), fun c hc => hsub (h.columns c hc),
    fun t ht => hsub (h.wrefTable t ht), fun c hc => hsub (h.wrefNameColumn c hc),
    fun c hc => hsub (h.wrefColumn c hc)⟩

lemma forM_optionElim_idlAddColumn_run (s : Ctx) : ∀ columns : List (Option Column),
    (columns.forM fun column => column.elim (pure ()) idlAddColumn).run s =
      .ok ((), { s with log := s.log ++ (columns.filterMap id).map .addColumn })
  | [] => by simp
  | column :: columns => by
    simp only [List.forM, StateT.run_bind, optionElim_idlAddColumn_run, except_ok_bind,
      forM_optionElim_idlAddColumn_run]
    cases column <;> simp

lemma preCmdShow_run_ok {showTables : List CmdShowTable} {s s' : Ctx} {u : Unit}
    (h : (preCmdShow showTables).run s = .ok (u, s')) :
    ∃ l, s' = { s with log := s.log ++ l } ∧ ∀ showTable ∈ showTables, ShowTableDeclared l showTable :=
  forM_declares (fun _ _ _ hsub h => h.mono hsub) (fun showTable s s' u hr => by
    simp only [StateT.run_bind, idlAddTable_run, optionElim_idlAddColumn_run, optionElim_idlAddTable_run,
      forM_optionElim_idlAddColumn_run, except_ok_bind, Except.ok.injEq, Prod.mk.injEq] at hr
    obtain ⟨-, rfl⟩ := hr
    simp only [List.append_assoc]
    exact ⟨_, rfl, by simp, fun c hc => by simp [hc], fun c hc => by simp [hc], fun t ht => by simp [ht],
      fun c hc => by simp [hc], fun c hc => by simp [hc]⟩) showTables s s' u h

section Show

variable (L : Lib) {decls : List IdlOp} {showTables : List CmdShowTable}
  (hshow : ∀ showTable ∈ showTables, ShowTableDeclared decls showTable)

lemma moves_declared_cmdShowWeakRef {showTable : CmdShowTable} (hd : ShowTableDeclared decls showTable)
    (curRow : Row) (level : ℕ) : Moves (Logs (Declared decls)) (cmdShowWeakRef L showTable curRow level) := by
  unfold cmdShowWeakRef
  split
  · rename_i table nameColumn wrefColumn ht hn hw
    refine Moves.bind (moves_logs_idlRows (hd.wrefTable _ ht)) fun rows => Moves.forM _ fun rowWref _ =>
      Moves.bind (moves_declared_idlRead (hd.wrefColumn _ hw)) fun wrefDatum => ?_
    split
    · exact Moves.bind (moves_declared_idlRead (hd.wrefNameColumn _ hn)) fun _ => moves_logs_putOutput _
    · exact Moves.pure _
  · exact Moves.pure _

lemma moves_declared_showRefRows {showRow : Row → ℕ → List String → CtlM (List String)}
    (hrow : ∀ row level shown, Moves (Logs (Declared decls)) (showRow row level shown)) {refTable : TableClass}
    (ht : .addTable refTable ∈ decls) (level : ℕ) :
    ∀ keys shown, Moves (Logs (Declared decls)) (showRefRows showRow refTable level keys shown)
  | [], _ => Moves.pure _
  | _ :: keys, shown => Moves.bind (moves_logs_idlGetRowForUuid ht) fun refRow => by
    rcases refRow with _ | refRow
    · exact moves_declared_showRefRows hrow ht level keys shown
    · exact Moves.bind (hrow _ _ _) fun shown => moves_declared_showRefRows hrow ht level keys shown

lemma moves_declared_showRefMap {refShow : CmdShowTable} {nameColumn : Column}
    (ht : .addTable refShow.table ∈ decls) (hn : .addColumn nameColumn ∈ decls) (column : Column) (level : ℕ) :
    ∀ pairs, Moves (Logs (Declared decls)) (showRefMap L refShow nameColumn column level pairs)
  | [] => Moves.pure _
  | _ :: pairs => Moves.bind (moves_logs_idlGetRowForUuid ht) fun refRow =>
    Moves.bind (moves_logs_putOutput _) fun _ => Moves.bind (by
      rcases refRow with _ | refRow
      · exact moves_logs_putOutput _
      · exact Moves.bind (moves_declared_idlRead hn) fun _ => moves_logs_putOutput _) fun _ =>
    Moves.bind (moves_logs_putOutput _) fun _ => moves_declared_showRefMap ht hn column level pairs

lemma moves_logs_showPlainColumn {P : IdlOp → Prop} (column : Column) (datum : Datum) (level : ℕ) :
    Moves (Logs P) (showPlainColumn L column datum level) := by
  unfold showPlainColumn
  split
  · exact moves_logs_putOutput _
  · exact Moves.pure _

include hshow in
lemma moves_declared_showColumns {showRow : Row → ℕ → List String → CtlM (List String)}
    (hrow : ∀ row level shown, Moves (Logs (Declared decls)) (showRow row level shown)) (row : Row)
    (level : ℕ) : ∀ columns, (∀ c, some c ∈ columns → .addColumn c ∈ decls) →
      ∀ shown, Moves (Logs (Declared decls)) (showColumns L showTables showRow row level columns shown)
  | [], _, _ => Moves.pure _
  | none :: _, _, _ => Moves.pure _
  | some column :: columns, hcols, shown => by
    have ih := moves_declared_showColumns hrow row level columns fun c hc =>
      hcols c (List.mem_cons_of_mem _ hc)
    refine Moves.bind (moves_declared_idlRead (hcols column (List.mem_cons_self _ _))) fun datum => ?_
    split
    · split
      · rename_i refShow h
        exact Moves.bind (moves_declared_showRefRows hrow (hshow _ (findShowTableByName_mem h)).table _ _ _) ih
      · exact Moves.bind (moves_logs_showPlainColumn L _ _ _) fun _ => ih shown
    · split
      · rename_i refTable nameColumn refColumns refWref h
        have hd := hshow _ (findShowTableByName_mem h)
        exact Moves.bind (moves_logs_putOutput _) fun _ => Moves.bind
          (moves_declared_showRefMap L hd.table (hd.nameColumn _ rfl) _ _ _) fun _ => ih shown
      · exact Moves.bind (moves_logs_showPlainColumn L _ _ _) fun _ => ih shown
    · exact Moves.bind (moves_logs_showPlainColumn L _ _ _) fun _ => ih shown

include hshow in
lemma moves_declared_cmdShowRow :
    ∀ fuel row level shown, Moves (Logs (Declared decls)) (cmdShowRow L showTables fuel row level shown)
  | 0, _, _, _ => Moves.ctlFatal _
  | fuel + 1, row, level, shown => by
    rw [cmdShowRow]
    refine Moves.bind (moves_logs_putOutput _) fun _ => Moves.bind ?_ fun _ =>
      Moves.bind (moves_logs_putOutput _) fun _ => ?_
    · split
      · rename_i table nameColumn _ _ h
        exact Moves.bind (moves_logs_putOutput _) fun _ => Moves.bind
          (moves_declared_idlRead ((hshow _ (findShowTableByRow_mem h)).nameColumn _ rfl)) fun _ =>
            moves_logs_putOutput _
      · exact moves_logs_putOutput _
    · split
      · exact Moves.pure _
      · rename_i showTable h
        have hd := hshow _ (findShowTableByRow_mem h)
        split
        · exact Moves.pure _
        · refine Moves.bind (moves_declared_showColumns L hshow (moves_declared_cmdShowRow fuel) _ _ _
            hd.columns _) fun shown => Moves.bind (moves_declared_cmdShowWeakRef L hd _ _) fun _ => ?_
          split
          · exact Moves.pure _
          · exact Moves.ctlFatal _

include hshow in
lemma moves_declared_cmdShow : Moves (Logs (Declared decls)) (cmdShow L showTables) := by
  rcases showTables with _ | ⟨first, rest⟩
  · exact Moves.pure _
  refine Moves.bind (moves_logs_idlRows (hshow first (List.mem_cons_self _ _)).table) fun rows =>
    Moves.bind (Moves.foldlM (fun shown row => moves_declared_cmdShowRow L hshow _ row 0 shown) _ _)
      fun shown => ?_
  split
  · exact Moves.pure _
  · exact Moves.ctlFatal _

end Show

/-! ### `create` -/

lemma txnInsert_run_ok {tc : TableClass} {uuid : Option Uuid} {s s' : Ctx} {row : Row}
    (h : (txnInsert tc uuid).run s = .ok (row, s')) : s'.log = s.log ++ [.insert row] := by
  obtain ⟨u, s₁, h₁, h₂⟩ := bind_run_ok.1 h
  have hu : Moves (Logs fun _ => False) (uuid.elim uuidGenerate pure) := by
    cases uuid
    · exact moves_logs_uuidGenerate
    · exact Moves.pure _
  have hlog := (hu s u s₁ h₁).log_eq
  simp only [logOp, StateT.run_bind, StateT.run_modify, except_ok_bind, StateT.run_pure, except_pure_eq,
    Except.ok.injEq, Prod.mk.injEq] at h₂
  obtain ⟨rfl, rfl⟩ := h₂
  simp [hlog]

/-- `cmd_create` inserts one row and touches no other: every IDL call after the
insertion is on the new row. -/
lemma cmdCreate_run_ok {L : Lib} {tables : List CtlTableClass} {args : CmdArgs} {s s' : Ctx} {u : Unit}
    (h : (cmdCreate L tables args).run s = .ok (u, s')) :
    ∃ row l, s'.log = s.log ++ .insert row :: l ∧ ∀ op ∈ l, op.row? = some row := by
  obtain ⟨table, -, h₁⟩ := dieIfError_bind_run_ok.1 h
  obtain ⟨uuid, s₁, h₂, h₃⟩ := bind_run_ok.1 h₁
  obtain ⟨row, s₂, h₄, h₅⟩ := bind_run_ok.1 h₃
  obtain ⟨_, s₃, h₆, h₇⟩ := bind_run_ok.1 h₅
  obtain ⟨l, hl, hrow⟩ := Moves.forM (R := Logs fun op => op.row? = some row) _
    (fun _ _ => moves_setColumn L fun _ _ _ => ⟨rfl, rfl, fun _ => rfl⟩) s₂ _ s₃ h₆
  refine ⟨row, l, ?_, hrow⟩
  rw [(moves_logs_putOutput (P := fun _ => False) _ s₃ _ s' h₇).log_eq, hl, txnInsert_run_ok h₄,
    (moves_logs_createDefineId (P := fun _ => False) table _ s _ s₁ h₂).log_eq]
  simp

/-! ### The two passes of one command -/

/-- Whenever the pre-pass `pre` completes, it declares, as `decls`, everything the run
pass `run` touches. -/
def Declares (pre run : CtlM Unit) : Prop :=
  ∀ s s', pre.run s = .ok ((), s') → ∃ decls, s'.log = s.log ++ decls ∧ Moves (Logs (Declared decls)) run

section Declares

variable (L : Lib) (tables : List CtlTableClass) (args : CmdArgs)

/-- The step every pre-pass but `pre_create` starts with: after `pre_get_table`, what the
rest `f` declares, together with the table's declarations, covers `run`. -/
lemma declares_preGetTable_bind {f : CtlTableClass → CtlM Unit} {run : CtlM Unit}
    (h : ∀ table decls s s', getTable tables (args.arg 1) = .ok table → TableDeclared decls table →
      (f table).run s = .ok ((), s') → ∃ l, s'.log = s.log ++ l ∧ Moves (Logs (Declared (decls ++ l))) run) :
    Declares (preGetTable tables (args.arg 1) >>= f) run := by
  intro s s' hr
  obtain ⟨table, s₁, h₁, h₂⟩ := bind_run_ok.1 hr
  obtain ⟨hget, l₁, rfl, htab⟩ := preGetTable_run_ok h₁
  obtain ⟨l₂, hl₂, hrun⟩ := h table l₁ _ s' hget htab h₂
  exact ⟨l₁ ++ l₂, by simp [hl₂], hrun⟩

lemma preCmdGet_declares : Declares (preCmdGet L tables args) (cmdGet L tables args) :=
  declares_preGetTable_bind tables args fun table decls s s' hget htab hr => by
    obtain ⟨l, rfl, hargs⟩ := forM_declares
      (Q := fun arg l => isUuidArg arg = false → ArgColumnDeclared L table l arg)
      (fun _ _ _ hsub h hu => (h hu).mono hsub) (fun arg s s' u hr => by
        split at hr
        · cases hr
          exact ⟨[], by simp, by simp_all⟩
        · obtain ⟨column, s₁, h₁, h₂⟩ := bind_run_ok.1 hr
          obtain ⟨hd, rfl⟩ := preParseColumnKeyValue_run_ok h₁
          cases h₂
          exact ⟨_, rfl, fun _ => hd⟩) _ s s' _ hr
    exact ⟨l, rfl, moves_declared_cmdGet L hget (htab.mono (List.subset_append_left _ _))
      fun arg harg hu => (hargs arg harg hu).mono (List.subset_append_right _ _)⟩

lemma preCmdList_declares : Declares (preCmdList tables args) (cmdList L tables args) :=
  declares_preGetTable_bind tables args fun table decls s s' hget htab hr => by
    obtain ⟨columns, l, hcolumns, rfl, hcols⟩ := preListColumns_run_ok hr
    exact ⟨l, rfl, moves_declared_cmdList L hget (htab.mono (List.subset_append_left _ _)) hcolumns
      fun c hc => List.mem_append_right _ (hcols c hc)⟩

lemma preCmdFind_declares : Declares (preCmdFind L tables args) (cmdFind L tables args) :=
  declares_preGetTable_bind tables args fun table decls s s' hget htab hr => by
    obtain ⟨_, s₁, h₁, h₂⟩ := bind_run_ok.1 hr
    obtain ⟨columns, l₁, hcolumns, rfl, hcols⟩ := preListColumns_run_ok h₁
    obtain ⟨l₂, rfl, hargs⟩ := preParseArgs_run_ok h₂
    refine ⟨l₁ ++ l₂, by simp, moves_declared_cmdFind L hget (htab.mono fun op hop => by simp [hop])
      hcolumns (fun c hc => by simp [hcols c hc]) fun arg harg => (hargs arg harg).mono fun op hop => by
        simp [hop]⟩

lemma preTableArgColumns_declares {run : CtlM Unit}
    (h : ∀ table decls, getTable tables (args.arg 1) = .ok table → TableDeclared decls table →
      (∀ arg ∈ args.argv.drop 3, ArgColumnDeclared L table decls arg) → Moves (Logs (Declared decls)) run) :
    Declares (preTableArgColumns L tables args) run :=
  declares_preGetTable_bind tables args fun table decls s s' hget htab hr => by
    obtain ⟨l, rfl, hargs⟩ := preParseArgs_run_ok hr
    exact ⟨l, rfl, h table _ hget (htab.mono (List.subset_append_left _ _))
      fun arg harg => (hargs arg harg).mono (List.subset_append_right _ _)⟩

lemma preCmdSet_declares : Declares (preCmdSet L tables args) (cmdSet L tables args) :=
  preTableArgColumns_declares L tables args fun _ _ hget htab => moves_declared_cmdSet L hget htab

lemma preCmdWaitUntil_declares : Declares (preCmdWaitUntil L tables args) (cmdWaitUntil L tables args) :=
  preTableArgColumns_declares L tables args fun _ _ hget htab => moves_declared_cmdWaitUntil L hget htab

lemma preTableColumn_declares {run : CtlM Unit}
    (h : ∀ table decls column, getTable tables (args.arg 1) = .ok table → TableDeclared decls table →
      getColumn table (args.arg 3) = .ok column → .addColumn column ∈ decls →
        Moves (Logs (Declared decls)) run) :
    Declares (preTableColumn tables args) run :=
  declares_preGetTable_bind tables args fun table decls s s' hget htab hr => by
    obtain ⟨column, s₁, h₁, h₂⟩ := bind_run_ok.1 hr
    obtain ⟨hcolumn, rfl⟩ := preGetColumn_run_ok h₁
    cases h₂
    exact ⟨_, rfl, h table _ column hget (htab.mono (List.subset_append_left _ _)) hcolumn (by simp)⟩

lemma preCmdAdd_declares : Declares (preCmdAdd tables args) (cmdAdd L tables args) :=
  preTableColumn_declares tables args fun _ _ _ hget htab => moves_declared_cmdAdd L hget htab

lemma preCmdRemove_declares : Declares (preCmdRemove tables args) (cmdRemove L tables args) :=
  preTableColumn_declares tables args fun _ _ _ hget htab => moves_declared_cmdRemove L hget htab

lemma preCmdClear_declares : Declares (preCmdClear tables args) (cmdClear L tables args) :=
  declares_preGetTable_bind tables args fun table decls s s' hget htab hr => by
    obtain ⟨l, rfl, hargs⟩ := forM_declares
      (Q := fun arg l => ∀ column, getColumn table arg = .ok column → .addColumn column ∈ l)
      (fun _ _ _ hsub h c hc => hsub (h c hc)) (fun arg s s' u hr => by
        obtain ⟨column, s₁, h₁, h₂⟩ := bind_run_ok.1 hr
        obtain ⟨hcolumn, rfl⟩ := preGetColumn_run_ok h₁
        cases h₂
        exact ⟨_, rfl, fun c hc => by cases hcolumn.symm.trans hc; simp⟩) _ s s' _ hr
    exact ⟨l, rfl, moves_declared_cmdClear L hget (htab.mono (List.subset_append_left _ _))
      fun arg harg c hc => List.mem_append_right _ (hargs arg harg c hc)⟩

lemma preCmdDestroy_declares : Declares (preCmdDestroy tables args) (cmdDestroy L tables args) :=
  declares_preGetTable_bind tables args fun table decls s s' hget htab hr => by
    cases hr
    exact ⟨[], by simp, moves_declared_cmdDestroy L hget (htab.mono (List.subset_append_left _ _))⟩

lemma preCmdShow_declares (showTables : List CmdShowTable) :
    Declares (preCmdShow showTables) (cmdShow L showTables) := by
  intro s s' hr
  obtain ⟨l, rfl, hshow⟩ := preCmdShow_run_ok hr
  exact ⟨l, rfl, moves_declared_cmdShow L hshow⟩

/-- Every registered command but `create` declares in its pre-pass what its run pass
touches. -/
lemma ctlCommandPre_declares (showTables : List CmdShowTable) (command : CtlCommand)
    (hcreate : command.commandSyntax.name ≠ "create") :
    Declares (ctlCommandPre L tables showTables command) (ctlCommandRun L tables showTables command) := by
  unfold ctlCommandPre ctlCommandRun
  split
  · exact preCmdGet_declares L tables _
  · exact preCmdList_declares L tables _
  · exact preCmdFind_declares L tables _
  · exact preCmdSet_declares L tables _
  · exact preCmdAdd_declares L tables _
  · exact preCmdRemove_declares L tables _
  · exact preCmdClear_declares L tables _
  · exact absurd ‹_› hcreate
  · exact preCmdDestroy_declares L tables _
  · exact preCmdWaitUntil_declares L tables _
  · exact preCmdShow_declares L showTables
  · intro s s' hr
    cases hr
    exact ⟨[], by simp, Moves.pure _⟩

end Declares

lemma preCreate_log {tables : List CtlTableClass} {args : CmdArgs} {s s' : Ctx} {u : Unit}
    (h : (preCreate tables args).run s = .ok (u, s')) : s'.log = s.log :=
  ((Moves.bind (Moves.dieIfError _) fun _ => Moves.pure _ : Moves (Logs fun _ => False) (preCreate tables args))
    s u s' h).log_eq

/-! ### A whole stream -/

/-- The pre-passes of a command stream, one after the other: the embedding runs every
command's `prerequisites` before the first `run`. -/
def preStream (L : Lib) (tables : List CtlTableClass) (showTables : List CmdShowTable)
    (commands : List CtlCommand) : CtlM Unit :=
  commands.forM (ctlCommandPre L tables showTables)

/-- Each run-pass call of `l` is declared by the pre-pass calls `decls`, or is on a row
that `l` inserted. -/
def DeclaredOrInserted (decls l : List IdlOp) : Prop :=
  ∀ op ∈ l, Declared decls op ∨ ∃ row, .insert row ∈ l ∧ op.row? = some row

lemma DeclaredOrInserted.append {d₁ d₂ l₁ l₂ : List IdlOp} (h₁ : DeclaredOrInserted d₁ l₁)
    (h₂ : DeclaredOrInserted d₂ l₂) : DeclaredOrInserted (d₁ ++ d₂) (l₁ ++ l₂) := fun op hop =>
  (List.mem_append.1 hop).elim
    (fun hop => (h₁ op hop).imp (Declared.mono (List.subset_append_left _ _))
      fun ⟨row, hrow, hr⟩ => ⟨row, List.mem_append_left _ hrow, hr⟩)
    (fun hop => (h₂ op hop).imp (Declared.mono (List.subset_append_right _ _))
      fun ⟨row, hrow, hr⟩ => ⟨row, List.mem_append_right _ hrow, hr⟩)

/-- One command's two passes: each call of the run pass is declared by the pre-pass, or is
on the row its `create` inserted. -/
lemma ctlCommand_declaredOrInserted (L : Lib) (tables : List CtlTableClass) (showTables : List CmdShowTable)
    (command : CtlCommand) {s₀ s₀' s s' : Ctx}
    (hpre : (ctlCommandPre L tables showTables command).run s₀ = .ok ((), s₀'))
    (hrun : (ctlCommandRun L tables showTables command).run s = .ok ((), s')) :
    ∃ decls l, s₀'.log = s₀.log ++ decls ∧ s'.log = s.log ++ l ∧ DeclaredOrInserted decls l := by
  by_cases hcreate : command.commandSyntax.name = "create"
  · simp only [ctlCommandPre, ctlCommandRun, hcreate] at hpre hrun
    obtain ⟨row, l, hl, hrow⟩ := cmdCreate_run_ok hrun
    refine ⟨[], .insert row :: l, by simp [preCreate_log hpre], hl, fun op hop => ?_⟩
    rcases List.mem_cons.1 hop with rfl | hop
    · exact .inl trivial
    · exact .inr ⟨row, List.mem_cons_self _ _, hrow op hop⟩
  · obtain ⟨decls, hdecls, hmoves⟩ := ctlCommandPre_declares L tables showTables command hcreate s₀ s₀' hpre
    obtain ⟨l, hl, hops⟩ := hmoves s () s' hrun
    exact ⟨decls, l, hdecls, hl, fun op hop => .inl (hops op hop)⟩

/-- Whenever both passes of a command complete, each table the run pass iterates or
looks rows up in, and each column it reads, verifies or writes, was declared by the
pre-pass, except for the calls on a row the run pass itself inserted. -/
theorem ctlCommand_runs_declared (L : Lib) (tables : List CtlTableClass) (showTables : List CmdShowTable)
    (command : CtlCommand) (s₀ s₀' s s' : Ctx)
    (hpre : (ctlCommandPre L tables showTables command).run s₀ = .ok ((), s₀'))
    (hrun : (ctlCommandRun L tables showTables command).run s = .ok ((), s')) :
    ∃ decls l, s₀'.log = s₀.log ++ decls ∧ s'.log = s.log ++ l ∧
      ∀ op ∈ l, Declared decls op ∨ ∃ row, .insert row ∈ l ∧ op.row? = some row :=
  ctlCommand_declaredOrInserted L tables showTables command hpre hrun

theorem ctlCommand_runs_declared_set :
    ∃ s₀' s', (ctlCommandPre simpleLib [mapCtlTable] []
        ⟨⟨"set", 3, intMax, "--if-exists", .rw⟩, ⟨[], ["set", "T", ".", "C:b=2"]⟩⟩).run mapCtx = .ok ((), s₀') ∧
      (ctlCommandRun simpleLib [mapCtlTable] []
        ⟨⟨"set", 3, intMax, "--if-exists", .rw⟩, ⟨[], ["set", "T", ".", "C:b=2"]⟩⟩).run mapCtx = .ok ((), s') ∧
      ∃ decls l, s₀'.log = mapCtx.log ++ decls ∧ s'.log = mapCtx.log ++ l ∧
        ∀ op ∈ l, Declared decls op ∨ ∃ row, .insert row ∈ l ∧ op.row? = some row :=
  ⟨_, _, rfl, rfl, ctlCommand_runs_declared simpleLib [mapCtlTable] []
    ⟨⟨"set", 3, intMax, "--if-exists", .rw⟩, ⟨[], ["set", "T", ".", "C:b=2"]⟩⟩ mapCtx _ mapCtx _ rfl rfl⟩

/-- **A stream's pre-passes declare what its run passes touch**: whenever the pre-passes
of a command stream complete, one after the other, and so do its run passes, every call
of the run passes (each table iterated or looked up in, each column read, verified or
written) was declared by the pre-passes, or is on a row a `create` of the stream
inserted. The later commands of a stream may touch what the earlier ones declared. -/
theorem runStream_declared (L : Lib) (tables : List CtlTableClass) (showTables : List CmdShowTable)
    (commands : List CtlCommand) (s₀ s₀' s s' : Ctx)
    (hpre : (preStream L tables showTables commands).run s₀ = .ok ((), s₀'))
    (hrun : (runStream L tables showTables commands).run s = .ok ((), s')) :
    ∃ decls l, s₀'.log = s₀.log ++ decls ∧ s'.log = s.log ++ l ∧
      ∀ op ∈ l, Declared decls op ∨ ∃ row, .insert row ∈ l ∧ op.row? = some row := by
  induction commands generalizing s₀ s with
  | nil =>
    cases hpre
    cases hrun
    exact ⟨[], [], by simp, by simp, by simp⟩
  | cons command commands ih =>
    obtain ⟨⟨⟩, s₁, hpre₁, hpre₂⟩ := bind_run_ok.1 hpre
    obtain ⟨⟨⟩, s₂, hrun₁, hrun₂⟩ := bind_run_ok.1 hrun
    obtain ⟨d₁, l₁, hd₁, hl₁, h₁⟩ := ctlCommand_declaredOrInserted L tables showTables command hpre₁ hrun₁
    obtain ⟨d₂, l₂, hd₂, hl₂, h₂⟩ := ih s₁ s₂ hpre₂ hrun₂
    exact ⟨d₁ ++ d₂, l₁ ++ l₂, by rw [hd₂, hd₁, List.append_assoc], by rw [hl₂, hl₁, List.append_assoc],
      h₁.append h₂⟩

theorem runStream_declared_setCreate :
    ∃ s₀' s', (preStream simpleLib [mapCtlTable] []
        [⟨⟨"set", 3, intMax, "--if-exists", .rw⟩, ⟨[], ["set", "T", ".", "C:c=3"]⟩⟩,
          ⟨⟨"create", 2, intMax, "--id=", .rw⟩, ⟨[], ["create", "T", "C:b=2"]⟩⟩]).run mapCtx =
        .ok ((), s₀') ∧
      (runStream simpleLib [mapCtlTable] []
        [⟨⟨"set", 3, intMax, "--if-exists", .rw⟩, ⟨[], ["set", "T", ".", "C:c=3"]⟩⟩,
          ⟨⟨"create", 2, intMax, "--id=", .rw⟩, ⟨[], ["create", "T", "C:b=2"]⟩⟩]).run mapCtx =
        .ok ((), s') ∧
      ∃ decls l, s₀'.log = mapCtx.log ++ decls ∧ s'.log = mapCtx.log ++ l ∧
        ∀ op ∈ l, Declared decls op ∨ ∃ row, .insert row ∈ l ∧ op.row? = some row :=
  ⟨_, _, rfl, rfl, runStream_declared simpleLib [mapCtlTable] []
    [⟨⟨"set", 3, intMax, "--if-exists", .rw⟩, ⟨[], ["set", "T", ".", "C:c=3"]⟩⟩,
      ⟨⟨"create", 2, intMax, "--id=", .rw⟩, ⟨[], ["create", "T", "C:b=2"]⟩⟩] mapCtx _ mapCtx _ rfl rfl⟩

/-! ### What the pre-passes change -/

/-- The calls a pre-pass makes: `ovsdb_idl_add_table` and `ovsdb_idl_add_column`. -/
def IdlOp.isDeclaration : IdlOp → Bool
  | .addTable _ | .addColumn _ => true
  | _ => false

/-- From `s` to `s'` only declarations were added to the log, and nothing else changed. -/
def OnlyDeclares (s s' : Ctx) : Prop :=
  ∃ l, s' = { s with log := s.log ++ l } ∧ ∀ op ∈ l, op.isDeclaration = true

instance : IsRefl Ctx OnlyDeclares := ⟨fun s => ⟨[], by rw [List.append_nil], by simp⟩⟩

instance : IsTrans Ctx OnlyDeclares :=
  ⟨fun _ _ _ ⟨l₁, h₁, hl₁⟩ ⟨l₂, h₂, hl₂⟩ => ⟨l₁ ++ l₂, by subst h₁ h₂; simp,
    fun op hop => (List.mem_append.1 hop).elim (hl₁ op) (hl₂ op)⟩⟩

section OnlyDeclares

lemma moves_onlyDeclares_logOp {op : IdlOp} (h : op.isDeclaration = true) : Moves OnlyDeclares (logOp op) :=
  fun _ _ _ hr => by
    cases hr
    exact ⟨[op], rfl, by simpa using h⟩

lemma moves_onlyDeclares_elim {β : Type} (o : Option β) {f : β → CtlM Unit} (hf : ∀ b, Moves OnlyDeclares (f b)) :
    Moves OnlyDeclares (o.elim (pure ()) f) := by
  cases o
  exacts [Moves.pure _, hf _]

lemma moves_onlyDeclares_preGetTable (tables : List CtlTableClass) (tableName : String) :
    Moves OnlyDeclares (preGetTable tables tableName) :=
  Moves.bind (Moves.dieIfError _) fun _ => Moves.bind (moves_onlyDeclares_logOp rfl) fun _ =>
    Moves.bind (Moves.forM _ fun _ _ =>
      Moves.bind (moves_onlyDeclares_elim _ fun _ => moves_onlyDeclares_logOp rfl) fun _ =>
        Moves.bind (moves_onlyDeclares_elim _ fun _ => moves_onlyDeclares_logOp rfl) fun _ =>
          moves_onlyDeclares_elim _ fun _ => moves_onlyDeclares_logOp rfl) fun _ => Moves.pure _

lemma moves_onlyDeclares_preGetColumn (table : CtlTableClass) (columnName : String) :
    Moves OnlyDeclares (preGetColumn table columnName) :=
  Moves.bind (Moves.dieIfError _) fun _ => Moves.bind (moves_onlyDeclares_logOp rfl) fun _ => Moves.pure _

lemma moves_onlyDeclares_preParseColumnKeyValue (L : Lib) (arg : String) (table : CtlTableClass) :
    Moves OnlyDeclares (preParseColumnKeyValue L arg table) :=
  Moves.bind (Moves.dieIfError _) fun _ => Moves.bind (moves_onlyDeclares_logOp rfl) fun _ => Moves.pure _

lemma moves_onlyDeclares_preParseArgs (L : Lib) (table : CtlTableClass) (args : List String) :
    Moves OnlyDeclares (preParseArgs L table args) :=
  Moves.forM _ fun _ _ => Moves.bind (moves_onlyDeclares_preParseColumnKeyValue _ _ _) fun _ => Moves.pure _

/-- `pre_cmd_set` and `pre_cmd_wait_until`. -/
lemma moves_onlyDeclares_preTableArgColumns (L : Lib) (tables : List CtlTableClass) (args : CmdArgs) :
    Moves OnlyDeclares (preTableArgColumns L tables args) :=
  Moves.bind (moves_onlyDeclares_preGetTable _ _) fun _ => moves_onlyDeclares_preParseArgs _ _ _

/-- `pre_cmd_add` and `pre_cmd_remove`. -/
lemma moves_onlyDeclares_preTableColumn (tables : List CtlTableClass) (args : CmdArgs) :
    Moves OnlyDeclares (preTableColumn tables args) :=
  Moves.bind (moves_onlyDeclares_preGetTable _ _) fun _ =>
    Moves.bind (moves_onlyDeclares_preGetColumn _ _) fun _ => Moves.pure _

lemma moves_onlyDeclares_preListColumns (table : CtlTableClass) (columnNames : Option String) :
    Moves OnlyDeclares (preListColumns table columnNames) :=
  Moves.bind (Moves.dieIfError _) fun _ =>
    Moves.forM _ fun _ _ => moves_onlyDeclares_elim _ fun _ => moves_onlyDeclares_logOp rfl

lemma moves_onlyDeclares_preCmdShow (showTables : List CmdShowTable) : Moves OnlyDeclares (preCmdShow showTables) :=
  Moves.forM _ fun _ _ => Moves.bind (moves_onlyDeclares_logOp rfl) fun _ =>
    Moves.bind (moves_onlyDeclares_elim _ fun _ => moves_onlyDeclares_logOp rfl) fun _ =>
      Moves.bind (Moves.forM _ fun _ _ => moves_onlyDeclares_elim _ fun _ => moves_onlyDeclares_logOp rfl) fun _ =>
        Moves.bind (moves_onlyDeclares_elim _ fun _ => moves_onlyDeclares_logOp rfl) fun _ =>
          Moves.bind (moves_onlyDeclares_elim _ fun _ => moves_onlyDeclares_logOp rfl) fun _ =>
            moves_onlyDeclares_elim _ fun _ => moves_onlyDeclares_logOp rfl

/-- Every pre-pass only declares. -/
lemma moves_onlyDeclares_ctlCommandPre (L : Lib) (tables : List CtlTableClass) (showTables : List CmdShowTable)
    (command : CtlCommand) : Moves OnlyDeclares (ctlCommandPre L tables showTables command) := by
  unfold ctlCommandPre
  split
  · exact Moves.bind (moves_onlyDeclares_preGetTable _ _) fun _ => Moves.forM _ fun _ _ => by
      split
      · exact Moves.pure _
      · exact Moves.bind (moves_onlyDeclares_preParseColumnKeyValue _ _ _) fun _ => Moves.pure _
  · exact Moves.bind (moves_onlyDeclares_preGetTable _ _) fun _ => moves_onlyDeclares_preListColumns _ _
  · exact Moves.bind (moves_onlyDeclares_preGetTable _ _) fun _ =>
      Moves.bind (moves_onlyDeclares_preListColumns _ _) fun _ => moves_onlyDeclares_preParseArgs _ _ _
  · exact moves_onlyDeclares_preTableArgColumns _ _ _
  · exact moves_onlyDeclares_preTableColumn _ _
  · exact moves_onlyDeclares_preTableColumn _ _
  · exact Moves.bind (moves_onlyDeclares_preGetTable _ _) fun _ =>
      Moves.forM _ fun _ _ => Moves.bind (moves_onlyDeclares_preGetColumn _ _) fun _ => Moves.pure _
  · exact Moves.bind (Moves.dieIfError _) fun _ => Moves.pure _
  · exact Moves.bind (moves_onlyDeclares_preGetTable _ _) fun _ => Moves.pure _
  · exact moves_onlyDeclares_preTableArgColumns _ _ _
  · exact moves_onlyDeclares_preCmdShow _
  · exact Moves.pure _

end OnlyDeclares

/-- **The pre-passes only declare**: every completed run of the pre-passes of a command
stream leaves the context as it was but for the log, to which it adds only
`ovsdb_idl_add_table` and `ovsdb_idl_add_column` calls. They read no row, write nothing,
define no symbol and print nothing, so the run passes start from the view, symbol table
and output the pre-passes found. -/
theorem preStream_onlyDeclares (L : Lib) (tables : List CtlTableClass) (showTables : List CmdShowTable)
    (commands : List CtlCommand) (s s' : Ctx) (h : (preStream L tables showTables commands).run s = .ok ((), s')) :
    ∃ l, s' = { s with log := s.log ++ l } ∧ ∀ op ∈ l, op.isDeclaration = true :=
  Moves.forM commands (fun _ _ => moves_onlyDeclares_ctlCommandPre L tables showTables _) s () s' h

theorem preStream_onlyDeclares_setCreate :
    ∃ s', (preStream simpleLib [mapCtlTable] []
        [⟨⟨"set", 3, intMax, "--if-exists", .rw⟩, ⟨[], ["set", "T", ".", "C:c=3"]⟩⟩,
          ⟨⟨"create", 2, intMax, "--id=", .rw⟩, ⟨[], ["create", "T", "C:b=2"]⟩⟩]).run mapCtx = .ok ((), s') ∧
      ∃ l, s' = { mapCtx with log := mapCtx.log ++ l } ∧ ∀ op ∈ l, op.isDeclaration = true :=
  ⟨_, rfl, preStream_onlyDeclares simpleLib [mapCtlTable] []
    [⟨⟨"set", 3, intMax, "--if-exists", .rw⟩, ⟨[], ["set", "T", ".", "C:c=3"]⟩⟩,
      ⟨⟨"create", 2, intMax, "--id=", .rw⟩, ⟨[], ["create", "T", "C:b=2"]⟩⟩] mapCtx _ rfl⟩

end DbCtlBase
