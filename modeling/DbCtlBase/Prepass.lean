import DbCtlBase.Read
import DbCtlBase.Write

/-!
The pre-passes: before the transaction, each command declares to the IDL the
tables and columns its run pass will use (`ovsdb_idl_add_table`,
`ovsdb_idl_add_column`), resolving the same table and column names as the run
pass does.

* `Declared`: the table a run-pass call iterates or looks up in, or the column it
  reads, verifies or writes, was declared.
* `preGetTable_run_ok`, `preGetColumn_run_ok`, `preParseColumnKeyValue_run_ok`,
  `preListColumns_run_ok`: what each declaring helper resolved and declared.
* `forM_declares`: a loop of declaring bodies declares what each body declares.
-/

namespace DbCtlBase

/-- `pre_get_table`: the table, the tables of its row-id descriptors and their name
and UUID columns. -/
def preGetTable (tables : List CtlTableClass) (tableName : String) : CtlM CtlTableClass := do
  let table ← dieIfError (getTable tables tableName)
  idlAddTable table.cls
  table.rowIds.forM fun id => do
    id.table.elim (pure ()) idlAddTable
    id.nameColumn.elim (pure ()) idlAddColumn
    id.uuidColumn.elim (pure ()) idlAddColumn
  pure table

/-- `pre_get_column`. -/
def preGetColumn (table : CtlTableClass) (columnName : String) : CtlM Column := do
  let column ← dieIfError (getColumn table columnName)
  idlAddColumn column
  pure column

/-- `pre_parse_column_key_value`: the column named by the first token of `arg`,
which must not be empty. -/
def preParseColumnKeyValue (L : Lib) (arg : String) (table : CtlTableClass) : CtlM Column := do
  let (column, _) ← dieIfError (parseColumnName L arg table)
  idlAddColumn column
  pure column

/-- `pre_list_columns`. -/
def preListColumns (table : CtlTableClass) (columnNames : Option String) : CtlM Unit := do
  let columns ← dieIfError (parseColumnNames columnNames table)
  columns.forM fun column => column.elim (pure ()) idlAddColumn

/-- `pre_cmd_get`: the table and each `COLUMN[:KEY]` argument's column. -/
def preCmdGet (L : Lib) (tables : List CtlTableClass) (args : CmdArgs) : CtlM Unit := do
  let table ← preGetTable tables (args.arg 1)
  (args.argv.drop 3).forM fun arg =>
    if isUuidArg arg then pure () else do
      let _ ← preParseColumnKeyValue L arg table

/-- `pre_cmd_list`. -/
def preCmdList (tables : List CtlTableClass) (args : CmdArgs) : CtlM Unit := do
  let table ← preGetTable tables (args.arg 1)
  preListColumns table (args.optionValue "--columns")

/-- The loops of the pre-passes over arguments: each argument's column, as
`pre_parse_column_key_value` reads it. -/
def preParseArgs (L : Lib) (table : CtlTableClass) (args : List String) : CtlM Unit :=
  args.forM fun arg => do
    let _ ← preParseColumnKeyValue L arg table

/-- `pre_cmd_find`. -/
def preCmdFind (L : Lib) (tables : List CtlTableClass) (args : CmdArgs) : CtlM Unit := do
  let table ← preGetTable tables (args.arg 1)
  preListColumns table (args.optionValue "--columns")
  preParseArgs L table (args.argv.drop 2)

/-- `pre_cmd_set` and `pre_cmd_wait_until`: the table and the column of each
argument after the record. -/
def preTableArgColumns (L : Lib) (tables : List CtlTableClass) (args : CmdArgs) : CtlM Unit := do
  let table ← preGetTable tables (args.arg 1)
  preParseArgs L table (args.argv.drop 3)

/-- `pre_cmd_set`. -/
def preCmdSet (L : Lib) (tables : List CtlTableClass) (args : CmdArgs) : CtlM Unit :=
  preTableArgColumns L tables args

/-- `pre_cmd_wait_until`. -/
def preCmdWaitUntil (L : Lib) (tables : List CtlTableClass) (args : CmdArgs) : CtlM Unit :=
  preTableArgColumns L tables args

/-- `pre_cmd_add` and `pre_cmd_remove`: the table and the column `argv[3]`. -/
def preTableColumn (tables : List CtlTableClass) (args : CmdArgs) : CtlM Unit := do
  let table ← preGetTable tables (args.arg 1)
  let _ ← preGetColumn table (args.arg 3)

/-- `pre_cmd_add`. -/
def preCmdAdd (tables : List CtlTableClass) (args : CmdArgs) : CtlM Unit := preTableColumn tables args

/-- `pre_cmd_remove`. -/
def preCmdRemove (tables : List CtlTableClass) (args : CmdArgs) : CtlM Unit :=
  preTableColumn tables args

/-- `pre_cmd_clear`: the table and every column argument. -/
def preCmdClear (tables : List CtlTableClass) (args : CmdArgs) : CtlM Unit := do
  let table ← preGetTable tables (args.arg 1)
  (args.argv.drop 3).forM fun arg => do
    let _ ← preGetColumn table arg

/-- `pre_create`: only the table lookup; its warning is not modelled. -/
def preCreate (tables : List CtlTableClass) (args : CmdArgs) : CtlM Unit := do
  let _ ← dieIfError (getTable tables (args.arg 1))

/-- `pre_cmd_destroy`. -/
def preCmdDestroy (tables : List CtlTableClass) (args : CmdArgs) : CtlM Unit := do
  let _ ← preGetTable tables (args.arg 1)

/-! ### What a pre-pass declares -/

/-- `decls`, the calls of a pre-pass, declare what the run-pass call `op` touches:
the table it iterates or looks rows up in, or the column it reads, verifies or
writes. Inserting and deleting rows need no declaration; a run pass declares
nothing. -/
def Declared (decls : List IdlOp) : IdlOp → Prop
  | .iterate t => .addTable t ∈ decls
  | .lookup t => .addTable t ∈ decls
  | .read _ c => .addColumn c ∈ decls
  | .verify _ c => .addColumn c ∈ decls
  | .write _ c _ => .addColumn c ∈ decls
  | .insert _ => True
  | .delete _ => True
  | .addTable _ => False
  | .addColumn _ => False

lemma Declared.mono {decls decls' : List IdlOp} (h : decls ⊆ decls') :
    ∀ {op : IdlOp}, Declared decls op → Declared decls' op
  | .iterate _, hd | .lookup _, hd | .read _ _, hd | .verify _ _, hd | .write _ _ _, hd => h hd
  | .insert _, hd | .delete _, hd => hd

/-- What `pre_get_table` declares for one row-id descriptor: its table and its name
and UUID columns. -/
def RowIdDeclared (decls : List IdlOp) (id : RowId) : Prop :=
  (∀ t, id.table = some t → .addTable t ∈ decls) ∧
    (∀ c, id.nameColumn = some c → .addColumn c ∈ decls) ∧
    ∀ c, id.uuidColumn = some c → .addColumn c ∈ decls

lemma RowIdDeclared.mono {decls decls' : List IdlOp} {id : RowId} (hsub : decls ⊆ decls')
    (h : RowIdDeclared decls id) : RowIdDeclared decls' id :=
  ⟨fun t ht => hsub (h.1 t ht), fun c hc => hsub (h.2.1 c hc), fun c hc => hsub (h.2.2 c hc)⟩

/-- What `pre_get_table` declares for `table`: its class and its row-id
descriptors. -/
structure TableDeclared (decls : List IdlOp) (table : CtlTableClass) : Prop where
  cls : .addTable table.cls ∈ decls
  rowIds : ∀ id ∈ table.rowIds, RowIdDeclared decls id

lemma TableDeclared.mono {decls decls' : List IdlOp} {table : CtlTableClass}
    (h : TableDeclared decls table) (hsub : decls ⊆ decls') : TableDeclared decls' table :=
  ⟨hsub h.cls, fun id hid => (h.rowIds id hid).mono hsub⟩

/-- `get_row` on a declared table uses only declared tables and columns. -/
lemma TableDeclared.rowIdOps {decls : List IdlOp} {table : CtlTableClass} (h : TableDeclared decls table) :
    RowIdOps (Declared decls) table :=
  ⟨h.cls, fun id hid => (h.rowIds id hid).1, fun id hid c hc _ => (h.rowIds id hid).2.1 c hc,
    fun id hid c hc _ => ⟨(h.rowIds id hid).2.2 c hc, (h.rowIds id hid).2.2 c hc⟩⟩

lemma optionElim_idlAddTable_run (o : Option TableClass) (s : Ctx) :
    (o.elim (pure ()) idlAddTable).run s = .ok ((), { s with log := s.log ++ o.toList.map .addTable }) := by
  cases o <;> simp [idlAddTable]

lemma optionElim_idlAddColumn_run (o : Option Column) (s : Ctx) :
    (o.elim (pure ()) idlAddColumn).run s = .ok ((), { s with log := s.log ++ o.toList.map .addColumn }) := by
  cases o <;> simp [idlAddColumn]

/-- A loop whose body only appends to the log, each time a log that `Q` holds of,
appends a log that `Q` holds of for every element, when `Q` is kept by longer logs. -/
lemma forM_declares {γ : Type} {f : γ → CtlM PUnit} {Q : γ → List IdlOp → Prop}
    (hQ : ∀ x l l', l ⊆ l' → Q x l → Q x l')
    (hf : ∀ x s s' u, (f x).run s = .ok (u, s') → ∃ l, s' = { s with log := s.log ++ l } ∧ Q x l) :
    ∀ (xs : List γ) (s s' : Ctx) (u : PUnit), (xs.forM f).run s = .ok (u, s') →
      ∃ l, s' = { s with log := s.log ++ l } ∧ ∀ x ∈ xs, Q x l
  | [], s, s', u, h => by
    cases h
    exact ⟨[], by simp, by simp⟩
  | x :: xs, s, s', u, h => by
    obtain ⟨_, s₁, h₁, h₂⟩ := bind_run_ok.1 h
    obtain ⟨l₁, rfl, hq₁⟩ := hf x s s₁ _ h₁
    obtain ⟨l₂, rfl, hq₂⟩ := forM_declares hQ hf xs _ s' u h₂
    refine ⟨l₁ ++ l₂, by simp, List.forall_mem_cons.2 ⟨hQ x _ _ (List.subset_append_left _ _) hq₁,
      fun y hy => hQ y _ _ (List.subset_append_right _ _) (hq₂ y hy)⟩⟩

lemma preGetTable_run_ok {tables : List CtlTableClass} {tableName : String} {s s' : Ctx}
    {table : CtlTableClass} (h : (preGetTable tables tableName).run s = .ok (table, s')) :
    getTable tables tableName = .ok table ∧ ∃ l, s' = { s with log := s.log ++ l } ∧ TableDeclared l table := by
  obtain ⟨table', hget, h₁⟩ := dieIfError_bind_run_ok.1 h
  obtain ⟨_, s₁, h₂, h₃⟩ := bind_run_ok.1 h₁
  simp only [idlAddTable_run, Except.ok.injEq, Prod.mk.injEq] at h₂
  obtain ⟨-, rfl⟩ := h₂
  obtain ⟨_, s₂, h₄, h₅⟩ := bind_run_ok.1 h₃
  cases h₅
  obtain ⟨l, rfl, hids⟩ := forM_declares (Q := fun id l => RowIdDeclared l id) (fun _ _ _ hsub hq => hq.mono hsub)
    (fun id s s' u hr => by
      simp only [StateT.run_bind, optionElim_idlAddTable_run, optionElim_idlAddColumn_run,
        except_ok_bind, Except.ok.injEq, Prod.mk.injEq] at hr
      obtain ⟨-, rfl⟩ := hr
      exact ⟨id.table.toList.map .addTable ++
        (id.nameColumn.toList.map .addColumn ++ id.uuidColumn.toList.map .addColumn), by simp,
        fun t ht => by simp [ht], fun c hc => by simp [hc], fun c hc => by simp [hc]⟩)
    _ _ _ _ h₄
  exact ⟨hget, .addTable table.cls :: l, by simp, ⟨List.mem_cons_self _ _,
    fun id hid => (hids id hid).mono (List.subset_cons_self _ _)⟩⟩

lemma preGetColumn_run_ok {table : CtlTableClass} {columnName : String} {s s' : Ctx} {column : Column}
    (h : (preGetColumn table columnName).run s = .ok (column, s')) :
    getColumn table columnName = .ok column ∧ s' = { s with log := s.log ++ [.addColumn column] } := by
  obtain ⟨column', hget, h₁⟩ := dieIfError_bind_run_ok.1 h
  simp only [preGetColumn, StateT.run_bind, idlAddColumn_run, except_ok_bind, StateT.run_pure,
    except_pure_eq, Except.ok.injEq, Prod.mk.injEq] at h₁
  obtain ⟨rfl, rfl⟩ := h₁
  exact ⟨hget, rfl⟩

/-- The run pass reads the column of argument `arg` only if the pre-pass declared
it: the column the first token of `arg` names. -/
def ArgColumnDeclared (L : Lib) (table : CtlTableClass) (decls : List IdlOp) (arg : String) : Prop :=
  ∀ column rest, parseColumnName L arg table = .ok (column, rest) → .addColumn column ∈ decls

lemma ArgColumnDeclared.mono {L : Lib} {table : CtlTableClass} {decls decls' : List IdlOp} {arg : String}
    (hsub : decls ⊆ decls') (h : ArgColumnDeclared L table decls arg) : ArgColumnDeclared L table decls' arg :=
  fun column rest hc => hsub (h column rest hc)

lemma preParseColumnKeyValue_run_ok {L : Lib} {arg : String} {table : CtlTableClass} {s s' : Ctx}
    {column : Column} (h : (preParseColumnKeyValue L arg table).run s = .ok (column, s')) :
    ArgColumnDeclared L table [.addColumn column] arg ∧ s' = { s with log := s.log ++ [.addColumn column] } := by
  obtain ⟨⟨column', rest⟩, hparse, h₁⟩ := dieIfError_bind_run_ok.1 h
  simp only [StateT.run_bind, idlAddColumn_run, except_ok_bind, StateT.run_pure,
    except_pure_eq, Except.ok.injEq, Prod.mk.injEq] at h₁
  obtain ⟨rfl, rfl⟩ := h₁
  refine ⟨fun c r hc => ?_, rfl⟩
  rw [hparse, Except.ok.injEq, Prod.mk.injEq] at hc
  simp [hc.1]

lemma preParseArgs_run_ok {L : Lib} {table : CtlTableClass} {args : List String} {s s' : Ctx} {u : Unit}
    (h : (preParseArgs L table args).run s = .ok (u, s')) :
    ∃ l, s' = { s with log := s.log ++ l } ∧ ∀ arg ∈ args, ArgColumnDeclared L table l arg :=
  forM_declares (fun _ _ _ hsub h => h.mono hsub) (fun arg s s' u hr => by
    obtain ⟨column, s₁, h₁, h₂⟩ := bind_run_ok.1 hr
    obtain ⟨hd, rfl⟩ := preParseColumnKeyValue_run_ok h₁
    cases h₂
    exact ⟨_, rfl, hd⟩) args s s' u h

lemma preListColumns_run_ok {table : CtlTableClass} {columnNames : Option String} {s s' : Ctx} {u : Unit}
    (h : (preListColumns table columnNames).run s = .ok (u, s')) :
    ∃ columns l, parseColumnNames columnNames table = .ok columns ∧ s' = { s with log := s.log ++ l } ∧
      ∀ column, some column ∈ columns → .addColumn column ∈ l := by
  obtain ⟨columns, hparse, h₁⟩ := dieIfError_bind_run_ok.1 h
  obtain ⟨l, rfl, hl⟩ := forM_declares (Q := fun column l => ∀ c, column = some c → .addColumn c ∈ l)
    (fun _ _ _ hsub h c hc => hsub (h c hc))
    (fun column s s' u hr => by
      rw [optionElim_idlAddColumn_run, Except.ok.injEq, Prod.mk.injEq] at hr
      obtain ⟨-, rfl⟩ := hr
      exact ⟨_, rfl, fun c hc => by simp [hc]⟩) columns s s' u h₁
  exact ⟨columns, l, hparse, rfl, fun c hc => hl _ hc c rfl⟩


end DbCtlBase
