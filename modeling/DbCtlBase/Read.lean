import DbCtlBase.Row
import DbCtlBase.Condition

/-!
The commands that read the database: `get`, `list`, `find` and `wait-until`.

* `findRows_run_ok`: the row loop of `cmd_find` lists, in iteration order, exactly
  the rows that satisfy every condition, each condition read against the symbol
  table the command ends with.
* `allConditions_run_ok`: the condition loop of `cmd_find` and `cmd_wait_until`
  stops at the first condition that fails, and its result is whether all hold.
* `isConditionSatisfied_find_waitUntil`: a condition that parses makes
  `is_condition_satisfied` complete; on well-formed datums it holds exactly when its
  relation does, `find` lists the rows that satisfy all its
  conditions, and `wait-until` asks to try again unless its record resolves and
  every condition holds.
* `cmdList_spec`: `list` fails exactly when its table, its `--columns` or one of its
  records does not resolve, and otherwise shows, in order, the cells of the rows it
  names (every row of the table when it names none).
-/

namespace DbCtlBase

/-- `!strcasecmp (arg, "_uuid") || !strcasecmp (arg, "-uuid")` in `cmd_get`. -/
def isUuidArg (arg : String) : Bool := arg.toLower == "_uuid" || arg.toLower == "-uuid"

/-- One `COLUMN[:KEY]` argument of `cmd_get`: the row's UUID, the column's datum, or
the value at the key. -/
def getColumnValue (L : Lib) (table : CtlTableClass) (recordId : String) (row : Row)
    (mustExist : Bool) (arg : String) : CtlM Unit :=
  if isUuidArg arg then putOutput (L.uuidToString row.uuid ++ "\n")
  else do
    let (column, key, _) ← dieIfError (parseColumnKeyValueAux L arg table none false)
    txnVerify row column
    let datum ← idlRead row column
    match key with
    | some keyString =>
      if column.type.value.type = .void then
        ctlFatal ("cannot specify key to get for non-map column " ++ column.name)
      else do
        let key ← dieIfError (← ovsdbAtomFromString L column.type.key keyString)
        match datum.findKey key with
        | none =>
          if mustExist then
            ctlFatal ("no key \"" ++ keyString ++ "\" in " ++ table.cls.name ++ " record \"" ++
              recordId ++ "\" column " ++ column.name)
          else putOutput "\n"
        | some e => putOutput ((e.2.map (L.atomToString · column.type.value.type)).getD "" ++ "\n")
    | none => putOutput (L.datumToString datum column.type ++ "\n")

/-- The `--id` part of `cmd_get`: `@name`, new to the symbol table, now names `row`. -/
def getDefineId (id : Option String) (row : Row) : CtlM Unit :=
  match id with
  | none => pure ()
  | some id => do
    let (symbol, new) ← createSymbol id
    if !new then
      ctlFatal ("row id \"" ++ id ++ "\" specified on \"get\" command was used before it was defined")
    else putSymbol id { symbol with uuid := row.uuid, strongRef := true }

/-- `cmd_get`. -/
def cmdGet (L : Lib) (tables : List CtlTableClass) (args : CmdArgs) : CtlM Unit := do
  let id := args.optionValue "--id"
  let mustExist := !args.hasOption "--if-exists"
  if id.isSome && !mustExist then ctlFatal "--if-exists and --id may not be specified together"
  else do
    let table ← dieIfError (getTable tables (args.arg 1))
    match ← getRow L table (args.arg 2) mustExist with
    | none => pure ()
    | some row => do
      getDefineId id row
      (args.argv.drop 3).forM (getColumnValue L table (args.arg 2) row mustExist)

/-- `parse_column_names`: every column, after the UUID, when `--columns` is absent;
otherwise the listed ones, `_uuid` standing for the UUID. -/
def parseColumnNames (columnNames : Option String) (table : CtlTableClass) :
    Except String (List (Option Column)) :=
  match columnNames with
  | none => .ok (none :: table.cls.columns.map some)
  | some names =>
    let tokens := (names.split fun c => c = ',' ∨ c = ' ').filter (· ≠ "")
    match tokens.mapM fun name =>
        if name.toLower = "_uuid" then .ok none else (getColumn table name).map some with
    | .error e => .error e
    | .ok [] => .error "must specify at least one column name"
    | .ok columns => .ok columns

/-- `list_make_table`: a heading per column. -/
def listMakeTable (columns : List (Option Column)) : OutTable :=
  ⟨columns.map (·.elim "_uuid" (·.name)), []⟩

/-- `ovsdb_type_uuid`. -/
def ovsdbTypeUuid : OvsdbType := ⟨⟨.uuid, none⟩, ⟨.void, none⟩, 1, 1⟩

/-- The cells of `list_record`. -/
def listCells (row : Row) : List (Option Column) → CtlM (List Cell)
  | [] => pure []
  | none :: columns => do
    return ⟨⟨[(.uuid row.uuid, none)]⟩, ovsdbTypeUuid⟩ :: (← listCells row columns)
  | some column :: columns => do
    let datum ← idlRead row column
    return ⟨datum, column.type⟩ :: (← listCells row columns)

/-- `table_add_row` with its cells. -/
def addTableRow (cells : List Cell) : CtlM Unit :=
  modify fun s => { s with table := s.table.map fun t => { t with rows := t.rows ++ [cells] } }

/-- `list_record`. -/
def listRecord (row : Option Row) (columns : List (Option Column)) : CtlM Unit :=
  match row with
  | none => pure ()
  | some row => do addTableRow (← listCells row columns)

/-- `ctx->table = list_make_table (...)`. -/
def setTable (out : OutTable) : CtlM Unit := modify fun s => { s with table := some out }

/-- `cmd_list`. -/
def cmdList (L : Lib) (tables : List CtlTableClass) (args : CmdArgs) : CtlM Unit := do
  let mustExist := !args.hasOption "--if-exists"
  let table ← dieIfError (getTable tables (args.arg 1))
  let columns ← dieIfError (parseColumnNames (args.optionValue "--columns") table)
  setTable (listMakeTable columns)
  if args.argv.length > 2 then
    (args.argv.drop 2).forM fun recordId => do
      listRecord (← getRow L table recordId mustExist) columns
  else (← idlRows table.cls).forM fun row => listRecord (some row) columns

/-- The condition loop of `cmd_find` and `cmd_wait_until`: whether every condition
holds, stopping at the first that does not. -/
def allConditions (L : Lib) (table : CtlTableClass) (row : Row) : List String → CtlM Bool
  | [] => pure true
  | arg :: args => do
    if ← isConditionSatisfied L table row arg then allConditions L table row args else pure false

/-- The body of the row loop of `cmd_find`. -/
def findRow (L : Lib) (table : CtlTableClass) (conditions : List String)
    (columns : List (Option Column)) (row : Row) : CtlM Unit := do
  if ← allConditions L table row conditions then listRecord (some row) columns

/-- `cmd_find`. -/
def cmdFind (L : Lib) (tables : List CtlTableClass) (args : CmdArgs) : CtlM Unit := do
  let table ← dieIfError (getTable tables (args.arg 1))
  let columns ← dieIfError (parseColumnNames (args.optionValue "--columns") table)
  setTable (listMakeTable columns)
  (← idlRows table.cls).forM (findRow L table (args.argv.drop 2) columns)

/-- `cmd_wait_until`. -/
def cmdWaitUntil (L : Lib) (tables : List CtlTableClass) (args : CmdArgs) : CtlM Unit := do
  let table ← dieIfError (getTable tables (args.arg 1))
  match ← getRow L table (args.arg 2) false with
  | none => setTryAgain
  | some row => if ← allConditions L table row (args.argv.drop 3) then pure () else setTryAgain

/-! ### `find` and `wait-until` -/

/-- The cells `list_record` builds for `row`: its UUID or the datum of each column. -/
def cellsOf (idl : Idl) (row : Row) (columns : List (Option Column)) : List Cell :=
  columns.map fun
    | none => ⟨⟨[(.uuid row.uuid, none)]⟩, ovsdbTypeUuid⟩
    | some column => ⟨idl.data row.uuid column, column.type⟩

lemma listCells_readsAs {P : IdlOp → Prop} (row : Row) :
    ∀ columns : List (Option Column), (∀ column, some column ∈ columns → P (.read row column)) →
      ReadsAs P (listCells row columns) fun idl => .ok (cellsOf idl row columns)
  | [], _ => ReadsAs.pure _
  | none :: columns, h =>
    (ReadsAs.bind (listCells_readsAs row columns fun c hc => h c (List.mem_cons_of_mem _ hc))
      fun _ => ReadsAs.pure _).congr fun _ => rfl
  | some column :: columns, h =>
    (ReadsAs.bind (readsAs_idlRead (h column (List.mem_cons_self _ _))) fun datum =>
      ReadsAs.bind (listCells_readsAs row columns fun c hc => h c (List.mem_cons_of_mem _ hc))
        fun cells => ReadsAs.pure (Cell.mk datum column.type :: cells)).congr fun _ => rfl

/-- `list_record` of a row appends its cells to the output table, and changes
nothing else but the log. -/
lemma listRecord_run_ok {row : Row} {columns : List (Option Column)} {s s' : Ctx} {u : Unit}
    (h : (listRecord (some row) columns).run s = .ok (u, s')) :
    s' = { s with
      table := s.table.map (fun t => { t with rows := t.rows ++ [cellsOf s.idl row columns] }),
      log := s'.log } := by
  obtain ⟨cells, s₁, h₁, h₂⟩ := bind_run_ok.1 h
  obtain ⟨l, -, hl⟩ := listCells_readsAs (P := fun _ => True) row columns (fun _ _ => trivial) s
  rw [hl] at h₁
  obtain ⟨rfl, rfl⟩ := Prod.mk.inj (Except.ok.inj h₁)
  cases (Prod.mk.inj (Except.ok.inj h₂)).2
  rfl

/-- The condition loop: only symbols are added, and the result is whether every
condition holds of the row, each read against any later symbol table. -/
lemma allConditions_run_ok {L : Lib} (hL : L.Local) (hwf : L.WellFormedDatums) {table : CtlTableClass}
    {row : Row} : ∀ {conditions : List String} {s s' : Ctx} {b : Bool},
      (allConditions L table row conditions).run s = .ok (b, s') → s.idl.WellFormed →
      SymbolsOnly s s' ∧ ∀ st, s'.symtab ≤ st →
        b = conditions.all (satisfiesCondition L table s.idl st row)
  | [], s, s', b, h, _ => by
    obtain ⟨rfl, rfl⟩ := Prod.mk.inj (Except.ok.inj h)
    exact ⟨refl_of SymbolsOnly s, fun _ _ => rfl⟩
  | arg :: conditions, s, s', b, h, hidl => by
    obtain ⟨c, s₁, h₁, h₂⟩ := bind_run_ok.1 h
    obtain ⟨hs₁, hc⟩ := isConditionSatisfied_run_ok hL h₁
    have hsat : ∀ st, s₁.symtab ≤ st → c = satisfiesCondition L table s.idl st row arg := fun st hst => by
      obtain ⟨cond, hp, rfl⟩ := hc st hst
      exact checkCondition_eq_satisfiesCondition hwf hidl hp
    cases c
    · obtain ⟨rfl, rfl⟩ := Prod.mk.inj (Except.ok.inj h₂)
      exact ⟨hs₁, fun st hst => by simp [← hsat st hst]⟩
    · obtain ⟨hs₂, hrest⟩ := allConditions_run_ok hL hwf h₂ (hs₁.idl ▸ hidl)
      refine ⟨trans_of SymbolsOnly hs₁ hs₂, fun st hst => ?_⟩
      rw [List.all_cons, ← hsat st (hs₂.symtab.trans hst), hrest st hst, hs₁.idl]
      rfl

/-- The row loop of `cmd_find` lists, in order, the rows that satisfy every
condition, read against the symbol table it ends with. -/
lemma findRows_run_ok {L : Lib} (hL : L.Local) (hwf : L.WellFormedDatums) {table : CtlTableClass}
    {conditions : List String} {columns : List (Option Column)} :
    ∀ {rows : List Row} {s s' : Ctx} {u : Unit},
      (rows.forM (findRow L table conditions columns)).run s = .ok (u, s') → s.idl.WellFormed →
      s'.idl = s.idl ∧ s.symtab ≤ s'.symtab ∧ s'.tryAgain = s.tryAgain ∧
        s'.table = s.table.map fun t => { t with rows := t.rows ++
          ((rows.filter fun r => conditions.all (satisfiesCondition L table s.idl s'.symtab r)).map
            (cellsOf s.idl · columns)) }
  | [], s, s', u, h, _ => by
    cases (Prod.mk.inj (Except.ok.inj h)).2
    exact ⟨rfl, le_rfl, rfl, by cases s.table <;> simp⟩
  | row :: rows, s, s', u, h, hidl => by
    obtain ⟨u₁, s₂, h₁, h₂⟩ := bind_run_ok.1 h
    obtain ⟨b, s₁, hb, h₁'⟩ := bind_run_ok.1 h₁
    obtain ⟨hs₁, hall⟩ := allConditions_run_ok hL hwf hb hidl
    have hmid : s₂.idl = s.idl ∧ s₁.symtab ≤ s₂.symtab ∧ s₂.tryAgain = s.tryAgain ∧
        s₂.table = s.table.map fun t => { t with rows := t.rows ++
          if b then [cellsOf s.idl row columns] else [] } := by
      cases b
      · cases (Prod.mk.inj (Except.ok.inj h₁')).2
        exact ⟨hs₁.idl, le_rfl, hs₁.tryAgain, by rw [hs₁.table]; cases s.table <;> simp⟩
      · rw [listRecord_run_ok h₁']
        exact ⟨hs₁.idl, le_rfl, hs₁.tryAgain, by simp [hs₁.idl, hs₁.table]⟩
    obtain ⟨hidl₂, hsym₂, htry₂, htab₂⟩ := hmid
    obtain ⟨hidl', hsym', htry', htab'⟩ := findRows_run_ok hL hwf h₂ (hidl₂ ▸ hidl)
    refine ⟨hidl'.trans hidl₂, hs₁.symtab.trans (hsym₂.trans hsym'), htry'.trans htry₂, ?_⟩
    rw [htab', htab₂, hidl₂]
    have hb := hall s'.symtab (hsym₂.trans hsym')
    cases s.table <;> cases b <;> simp [List.filter_cons, ← hb]

@[simp] lemma setTable_run (out : OutTable) (s : Ctx) :
    (setTable out).run s = .ok ((), { s with table := some out }) := rfl

/-- On well-formed datums, with parsers that read the symbol table only at the names
they reference, `is_condition_satisfied` completes on a condition that parses against
every symbol table the run may reach, and holds exactly when the parsed condition's
relation holds of the row's datum (`ConditionHolds`); `find` lists, in iteration
order, exactly the rows that satisfy every condition; and `wait-until` leaves
`try_again` clear exactly when its record resolves and every condition holds. The
conditions are read against the symbol table the command ends with, which agrees
on their names with the one each was parsed against. -/
theorem isConditionSatisfied_find_waitUntil (L : Lib) (hL : L.Local) (hwf : L.WellFormedDatums)
    (tables : List CtlTableClass) (args : CmdArgs) (s s' : Ctx) (hidl : s.idl.WellFormed) :
    (∀ table row arg, (∀ st, s.symtab ≤ st → ∃ c, parseCondition L table st arg = .ok c) →
      ∃ b s'', (isConditionSatisfied L table row arg).run s = .ok (b, s'')) ∧
    (∀ table row arg b, (isConditionSatisfied L table row arg).run s = .ok (b, s') →
      ∃ c, parseCondition L table s'.symtab arg = .ok c ∧
        (b = true ↔ ConditionHolds (s.idl.data row.uuid c.column) c.key c.literal c.type c.op)) ∧
    ((cmdFind L tables args).run s = .ok ((), s') →
      ∃ table columns, getTable tables (args.arg 1) = .ok table ∧
        parseColumnNames (args.optionValue "--columns") table = .ok columns ∧
        s'.table = some ⟨(listMakeTable columns).columns,
          ((s.idl.rowsOf table.cls).filter fun r =>
            (args.argv.drop 2).all (satisfiesCondition L table s.idl s'.symtab r)).map
            (cellsOf s.idl · columns)⟩) ∧
    ((cmdWaitUntil L tables args).run s = .ok ((), s') →
      ∃ table, getTable tables (args.arg 1) = .ok table ∧
        (s'.tryAgain = false ↔ s.tryAgain = false ∧ ∃ row,
          getRowSpec L s.idl table (args.arg 2) false = .ok (some row) ∧
          ∀ arg ∈ args.argv.drop 3, satisfiesCondition L table s.idl s'.symtab row arg = true)) := by
  refine ⟨fun _ _ _ hparse => isConditionSatisfied_run_exists hL hparse, fun table row arg b h => ?_,
    fun h => ?_, fun h => ?_⟩
  · obtain ⟨c, hp, rfl⟩ := (isConditionSatisfied_run_ok hL h).2 s'.symtab le_rfl
    rw [checkCondition_eq_satisfiesCondition hwf hidl hp, satisfiesCondition, hp, decide_eq_true_iff]
    exact ⟨c, rfl, Iff.rfl⟩
  · obtain ⟨table, hT, h₁⟩ := dieIfError_bind_run_ok.1 h
    obtain ⟨columns, hC, h₂⟩ := dieIfError_bind_run_ok.1 h₁
    obtain ⟨_, s₁, h₃, h₄⟩ := bind_run_ok.1 h₂
    obtain ⟨rows, s₂, h₅, h₆⟩ := bind_run_ok.1 h₄
    cases (Prod.mk.inj (Except.ok.inj h₃)).2
    obtain ⟨rfl, rfl⟩ := Prod.mk.inj (Except.ok.inj h₅)
    obtain ⟨-, -, -, htab⟩ := findRows_run_ok hL hwf h₆ hidl
    exact ⟨table, columns, hT, hC, by simpa [listMakeTable, Idl.rowsOf] using htab⟩
  · obtain ⟨table, hT, h₁⟩ := dieIfError_bind_run_ok.1 h
    refine ⟨table, hT, ?_⟩
    obtain ⟨row, s₁, h₂, h₃⟩ := bind_run_ok.1 h₁
    obtain ⟨l, -, hl⟩ := getRow_readsAs (P := fun _ => True) table (args.arg 2) L false
      ⟨trivial, fun _ _ _ _ => trivial, fun _ _ _ _ _ => trivial, fun _ _ _ _ _ => ⟨trivial, trivial⟩⟩ s
    rw [hl] at h₂
    rcases hspec : getRowSpec L s.idl table (args.arg 2) false with e | _ | row <;>
      simp only [hspec, Except.map, reduceCtorEq, Except.ok.injEq, Prod.mk.injEq] at h₂ <;>
      obtain ⟨rfl, rfl⟩ := h₂
    · cases (Prod.mk.inj (Except.ok.inj h₃)).2
      simp
    · obtain ⟨b, s₂, h₄, h₅⟩ := bind_run_ok.1 h₃
      obtain ⟨hs₂, hall⟩ := allConditions_run_ok hL hwf h₄ hidl
      cases b
      · cases (Prod.mk.inj (Except.ok.inj h₅)).2
        refine iff_of_false (by simp) fun ⟨_, row', hrow, hsat⟩ => ?_
        cases hrow
        simpa [List.all_eq_true.2 hsat] using hall _ le_rfl
      · cases (Prod.mk.inj (Except.ok.inj h₅)).2
        have hsat : ∀ arg ∈ args.argv.drop 3, satisfiesCondition L table s.idl s'.symtab row arg = true :=
          List.all_eq_true.1 (hall _ le_rfl).symm
        simpa [hs₂.tryAgain] using fun _ : s.tryAgain = false => hsat

theorem isConditionSatisfied_find_waitUntil_hostCtx :
    (∃ b s', (isConditionSatisfied hostLib hostCtlTable hostRow "tags\x7b>=\x7dx").run hostCtx = .ok (b, s') ∧
      ∃ c, parseCondition hostLib hostCtlTable s'.symtab "tags\x7b>=\x7dx" = .ok c ∧
        (b = true ↔ ConditionHolds (hostCtx.idl.data hostRow.uuid c.column) c.key c.literal c.type c.op)) ∧
    (∃ s', (cmdFind hostLib hostTables ⟨[], ["find", "Port", "serial=2"]⟩).run hostCtx = .ok ((), s') ∧
      ∃ table columns, getTable hostTables "Port" = .ok table ∧ parseColumnNames none table = .ok columns ∧
        s'.table = some ⟨(listMakeTable columns).columns,
          ((hostCtx.idl.rowsOf table.cls).filter fun r =>
            ["serial=2"].all (satisfiesCondition hostLib table hostCtx.idl s'.symtab r)).map
            (cellsOf hostCtx.idl · columns)⟩) ∧
    (∃ s', (cmdWaitUntil hostLib hostTables ⟨[], ["wait-until", "Host", ".", "tags\x7b>=\x7dx", "C:a=1"]⟩).run
        hostCtx = .ok ((), s') ∧ ∃ table, getTable hostTables "Host" = .ok table ∧
      (s'.tryAgain = false ↔ hostCtx.tryAgain = false ∧ ∃ row,
        getRowSpec hostLib hostCtx.idl table "." false = .ok (some row) ∧
        ∀ arg ∈ ["tags\x7b>=\x7dx", "C:a=1"], satisfiesCondition hostLib table hostCtx.idl s'.symtab row arg = true)) :=
  have hspec := fun s' => isConditionSatisfied_find_waitUntil hostLib hostLib_local hostLib_wellFormedDatums
    hostTables ⟨[], ["wait-until", "Host", ".", "tags\x7b>=\x7dx", "C:a=1"]⟩ hostCtx s' hostCtx_wellFormed
  have ⟨b, s', h⟩ := (hspec hostCtx).1 hostCtlTable hostRow "tags\x7b>=\x7dx" fun _ _ => ⟨_, rfl⟩
  ⟨⟨b, s', h, (hspec s').2.1 _ _ _ _ h⟩,
    ⟨_, rfl, (isConditionSatisfied_find_waitUntil hostLib hostLib_local hostLib_wellFormedDatums hostTables
      ⟨[], ["find", "Port", "serial=2"]⟩ hostCtx _ hostCtx_wellFormed).2.2.1 rfl⟩,
    ⟨_, rfl, (hspec _).2.2.2 rfl⟩⟩

/-! ### `cmd_list` -/

/-- `list_record` of a row appends the row's cells, as the IDL has them, to the output
table. -/
lemma listRecord_run (row : Row) (columns : List (Option Column)) (s : Ctx) :
    ∃ l, (listRecord (some row) columns).run s = .ok ((), { s with
      table := s.table.map fun t => { t with rows := t.rows ++ [cellsOf s.idl row columns] },
      log := s.log ++ l }) := by
  obtain ⟨l, -, hl⟩ := listCells_readsAs (P := fun _ => True) row columns (fun _ _ => trivial) s
  exact ⟨l, by simp only [listRecord, StateT.run_bind, hl]; rfl⟩

/-- The loop of `cmd_list` over every row of the table. -/
lemma listRows_run (columns : List (Option Column)) : ∀ (rows : List Row) (s : Ctx), ∃ l,
    (rows.forM fun row => listRecord (some row) columns).run s = .ok ((), { s with
      table := s.table.map fun t => { t with rows := t.rows ++ rows.map (cellsOf s.idl · columns) },
      log := s.log ++ l })
  | [], s => ⟨[], by rcases s with ⟨_, _, _, _ | t, _, _, _⟩ <;> simp⟩
  | row :: rows, s => by
    obtain ⟨l₁, h₁⟩ := listRecord_run row columns s
    obtain ⟨l₂, h₂⟩ := listRows_run columns rows
      { s with table := s.table.map fun t => { t with rows := t.rows ++ [cellsOf s.idl row columns] },
               log := s.log ++ l₁ }
    refine ⟨l₁ ++ l₂, ?_⟩
    rw [List.forM_cons', StateT.run_bind, h₁, except_ok_bind, h₂]
    cases h : s.table <;> simp [h]

@[simp] lemma listRecord_none_run (columns : List (Option Column)) (s : Ctx) :
    (listRecord none columns).run s = .ok ((), s) := rfl

/-- The loop of `cmd_list` over the records named: it fails with the first lookup that
does, and otherwise appends, in order, the cells of the rows the records name, skipping
those that name none. -/
lemma listRecords_run (L : Lib) (table : CtlTableClass) (columns : List (Option Column)) (mustExist : Bool) :
    ∀ (recordIds : List String) (s : Ctx), ∃ l,
      (recordIds.forM fun recordId => do listRecord (← getRow L table recordId mustExist) columns).run s =
        (recordIds.mapM fun recordId => getRowSpec L s.idl table recordId mustExist).map fun found =>
          ((), { s with
            table := s.table.map fun t => { t with rows := t.rows ++ (found.filterMap id).map (cellsOf s.idl · columns) },
            log := s.log ++ l })
  | [], s => ⟨[], by
      rw [List.mapM_nil]
      rcases s with ⟨_, _, _, _ | t, _, _, _⟩ <;> simp [Except.map, pure, Except.pure] <;> rfl⟩
  | recordId :: recordIds, s => by
    obtain ⟨l₁, -, h₁⟩ := getRow_readsAs table recordId L mustExist (rowIdOps_true table) s
    have hget : (getRow L table recordId mustExist).run s =
        (getRowSpec L s.idl table recordId mustExist).map fun a => (a, { s with log := s.log ++ l₁ }) := h₁
    rw [List.forM_cons', StateT.run_bind, StateT.run_bind, hget, List.mapM_cons]
    rcases hspec : getRowSpec L s.idl table recordId mustExist with e | _ | row
    · exact ⟨[], rfl⟩
    · obtain ⟨l₂, h₂⟩ := listRecords_run L table columns mustExist recordIds { s with log := s.log ++ l₁ }
      refine ⟨l₁ ++ l₂, ?_⟩
      dsimp only at h₂
      simp only [Except.map, except_ok_bind, listRecord_none_run]
      rw [h₂]
      rcases List.mapM (fun recordId => getRowSpec L s.idl table recordId mustExist) recordIds with e' | found
      · rfl
      · simp [Except.map, pure, Except.pure]
    · obtain ⟨l₂, h₂⟩ := listRecord_run row columns { s with log := s.log ++ l₁ }
      obtain ⟨l₃, h₃⟩ := listRecords_run L table columns mustExist recordIds
        { s with table := s.table.map fun t => { t with rows := t.rows ++ [cellsOf s.idl row columns] },
                 log := s.log ++ l₁ ++ l₂ }
      refine ⟨l₁ ++ l₂ ++ l₃, ?_⟩
      dsimp only at h₂ h₃
      simp only [Except.map, except_ok_bind]
      rw [h₂, except_ok_bind, h₃]
      rcases List.mapM (fun recordId => getRowSpec L s.idl table recordId mustExist) recordIds with e' | found
      · rfl
      · cases h : s.table <;> simp [h, Except.map, pure, Except.pure]

/-- The rows `list` shows, as the IDL `idl` has them: with records named, the rows they
name, in order, leaving out those that name none; otherwise every row of the table. -/
def listedRows (L : Lib) (idl : Idl) (table : CtlTableClass) (args : CmdArgs) : Except String (List Row) :=
  if args.argv.length > 2 then
    ((args.argv.drop 2).mapM fun recordId => getRowSpec L idl table recordId !(args.hasOption "--if-exists")).map
      (·.filterMap id)
  else .ok (idl.rowsOf table.cls)

/-- **`list` shows the rows it names**: `cmd_list` completes exactly when the table and the
`--columns` resolve and every record named resolves or, with `--if-exists`, names no row;
it then sets the output table to a heading per column and, in order, a row of cells for
each row `listedRows` gives (every row of the table when no record is named), with the
datums the view holds, and changes nothing else but the log. -/
theorem cmdList_spec (L : Lib) (tables : List CtlTableClass) (args : CmdArgs) (s : Ctx) :
    ∃ l, (cmdList L tables args).run s = (do
      let table ← getTable tables (args.arg 1)
      let columns ← parseColumnNames (args.optionValue "--columns") table
      let rows ← listedRows L s.idl table args
      pure ((), { s with table := some ⟨(listMakeTable columns).columns, rows.map (cellsOf s.idl · columns)⟩,
                         log := s.log ++ l })) := by
  rcases hT : getTable tables (args.arg 1) with e | table
  · exact ⟨[], by simp [cmdList, hT, StateT.run_bind]⟩
  rcases hC : parseColumnNames (args.optionValue "--columns") table with e | columns
  · exact ⟨[], by simp [cmdList, hT, hC, StateT.run_bind]⟩
  simp only [cmdList, hT, hC, dieIfError_ok, StateT.run_bind, StateT.run_pure, pure_bind, except_ok_bind,
    setTable_run]
  split_ifs with hlen
  · obtain ⟨l, h⟩ := listRecords_run L table columns (!args.hasOption "--if-exists")
      (args.argv.drop 2) { s with table := some (listMakeTable columns) }
    refine ⟨l, h.trans ?_⟩
    simp only [listedRows, hlen, if_true]
    rcases (args.argv.drop 2).mapM _ with e | found
    · rfl
    · rfl
  · obtain ⟨l, h⟩ := listRows_run columns (s.idl.rowsOf table.cls)
      { s with table := some (listMakeTable columns), log := s.log ++ [.iterate table.cls] }
    refine ⟨.iterate table.cls :: l, ?_⟩
    simp only [StateT.run_bind, idlRows_run, except_ok_bind]
    refine h.trans ?_
    simp [listedRows, hlen, listMakeTable]

end DbCtlBase
