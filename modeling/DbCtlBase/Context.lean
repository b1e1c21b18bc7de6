import DbCtlBase.Match

/-!
The state a command runs against (`struct ctl_context`) and the IDL operations it
performs. The IDL, the symbol table primitives and the datum parsers live outside
this repository; they enter as the small interfaces below.

* `Idl`: the cached rows in iteration order and the in-transaction datum of each
  row and column, writes included.
* `IdlOp`: every IDL call a command makes is appended to `Ctx.log`, so what a
  pre-pass declares and what a run pass touches can be compared.
* `Lib`: the lexer, `uuid_from_string` and the atom and datum parsers; a parser
  touches the symbol table only by inserting the `@name`s it reads.
* `CtlM`: a command reads and updates the context, or stops with the message
  `ctl_fatal` prints.
* `mapCtx`, `hostCtx`: contexts to evaluate commands on. `mapCtx` has one table of one
  row and a datum parser that rejects everything; `hostCtx` has a second table of two
  rows, a column that only a new row may set, columns that may not be empty, and a
  datum parser (`hostLib`) that reads lists of elements.
-/

namespace DbCtlBase

/-- A row of the IDL cache: its UUID and the name of its table class. -/
structure Row where
  uuid : Uuid
  table : String
  deriving DecidableEq, Repr

/-- The IDL as a transaction sees it: the cached rows in iteration order and the
current datum of every row and column, staged writes included. -/
structure Idl where
  rows : List Row
  data : Uuid → Column → Datum

/-- An IDL call: the declarations of a pre-pass (`ovsdb_idl_add_table`,
`ovsdb_idl_add_column`) and the accesses of a run pass. -/
inductive IdlOp where
  | addTable (table : TableClass)
  | addColumn (column : Column)
  /-- `ovsdb_idl_first_row` and `ovsdb_idl_next_row` over a table. -/
  | iterate (table : TableClass)
  /-- `ovsdb_idl_get_row_for_uuid` in a table. -/
  | lookup (table : TableClass)
  /-- `ovsdb_idl_read` or `ovsdb_idl_get`. -/
  | read (row : Row) (column : Column)
  | verify (row : Row) (column : Column)
  | write (row : Row) (column : Column) (datum : Datum)
  | insert (row : Row)
  | delete (row : Row)
  deriving DecidableEq, Repr

/-- Whether an IDL call writes a column. -/
def IdlOp.isWrite : IdlOp → Bool
  | .write .. => true
  | _ => false

/-- `struct ovsdb_symbol`. -/
structure OvsdbSymbol where
  uuid : Uuid
  created : Bool
  strongRef : Bool
  deriving DecidableEq, Repr

/-- `struct ovsdb_symbol_table`: symbols by name. -/
structure SymbolTable where
  symbols : List (String × OvsdbSymbol)
  deriving DecidableEq, Repr

/-- `ovsdb_symbol_table_get`. -/
def SymbolTable.get (st : SymbolTable) (name : String) : Option OvsdbSymbol :=
  st.symbols.lookup name

/-- The symbol table with `name` bound to `symbol`, in front of any older binding. -/
def SymbolTable.put (st : SymbolTable) (name : String) (symbol : OvsdbSymbol) : SymbolTable :=
  ⟨(name, symbol) :: st.symbols⟩

/-- A cell of the output table: the datum shown and its type. -/
structure Cell where
  datum : Datum
  type : OvsdbType
  deriving DecidableEq, Repr

/-- `struct table` of `table.h`: the headings and the rows of cells. -/
structure OutTable where
  columns : List String
  rows : List (List Cell)
  deriving DecidableEq, Repr

/-- `struct ctl_context` as the commands use it, with `nextUuid` standing for
`uuid_generate`, and the log of IDL calls. -/
structure Ctx where
  idl : Idl
  symtab : SymbolTable
  output : String
  table : Option OutTable
  tryAgain : Bool
  nextUuid : ℕ
  log : List IdlOp

/-- The collaborators in `ovsdb-data.c`, `ovsdb-idl.c` and `uuid.c` that
`db-ctl-base.c` calls: `ovsdb_token_parse`, `uuid_from_string`, the atom and datum
parsers with the `@name`s each reads (it inserts them into the symbol table before
it resolves them), the printers, and `ovsdb_idl_is_mutable`. -/
structure Lib where
  tokenParse : List Char → Except String (String × List Char)
  uuidFromString : String → Option Uuid
  atomFromString : BaseType → String → SymbolTable → Except String Atom
  datumFromString : OvsdbType → String → SymbolTable → Except String Datum
  atomRefs : BaseType → String → List String
  datumRefs : OvsdbType → String → List String
  uuidToString : Uuid → String
  atomToString : Atom → AtomicType → String
  datumToString : Datum → OvsdbType → String
  isMutable : Row → Column → Bool

/-- The parsers read the symbol table only at the `@name`s they reference. -/
structure Lib.Local (L : Lib) : Prop where
  atom : ∀ base str (st st' : SymbolTable), (∀ n ∈ L.atomRefs base str, st.get n = st'.get n) →
    L.atomFromString base str st = L.atomFromString base str st'
  datum : ∀ t str (st st' : SymbolTable), (∀ n ∈ L.datumRefs t str, st.get n = st'.get n) →
    L.datumFromString t str st = L.datumFromString t str st'

/-- The command line a command runs with (`ctx->options`, `ctx->argv`): the options,
each `--key` with its value or `none` when it has no `=`, and the arguments, the
verb first. -/
structure CmdArgs where
  options : List (String × Option String)
  argv : List String
  deriving DecidableEq, Repr

/-- `shash_find_data (&ctx->options, name)`. -/
def CmdArgs.optionValue (args : CmdArgs) (name : String) : Option String :=
  (args.options.lookup name).join

/-- `shash_find (&ctx->options, name) != NULL`. -/
def CmdArgs.hasOption (args : CmdArgs) (name : String) : Bool := (args.options.lookup name).isSome

/-- `ctx->argv[i]`; the syntax's `min_args` keeps `i` in range. -/
def CmdArgs.arg (args : CmdArgs) (i : ℕ) : String := args.argv.getD i ""

/-- A command's computation. -/
abbrev CtlM := StateT Ctx (Except String)

/-- `ctl_fatal`. -/
def ctlFatal {α : Type} (message : String) : CtlM α := throw message

/-- `die_if_error`. -/
def dieIfError {α : Type} : Except String α → CtlM α
  | .ok a => pure a
  | .error e => ctlFatal e

/-- Appends an IDL call to the log. -/
def logOp (op : IdlOp) : CtlM Unit := modify fun s => { s with log := s.log ++ [op] }

/-- `ovsdb_idl_first_row` and `ovsdb_idl_next_row`: the rows of `tc` in order. -/
def idlRows (tc : TableClass) : CtlM (List Row) := do
  logOp (.iterate tc)
  return (← get).idl.rows.filter (·.table = tc.name)

/-- `ovsdb_idl_get_row_for_uuid`. -/
def idlGetRowForUuid (tc : TableClass) (uuid : Uuid) : CtlM (Option Row) := do
  logOp (.lookup tc)
  return (← get).idl.rows.find? fun r => r.table = tc.name ∧ r.uuid = uuid

/-- `ovsdb_idl_read`. -/
def idlRead (row : Row) (column : Column) : CtlM Datum := do
  logOp (.read row column)
  return (← get).idl.data row.uuid column

/-- `ovsdb_idl_txn_verify`. -/
def txnVerify (row : Row) (column : Column) : CtlM Unit := logOp (.verify row column)

/-- The IDL after a write of `datum` to `column` of `row`. -/
def Idl.write (idl : Idl) (row : Row) (column : Column) (datum : Datum) : Idl :=
  { idl with data := fun u c => if u = row.uuid ∧ c = column then datum else idl.data u c }

/-- `ovsdb_idl_txn_write`: later reads in the transaction see `datum`. -/
def txnWrite (row : Row) (column : Column) (datum : Datum) : CtlM Unit := do
  logOp (.write row column datum)
  modify fun s => { s with idl := s.idl.write row column datum }

/-- `uuid_generate`. -/
def uuidGenerate : CtlM Uuid := do
  let s ← get
  set { s with nextUuid := s.nextUuid + 1 }
  return s.nextUuid

/-- `ovsdb_atom_init_default`. -/
def Atom.default : AtomicType → Atom
  | .integer => .integer 0
  | .boolean => .boolean false
  | .string => .string ""
  | .uuid => .uuid 0
  | .void => .integer 0

/-- `ovsdb_datum_init_default`: `n_min` default elements. -/
def Datum.default (t : OvsdbType) : Datum :=
  ⟨List.replicate t.nMin
    (Atom.default t.key.type, if t.isMap then some (Atom.default t.value.type) else none)⟩

/-- The IDL with `row` appended, its columns at their defaults. -/
def Idl.insert (idl : Idl) (row : Row) : Idl :=
  { rows := idl.rows ++ [row],
    data := fun u c => if u = row.uuid then Datum.default c.type else idl.data u c }

/-- `ovsdb_idl_txn_insert`: a new row of `tc`, with the given UUID or a fresh one,
whose columns hold their defaults. -/
def txnInsert (tc : TableClass) (uuid : Option Uuid) : CtlM Row := do
  let u ← uuid.elim uuidGenerate pure
  let row : Row := ⟨u, tc.name⟩
  logOp (.insert row)
  modify fun s => { s with idl := s.idl.insert row }
  return row

/-- `ovsdb_idl_txn_delete`: the row leaves the transaction's view. -/
def txnDelete (row : Row) : CtlM Unit := do
  logOp (.delete row)
  modify fun s => { s with idl.rows := s.idl.rows.filter (· ≠ row) }

/-- `ds_put_cstr (&ctx->output, str)`. -/
def putOutput (str : String) : CtlM Unit := modify fun s => { s with output := s.output ++ str }

/-- `ctx->try_again = true`. -/
def setTryAgain : CtlM Unit := modify fun s => { s with tryAgain := true }

/-- `ovsdb_idl_add_table`. -/
def idlAddTable (tc : TableClass) : CtlM Unit := logOp (.addTable tc)

/-- `ovsdb_idl_add_column`. -/
def idlAddColumn (column : Column) : CtlM Unit := logOp (.addColumn column)

/-- The symbol table with `symbol` stored under `name`. -/
def putSymbol (name : String) (symbol : OvsdbSymbol) : CtlM Unit :=
  modify fun s => { s with symtab := s.symtab.put name symbol }

/-- `ovsdb_symbol_table_insert`: the symbol named `name`, created with a fresh UUID
and both flags clear if there is none. -/
def symbolTableInsert (name : String) : CtlM OvsdbSymbol := do
  match (← get).symtab.get name with
  | some symbol => return symbol
  | none =>
    let symbol : OvsdbSymbol := ⟨← uuidGenerate, false, false⟩
    putSymbol name symbol
    return symbol

/-- Inserts each name into the symbol table. -/
def insertSymbols : List String → CtlM Unit
  | [] => pure ()
  | name :: names => do
    let _ ← symbolTableInsert name
    insertSymbols names

/-- `ovsdb_atom_from_string`. -/
def ovsdbAtomFromString (L : Lib) (base : BaseType) (s : String) : CtlM (Except String Atom) := do
  insertSymbols (L.atomRefs base s)
  return L.atomFromString base s (← get).symtab

/-- `ovsdb_datum_from_string`. -/
def ovsdbDatumFromString (L : Lib) (t : OvsdbType) (s : String) : CtlM (Except String Datum) := do
  insertSymbols (L.datumRefs t s)
  return L.datumFromString t s (← get).symtab

/-! ### Running the primitives -/

@[simp] lemma except_pure_eq {ε α : Type} (a : α) : (pure a : Except ε α) = .ok a := rfl

@[simp] lemma except_ok_bind {ε α β : Type} (a : α) (f : α → Except ε β) :
    (Except.ok a >>= f) = f a := rfl

@[simp] lemma except_error_bind {ε α β : Type} (e : ε) (f : α → Except ε β) :
    (Except.error e >>= f) = .error e := rfl

lemma except_bind_eq_ok {ε α β : Type} {x : Except ε α} {f : α → Except ε β} {b : β} :
    x >>= f = .ok b ↔ ∃ a, x = .ok a ∧ f a = .ok b := by
  cases x <;> simp [bind, Except.bind]

/-- A completed bind: its first computation completed, and the rest from there. -/
lemma bind_run_ok {α β : Type} {x : CtlM α} {f : α → CtlM β} {s : Ctx} {y : β × Ctx} :
    (x >>= f).run s = .ok y ↔ ∃ a s₁, x.run s = .ok (a, s₁) ∧ (f a).run s₁ = .ok y := by
  rw [StateT.run_bind, except_bind_eq_ok]
  exact ⟨fun ⟨⟨a, s₁⟩, h₁, h₂⟩ => ⟨a, s₁, h₁, h₂⟩, fun ⟨a, s₁, h₁, h₂⟩ => ⟨(a, s₁), h₁, h₂⟩⟩

@[simp] lemma ctlFatal_run {α : Type} (message : String) (s : Ctx) :
    (ctlFatal message : CtlM α).run s = .error message := rfl

@[simp] lemma dieIfError_ok {α : Type} (a : α) : dieIfError (.ok a : Except String α) = pure a := rfl

@[simp] lemma dieIfError_error {α : Type} (e : String) :
    dieIfError (.error e : Except String α) = ctlFatal e := rfl

lemma dieIfError_bind_run_ok {α β : Type} {r : Except String α} {f : α → CtlM β} {s : Ctx}
    {y : β × Ctx} : (dieIfError r >>= f).run s = .ok y ↔ ∃ a, r = .ok a ∧ (f a).run s = .ok y := by
  cases r
  · simp [dieIfError, StateT.run_bind]
  · simp only [dieIfError_ok, StateT.run_bind, StateT.run_pure, except_pure_eq, except_ok_bind]
    exact ⟨fun h => ⟨_, rfl, h⟩, fun ⟨_, h₁, h₂⟩ => by cases h₁; exact h₂⟩

@[simp] lemma logOp_run (op : IdlOp) (s : Ctx) :
    (logOp op).run s = .ok ((), { s with log := s.log ++ [op] }) := rfl

@[simp] lemma idlRows_run (tc : TableClass) (s : Ctx) :
    (idlRows tc).run s = .ok (s.idl.rows.filter (·.table = tc.name),
      { s with log := s.log ++ [.iterate tc] }) := rfl

@[simp] lemma idlGetRowForUuid_run (tc : TableClass) (uuid : Uuid) (s : Ctx) :
    (idlGetRowForUuid tc uuid).run s = .ok (s.idl.rows.find? fun r => r.table = tc.name ∧ r.uuid = uuid,
      { s with log := s.log ++ [.lookup tc] }) := rfl

@[simp] lemma idlRead_run (row : Row) (column : Column) (s : Ctx) :
    (idlRead row column).run s = .ok (s.idl.data row.uuid column,
      { s with log := s.log ++ [.read row column] }) := rfl

@[simp] lemma txnVerify_run (row : Row) (column : Column) (s : Ctx) :
    (txnVerify row column).run s = .ok ((), { s with log := s.log ++ [.verify row column] }) := rfl

@[simp] lemma txnWrite_run (row : Row) (column : Column) (datum : Datum) (s : Ctx) :
    (txnWrite row column datum).run s = .ok ((), { s with
      log := s.log ++ [.write row column datum], idl := s.idl.write row column datum }) := rfl

@[simp] lemma putOutput_run (str : String) (s : Ctx) :
    (putOutput str).run s = .ok ((), { s with output := s.output ++ str }) := rfl

@[simp] lemma setTryAgain_run (s : Ctx) : setTryAgain.run s = .ok ((), { s with tryAgain := true }) := rfl

@[simp] lemma idlAddTable_run (tc : TableClass) (s : Ctx) :
    (idlAddTable tc).run s = .ok ((), { s with log := s.log ++ [.addTable tc] }) := rfl

@[simp] lemma uuidGenerate_run (s : Ctx) :
    uuidGenerate.run s = .ok (s.nextUuid, { s with nextUuid := s.nextUuid + 1 }) := rfl

@[simp] lemma SymbolTable.get_put (st : SymbolTable) (name name' : String) (symbol : OvsdbSymbol) :
    (st.put name symbol).get name' = if name' = name then some symbol else st.get name' := by
  by_cases h : name' = name
  · subst h
    simp [SymbolTable.get, SymbolTable.put]
  · have hne : (name' == name) = false := by simpa using h
    simp [SymbolTable.get, SymbolTable.put, List.lookup_cons, h, hne]

@[simp] lemma putSymbol_run (name : String) (symbol : OvsdbSymbol) (s : Ctx) :
    (putSymbol name symbol).run s = .ok ((), { s with symtab := s.symtab.put name symbol }) := rfl

lemma symbolTableInsert_run (name : String) (s : Ctx) :
    (symbolTableInsert name).run s = match s.symtab.get name with
      | some symbol => .ok (symbol, s)
      | none => .ok (⟨s.nextUuid, false, false⟩, {
          s with nextUuid := s.nextUuid + 1, symtab := s.symtab.put name ⟨s.nextUuid, false, false⟩ }) := by
  cases h : s.symtab.get name <;> simp [symbolTableInsert, h]

@[simp] lemma idlAddColumn_run (column : Column) (s : Ctx) :
    (idlAddColumn column).run s = .ok ((), { s with log := s.log ++ [.addColumn column] }) := rfl

/-! ### A context to evaluate on -/

/-- A `Lib` whose lexer and parsers reject every input. -/
def rejectingLib : Lib where
  tokenParse _ := .error "syntax error"
  uuidFromString _ := none
  atomFromString _ _ _ := .error "syntax error"
  datumFromString _ _ _ := .error "syntax error"
  atomRefs _ _ := []
  datumRefs _ _ := []
  uuidToString _ := ""
  atomToString _ _ := ""
  datumToString _ _ := ""
  isMutable _ _ := true

/-- The context of a command on an empty database. -/
def emptyCtx : Ctx where
  idl := ⟨[], fun _ _ => Datum.empty⟩
  symtab := ⟨[]⟩
  output := ""
  table := none
  tryAgain := false
  nextUuid := 0
  log := []

/-- A `Lib` whose lexer reads up to the next delimiter of the `ovsdb_token_parse`
grammar, and whose atom parser reads strings as they stand and integers in decimal. -/
def simpleLib : Lib where
  tokenParse cs :=
    let delimiters := ":=, []\x7b\x7d!<>".toList
    .ok (String.mk (cs.takeWhile (· ∉ delimiters)), cs.dropWhile (· ∉ delimiters))
  uuidFromString _ := none
  atomFromString base str _ :=
    match base.type with
    | .string => .ok (.string str)
    | .integer =>
      if str.data.all Char.isDigit then .ok (.integer (str.data.foldl (fun n c => 10 * n + (c.toNat - 48)) 0))
      else .error "bad integer"
    | _ => .error "bad atom"
  datumFromString _ _ _ := .error "syntax error"
  atomRefs _ _ := []
  datumRefs _ _ := []
  uuidToString _ := ""
  atomToString _ _ := ""
  datumToString _ _ := ""
  isMutable _ _ := true

/-- A map column from strings to integers holding at most one pair. -/
def mapColumn : Column := ⟨"C", ⟨⟨.string, none⟩, ⟨.integer, none⟩, 0, 1⟩⟩

/-- A root table with the one column `mapColumn`. -/
def mapTable : TableClass := ⟨"T", true, [mapColumn]⟩

/-- `mapTable` with one row-id descriptor, which resolves `.` to its only row. -/
def mapCtlTable : CtlTableClass := ⟨mapTable, [⟨some mapTable, none, none⟩]⟩

/-- The one row of `mapTable`. -/
def mapRow : Row := ⟨7, "T"⟩

/-- A database whose one row maps `"a"` to `1`. -/
def mapCtx : Ctx :=
  { emptyCtx with idl := ⟨[mapRow], fun u c =>
      if u = mapRow.uuid ∧ c = mapColumn then ⟨[(.string "a", some (.integer 1))]⟩ else Datum.empty⟩ }


/-! ### A context with two tables -/

/-- A set of strings holding at least one. -/
def tagsColumn : Column := ⟨"tags", ⟨⟨.string, none⟩, ⟨.void, none⟩, 1, uintMax⟩⟩

/-- An integer holding exactly one value, which only a new row may set. -/
def serialColumn : Column := ⟨"serial", ⟨⟨.integer, none⟩, ⟨.void, none⟩, 1, 1⟩⟩

/-- A root table with the map column `C`, the tags and the serial number. -/
def hostTable : TableClass := ⟨"Host", true, [mapColumn, tagsColumn, serialColumn]⟩

/-- A table whose rows hold only a serial number. -/
def portTable : TableClass := ⟨"Port", false, [serialColumn]⟩

/-- `hostTable` with one row-id descriptor, which resolves `.` to its only row. -/
def hostCtlTable : CtlTableClass := ⟨hostTable, [⟨some hostTable, none, none⟩]⟩

/-- `portTable`, whose rows have no name. -/
def portCtlTable : CtlTableClass := ⟨portTable, []⟩

/-- The tables of `hostCtx`. -/
def hostTables : List CtlTableClass := [hostCtlTable, portCtlTable]

/-- The one row of `hostTable`. -/
def hostRow : Row := ⟨1, "Host"⟩

/-- The two rows of `portTable`. -/
def portRows : List Row := [⟨2, "Port"⟩, ⟨3, "Port"⟩]

/-- A datum parser for `hostLib`: the elements separated by commas, each `KEY=VALUE` for a
map, read by the atom parser of `simpleLib` and sorted; the keys must be distinct and at
least `n_min`. -/
def listDatumFromString (t : OvsdbType) (str : String) : Except String Datum := do
  let entries ← ((str.toList.splitOn ',').filter (· ≠ [])).mapM fun item =>
    if t.isMap then
      match item.splitOn '=' with
      | [k, v] => do
        let key ← simpleLib.atomFromString t.key (String.mk k) ⟨[]⟩
        let value ← simpleLib.atomFromString t.value (String.mk v) ⟨[]⟩
        pure (key, some value)
      | _ => .error (String.mk item ++ ": syntax error")
    else do
      let key ← simpleLib.atomFromString t.key (String.mk item) ⟨[]⟩
      pure (key, none)
  if (entries.map (·.1)).Nodup ∧ t.nMin ≤ entries.length then .ok ⟨Datum.sortEntries entries⟩
  else .error (str ++ ": duplicate keys or too few elements")

/-- `simpleLib` with the datum parser `listDatumFromString`, and with `serial` mutable
only in the rows created after `hostCtx`, as `ovsdb_idl_is_mutable` allows an immutable
column to be set on a new row. -/
def hostLib : Lib :=
  { simpleLib with
    datumFromString := fun t str _ => listDatumFromString t str
    isMutable := fun row column => column.name != "serial" || decide (4 ≤ row.uuid) }

/-- A host whose map `C` holds `a=1`, tagged `x`, with serial 1, and two ports with
serials 2 and 3; `uuid_generate` continues from 4. -/
def hostCtx : Ctx :=
  { emptyCtx with
    idl := ⟨hostRow :: portRows, fun u c =>
      if c = serialColumn ∧ u ∈ [1, 2, 3] then ⟨[(.integer u, none)]⟩
      else if u = 1 ∧ c = mapColumn then ⟨[(.string "a", some (.integer 1))]⟩
      else if u = 1 ∧ c = tagsColumn then ⟨[(.string "x", none)]⟩
      else Datum.empty⟩,
    nextUuid := 4 }

/-- The parsers of `hostLib` read no symbol. -/
lemma hostLib_local : hostLib.Local := ⟨fun _ _ _ _ _ => rfl, fun _ _ _ _ _ => rfl⟩

end DbCtlBase
