import DbCtlBase.Session
import Mathlib.Data.String.Basic

/-!
The read-only commands (`comment`, `get`, `list`, `find`, `wait-until`, `show`) and
`ctl_might_write_to_db`.

* `QuietPrims R`: what a read-only run pass is made of (output, the table, IDL reads that
  change nothing, the parsers and `get --id`) all move along `R`; then every read-only
  run pass but `wait-until` does (`QuietPrims.moves_cmdGet`, ..., `QuietPrims.moves_cmdShow`).
  `ReadPrims R` adds the `try_again` flag, and `wait-until` moves along it too
  (`ReadPrims.moves_cmdWaitUntil`).
* `Untouched`: the transaction's view of the database is unchanged, and the IDL calls
  logged write, insert and delete nothing. `readPrims_untouched` gives it to every
  read-only run pass.
* `runStream_untouched_of_not_mightWrite`: when `ctl_might_write_to_db` finds no
  read-write verb among the arguments, every command line `ctl_parse_commands`
  accepts runs without staging any change to the database.
* `QuietPrims.moves_getRow_bind`: after `get_row`, the continuation is needed only on a row
  of the view.
* `ifExists_missing_record_onlyReads`: with `--if-exists`, the verbs that name a record
  that does not exist complete having only read (`OnlyReads`).
* `cmdGet_spec`: `get` prints, for each of its `COLUMN[:KEY]` arguments in order, one line
  (`getLine`) read from the view, and changes the view in nothing.
-/

namespace DbCtlBase

/-- Whether an IDL call changes the database: a write, an insert or a delete. -/
def IdlOp.changesDb : IdlOp → Bool
  | .write .. => true
  | .insert _ => true
  | .delete _ => true
  | _ => false

/-- From `s` to `s'` the transaction's view of the database is as it was, and the IDL
calls appended to the log change nothing. -/
structure Untouched (s s' : Ctx) : Prop where
  idl : s'.idl = s.idl
  logs : Logs (fun op => op.changesDb = false) s s'

instance : IsRefl Ctx Untouched := ⟨fun s => ⟨rfl, refl_of _ s⟩⟩

instance : IsTrans Ctx Untouched :=
  ⟨fun _ _ _ h₁ h₂ => ⟨h₂.idl.trans h₁.idl, trans_of _ h₁.logs h₂.logs⟩⟩

/-- The parts of the read-only run passes other than `ctx->try_again = true`, each moving
along `R`. -/
structure QuietPrims (R : Ctx → Ctx → Prop) : Prop where
  putOutput : ∀ str, Moves R (putOutput str)
  setTable : ∀ out, Moves R (setTable out)
  addTableRow : ∀ cells, Moves R (addTableRow cells)
  reads : ∀ {α : Type} {x : CtlM α} {e : Idl → Except String α},
    ReadsAs (fun op => op.changesDb = false) x e → Moves R x
  atom : ∀ L base str, Moves R (ovsdbAtomFromString L base str)
  datum : ∀ L t str, Moves R (ovsdbDatumFromString L t str)
  /-- `get --id` binds its name to the row `get_row` found, a row of the view. -/
  defineId : ∀ id row s a s', row ∈ s.idl.rows → (getDefineId id row).run s = .ok (a, s') → R s s'

/-- The parts of the read-only run passes, each moving along `R`: those of `QuietPrims`,
and the `ctx->try_again = true` of `wait-until`. -/
structure ReadPrims (R : Ctx → Ctx → Prop) extends QuietPrims R : Prop where
  setTryAgain : Moves R setTryAgain

section QuietPrims

variable {R : Ctx → Ctx → Prop} (hR : QuietPrims R) (L : Lib)
include hR

lemma QuietPrims.moves_getRow (table : CtlTableClass) (recordId : String) (mustExist : Bool) :
    Moves R (getRow L table recordId mustExist) :=
  hR.reads (getRow_readsAs table recordId L mustExist
    ⟨rfl, fun _ _ _ _ => rfl, fun _ _ _ _ _ => rfl, fun _ _ _ _ _ => ⟨rfl, rfl⟩⟩)

lemma QuietPrims.moves_idlRead (row : Row) (column : Column) : Moves R (idlRead row column) :=
  hR.reads (readsAs_idlRead rfl)

lemma QuietPrims.moves_idlRows (tc : TableClass) : Moves R (idlRows tc) :=
  hR.reads (readsAs_idlRows rfl)

lemma QuietPrims.moves_idlGetRowForUuid (tc : TableClass) (uuid : Uuid) : Moves R (idlGetRowForUuid tc uuid) :=
  hR.reads (readsAs_idlGetRowForUuid uuid rfl)

variable [IsRefl Ctx R]

lemma QuietPrims.moves_showPlainColumn (column : Column) (datum : Datum) (level : ℕ) :
    Moves R (showPlainColumn L column datum level) := by
  unfold showPlainColumn
  split
  · exact hR.putOutput _
  · exact Moves.pure _

variable [IsTrans Ctx R]

omit [IsRefl Ctx R] in
/-- `get_row` followed by a step that needs the row it found in the view. -/
lemma QuietPrims.moves_getRow_bind {β : Type} (table : CtlTableClass) (recordId : String) (mustExist : Bool)
    {k : Option Row → CtlM β} (hnone : Moves R (k none))
    (hsome : ∀ row s a s', row ∈ s.idl.rows → (k (some row)).run s = .ok (a, s') → R s s') :
    Moves R (getRow L table recordId mustExist >>= k) := by
  intro s a s' h
  obtain ⟨row, s₁, h₁, h₂⟩ := bind_run_ok.1 h
  refine trans_of R (hR.moves_getRow L _ _ _ s row s₁ h₁) ?_
  rcases row with _ | row
  · exact hnone _ _ _ h₂
  · have hmem := getRow_run_mem h₁
    obtain ⟨-, l, -, rfl⟩ := getRow_run_ok h₁
    exact hsome row { s with log := s.log ++ l } _ _ hmem h₂

lemma QuietPrims.moves_getColumnValue (table : CtlTableClass) (recordId : String) (row : Row)
    (mustExist : Bool) (arg : String) : Moves R (getColumnValue L table recordId row mustExist arg) := by
  unfold getColumnValue
  split
  · exact hR.putOutput _
  refine Moves.bind (Moves.dieIfError _) fun ⟨column, key, _⟩ =>
    Moves.bind (hR.reads (readsAs_txnVerify rfl)) fun _ => Moves.bind (hR.moves_idlRead _ _) fun datum => ?_
  rcases key with _ | keyString
  · exact hR.putOutput _
  dsimp only
  split
  · exact Moves.ctlFatal _
  refine Moves.bind (hR.atom _ _ _) fun r => Moves.bind (Moves.dieIfError r) fun key => ?_
  rcases datum.findKey key with _ | e
  · dsimp only
    split
    · exact Moves.ctlFatal _
    · exact hR.putOutput _
  · exact hR.putOutput _

lemma QuietPrims.moves_cmdGet (tables : List CtlTableClass) (args : CmdArgs) : Moves R (cmdGet L tables args) := by
  unfold cmdGet
  dsimp only
  split
  · exact Moves.ctlFatal _
  refine Moves.bind (Moves.dieIfError _) fun table =>
    hR.moves_getRow_bind L _ _ _ (Moves.pure _) fun row s a s' hrow h => ?_
  obtain ⟨_, s₁, h₁, h₂⟩ := bind_run_ok.1 h
  exact trans_of R (hR.defineId _ row s _ _ hrow h₁)
    (Moves.forM _ (fun _ _ => hR.moves_getColumnValue L _ _ _ _ _) _ _ _ h₂)

lemma QuietPrims.moves_listRecord (row : Option Row) (columns : List (Option Column)) :
    Moves R (listRecord row columns) := by
  rcases row with _ | row
  · exact Moves.pure _
  · exact Moves.bind (hR.reads (listCells_readsAs row columns fun _ _ => rfl)) fun _ => hR.addTableRow _

lemma QuietPrims.moves_cmdList (tables : List CtlTableClass) (args : CmdArgs) : Moves R (cmdList L tables args) := by
  refine Moves.bind (Moves.dieIfError _) fun table => Moves.bind (Moves.dieIfError _) fun columns =>
    Moves.bind (hR.setTable _) fun _ => ?_
  split_ifs
  · exact Moves.forM _ fun _ _ => Moves.bind (hR.moves_getRow L _ _ _) fun _ => hR.moves_listRecord _ _
  · exact Moves.bind (hR.moves_idlRows _) fun _ => Moves.forM _ fun _ _ => hR.moves_listRecord _ _

lemma QuietPrims.moves_isConditionSatisfied (table : CtlTableClass) (row : Row) (arg : String) :
    Moves R (isConditionSatisfied L table row arg) := by
  refine Moves.bind (Moves.dieIfError _) fun ⟨column, key, v⟩ => ?_
  rcases v with _ | ⟨operator, value⟩
  · exact Moves.ctlFatal _
  dsimp only
  rcases relops[operator]? with _ | op
  · exact Moves.ctlFatal _
  refine Moves.bind (hR.moves_idlRead _ _) fun _ => ?_
  rcases key with _ | keyString
  · exact Moves.bind (hR.datum _ _ _) fun r => Moves.bind (Moves.dieIfError r) fun _ => Moves.pure _
  dsimp only
  split
  · exact Moves.ctlFatal _
  · exact Moves.bind (hR.atom _ _ _) fun r => Moves.bind (Moves.dieIfError r) fun _ =>
      Moves.bind (hR.datum _ _ _) fun r => Moves.bind (Moves.dieIfError r) fun _ => Moves.pure _

lemma QuietPrims.moves_allConditions (table : CtlTableClass) (row : Row) :
    ∀ conditions, Moves R (allConditions L table row conditions)
  | [] => Moves.pure _
  | _ :: args => Moves.bind (hR.moves_isConditionSatisfied L _ _ _) fun b => by
    cases b
    · exact Moves.pure _
    · exact moves_allConditions table row args

lemma QuietPrims.moves_cmdFind (tables : List CtlTableClass) (args : CmdArgs) : Moves R (cmdFind L tables args) :=
  Moves.bind (Moves.dieIfError _) fun _ => Moves.bind (Moves.dieIfError _) fun _ =>
    Moves.bind (hR.setTable _) fun _ => Moves.bind (hR.moves_idlRows _) fun _ =>
      Moves.forM _ fun _ _ => Moves.bind (hR.moves_allConditions L _ _ _) fun b => by
        cases b
        · exact Moves.pure _
        · exact (if_pos rfl).symm ▸ hR.moves_listRecord _ _

lemma QuietPrims.moves_cmdShowWeakRef (showTable : CmdShowTable) (curRow : Row) (level : ℕ) :
    Moves R (cmdShowWeakRef L showTable curRow level) := by
  unfold cmdShowWeakRef
  split
  · refine Moves.bind (hR.moves_idlRows _) fun _ => Moves.forM _ fun _ _ => Moves.bind (hR.moves_idlRead _ _) fun _ => ?_
    split
    · exact Moves.bind (hR.moves_idlRead _ _) fun _ => hR.putOutput _
    · exact Moves.pure _
  · exact Moves.pure _

lemma QuietPrims.moves_showRefRows {showRow : Row → ℕ → List String → CtlM (List String)}
    (h : ∀ row level shown, Moves R (showRow row level shown)) (refTable : TableClass) (level : ℕ) :
    ∀ keys shown, Moves R (showRefRows showRow refTable level keys shown)
  | [], _ => Moves.pure _
  | _ :: keys, shown => Moves.bind (hR.moves_idlGetRowForUuid _ _) fun refRow => by
    rcases refRow with _ | refRow
    · exact moves_showRefRows h refTable level keys shown
    · exact Moves.bind (h _ _ _) fun shown => moves_showRefRows h refTable level keys shown

lemma QuietPrims.moves_showRefMap (refShow : CmdShowTable) (nameColumn column : Column) (level : ℕ) :
    ∀ pairs, Moves R (showRefMap L refShow nameColumn column level pairs)
  | [] => Moves.pure _
  | _ :: pairs => Moves.bind (hR.moves_idlGetRowForUuid _ _) fun refRow =>
      Moves.bind (hR.putOutput _) fun _ => Moves.bind (by
        rcases refRow with _ | refRow
        · exact hR.putOutput _
        · exact Moves.bind (hR.moves_idlRead _ _) fun _ => hR.putOutput _) fun _ =>
        Moves.bind (hR.putOutput _) fun _ => moves_showRefMap refShow nameColumn column level pairs

lemma QuietPrims.moves_showColumns (showTables : List CmdShowTable)
    {showRow : Row → ℕ → List String → CtlM (List String)}
    (h : ∀ row level shown, Moves R (showRow row level shown)) (row : Row) (level : ℕ) :
    ∀ columns shown, Moves R (showColumns L showTables showRow row level columns shown)
  | [], _ => Moves.pure _
  | none :: _, _ => Moves.pure _
  | some column :: columns, shown => Moves.bind (hR.moves_idlRead _ _) fun datum => by
    have hrest := moves_showColumns showTables h row level columns
    have hplain := Moves.bind (hR.moves_showPlainColumn L column datum level) fun _ => hrest shown
    split
    · split
      · exact Moves.bind (hR.moves_showRefRows h _ _ _ _) hrest
      · exact hplain
    · split
      · exact Moves.bind (hR.putOutput _) fun _ => Moves.bind (hR.moves_showRefMap L _ _ _ _ _) fun _ => hrest shown
      · exact hplain
    · exact hplain

lemma QuietPrims.moves_cmdShowRow (showTables : List CmdShowTable) :
    ∀ fuel row level shown, Moves R (cmdShowRow L showTables fuel row level shown)
  | 0, _, _, _ => Moves.ctlFatal _
  | fuel + 1, row, level, shown => by
    refine Moves.bind (hR.putOutput _) fun _ => Moves.bind ?_ fun _ => Moves.bind (hR.putOutput _) fun _ => ?_
    · split
      · exact Moves.bind (hR.putOutput _) fun _ => Moves.bind (hR.moves_idlRead _ _) fun _ => hR.putOutput _
      · exact hR.putOutput _
    · split
      · exact Moves.pure _
      · split
        · exact Moves.pure _
        · refine Moves.bind (hR.moves_showColumns L showTables (moves_cmdShowRow showTables fuel) _ _ _ _) fun _ =>
            Moves.bind (hR.moves_cmdShowWeakRef L _ _ _) fun _ => ?_
          split
          · exact Moves.pure _
          · exact Moves.ctlFatal _

lemma QuietPrims.moves_cmdShow (showTables : List CmdShowTable) : Moves R (cmdShow L showTables) := by
  unfold cmdShow
  split
  · exact Moves.pure _
  refine Moves.bind (hR.moves_idlRows _) fun _ =>
    Moves.bind (Moves.foldlM (fun _ _ => hR.moves_cmdShowRow L _ _ _ _ _) _ _) fun shown => ?_
  split
  · exact Moves.pure _
  · exact Moves.ctlFatal _

end QuietPrims

/-- `wait-until`, the one read-only verb that sets `ctx->try_again`. -/
lemma ReadPrims.moves_cmdWaitUntil {R : Ctx → Ctx → Prop} [IsRefl Ctx R] [IsTrans Ctx R] (hR : ReadPrims R)
    (L : Lib) (tables : List CtlTableClass) (args : CmdArgs) : Moves R (cmdWaitUntil L tables args) :=
  Moves.bind (Moves.dieIfError _) fun _ => Moves.bind (hR.moves_getRow L _ _ _) fun row => by
    rcases row with _ | row
    · exact hR.setTryAgain
    · exact Moves.bind (hR.moves_allConditions L _ _ _) fun b => by
        cases b
        · exact hR.setTryAgain
        · exact Moves.pure _

/-! ### Nothing changes -/

lemma Untouched.of_eq {s s' : Ctx} (hidl : s'.idl = s.idl) (hlog : s'.log = s.log) : Untouched s s' :=
  ⟨hidl, Logs.of_log_eq hlog⟩

lemma moves_untouched_putSymbol (name : String) (symbol : OvsdbSymbol) :
    Moves Untouched (putSymbol name symbol) :=
  fun _ _ _ h => by cases h; exact Untouched.of_eq rfl rfl

lemma moves_untouched_symbolTableInsert (name : String) : Moves Untouched (symbolTableInsert name) :=
  fun s a s' h => ⟨(symbolTableInsert_run_ok h).1.idl, moves_logs_symbolTableInsert s a s' h⟩

lemma moves_untouched_createSymbol (id : String) : Moves Untouched (createSymbol id) := by
  unfold createSymbol
  split
  · exact Moves.ctlFatal _
  · refine Moves.bind Moves.get fun _ => Moves.bind (moves_untouched_symbolTableInsert _) fun symbol => ?_
    split
    · exact Moves.ctlFatal _
    · exact Moves.bind (moves_untouched_putSymbol _ _) fun _ => Moves.pure _

/-- `get --id` only binds a name in the symbol table. -/
lemma moves_untouched_getDefineId (id : Option String) (row : Row) : Moves Untouched (getDefineId id row) := by
  rcases id with _ | id
  · exact Moves.pure _
  · refine Moves.bind (moves_untouched_createSymbol _) fun _ => ?_
    dsimp only
    split
    · exact Moves.ctlFatal _
    · exact moves_untouched_putSymbol _ _

/-- `create --id` only binds a name in the symbol table. -/
lemma moves_untouched_createDefineId (table : CtlTableClass) (id : Option String) :
    Moves Untouched (createDefineId table id) := by
  rcases id with _ | id
  · exact Moves.pure _
  · refine Moves.bind (moves_untouched_createSymbol _) fun _ => Moves.bind ?_ fun _ => Moves.pure _
    split
    · exact moves_untouched_putSymbol _ _
    · exact Moves.pure _

/-! ### `--id` along any relation -/

section Symbols

variable {R : Ctx → Ctx → Prop} [IsRefl Ctx R] [IsTrans Ctx R]
  (hput : ∀ name symbol, Moves R (putSymbol name symbol)) (hinsert : ∀ name, Moves R (symbolTableInsert name))
include hput hinsert

/-- `create_symbol` moves along every relation its two symbol-table steps move along. -/
lemma moves_createSymbol_of (id : String) : Moves R (createSymbol id) := by
  unfold createSymbol
  split
  · exact Moves.ctlFatal _
  · refine Moves.bind Moves.get fun _ => Moves.bind (hinsert _) fun _ => ?_
    split
    · exact Moves.ctlFatal _
    · exact Moves.bind (hput _ _) fun _ => Moves.pure _

lemma moves_getDefineId_of (id : Option String) (row : Row) : Moves R (getDefineId id row) := by
  rcases id with _ | id
  · exact Moves.pure _
  · refine Moves.bind (moves_createSymbol_of hput hinsert _) fun _ => ?_
    dsimp only
    split
    · exact Moves.ctlFatal _
    · exact hput _ _

lemma moves_createDefineId_of (table : CtlTableClass) (id : Option String) :
    Moves R (createDefineId table id) := by
  rcases id with _ | id
  · exact Moves.pure _
  · refine Moves.bind (moves_createSymbol_of hput hinsert _) fun _ => Moves.bind ?_ fun _ => Moves.pure _
    split
    · exact hput _ _
    · exact Moves.pure _

end Symbols

/-- The parts of a read-only run pass leave the database untouched. -/
lemma readPrims_untouched : ReadPrims Untouched where
  putOutput _ _ _ _ h := by cases h; exact Untouched.of_eq rfl rfl
  setTable _ _ _ _ h := by cases h; exact Untouched.of_eq rfl rfl
  addTableRow _ _ _ _ h := by cases h; exact Untouched.of_eq rfl rfl
  setTryAgain _ _ _ h := by cases h; exact Untouched.of_eq rfl rfl
  reads h := h.moves fun _ l hl => ⟨rfl, l, rfl, hl⟩
  atom _ _ _ s a s' h := ⟨(moves_symbolsOnly_ovsdbAtomFromString s a s' h).idl,
    moves_logs_ovsdbAtomFromString s a s' h⟩
  datum _ _ _ s a s' h := ⟨(moves_symbolsOnly_ovsdbDatumFromString s a s' h).idl,
    moves_logs_ovsdbDatumFromString s a s' h⟩
  defineId id row s a s' _ h := moves_untouched_getDefineId id row s a s' h

/-- The verbs of the read-write commands of `db_ctl_commands`. -/
def rwVerbs : List String := (dbCtlCommands.filter (·.mode = .rw)).map (·.name)

/-- The run pass of a command whose verb is none of `rwVerbs` leaves the database
untouched: `comment`, `get`, `list`, `find`, `wait-until` and `show` read only, and the
verbs an embedding adds are not modelled. -/
lemma ctlCommandRun_untouched (L : Lib) (tables : List CtlTableClass) (showTables : List CmdShowTable)
    (command : CtlCommand) (hro : command.commandSyntax.name ∉ rwVerbs) :
    Moves Untouched (ctlCommandRun L tables showTables command) := by
  unfold ctlCommandRun
  split
  · exact readPrims_untouched.moves_cmdGet L tables _
  · exact readPrims_untouched.moves_cmdList L tables _
  · exact readPrims_untouched.moves_cmdFind L tables _
  · next h => exact absurd (by rw [h]; decide) hro
  · next h => exact absurd (by rw [h]; decide) hro
  · next h => exact absurd (by rw [h]; decide) hro
  · next h => exact absurd (by rw [h]; decide) hro
  · next h => exact absurd (by rw [h]; decide) hro
  · next h => exact absurd (by rw [h]; decide) hro
  · exact readPrims_untouched.moves_cmdWaitUntil L tables _
  · exact readPrims_untouched.moves_cmdShow L showTables
  · exact Moves.pure _

/-! ### `ctl_might_write_to_db` -/

/-- When `ctl_might_write_to_db` finds no read-write verb among the arguments, a
command whose verb is one of them has none of `rwVerbs` as its name, the commands of
`db_ctl_commands` being registered as `ctl_init` registers them. -/
lemma not_rw_of_ctlMightWriteToDb {commands : List CtlCommandSyntax} {argv : List String}
    (hreg : ∀ p ∈ dbCtlCommands, findCommand commands p.name = some p)
    (hro : ctlMightWriteToDb commands argv = false) {c : CtlCommandSyntax}
    (hc : ∃ verb ∈ argv, findCommand commands verb = some c) :
    c.name ∉ rwVerbs := by
  intro hmem
  obtain ⟨p, hp, hname⟩ := List.mem_map.1 hmem
  obtain ⟨hp, hmode⟩ := List.mem_filter.1 hp
  replace hmode := of_decide_eq_true hmode
  obtain ⟨verb, hv, hf⟩ := hc
  have hverb : c.name = verb := by
    unfold findCommand at hf
    simpa using List.find?_some hf
  have hcp : c = p := Option.some.inj (hf.symm.trans (hverb ▸ hname.symm ▸ hreg p hp))
  have : ctlMightWriteToDb commands argv = true :=
    List.any_eq_true.2 ⟨verb, hv, by simpa [hf, hcp] using hmode⟩
  exact absurd (hro.symm.trans this) Bool.false_ne_true

/-- `ctl_might_write_to_db` has no false negatives in what the commands do: when it
finds no read-write verb among the arguments, every command stream that
`ctl_parse_commands` makes of them runs without changing the transaction's view of
the database and without logging a write, an insert or a delete. -/
theorem runStream_untouched_of_not_mightWrite (L : Lib) (tables : List CtlTableClass)
    (showTables : List CmdShowTable) (commands : List CtlCommandSyntax) (argv : List String)
    (localOptions : List (String × Option String)) (cmds : List CtlCommand)
    (hreg : ∀ p ∈ dbCtlCommands, findCommand commands p.name = some p)
    (hro : ctlMightWriteToDb commands argv = false)
    (hparse : ctlParseCommands commands argv localOptions = .ok cmds) (s s' : Ctx)
    (hrun : (runStream L tables showTables cmds).run s = .ok ((), s')) :
    s'.idl = s.idl ∧ ∃ l, s'.log = s.log ++ l ∧ ∀ op ∈ l, op.changesDb = false := by
  have h := Moves.forM cmds (fun c hc => ctlCommandRun_untouched L tables showTables c
    (not_rw_of_ctlMightWriteToDb hreg hro (ctlParseCommands_ok hparse c hc))) s () s' hrun
  exact ⟨h.idl, h.logs⟩

theorem runStream_untouched_listGetFind :
    ∃ s', (runStream simpleLib [mapCtlTable] []
        [⟨⟨"list", 1, intMax, "--if-exists,--columns=", .ro⟩, ⟨[], ["list", "T"]⟩⟩,
          ⟨⟨"get", 2, intMax, "--if-exists,--id=", .ro⟩, ⟨[], ["get", "T", "."]⟩⟩,
          ⟨⟨"find", 1, intMax, "--columns=", .ro⟩, ⟨[], ["find", "T"]⟩⟩]).run mapCtx = .ok ((), s') ∧
      s'.idl = mapCtx.idl ∧ ∃ l, s'.log = mapCtx.log ++ l ∧ ∀ op ∈ l, op.changesDb = false :=
  ⟨_, rfl, runStream_untouched_of_not_mightWrite simpleLib [mapCtlTable] [] (dbCtlCommands ++ [showCommand])
    ["list", "T", "--", "get", "T", ".", "--", "find", "T"] [] _ (by decide) (by decide) rfl mapCtx _ rfl⟩

/-! ### `--if-exists` on a missing record -/

/-- `x` completes from `s` and changes nothing but the log, to which it appends only
IDL calls that change nothing. -/
def OnlyReads (x : CtlM Unit) (s : Ctx) : Prop :=
  ∃ l, x.run s = .ok ((), { s with log := s.log ++ l }) ∧ ∀ op ∈ l, op.changesDb = false

/-- `get_row` without `must_exist`, on a token that names no row, completes with
`NULL` after lookups only. -/
lemma getRow_run_none {L : Lib} {table : CtlTableClass} {recordId : String} {s : Ctx}
    (h : getRowSpec L s.idl table recordId false = .ok none) :
    ∃ l, (getRow L table recordId false).run s = .ok (none, { s with log := s.log ++ l }) ∧
      ∀ op ∈ l, op.changesDb = false := by
  obtain ⟨l, hl, hrun⟩ := getRow_readsAs (P := fun op => op.changesDb = false) table recordId L false
    ⟨rfl, fun _ _ _ _ => rfl, fun _ _ _ _ _ => rfl, fun _ _ _ _ _ => ⟨rfl, rfl⟩⟩ s
  exact ⟨l, by rw [hrun]; simp only [h]; rfl, hl⟩

section Missing

variable {L : Lib} {tables : List CtlTableClass} {args : CmdArgs} {s : Ctx} {table : CtlTableClass}
  (hif : args.hasOption "--if-exists" = true) (hT : getTable tables (args.arg 1) = .ok table)
include hif hT

lemma cmdSet_missing (hmiss : getRowSpec L s.idl table (args.arg 2) false = .ok none) :
    OnlyReads (cmdSet L tables args) s := by
  obtain ⟨l, hrow, hl⟩ := getRow_run_none hmiss
  refine ⟨l, ?_, hl⟩
  simp only [cmdSet, hif, hT, Bool.not_true, dieIfError_ok, pure_bind, StateT.run_bind, hrow, except_ok_bind]
  rfl

lemma cmdClear_missing (hmiss : getRowSpec L s.idl table (args.arg 2) false = .ok none) :
    OnlyReads (cmdClear L tables args) s := by
  obtain ⟨l, hrow, hl⟩ := getRow_run_none hmiss
  refine ⟨l, ?_, hl⟩
  simp only [cmdClear, hif, hT, Bool.not_true, dieIfError_ok, pure_bind, StateT.run_bind, hrow, except_ok_bind]
  rfl

lemma cmdGet_missing (hid : args.optionValue "--id" = none)
    (hmiss : getRowSpec L s.idl table (args.arg 2) false = .ok none) :
    OnlyReads (cmdGet L tables args) s := by
  obtain ⟨l, hrow, hl⟩ := getRow_run_none hmiss
  refine ⟨l, ?_, hl⟩
  simp only [cmdGet, hif, hid, hT, Bool.not_true, Option.isSome_none, Bool.false_and, dieIfError_ok,
    pure_bind, StateT.run_bind, hrow, except_ok_bind, if_false, Bool.false_eq_true]
  rfl

omit hif hT in
/-- The records loop of `cmd_destroy` over records that name no row, without
`must_exist`. -/
lemma forM_destroyRecord_missing : ∀ (records : List String) (s : Ctx),
    (∀ record ∈ records, getRowSpec L s.idl table record false = .ok none) →
      OnlyReads (records.forM (destroyRecord L table false)) s
  | [], s, _ => ⟨[], by simp, by simp⟩
  | record :: records, s, hmiss => by
    obtain ⟨l₁, hrow, hl₁⟩ := getRow_run_none (hmiss record (List.mem_cons_self _ _))
    obtain ⟨l₂, hrest, hl₂⟩ := forM_destroyRecord_missing records { s with log := s.log ++ l₁ }
      fun r hr => hmiss r (List.mem_cons_of_mem _ hr)
    refine ⟨l₁ ++ l₂, ?_, fun op hop => (List.mem_append.1 hop).elim (hl₁ op) (hl₂ op)⟩
    simp only [List.forM_cons', destroyRecord, StateT.run_bind, hrow, except_ok_bind]
    simpa using hrest

lemma cmdDestroy_missing (hall : args.hasOption "--all" = false)
    (hmiss : ∀ record ∈ args.argv.drop 2, getRowSpec L s.idl table record false = .ok none) :
    OnlyReads (cmdDestroy L tables args) s := by
  simpa [cmdDestroy, hif, hall, hT, StateT.run_bind] using forM_destroyRecord_missing _ s hmiss

variable {column : Column} (hC : getColumn table (args.arg 3) = .ok column)
include hC

lemma cmdAdd_missing (hmiss : getRowSpec L s.idl table (args.arg 2) false = .ok none) :
    OnlyReads (cmdAdd L tables args) s := by
  obtain ⟨l, hrow, hl⟩ := getRow_run_none hmiss
  refine ⟨l, ?_, hl⟩
  simp only [cmdAdd, hif, hT, hC, Bool.not_true, dieIfError_ok, pure_bind, StateT.run_bind, hrow,
    except_ok_bind]
  rfl

lemma cmdRemove_missing (hmiss : getRowSpec L s.idl table (args.arg 2) false = .ok none) :
    OnlyReads (cmdRemove L tables args) s := by
  obtain ⟨l, hrow, hl⟩ := getRow_run_none hmiss
  refine ⟨l, ?_, hl⟩
  simp only [cmdRemove, hif, hT, hC, Bool.not_true, dieIfError_ok, pure_bind, StateT.run_bind, hrow,
    except_ok_bind]
  rfl

end Missing

/-- With `--if-exists`, `get` without `--id`, `set`, `clear`, `add` and `remove` on a
record that names no row, and `destroy` without `--all` on records none of which names
a row, complete and change nothing: they log only the lookups of `get_row`, and they
parse none of their other arguments, which may be anything. `add` and `remove` first
resolve their column, which must exist. -/
theorem ifExists_missing_record_onlyReads (L : Lib) (tables : List CtlTableClass)
    (showTables : List CmdShowTable) (command : CtlCommand) (s : Ctx) (table : CtlTableClass)
    (hif : command.args.hasOption "--if-exists" = true)
    (hT : getTable tables (command.args.arg 1) = .ok table) :
    ((command.commandSyntax.name = "set" ∨ command.commandSyntax.name = "clear" ∨
        (command.commandSyntax.name = "get" ∧ command.args.optionValue "--id" = none) ∨
        ((command.commandSyntax.name = "add" ∨ command.commandSyntax.name = "remove") ∧
          ∃ column, getColumn table (command.args.arg 3) = .ok column)) →
      getRowSpec L s.idl table (command.args.arg 2) false = .ok none →
      OnlyReads (ctlCommandRun L tables showTables command) s) ∧
    (command.commandSyntax.name = "destroy" → command.args.hasOption "--all" = false →
      (∀ record ∈ command.args.argv.drop 2, getRowSpec L s.idl table record false = .ok none) →
      OnlyReads (ctlCommandRun L tables showTables command) s) := by
  refine ⟨fun hverb hmiss => ?_, fun hname hall hmiss => ?_⟩
  · rcases hverb with h | h | ⟨h, hid⟩ | ⟨h | h, column, hC⟩ <;> simp only [ctlCommandRun, h]
    · exact cmdSet_missing hif hT hmiss
    · exact cmdClear_missing hif hT hmiss
    · exact cmdGet_missing hif hT hid hmiss
    · exact cmdAdd_missing hif hT hC hmiss
    · exact cmdRemove_missing hif hT hC hmiss
  · simp only [ctlCommandRun, hname]
    exact cmdDestroy_missing hif hT hall hmiss

theorem ifExists_missing_record_onlyReads_set :
    OnlyReads (ctlCommandRun simpleLib [mapCtlTable] []
      ⟨⟨"set", 3, intMax, "--if-exists", .rw⟩, ⟨[("--if-exists", none)], ["set", "T", "x", "C=?"]⟩⟩) mapCtx :=
  (ifExists_missing_record_onlyReads simpleLib [mapCtlTable] []
    ⟨⟨"set", 3, intMax, "--if-exists", .rw⟩, ⟨[("--if-exists", none)], ["set", "T", "x", "C=?"]⟩⟩ mapCtx
    mapCtlTable rfl rfl).1 (.inl rfl) rfl

/-! ### What `get` prints -/

/-- The line `cmd_get` prints for one `COLUMN[:KEY]` argument on `row`, as the view `idl`
and the symbol table `st` have it, when the argument resolves: the row's UUID, the
column's datum, or the value at the key, empty when the key is absent. -/
def getLine (L : Lib) (idl : Idl) (st : SymbolTable) (table : CtlTableClass) (row : Row) (arg : String) : String :=
  if isUuidArg arg then L.uuidToString row.uuid ++ "\n"
  else match parseColumnKeyValueAux L arg table none false with
    | .ok (column, some keyString, _) =>
      match L.atomFromString column.type.key keyString st with
      | .ok key =>
        ((((idl.data row.uuid column).findKey key).bind (·.2)).map
          (L.atomToString · column.type.value.type)).getD "" ++ "\n"
      | .error _ => ""
    | .ok (column, none, _) => L.datumToString (idl.data row.uuid column) column.type ++ "\n"
    | .error _ => ""

/-- One `COLUMN[:KEY]` argument of `cmd_get` appends its line, read against any symbol
table that extends the one it leaves, and only adds symbols. -/
lemma getColumnValue_run_ok {L : Lib} (hL : L.Local) {table : CtlTableClass} {recordId : String} {row : Row}
    {mustExist : Bool} {arg : String} {s s' : Ctx}
    (h : (getColumnValue L table recordId row mustExist arg).run s = .ok ((), s')) :
    s'.idl = s.idl ∧ s.symtab ≤ s'.symtab ∧
      ∀ st, s'.symtab ≤ st → s'.output = s.output ++ getLine L s.idl st table row arg := by
  unfold getColumnValue at h
  split at h
  · cases h
    exact ⟨rfl, le_rfl, fun _ _ => by simp [getLine, *]⟩
  obtain ⟨⟨column, key, v⟩, hparse, h₁⟩ := dieIfError_bind_run_ok.1 h
  obtain ⟨_, s₁, h₂, h₃⟩ := bind_run_ok.1 h₁
  cases h₂
  obtain ⟨datum, s₂, h₄, h₅⟩ := bind_run_ok.1 h₃
  cases h₄
  rcases key with _ | keyString
  · cases h₅
    exact ⟨rfl, le_rfl, fun _ _ => by simp [getLine, *]⟩
  dsimp only at h₅
  split at h₅
  · cases h₅
  obtain ⟨r, s₃, h₆, h₇⟩ := bind_run_ok.1 h₅
  obtain ⟨hs₃, hr⟩ := ovsdbAtomFromString_run_ok hL h₆
  obtain ⟨key, rfl, h₈⟩ := dieIfError_bind_run_ok.1 h₇
  split at h₈
  · split at h₈
    · cases h₈
    · cases h₈
      exact ⟨hs₃.idl, hs₃.symtab, fun st hst => by simp [getLine, *, hs₃.output, ← hr st hst]⟩
  · cases h₈
    exact ⟨hs₃.idl, hs₃.symtab, fun st hst => by simp [getLine, *, hs₃.output, ← hr st hst]⟩

/-- The column loop of `cmd_get` appends, in order, the line of each argument. -/
lemma getColumnValues_run_ok {L : Lib} (hL : L.Local) {table : CtlTableClass} {recordId : String} {row : Row}
    {mustExist : Bool} : ∀ {args : List String} {s s' : Ctx},
      (args.forM (getColumnValue L table recordId row mustExist)).run s = .ok ((), s') →
        s'.idl = s.idl ∧ s.symtab ≤ s'.symtab ∧ ∀ st, s'.symtab ≤ st →
          s'.output = (args.map (getLine L s.idl st table row)).foldl (· ++ ·) s.output
  | [], s, s', h => by
    cases h
    exact ⟨rfl, le_rfl, fun _ _ => rfl⟩
  | arg :: args, s, s', h => by
    obtain ⟨⟨⟩, s₁, h₁, h₂⟩ := bind_run_ok.1 h
    obtain ⟨hidl₁, hsym₁, hout₁⟩ := getColumnValue_run_ok hL h₁
    obtain ⟨hidl₂, hsym₂, hout₂⟩ := getColumnValues_run_ok hL h₂
    refine ⟨hidl₂.trans hidl₁, hsym₁.trans hsym₂, fun st hst => ?_⟩
    rw [hout₂ st hst, hout₁ st (hsym₂.trans hst), hidl₁]
    rfl

/-- From `s` to `s'` the view and the output are as they were. -/
def ViewOutputKept (s s' : Ctx) : Prop := s'.idl = s.idl ∧ s'.output = s.output

instance : IsRefl Ctx ViewOutputKept := ⟨fun _ => ⟨rfl, rfl⟩⟩

instance : IsTrans Ctx ViewOutputKept := ⟨fun _ _ _ h₁ h₂ => ⟨h₂.1.trans h₁.1, h₂.2.trans h₁.2⟩⟩

/-- `get --id` binds a name, and prints nothing. -/
lemma moves_viewOutputKept_getDefineId (id : Option String) (row : Row) :
    Moves ViewOutputKept (getDefineId id row) :=
  moves_getDefineId_of (fun _ _ _ _ _ h => by cases h; exact ⟨rfl, rfl⟩)
    (fun _ _ _ _ h => ⟨(symbolTableInsert_run_ok h).1.idl, (symbolTableInsert_run_ok h).1.output⟩) id row

/-- **What `get` prints**: a completed `cmd_get` changes the view in nothing. Its table
resolves, and so does its record unless `--if-exists` is given. When the record names no
row, `get` prints nothing. Otherwise it prints, for each `COLUMN[:KEY]` argument in order,
the line `getLine` reads from the view: the row's UUID for `_uuid`, the column's datum, or
the value at the key. The keys are read against the symbol table the command ends with,
which agrees on their names with the one each was parsed against. -/
theorem cmdGet_spec (L : Lib) (hL : L.Local) (tables : List CtlTableClass) (args : CmdArgs) (s s' : Ctx)
    (h : (cmdGet L tables args).run s = .ok ((), s')) :
    s'.idl = s.idl ∧ ∃ table, getTable tables (args.arg 1) = .ok table ∧
      ((getRowSpec L s.idl table (args.arg 2) (!args.hasOption "--if-exists") = .ok none ∧
          s'.output = s.output) ∨
        ∃ row, getRowSpec L s.idl table (args.arg 2) (!args.hasOption "--if-exists") = .ok (some row) ∧
          s'.output = ((args.argv.drop 3).map (getLine L s.idl s'.symtab table row)).foldl (· ++ ·) s.output) := by
  unfold cmdGet at h
  dsimp only at h
  split at h
  · cases h
  obtain ⟨table, hT, h₁⟩ := dieIfError_bind_run_ok.1 h
  obtain ⟨row, s₁, h₂, h₃⟩ := bind_run_ok.1 h₁
  obtain ⟨hspec, l, -, rfl⟩ := getRow_run_ok h₂
  rcases row with _ | row
  · cases h₃
    exact ⟨rfl, table, hT, .inl ⟨hspec, rfl⟩⟩
  obtain ⟨_, s₂, h₄, h₅⟩ := bind_run_ok.1 h₃
  obtain ⟨hidl₂, hout₂⟩ := moves_viewOutputKept_getDefineId _ row _ _ _ h₄
  obtain ⟨hidl, -, hout⟩ := getColumnValues_run_ok hL h₅
  refine ⟨hidl.trans hidl₂, table, hT, .inr ⟨row, hspec, ?_⟩⟩
  rw [hout s'.symtab le_rfl, hidl₂, hout₂]

theorem cmdGet_spec_mapCtx :
    simpleLib.Local ∧ ∃ s', (cmdGet simpleLib [mapCtlTable] ⟨[], ["get", "T", ".", "C", "C:a", "_uuid"]⟩).run mapCtx =
      .ok ((), s') ∧ s'.idl = mapCtx.idl ∧ ∃ table,
        getTable [mapCtlTable] (CmdArgs.arg ⟨[], ["get", "T", ".", "C", "C:a", "_uuid"]⟩ 1) = .ok table ∧
        ((getRowSpec simpleLib mapCtx.idl table (CmdArgs.arg ⟨[], ["get", "T", ".", "C", "C:a", "_uuid"]⟩ 2)
            (!CmdArgs.hasOption ⟨[], ["get", "T", ".", "C", "C:a", "_uuid"]⟩ "--if-exists") = .ok none ∧
            s'.output = mapCtx.output) ∨
          ∃ row, getRowSpec simpleLib mapCtx.idl table (CmdArgs.arg ⟨[], ["get", "T", ".", "C", "C:a", "_uuid"]⟩ 2)
            (!CmdArgs.hasOption ⟨[], ["get", "T", ".", "C", "C:a", "_uuid"]⟩ "--if-exists") = .ok (some row) ∧
            s'.output = ((["get", "T", ".", "C", "C:a", "_uuid"].drop 3).map
              (getLine simpleLib mapCtx.idl s'.symtab table row)).foldl (· ++ ·) mapCtx.output) := by
  have hL : simpleLib.Local := ⟨fun _ _ _ _ _ => rfl, fun _ _ _ _ _ => rfl⟩
  have hC : isUuidArg "C" = false := by simp [isUuidArg, String.toLower, String.map_eq]
  have hCa : isUuidArg "C:a" = false := by simp [isUuidArg, String.toLower, String.map_eq]
  have huuid : isUuidArg "_uuid" = true := by simp [isUuidArg, String.toLower, String.map_eq]
  obtain ⟨s', h⟩ : ∃ s', (cmdGet simpleLib [mapCtlTable] ⟨[], ["get", "T", ".", "C", "C:a", "_uuid"]⟩).run mapCtx =
      .ok ((), s') := by
    simp only [cmdGet, List.drop, List.forM_cons', List.forM_nil, getColumnValue, hC, hCa, huuid]
    exact ⟨_, rfl⟩
  exact ⟨hL, s', h, cmdGet_spec simpleLib hL [mapCtlTable] ⟨[], ["get", "T", ".", "C", "C:a", "_uuid"]⟩ mapCtx s' h⟩

end DbCtlBase
