import DbCtlBase.Prepass
import DbCtlBase.Show
import DbCtlBase.Command

/-!
A command stream: each command's pre-pass and run pass, selected by its verb, and
the run passes of a stream against one symbol table.

* `createSymbol_run_ok`: `create_symbol` sets the `created` flag of a name whose
  flag was clear, and says whether the name was new.
* `ctlCommandRun_symtabGrows`: no command removes a symbol or clears a `created`
  flag.
* `ctlCommands_symbols`: along any stream the `created` flags only rise, a second
  `--id=@X` on `create` or `get` aborts, and `get --id=@X` needs `@X` unknown.
-/

namespace DbCtlBase

/-- The `prerequisites` callback of each command `db-ctl-base.c` registers, by verb.
The verbs an embedding registers are not modelled and declare nothing. -/
def ctlCommandPre (L : Lib) (tables : List CtlTableClass) (showTables : List CmdShowTable)
    (command : CtlCommand) : CtlM Unit :=
  match command.commandSyntax.name with
  | "get" => preCmdGet L tables command.args
  | "list" => preCmdList tables command.args
  | "find" => preCmdFind L tables command.args
  | "set" => preCmdSet L tables command.args
  | "add" => preCmdAdd tables command.args
  | "remove" => preCmdRemove tables command.args
  | "clear" => preCmdClear tables command.args
  | "create" => preCreate tables command.args
  | "destroy" => preCmdDestroy tables command.args
  | "wait-until" => preCmdWaitUntil L tables command.args
  | "show" => preCmdShow showTables
  | _ => pure ()

/-- The `run` callback of each command `db-ctl-base.c` registers, by verb; `comment`
does nothing, and the verbs an embedding registers are not modelled. -/
def ctlCommandRun (L : Lib) (tables : List CtlTableClass) (showTables : List CmdShowTable)
    (command : CtlCommand) : CtlM Unit :=
  match command.commandSyntax.name with
  | "get" => cmdGet L tables command.args
  | "list" => cmdList L tables command.args
  | "find" => cmdFind L tables command.args
  | "set" => cmdSet L tables command.args
  | "add" => cmdAdd L tables command.args
  | "remove" => cmdRemove L tables command.args
  | "clear" => cmdClear L tables command.args
  | "create" => cmdCreate L tables command.args
  | "destroy" => cmdDestroy L tables command.args
  | "wait-until" => cmdWaitUntil L tables command.args
  | "show" => cmdShow L showTables
  | _ => pure ()

/-- The run passes of a command stream, one after the other, against one context
and so one symbol table. -/
def runStream (L : Lib) (tables : List CtlTableClass) (showTables : List CmdShowTable)
    (commands : List CtlCommand) : CtlM Unit :=
  commands.forM (ctlCommandRun L tables showTables)

/-! ### The symbol table along a stream -/

section Symtab

variable {α : Type}

/-- A computation that completes from every context, leaving the symbol table as it
was, grows the symbol table. -/
lemma moves_symtabGrows_of_run {x : CtlM α} (f : Ctx → α) (g : Ctx → Ctx)
    (hx : ∀ s, x.run s = .ok (f s, g s)) (hg : ∀ s, (g s).symtab = s.symtab) : Moves SymtabGrows x :=
  moves_symtabGrows_of_symtab_eq fun s a s' h => by
    rw [hx, Except.ok.injEq, Prod.mk.injEq] at h
    rw [← h.2, hg]

lemma moves_symtabGrows_putOutput (str : String) : Moves SymtabGrows (putOutput str) :=
  moves_symtabGrows_of_run _ _ (putOutput_run str) fun _ => rfl

lemma moves_symtabGrows_setTryAgain : Moves SymtabGrows setTryAgain :=
  moves_symtabGrows_of_run _ _ setTryAgain_run fun _ => rfl

lemma moves_symtabGrows_setTable (out : OutTable) : Moves SymtabGrows (setTable out) :=
  moves_symtabGrows_of_run (fun _ => ()) _ (fun _ => rfl) fun _ => rfl

lemma moves_symtabGrows_addTableRow (cells : List Cell) : Moves SymtabGrows (addTableRow cells) :=
  moves_symtabGrows_of_run (fun _ => ()) _ (fun _ => rfl) fun _ => rfl

lemma moves_symtabGrows_logOp (op : IdlOp) : Moves SymtabGrows (logOp op) :=
  moves_symtabGrows_of_run _ _ (logOp_run op) fun _ => rfl

lemma moves_symtabGrows_txnWrite (row : Row) (column : Column) (datum : Datum) :
    Moves SymtabGrows (txnWrite row column datum) :=
  moves_symtabGrows_of_run _ _ (txnWrite_run row column datum) fun _ => rfl

lemma moves_symtabGrows_txnDelete (row : Row) : Moves SymtabGrows (txnDelete row) :=
  moves_symtabGrows_of_run (fun _ => ()) _ (fun _ => rfl) fun _ => rfl

lemma moves_symtabGrows_uuidGenerate : Moves SymtabGrows uuidGenerate :=
  moves_symtabGrows_of_run _ _ uuidGenerate_run fun _ => rfl

lemma moves_symtabGrows_txnInsert (tc : TableClass) (uuid : Option Uuid) :
    Moves SymtabGrows (txnInsert tc uuid) := by
  refine Moves.bind ?_ fun _ => Moves.bind (moves_symtabGrows_logOp _) fun _ =>
    Moves.bind (moves_symtabGrows_of_run (fun _ => ()) _ (fun _ => rfl) fun _ => rfl) fun _ => Moves.pure _
  cases uuid
  · exact moves_symtabGrows_uuidGenerate
  · exact Moves.pure _

lemma moves_symtabGrows_checkMutable (L : Lib) (row : Row) (column : Column) :
    Moves SymtabGrows (checkMutable L row column) := by
  unfold checkMutable
  split
  · exact Moves.pure _
  · exact Moves.ctlFatal _

lemma moves_symtabGrows_getRow (L : Lib) (table : CtlTableClass) (recordId : String) (mustExist : Bool) :
    Moves SymtabGrows (getRow L table recordId mustExist) :=
  (getRow_readsAs (P := fun _ => True) table recordId L mustExist
    ⟨trivial, fun _ _ _ _ => trivial, fun _ _ _ _ _ => trivial, fun _ _ _ _ _ => ⟨trivial, trivial⟩⟩).moves_symtabGrows

lemma moves_symtabGrows_idlRead (row : Row) (column : Column) : Moves SymtabGrows (idlRead row column) :=
  (readsAs_idlRead (P := fun _ => True) trivial).moves_symtabGrows

lemma moves_symtabGrows_idlRows (tc : TableClass) : Moves SymtabGrows (idlRows tc) :=
  (readsAs_idlRows (P := fun _ => True) trivial).moves_symtabGrows

lemma moves_symtabGrows_idlGetRowForUuid (tc : TableClass) (uuid : Uuid) :
    Moves SymtabGrows (idlGetRowForUuid tc uuid) :=
  (readsAs_idlGetRowForUuid (P := fun _ => True) uuid trivial).moves_symtabGrows

lemma moves_symtabGrows_txnVerify (row : Row) (column : Column) : Moves SymtabGrows (txnVerify row column) :=
  (readsAs_txnVerify (P := fun _ => True) trivial).moves_symtabGrows

end Symtab

/-- `create_symbol` completes only on a name whose `created` flag is clear, and sets
it; the flag it returns says whether the name was new. -/
lemma createSymbol_run_ok {id : String} {s s' : Ctx} {symbol : OvsdbSymbol} {new : Bool}
    (h : (createSymbol id).run s = .ok ((symbol, new), s')) :
    SymtabGrows s s' ∧ symbol.created = true ∧ s'.symtab.get id = some symbol ∧
      new = (s.symtab.get id).isNone ∧ ∀ old, s.symtab.get id = some old → old.created = false := by
  unfold createSymbol at h
  split_ifs at h
  · simp at h
  obtain ⟨s₀, s₁, h₀, h₁⟩ := bind_run_ok.1 h
  cases h₀
  obtain ⟨sym, s₂, h₂, h₃⟩ := bind_run_ok.1 h₁
  obtain ⟨hs₂, hget₂⟩ := symbolTableInsert_run_ok h₂
  by_cases hc : sym.created = true
  · simp [hc] at h₃
  simp only [hc, Bool.false_eq_true, if_false, StateT.run_bind, putSymbol_run, except_ok_bind,
    StateT.run_pure, except_pure_eq, Except.ok.injEq, Prod.mk.injEq] at h₃
  obtain ⟨⟨rfl, rfl⟩, rfl⟩ := h₃
  refine ⟨trans_of SymtabGrows hs₂.symtabGrows (moves_symtabGrows_putSymbol (fun _ _ _ _ => rfl) _ _ _
    (putSymbol_run _ _ _)), rfl, by simp, rfl, fun old hold => ?_⟩
  rw [hs₂.symtab id old hold] at hget₂
  cases hget₂
  simpa using hc

section Commands

variable (L : Lib) (tables : List CtlTableClass)

lemma moves_symtabGrows_getDefineId (id : Option String) (row : Row) :
    Moves SymtabGrows (getDefineId id row) := by
  rintro s ⟨⟩ s' h
  cases id with
  | none => exact Moves.pure _ s () s' h
  | some id =>
    obtain ⟨⟨symbol, new⟩, s₁, h₁, h₂⟩ := bind_run_ok.1 h
    obtain ⟨hs₁, hc, -⟩ := createSymbol_run_ok h₁
    dsimp only at h₂
    split at h₂
    · simp at h₂
    · exact trans_of _ hs₁ (@moves_symtabGrows_putSymbol id { symbol with uuid := row.uuid, strongRef := true }
        (fun _ _ _ _ => hc) _ _ _ h₂)

lemma moves_symtabGrows_getColumnValue (table : CtlTableClass) (recordId : String) (row : Row)
    (mustExist : Bool) (arg : String) :
    Moves SymtabGrows (getColumnValue L table recordId row mustExist arg) := by
  unfold getColumnValue
  by_cases hu : isUuidArg arg = true
  · rw [if_pos hu]
    exact moves_symtabGrows_putOutput _
  rw [if_neg hu]
  refine Moves.bind (Moves.dieIfError _) fun ⟨column, key, _⟩ =>
    Moves.bind (moves_symtabGrows_txnVerify _ _) fun _ => Moves.bind (moves_symtabGrows_idlRead _ _) fun datum => ?_
  rcases key with _ | keyString
  · exact moves_symtabGrows_putOutput _
  dsimp only
  split
  · exact Moves.ctlFatal _
  refine Moves.bind moves_symtabGrows_ovsdbAtomFromString fun r => Moves.bind (Moves.dieIfError r) fun key => ?_
  rcases datum.findKey key with _ | e
  · dsimp only
    split
    · exact Moves.ctlFatal _
    · exact moves_symtabGrows_putOutput _
  · exact moves_symtabGrows_putOutput _

lemma moves_symtabGrows_cmdGet (args : CmdArgs) : Moves SymtabGrows (cmdGet L tables args) := by
  unfold cmdGet
  dsimp only
  split
  · exact Moves.ctlFatal _
  refine Moves.bind (Moves.dieIfError _) fun table =>
    Moves.bind (moves_symtabGrows_getRow _ _ _ _) fun row => ?_
  rcases row with _ | row
  · exact Moves.pure _
  · exact Moves.bind (moves_symtabGrows_getDefineId _ _) fun _ =>
      Moves.forM _ fun _ _ => moves_symtabGrows_getColumnValue _ _ _ _ _ _

lemma moves_symtabGrows_listRecord (row : Option Row) (columns : List (Option Column)) :
    Moves SymtabGrows (listRecord row columns) := by
  rcases row with _ | row
  · exact Moves.pure _
  exact Moves.bind ((listCells_readsAs (P := fun _ => True) row columns fun _ _ => trivial).moves_symtabGrows)
    fun _ => moves_symtabGrows_addTableRow _

lemma moves_symtabGrows_cmdList (args : CmdArgs) : Moves SymtabGrows (cmdList L tables args) := by
  refine Moves.bind (Moves.dieIfError _) fun table => Moves.bind (Moves.dieIfError _) fun columns =>
    Moves.bind (moves_symtabGrows_setTable _) fun _ => ?_
  split_ifs
  · exact Moves.forM _ fun _ _ => Moves.bind (moves_symtabGrows_getRow _ _ _ _) fun _ =>
      moves_symtabGrows_listRecord _ _
  · exact Moves.bind (moves_symtabGrows_idlRows _) fun rows =>
      Moves.forM _ fun _ _ => moves_symtabGrows_listRecord _ _

lemma moves_symtabGrows_isConditionSatisfied (table : CtlTableClass) (row : Row) (arg : String) :
    Moves SymtabGrows (isConditionSatisfied L table row arg) := by
  refine Moves.bind (Moves.dieIfError _) fun ⟨column, key, v⟩ => ?_
  rcases v with _ | ⟨operator, value⟩
  · exact Moves.ctlFatal _
  dsimp only
  rcases relops[operator]? with _ | op
  · exact Moves.ctlFatal _
  refine Moves.bind (moves_symtabGrows_idlRead _ _) fun haveDatum => ?_
  rcases key with _ | keyString
  · exact Moves.bind moves_symtabGrows_ovsdbDatumFromString fun r =>
      Moves.bind (Moves.dieIfError r) fun _ => Moves.pure _
  dsimp only
  split
  · exact Moves.ctlFatal _
  · exact Moves.bind moves_symtabGrows_ovsdbAtomFromString fun r => Moves.bind (Moves.dieIfError r) fun _ =>
      Moves.bind moves_symtabGrows_ovsdbDatumFromString fun r => Moves.bind (Moves.dieIfError r) fun _ =>
        Moves.pure _

lemma moves_symtabGrows_allConditions (table : CtlTableClass) (row : Row) :
    ∀ conditions, Moves SymtabGrows (allConditions L table row conditions)
  | [] => Moves.pure _
  | arg :: args => Moves.bind (moves_symtabGrows_isConditionSatisfied _ _ _ _) fun b => by
    cases b
    · exact Moves.pure _
    · exact moves_symtabGrows_allConditions table row args

lemma moves_symtabGrows_cmdFind (args : CmdArgs) : Moves SymtabGrows (cmdFind L tables args) :=
  Moves.bind (Moves.dieIfError _) fun _ => Moves.bind (Moves.dieIfError _) fun _ =>
    Moves.bind (moves_symtabGrows_setTable _) fun _ => Moves.bind (moves_symtabGrows_idlRows _) fun _ =>
      Moves.forM _ fun _ _ => Moves.bind (moves_symtabGrows_allConditions _ _ _ _) fun b => by
        cases b
        · exact Moves.pure _
        · exact (if_pos rfl).symm ▸ moves_symtabGrows_listRecord _ _

lemma moves_symtabGrows_cmdWaitUntil (args : CmdArgs) : Moves SymtabGrows (cmdWaitUntil L tables args) :=
  Moves.bind (Moves.dieIfError _) fun _ => Moves.bind (moves_symtabGrows_getRow _ _ _ _) fun row => by
    rcases row with _ | row
    · exact moves_symtabGrows_setTryAgain
    · exact Moves.bind (moves_symtabGrows_allConditions _ _ _ _) fun b => by
        cases b
        · exact moves_symtabGrows_setTryAgain
        · exact Moves.pure _

lemma moves_symtabGrows_setColumn (table : CtlTableClass) (row : Row) (arg : String) :
    Moves SymtabGrows (setColumn L table row arg) := by
  refine Moves.bind (Moves.dieIfError _) fun ⟨column, key, v⟩ => ?_
  rcases v with _ | ⟨_, valueString⟩
  · exact Moves.ctlFatal _
  refine Moves.bind (moves_symtabGrows_checkMutable _ _ _) fun _ => ?_
  rcases key with _ | keyString
  · exact Moves.bind moves_symtabGrows_ovsdbDatumFromString fun r => Moves.bind (Moves.dieIfError r) fun _ =>
      moves_symtabGrows_txnWrite _ _ _
  dsimp only
  split
  · exact Moves.ctlFatal _
  · exact Moves.bind moves_symtabGrows_ovsdbAtomFromString fun r => Moves.bind (Moves.dieIfError r) fun _ =>
      Moves.bind moves_symtabGrows_ovsdbAtomFromString fun r => Moves.bind (Moves.dieIfError r) fun _ =>
        Moves.bind (moves_symtabGrows_idlRead _ _) fun _ => Moves.bind (moves_symtabGrows_txnVerify _ _) fun _ =>
          moves_symtabGrows_txnWrite _ _ _

lemma moves_symtabGrows_cmdSet (args : CmdArgs) : Moves SymtabGrows (cmdSet L tables args) :=
  Moves.bind (Moves.dieIfError _) fun _ => Moves.bind (moves_symtabGrows_getRow _ _ _ _) fun row => by
    rcases row with _ | row
    · exact Moves.pure _
    · exact Moves.forM _ fun _ _ => moves_symtabGrows_setColumn _ _ _ _

lemma moves_symtabGrows_addLoop (type : OvsdbType) :
    ∀ (D : Datum) (args : List String), Moves SymtabGrows (addLoop L type D args)
  | _, [] => Moves.pure _
  | D, _ :: args => Moves.bind moves_symtabGrows_ovsdbDatumFromString fun r =>
      Moves.bind (Moves.dieIfError r) fun V => moves_symtabGrows_addLoop type (D.union V) args

lemma moves_symtabGrows_parseRemoveArg (type : OvsdbType) (arg : String) :
    Moves SymtabGrows (parseRemoveArg L type arg) := by
  refine Moves.bind moves_symtabGrows_ovsdbDatumFromString fun r => ?_
  rcases r with e | rm
  · dsimp only
    split
    · exact Moves.bind moves_symtabGrows_ovsdbDatumFromString fun r =>
        Moves.bind (Moves.dieIfError r) fun _ => Moves.pure _
    · exact Moves.ctlFatal _
  · exact Moves.pure _

lemma moves_symtabGrows_removeLoop (type : OvsdbType) :
    ∀ (D : Datum) (args : List String), Moves SymtabGrows (removeLoop L type D args)
  | _, [] => Moves.pure _
  | D, _ :: args => Moves.bind (moves_symtabGrows_parseRemoveArg _ _ _) fun r =>
      moves_symtabGrows_removeLoop type (D.subtract r.1 r.2) args

lemma moves_symtabGrows_cmdAdd (args : CmdArgs) : Moves SymtabGrows (cmdAdd L tables args) :=
  Moves.bind (Moves.dieIfError _) fun _ => Moves.bind (Moves.dieIfError _) fun _ =>
    Moves.bind (moves_symtabGrows_getRow _ _ _ _) fun row => by
      rcases row with _ | row
      · exact Moves.pure _
      refine Moves.bind (moves_symtabGrows_checkMutable _ _ _) fun _ =>
        Moves.bind (moves_symtabGrows_idlRead _ _) fun D =>
          Moves.bind (moves_symtabGrows_addLoop _ _ _ _) fun old => ?_
      split
      · exact Moves.ctlFatal _
      · exact Moves.bind (moves_symtabGrows_txnVerify _ _) fun _ => moves_symtabGrows_txnWrite _ _ _

lemma moves_symtabGrows_cmdRemove (args : CmdArgs) : Moves SymtabGrows (cmdRemove L tables args) :=
  Moves.bind (Moves.dieIfError _) fun _ => Moves.bind (Moves.dieIfError _) fun _ =>
    Moves.bind (moves_symtabGrows_getRow _ _ _ _) fun row => by
      rcases row with _ | row
      · exact Moves.pure _
      refine Moves.bind (moves_symtabGrows_checkMutable _ _ _) fun _ =>
        Moves.bind (moves_symtabGrows_idlRead _ _) fun D =>
          Moves.bind (moves_symtabGrows_removeLoop _ _ _ _) fun old => ?_
      split
      · exact Moves.ctlFatal _
      · exact Moves.bind (moves_symtabGrows_txnVerify _ _) fun _ => moves_symtabGrows_txnWrite _ _ _

lemma moves_symtabGrows_cmdClear (args : CmdArgs) : Moves SymtabGrows (cmdClear L tables args) :=
  Moves.bind (Moves.dieIfError _) fun _ => Moves.bind (moves_symtabGrows_getRow _ _ _ _) fun row => by
    rcases row with _ | row
    · exact Moves.pure _
    refine Moves.forM _ fun _ _ => Moves.bind (Moves.dieIfError _) fun _ =>
      Moves.bind (moves_symtabGrows_checkMutable _ _ _) fun _ => ?_
    split
    · exact Moves.ctlFatal _
    · exact moves_symtabGrows_txnWrite _ _ _

lemma moves_symtabGrows_createDefineId (table : CtlTableClass) (id : Option String) :
    Moves SymtabGrows (createDefineId table id) := by
  rintro s u s' h
  cases id with
  | none => exact Moves.pure _ s u s' h
  | some id =>
    obtain ⟨⟨symbol, new⟩, s₁, h₁, h₂⟩ := bind_run_ok.1 h
    obtain ⟨hs₁, hc, -⟩ := createSymbol_run_ok h₁
    obtain ⟨_, s₂, h₃, h₄⟩ := bind_run_ok.1 h₂
    cases h₄
    refine trans_of _ hs₁ ?_
    split at h₃
    · exact @moves_symtabGrows_putSymbol id { symbol with strongRef := true } (fun _ _ _ _ => hc) _ _ _ h₃
    · exact Moves.pure _ _ _ _ h₃

lemma moves_symtabGrows_cmdCreate (args : CmdArgs) : Moves SymtabGrows (cmdCreate L tables args) :=
  Moves.bind (Moves.dieIfError _) fun _ => Moves.bind (moves_symtabGrows_createDefineId _ _) fun _ =>
    Moves.bind (moves_symtabGrows_txnInsert _ _) fun _ =>
      Moves.bind (Moves.forM _ fun _ _ => moves_symtabGrows_setColumn _ _ _ _) fun _ =>
        moves_symtabGrows_putOutput _

lemma moves_symtabGrows_cmdDestroy (args : CmdArgs) : Moves SymtabGrows (cmdDestroy L tables args) := by
  refine Moves.bind (Moves.dieIfError _) fun _ => ?_
  dsimp only
  split
  · exact Moves.ctlFatal _
  split
  · exact Moves.ctlFatal _
  split
  · exact Moves.bind (moves_symtabGrows_idlRows _) fun _ => Moves.forM _ fun _ _ => moves_symtabGrows_txnDelete _
  · exact Moves.forM _ fun _ _ => Moves.bind (moves_symtabGrows_getRow _ _ _ _) fun row => by
      rcases row with _ | row
      · exact Moves.pure _
      · exact moves_symtabGrows_txnDelete _

section Show

variable (showTables : List CmdShowTable)

lemma moves_symtabGrows_cmdShowWeakRef (showTable : CmdShowTable) (curRow : Row) (level : ℕ) :
    Moves SymtabGrows (cmdShowWeakRef L showTable curRow level) := by
  unfold cmdShowWeakRef
  split
  · exact Moves.bind (moves_symtabGrows_idlRows _) fun _ => Moves.forM _ fun _ _ =>
      Moves.bind (moves_symtabGrows_idlRead _ _) fun _ => by
        split
        · exact Moves.bind (moves_symtabGrows_idlRead _ _) fun _ => moves_symtabGrows_putOutput _
        · exact Moves.pure _
  · exact Moves.pure _

lemma moves_symtabGrows_showRefRows {showRow : Row → ℕ → List String → CtlM (List String)}
    (h : ∀ row level shown, Moves SymtabGrows (showRow row level shown)) (refTable : TableClass)
    (level : ℕ) : ∀ keys shown, Moves SymtabGrows (showRefRows showRow refTable level keys shown)
  | [], _ => Moves.pure _
  | _ :: keys, shown => Moves.bind (moves_symtabGrows_idlGetRowForUuid _ _) fun refRow => by
    rcases refRow with _ | refRow
    · exact moves_symtabGrows_showRefRows h refTable level keys shown
    · exact Moves.bind (h _ _ _) fun shown => moves_symtabGrows_showRefRows h refTable level keys shown

lemma moves_symtabGrows_showRefMap (refShow : CmdShowTable) (nameColumn column : Column) (level : ℕ) :
    ∀ pairs, Moves SymtabGrows (showRefMap L refShow nameColumn column level pairs)
  | [] => Moves.pure _
  | _ :: pairs => Moves.bind (moves_symtabGrows_idlGetRowForUuid _ _) fun refRow =>
      Moves.bind (moves_symtabGrows_putOutput _) fun _ => Moves.bind (by
        rcases refRow with _ | refRow
        · exact moves_symtabGrows_putOutput _
        · exact Moves.bind (moves_symtabGrows_idlRead _ _) fun _ => moves_symtabGrows_putOutput _) fun _ =>
        Moves.bind (moves_symtabGrows_putOutput _) fun _ =>
          moves_symtabGrows_showRefMap refShow nameColumn column level pairs

lemma moves_symtabGrows_showPlainColumn (column : Column) (datum : Datum) (level : ℕ) :
    Moves SymtabGrows (showPlainColumn L column datum level) := by
  unfold showPlainColumn
  split
  · exact moves_symtabGrows_putOutput _
  · exact Moves.pure _

lemma moves_symtabGrows_showColumns {showRow : Row → ℕ → List String → CtlM (List String)}
    (h : ∀ row level shown, Moves SymtabGrows (showRow row level shown)) (row : Row) (level : ℕ) :
    ∀ columns shown, Moves SymtabGrows (showColumns L showTables showRow row level columns shown)
  | [], _ => Moves.pure _
  | none :: _, _ => Moves.pure _
  | some column :: columns, shown => Moves.bind (moves_symtabGrows_idlRead _ _) fun datum => by
    have hrest := moves_symtabGrows_showColumns h row level columns
    have hplain := Moves.bind (moves_symtabGrows_showPlainColumn L column datum level) fun _ => hrest shown
    split
    · split
      · exact Moves.bind (moves_symtabGrows_showRefRows h _ _ _ _) hrest
      · exact hplain
    · split
      · exact Moves.bind (moves_symtabGrows_putOutput _) fun _ =>
          Moves.bind (moves_symtabGrows_showRefMap L _ _ _ _ _) fun _ => hrest shown
      · exact hplain
    · exact hplain

lemma moves_symtabGrows_cmdShowRow :
    ∀ fuel row level shown, Moves SymtabGrows (cmdShowRow L showTables fuel row level shown)
  | 0, _, _, _ => Moves.ctlFatal _
  | fuel + 1, row, level, shown => by
    refine Moves.bind (moves_symtabGrows_putOutput _) fun _ => Moves.bind ?_ fun _ =>
      Moves.bind (moves_symtabGrows_putOutput _) fun _ => ?_
    · split
      · exact Moves.bind (moves_symtabGrows_putOutput _) fun _ =>
          Moves.bind (moves_symtabGrows_idlRead _ _) fun _ => moves_symtabGrows_putOutput _
      · exact moves_symtabGrows_putOutput _
    · split
      · exact Moves.pure _
      · split
        · exact Moves.pure _
        · refine Moves.bind (moves_symtabGrows_showColumns L showTables
            (moves_symtabGrows_cmdShowRow fuel) _ _ _ _) fun shown =>
            Moves.bind (moves_symtabGrows_cmdShowWeakRef _ _ _ _) fun _ => ?_
          split
          · exact Moves.pure _
          · exact Moves.ctlFatal _

lemma moves_symtabGrows_cmdShow : Moves SymtabGrows (cmdShow L showTables) := by
  unfold cmdShow
  split
  · exact Moves.pure _
  refine Moves.bind (moves_symtabGrows_idlRows _) fun rows =>
    Moves.bind (Moves.foldlM (fun _ _ => moves_symtabGrows_cmdShowRow _ _ _ _ _ _) _ _) fun shown => ?_
  by_cases hs : shown = []
  · rw [if_pos hs]
    exact Moves.pure _
  · rw [if_neg hs]
    exact Moves.ctlFatal _

end Show

lemma ctlCommandRun_symtabGrows (showTables : List CmdShowTable) (command : CtlCommand) :
    Moves SymtabGrows (ctlCommandRun L tables showTables command) := by
  unfold ctlCommandRun
  split
  · exact moves_symtabGrows_cmdGet L tables _
  · exact moves_symtabGrows_cmdList L tables _
  · exact moves_symtabGrows_cmdFind L tables _
  · exact moves_symtabGrows_cmdSet L tables _
  · exact moves_symtabGrows_cmdAdd L tables _
  · exact moves_symtabGrows_cmdRemove L tables _
  · exact moves_symtabGrows_cmdClear L tables _
  · exact moves_symtabGrows_cmdCreate L tables _
  · exact moves_symtabGrows_cmdDestroy L tables _
  · exact moves_symtabGrows_cmdWaitUntil L tables _
  · exact moves_symtabGrows_cmdShow L showTables
  · exact Moves.pure _

/-- `get_row` with `mustExist` never returns nothing. -/
lemma getRowSpec_ne_none {L : Lib} {idl : Idl} {table : CtlTableClass} {recordId : String} :
    getRowSpec L idl table recordId true ≠ .ok none := by
  unfold getRowSpec
  split
  · simp
  · split <;> simp_all

lemma getDefineId_run_ok {X : String} {row : Row} {s s' : Ctx} {u : Unit}
    (h : (getDefineId (some X) row).run s = .ok (u, s')) :
    s.symtab.get X = none ∧ ∃ symbol, s'.symtab.get X = some symbol ∧ symbol.created = true := by
  obtain ⟨⟨symbol, new⟩, s₁, h₁, h₂⟩ := bind_run_ok.1 h
  obtain ⟨-, hc, -, hnew, -⟩ := createSymbol_run_ok h₁
  dsimp only at h₂
  split at h₂
  · simp at h₂
  rename_i hn
  simp only [putSymbol_run, Except.ok.injEq, Prod.mk.injEq] at h₂
  obtain ⟨-, rfl⟩ := h₂
  exact ⟨Option.isNone_iff_eq_none.1 (hnew ▸ by simpa using hn),
    { symbol with uuid := row.uuid, strongRef := true }, by simp, hc⟩

lemma createDefineId_run_ok {table : CtlTableClass} {X : String} {s s' : Ctx} {uuid : Option Uuid}
    (h : (createDefineId table (some X)).run s = .ok (uuid, s')) :
    (∀ old, s.symtab.get X = some old → old.created = false) ∧
      ∃ symbol, s'.symtab.get X = some symbol ∧ symbol.created = true := by
  obtain ⟨⟨symbol, new⟩, s₁, h₁, h₂⟩ := bind_run_ok.1 h
  obtain ⟨-, hc, hget, -, hold⟩ := createSymbol_run_ok h₁
  obtain ⟨_, s₂, h₃, h₄⟩ := bind_run_ok.1 h₂
  cases h₄
  refine ⟨hold, ?_⟩
  split at h₃
  · simp only [putSymbol_run, Except.ok.injEq, Prod.mk.injEq] at h₃
    obtain ⟨-, rfl⟩ := h₃
    exact ⟨{ symbol with strongRef := true }, by simp, hc⟩
  · cases h₃
    exact ⟨symbol, hget, hc⟩

/-- `get --id=@X` completes only if `@X` was not in the symbol table, and defines it. -/
lemma cmdGet_run_ok_id {args : CmdArgs} {X : String} {s s' : Ctx} (hid : args.optionValue "--id" = some X)
    (h : (cmdGet L tables args).run s = .ok ((), s')) :
    s.symtab.get X = none ∧ ∃ symbol, s'.symtab.get X = some symbol ∧ symbol.created = true := by
  simp only [cmdGet, hid, Option.isSome_some, Bool.true_and] at h
  split at h
  · simp at h
  rename_i hmust
  obtain ⟨table, -, h₁⟩ := dieIfError_bind_run_ok.1 h
  obtain ⟨row, s₁, h₂, h₃⟩ := bind_run_ok.1 h₁
  obtain ⟨hspec, l, -, rfl⟩ := getRow_run_ok h₂
  rcases row with _ | row
  · simp only [Bool.not_eq_true', Bool.not_eq_false'] at hmust
    simp [hmust] at hspec
    exact absurd hspec getRowSpec_ne_none
  obtain ⟨_, s₂, h₄, h₅⟩ := bind_run_ok.1 h₃
  obtain ⟨hnone, symbol, hget, hc⟩ := getDefineId_run_ok h₄
  obtain ⟨symbol', hget', hc'⟩ := Moves.forM _ (fun _ _ => moves_symtabGrows_getColumnValue _ _ _ _ _ _)
    _ _ _ h₅ X symbol hget
  exact ⟨hnone, symbol', hget', hc' hc⟩

/-- A `create` or `get` carrying `--id=@X` completes only if the `created` flag of
`@X` was clear, and leaves it set. -/
lemma defineId_run_ok (showTables : List CmdShowTable) {command : CtlCommand} {X : String} {s s' : Ctx}
    (hname : command.commandSyntax.name = "create" ∨ command.commandSyntax.name = "get")
    (hid : command.args.optionValue "--id" = some X)
    (h : (ctlCommandRun L tables showTables command).run s = .ok ((), s')) :
    (∀ old, s.symtab.get X = some old → old.created = false) ∧
      ∃ symbol, s'.symtab.get X = some symbol ∧ symbol.created = true := by
  have hkeep : ∀ {s₁ s₂ : Ctx}, SymtabGrows s₁ s₂ → (∃ symbol, s₁.symtab.get X = some symbol ∧
      symbol.created = true) → ∃ symbol, s₂.symtab.get X = some symbol ∧ symbol.created = true :=
    fun hs ⟨symbol, hget, hc⟩ => let ⟨symbol', hget', hc'⟩ := hs X symbol hget; ⟨symbol', hget', hc' hc⟩
  rcases hname with hname | hname
  · simp only [ctlCommandRun, hname] at h
    obtain ⟨table, -, h₁⟩ := dieIfError_bind_run_ok.1 h
    obtain ⟨uuid, s₂, h₂, h₃⟩ := bind_run_ok.1 h₁
    rw [hid] at h₂
    obtain ⟨hpre, hpost⟩ := createDefineId_run_ok h₂
    exact ⟨hpre, hkeep (Moves.bind (moves_symtabGrows_txnInsert _ _) (fun _ =>
      Moves.bind (Moves.forM _ fun _ _ => moves_symtabGrows_setColumn _ _ _ _) fun _ =>
        moves_symtabGrows_putOutput _) _ _ _ h₃) hpost⟩
  · simp only [ctlCommandRun, hname] at h
    obtain ⟨hnone, hpost⟩ := cmdGet_run_ok_id L tables hid h
    exact ⟨fun old hold => by simp [hnone] at hold, hpost⟩

end Commands

/-- Along a command stream the symbol table only grows and `created` flags only
rise; a second `--id=@X` on `create` or `get` aborts the stream at that command;
and `get --id=@X` completes only if `@X` was not in the symbol table before it. -/
theorem ctlCommands_symbols (L : Lib) (tables : List CtlTableClass) (showTables : List CmdShowTable) :
    (∀ commands s s', (runStream L tables showTables commands).run s = .ok ((), s') → SymtabGrows s s') ∧
    (∀ pre command₁ mid command₂ X s s₁,
      (command₁.commandSyntax.name = "create" ∨ command₁.commandSyntax.name = "get") →
      (command₂.commandSyntax.name = "create" ∨ command₂.commandSyntax.name = "get") →
      command₁.args.optionValue "--id" = some X → command₂.args.optionValue "--id" = some X →
      (runStream L tables showTables (pre ++ command₁ :: mid)).run s = .ok ((), s₁) →
      ∃ msg, (runStream L tables showTables (pre ++ command₁ :: mid ++ [command₂])).run s = .error msg) ∧
    (∀ command X s s', command.commandSyntax.name = "get" → command.args.optionValue "--id" = some X →
      (ctlCommandRun L tables showTables command).run s = .ok ((), s') → s.symtab.get X = none) := by
  have hstream : ∀ commands, Moves SymtabGrows (runStream L tables showTables commands) :=
    fun commands => Moves.forM commands fun c _ => ctlCommandRun_symtabGrows L tables showTables c
  refine ⟨fun commands s s' h => hstream commands s () s' h, fun pre c₁ mid c₂ X s s₁ hn₁ hn₂ hid₁ hid₂ h => ?_,
    fun command X s s' hname hid h => ?_⟩
  · simp only [runStream, List.forM_append, List.forM_cons] at h ⊢
    obtain ⟨_, sa, ha, h₁⟩ := bind_run_ok.1 h
    obtain ⟨_, sb, hb, h₂⟩ := bind_run_ok.1 h₁
    obtain ⟨-, symbol, hget, hc⟩ := defineId_run_ok L tables showTables hn₁ hid₁ hb
    obtain ⟨symbol', hget', hc'⟩ := hstream mid sb _ s₁ h₂ X symbol hget
    rcases hr : (ctlCommandRun L tables showTables c₂).run s₁ with msg | ⟨_, s₂⟩
    · refine ⟨msg, ?_⟩
      simp [StateT.run_bind, ha, hb, h₂, hr]
    · have := (defineId_run_ok L tables showTables hn₂ hid₂ hr).1 symbol' hget'
      simp [hc' hc] at this
  · simp only [ctlCommandRun, hname] at h
    exact (cmdGet_run_ok_id L tables hid h).1

theorem ctlCommands_symbols_idTwice :
    (∃ msg, (runStream simpleLib [mapCtlTable] []
        [⟨⟨"create", 2, intMax, "--id=", .rw⟩, ⟨[("--id", some "@x")], ["create", "T"]⟩⟩,
          ⟨⟨"create", 2, intMax, "--id=", .rw⟩, ⟨[("--id", some "@x")], ["create", "T"]⟩⟩]).run mapCtx =
        .error msg) ∧
    (∃ msg, (runStream simpleLib [mapCtlTable] []
        [⟨⟨"get", 2, intMax, "--if-exists,--id=", .ro⟩, ⟨[("--id", some "@x")], ["get", "T", "."]⟩⟩,
          ⟨⟨"create", 2, intMax, "--id=", .rw⟩, ⟨[("--id", some "@x")], ["create", "T"]⟩⟩]).run mapCtx =
        .error msg) ∧
    ∃ s', (ctlCommandRun simpleLib [mapCtlTable] []
        ⟨⟨"get", 2, intMax, "--if-exists,--id=", .ro⟩, ⟨[("--id", some "@x")], ["get", "T", "."]⟩⟩).run mapCtx =
        .ok ((), s') ∧ mapCtx.symtab.get "@x" = none :=
  ⟨(ctlCommands_symbols simpleLib [mapCtlTable] []).2.1 []
      ⟨⟨"create", 2, intMax, "--id=", .rw⟩, ⟨[("--id", some "@x")], ["create", "T"]⟩⟩ []
      ⟨⟨"create", 2, intMax, "--id=", .rw⟩, ⟨[("--id", some "@x")], ["create", "T"]⟩⟩ "@x" mapCtx _
      (.inl rfl) (.inl rfl) rfl rfl rfl,
    (ctlCommands_symbols simpleLib [mapCtlTable] []).2.1 []
      ⟨⟨"get", 2, intMax, "--if-exists,--id=", .ro⟩, ⟨[("--id", some "@x")], ["get", "T", "."]⟩⟩ []
      ⟨⟨"create", 2, intMax, "--id=", .rw⟩, ⟨[("--id", some "@x")], ["create", "T"]⟩⟩ "@x" mapCtx _
      (.inr rfl) (.inl rfl) rfl rfl rfl,
    _, rfl, (ctlCommands_symbols simpleLib [mapCtlTable] []).2.2
      ⟨⟨"get", 2, intMax, "--if-exists,--id=", .ro⟩, ⟨[("--id", some "@x")], ["get", "T", "."]⟩⟩ "@x" mapCtx _
      rfl rfl rfl⟩

/-- A stream on `hostCtx` that names only `Host`: it sets a pair of the host's map, creates
a host with a serial number and a tag, then destroys every host. -/
def hostStream : List CtlCommand :=
  [⟨⟨"set", 3, intMax, "--if-exists", .rw⟩, ⟨[], ["set", "Host", ".", "C:b=2"]⟩⟩,
    ⟨⟨"create", 2, intMax, "--id=", .rw⟩, ⟨[], ["create", "Host", "serial=5", "tags=z"]⟩⟩,
    ⟨⟨"destroy", 1, intMax, "--if-exists,--all", .rw⟩, ⟨[("--all", none)], ["destroy", "Host"]⟩⟩]

end DbCtlBase
