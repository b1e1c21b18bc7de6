import DbCtlBase.ReadOnly
import DbCtlBase.Declare

/-!
What every command does, as properties of whole command streams.

* `QuietPrims.moves_addLoop`, `QuietPrims.moves_removeLoop`: the parsing loops of `add`
  and `remove` move along `R` when the read-only parts do; `QuietPrims.mono` and
  `ReadPrims.mono` weaken `R`, and `QuietPrims.and` and `ReadPrims.and` pair two relations.
* `AtRow row R`: `R`, from a view that holds `row` to one that still holds it. The
  read-only parts move along it (`QuietPrims.atRow`), and so does `set_column` on `row`
  when a write to `row` does (`QuietPrims.moves_setColumn`).
* `QuietCmdPrims R`: the parts of the read-only run passes (`QuietPrims`), a write to or a
  delete of a row of the view, the delete of every row of a table, and `create`'s insert
  under the UUID its `--id` gives, all move along `R`; then so does every run pass
  (`QuietCmdPrims.moves_cmdSet`, ..., `QuietCmdPrims.moves_ctlCommandRun`), the run pass of
  `wait-until` when setting `try_again` also does. `CmdPrims R` adds that step; then every
  run pass moves along `R` (`CmdPrims.moves_ctlCommandRun`), and so does every stream
  (`CmdPrims.moves_runStream`).
* `runStream_tryAgain`: along a command stream `ctx->try_again` is never cleared, and only
  a `wait-until` command sets it.
-/

namespace DbCtlBase

/-- The parts of every run pass other than `ctx->try_again = true`, each moving along `R`.
The transaction writes and deletes only rows of its view; `create` inserts its row with the
UUID its `--id` symbol gives, so the two steps stay together. -/
structure QuietCmdPrims (R : Ctx → Ctx → Prop) extends QuietPrims R : Prop where
  txnWrite : ∀ row column datum s a s', row ∈ s.idl.rows →
    (DbCtlBase.txnWrite row column datum).run s = .ok (a, s') → R s s'
  txnDelete : ∀ row s a s', row ∈ s.idl.rows → (DbCtlBase.txnDelete row).run s = .ok (a, s') → R s s'
  /-- The `--all` branch of `cmd_destroy`: every row of a table deleted. -/
  deleteAll : ∀ tc, Moves R (idlRows tc >>= fun rows => rows.forM DbCtlBase.txnDelete)
  insert : ∀ table id, Moves R (createDefineId table id >>= fun uuid => txnInsert table.cls uuid)

/-- The parts of every run pass, each moving along `R`. -/
structure CmdPrims (R : Ctx → Ctx → Prop) extends ReadPrims R, QuietCmdPrims R : Prop

/-- A computation followed by a continuation of its result's continuation. -/
lemma Moves.bind_bind {R : Ctx → Ctx → Prop} [IsTrans Ctx R] {α β γ : Type} {x : CtlM α}
    {f : α → CtlM β} {g : β → CtlM γ} (h : Moves R (x >>= f)) (hg : ∀ b, Moves R (g b)) :
    Moves R (x >>= fun a => f a >>= g) := by
  rw [← bind_assoc]
  exact Moves.bind h hg

/-- The run pass of a command moves along `R` when that of each verb does. -/
lemma moves_ctlCommandRun_of {R : Ctx → Ctx → Prop} [IsRefl Ctx R] {L : Lib} {tables : List CtlTableClass}
    {showTables : List CmdShowTable} {command : CtlCommand}
    (hget : Moves R (cmdGet L tables command.args)) (hlist : Moves R (cmdList L tables command.args))
    (hfind : Moves R (cmdFind L tables command.args)) (hset : Moves R (cmdSet L tables command.args))
    (hadd : Moves R (cmdAdd L tables command.args)) (hremove : Moves R (cmdRemove L tables command.args))
    (hclear : Moves R (cmdClear L tables command.args)) (hcreate : Moves R (cmdCreate L tables command.args))
    (hdestroy : Moves R (cmdDestroy L tables command.args))
    (hwait : command.commandSyntax.name = "wait-until" → Moves R (cmdWaitUntil L tables command.args))
    (hshow : Moves R (cmdShow L showTables)) : Moves R (ctlCommandRun L tables showTables command) := by
  unfold ctlCommandRun
  split
  exacts [hget, hlist, hfind, hset, hadd, hremove, hclear, hcreate, hdestroy, hwait ‹_›, hshow, Moves.pure _]

/-- `ovsdb_idl_txn_insert` returns a row of the view it leaves. -/
lemma txnInsert_run_mem {tc : TableClass} {uuid : Option Uuid} {s s' : Ctx} {row : Row}
    (h : (txnInsert tc uuid).run s = .ok (row, s')) : row ∈ s'.idl.rows := by
  rcases uuid with _ | u <;> cases h <;> simp [Idl.insert]

section QuietPrims

variable {R : Ctx → Ctx → Prop} [IsRefl Ctx R] [IsTrans Ctx R] (hR : QuietPrims R) (L : Lib)
include hR

lemma QuietPrims.moves_addLoop (type : OvsdbType) : ∀ (D : Datum) (args : List String), Moves R (addLoop L type D args)
  | _, [] => Moves.pure _
  | D, _ :: args => Moves.bind (hR.datum _ _ _) fun r =>
      Moves.bind (Moves.dieIfError r) fun V => moves_addLoop type (D.union V) args

lemma QuietPrims.moves_parseRemoveArg (type : OvsdbType) (arg : String) : Moves R (parseRemoveArg L type arg) := by
  refine Moves.bind (hR.datum _ _ _) fun r => ?_
  rcases r with e | rm
  · dsimp only
    split
    · exact Moves.bind (hR.datum _ _ _) fun r => Moves.bind (Moves.dieIfError r) fun _ => Moves.pure _
    · exact Moves.ctlFatal _
  · exact Moves.pure _

lemma QuietPrims.moves_removeLoop (type : OvsdbType) :
    ∀ (D : Datum) (args : List String), Moves R (removeLoop L type D args)
  | _, [] => Moves.pure _
  | D, arg :: args => Moves.bind (hR.moves_parseRemoveArg L type arg) fun r =>
      moves_removeLoop type (D.subtract r.1 r.2) args

/-- `set_column` moves along `R` when the read-only parts and the writes to `row` do. -/
lemma QuietPrims.moves_setColumn (table : CtlTableClass) (row : Row) (arg : String)
    (hw : ∀ column datum, Moves R (txnWrite row column datum)) : Moves R (setColumn L table row arg) :=
  moves_setColumn_of L (fun _ _ => hR.atom _ _ _) (fun _ _ => hR.datum _ _ _) fun _ _ _ =>
    ⟨hR.moves_idlRead _ _, hR.reads (readsAs_txnVerify rfl), fun _ => hw _⟩

/-- The `--all` branch of `cmd_destroy` moves along `R` when every delete does. -/
lemma QuietPrims.moves_deleteAll (hdel : ∀ row, Moves R (txnDelete row)) (tc : TableClass) :
    Moves R (idlRows tc >>= fun rows => rows.forM txnDelete) :=
  Moves.bind (hR.moves_idlRows tc) fun rows => Moves.forM rows fun row _ => hdel row

end QuietPrims

/-- Parts that move along `R` move along any relation `R` implies. -/
lemma QuietPrims.mono {R R' : Ctx → Ctx → Prop} (h : QuietPrims R) (hR : ∀ s s', R s s' → R' s s') :
    QuietPrims R' where
  putOutput str := Moves.mono hR (h.putOutput str)
  setTable out := Moves.mono hR (h.setTable out)
  addTableRow cells := Moves.mono hR (h.addTableRow cells)
  reads hx := Moves.mono hR (h.reads hx)
  atom L base str := Moves.mono hR (h.atom L base str)
  datum L t str := Moves.mono hR (h.datum L t str)
  defineId id row s a s' hr hrun := hR s s' (h.defineId id row s a s' hr hrun)

lemma ReadPrims.mono {R R' : Ctx → Ctx → Prop} (h : ReadPrims R) (hR : ∀ s s', R s s' → R' s s') :
    ReadPrims R' :=
  { h.toQuietPrims.mono hR with setTryAgain := Moves.mono hR h.setTryAgain }

/-- Parts that move along `R` and along `R'` move along both. -/
lemma QuietPrims.and {R R' : Ctx → Ctx → Prop} (h : QuietPrims R) (h' : QuietPrims R') :
    QuietPrims fun s s' => R s s' ∧ R' s s' where
  putOutput str := (h.putOutput str).and (h'.putOutput str)
  setTable out := (h.setTable out).and (h'.setTable out)
  addTableRow cells := (h.addTableRow cells).and (h'.addTableRow cells)
  reads hx := (h.reads hx).and (h'.reads hx)
  atom L base str := (h.atom L base str).and (h'.atom L base str)
  datum L t str := (h.datum L t str).and (h'.datum L t str)
  defineId id row s a s' hr hrun := ⟨h.defineId id row s a s' hr hrun, h'.defineId id row s a s' hr hrun⟩

lemma ReadPrims.and {R R' : Ctx → Ctx → Prop} (h : ReadPrims R) (h' : ReadPrims R') :
    ReadPrims fun s s' => R s s' ∧ R' s s' :=
  { h.toQuietPrims.and h'.toQuietPrims with setTryAgain := h.setTryAgain.and h'.setTryAgain }

/-! ### Steps on a row of the view -/

/-- `R`, from a view that holds `row` to one that still holds it. -/
def AtRow (row : Row) (R : Ctx → Ctx → Prop) (s s' : Ctx) : Prop :=
  row ∈ s.idl.rows → R s s' ∧ row ∈ s'.idl.rows

instance {row : Row} {R : Ctx → Ctx → Prop} [IsRefl Ctx R] : IsRefl Ctx (AtRow row R) :=
  ⟨fun s hrow => ⟨refl_of R s, hrow⟩⟩

instance {row : Row} {R : Ctx → Ctx → Prop} [IsTrans Ctx R] : IsTrans Ctx (AtRow row R) :=
  ⟨fun _ _ _ h₁ h₂ hrow => ⟨trans_of R (h₁ hrow).1 (h₂ (h₁ hrow).2).1, (h₂ (h₁ hrow).2).2⟩⟩

/-- A step along `AtRow row R` moves along `R` from every view that holds `row`. -/
lemma Moves.of_atRow {R : Ctx → Ctx → Prop} {α : Type} {row : Row} {x : CtlM α} (h : Moves (AtRow row R) x)
    (s : Ctx) (a : α) (s' : Ctx) (hrow : row ∈ s.idl.rows) (hx : x.run s = .ok (a, s')) : R s s' :=
  (h s a s' hx hrow).1

/-- The read-only parts keep the view, so they keep `row` in it. -/
lemma QuietPrims.atRow {R : Ctx → Ctx → Prop} (hR : QuietPrims R) (row : Row) : QuietPrims (AtRow row R) :=
  (hR.and readPrims_untouched.toQuietPrims).mono fun _ _ h hrow => ⟨h.1, h.2.idl ▸ hrow⟩

section QuietCmdPrims

variable {R : Ctx → Ctx → Prop} [IsRefl Ctx R] [IsTrans Ctx R] (hR : QuietCmdPrims R) (L : Lib)
include hR

omit [IsRefl Ctx R] [IsTrans Ctx R] in
lemma QuietCmdPrims.moves_atRow_txnWrite (row : Row) (column : Column) (datum : Datum) :
    Moves (AtRow row R) (DbCtlBase.txnWrite row column datum) := fun s a s' h hrow =>
  ⟨hR.txnWrite row column datum s a s' hrow h, by cases h; exact hrow⟩

/-- `set_column` writes only `row`, which stays in the view. -/
lemma QuietCmdPrims.moves_atRow_setColumn (table : CtlTableClass) (row : Row) (arg : String) :
    Moves (AtRow row R) (setColumn L table row arg) :=
  (hR.atRow row).moves_setColumn L table row arg fun _ _ => hR.moves_atRow_txnWrite _ _ _

lemma QuietCmdPrims.moves_atRow_ctlSetColumn (tables : List CtlTableClass) (tableName : String) (row : Row)
    (arg : String) : Moves (AtRow row R) (ctlSetColumn L tables tableName row arg) :=
  Moves.bind (Moves.dieIfError _) fun table => hR.moves_atRow_setColumn L table row arg

lemma QuietCmdPrims.moves_cmdSet (tables : List CtlTableClass) (args : CmdArgs) : Moves R (cmdSet L tables args) :=
  Moves.bind (Moves.dieIfError _) fun _ => hR.moves_getRow_bind L _ _ _ (Moves.pure _) fun _ =>
    Moves.of_atRow (Moves.forM _ fun _ _ => hR.moves_atRow_setColumn L _ _ _)

omit [IsRefl Ctx R] in
/-- The check on the count and the write that end `cmd_add` and `cmd_remove`. -/
lemma QuietCmdPrims.moves_atRow_boundedWrite (row : Row) (column : Column) (c : Prop) [Decidable c]
    (message : String) (old : Datum) :
    Moves (AtRow row R) (if c then ctlFatal message else txnVerify row column >>= fun _ => DbCtlBase.txnWrite row column old) := by
  split
  · exact Moves.ctlFatal _
  · exact Moves.bind ((hR.atRow row).reads (readsAs_txnVerify rfl)) fun _ => hR.moves_atRow_txnWrite _ _ _

lemma QuietCmdPrims.moves_cmdAdd (tables : List CtlTableClass) (args : CmdArgs) : Moves R (cmdAdd L tables args) :=
  Moves.bind (Moves.dieIfError _) fun _ => Moves.bind (Moves.dieIfError _) fun _ =>
    hR.moves_getRow_bind L _ _ _ (Moves.pure _) fun row => Moves.of_atRow <|
      Moves.bind (moves_checkMutable L _ _) fun _ => Moves.bind ((hR.atRow row).moves_idlRead _ _) fun _ =>
        Moves.bind ((hR.atRow row).moves_addLoop L _ _ _) fun _ => hR.moves_atRow_boundedWrite _ _ _ _ _

lemma QuietCmdPrims.moves_cmdRemove (tables : List CtlTableClass) (args : CmdArgs) : Moves R (cmdRemove L tables args) :=
  Moves.bind (Moves.dieIfError _) fun _ => Moves.bind (Moves.dieIfError _) fun _ =>
    hR.moves_getRow_bind L _ _ _ (Moves.pure _) fun row => Moves.of_atRow <|
      Moves.bind (moves_checkMutable L _ _) fun _ => Moves.bind ((hR.atRow row).moves_idlRead _ _) fun _ =>
        Moves.bind ((hR.atRow row).moves_removeLoop L _ _ _) fun _ => hR.moves_atRow_boundedWrite _ _ _ _ _

lemma QuietCmdPrims.moves_cmdClear (tables : List CtlTableClass) (args : CmdArgs) : Moves R (cmdClear L tables args) :=
  Moves.bind (Moves.dieIfError _) fun _ => hR.moves_getRow_bind L _ _ _ (Moves.pure _) fun row =>
    Moves.of_atRow <| Moves.forM _ fun _ _ => Moves.bind (Moves.dieIfError _) fun _ =>
      Moves.bind (moves_checkMutable L _ _) fun _ => by
        split
        · exact Moves.ctlFatal _
        · exact hR.moves_atRow_txnWrite _ _ _

lemma QuietCmdPrims.moves_cmdCreate (tables : List CtlTableClass) (args : CmdArgs) : Moves R (cmdCreate L tables args) := by
  refine Moves.bind (Moves.dieIfError _) fun table => ?_
  rw [← bind_assoc]
  intro s a s' h
  obtain ⟨row, s₁, h₁, h₂⟩ := bind_run_ok.1 h
  obtain ⟨uuid, s₂, -, h₃⟩ := bind_run_ok.1 h₁
  exact trans_of R (hR.insert _ _ s row s₁ h₁) (Moves.of_atRow (Moves.bind
    (Moves.forM _ fun _ _ => hR.moves_atRow_setColumn L _ _ _) fun _ => (hR.atRow row).putOutput _)
    s₁ a s' (txnInsert_run_mem h₃) h₂)

lemma QuietCmdPrims.moves_cmdDestroy (tables : List CtlTableClass) (args : CmdArgs) : Moves R (cmdDestroy L tables args) := by
  refine Moves.bind (Moves.dieIfError _) fun _ => ?_
  dsimp only
  split
  · exact Moves.ctlFatal _
  split
  · exact Moves.ctlFatal _
  split
  · exact hR.deleteAll _
  · exact Moves.forM _ fun _ _ => hR.moves_getRow_bind L _ _ _ (Moves.pure _) hR.txnDelete

/-- Every run pass moves along `R` when, for a `wait-until`, `ctx->try_again = true` does. -/
lemma QuietCmdPrims.moves_ctlCommandRun (tables : List CtlTableClass) (showTables : List CmdShowTable)
    (command : CtlCommand) (hwait : command.commandSyntax.name = "wait-until" → Moves R setTryAgain) :
    Moves R (ctlCommandRun L tables showTables command) :=
  moves_ctlCommandRun_of (hR.moves_cmdGet L tables _) (hR.moves_cmdList L tables _) (hR.moves_cmdFind L tables _)
    (hR.moves_cmdSet L tables _) (hR.moves_cmdAdd L tables _) (hR.moves_cmdRemove L tables _)
    (hR.moves_cmdClear L tables _) (hR.moves_cmdCreate L tables _) (hR.moves_cmdDestroy L tables _)
    (fun h => ReadPrims.moves_cmdWaitUntil ⟨hR.toQuietPrims, hwait h⟩ L tables _) (hR.moves_cmdShow L showTables)

end QuietCmdPrims

section CmdPrims

variable {R : Ctx → Ctx → Prop} [IsRefl Ctx R] [IsTrans Ctx R] (hR : CmdPrims R) (L : Lib)
include hR

/-- Every run pass moves along `R`. -/
lemma CmdPrims.moves_ctlCommandRun (tables : List CtlTableClass) (showTables : List CmdShowTable)
    (command : CtlCommand) : Moves R (ctlCommandRun L tables showTables command) :=
  hR.toQuietCmdPrims.moves_ctlCommandRun L tables showTables command fun _ => hR.setTryAgain

/-- Every command stream moves along `R`. -/
lemma CmdPrims.moves_runStream (tables : List CtlTableClass) (showTables : List CmdShowTable)
    (commands : List CtlCommand) : Moves R (runStream L tables showTables commands) :=
  Moves.forM commands fun _ _ => hR.moves_ctlCommandRun L tables showTables _

end CmdPrims

/-! ### The `try_again` flag -/

/-- From `s` to `s'` the flag `ctx->try_again` stays set once set, and is set afresh only
when `waits` holds. -/
structure TryAgainOnly (waits : Prop) (s s' : Ctx) : Prop where
  kept : s.tryAgain = true → s'.tryAgain = true
  set : s'.tryAgain = true → s.tryAgain = true ∨ waits

section TryAgainOnly

variable {waits : Prop}

instance : IsRefl Ctx (TryAgainOnly waits) := ⟨fun _ => ⟨id, .inl⟩⟩

instance : IsTrans Ctx (TryAgainOnly waits) :=
  ⟨fun _ _ _ h₁ h₂ => ⟨h₂.kept ∘ h₁.kept, fun h => (h₂.set h).elim h₁.set .inr⟩⟩

lemma TryAgainOnly.of_eq {s s' : Ctx} (h : s'.tryAgain = s.tryAgain) : TryAgainOnly waits s s' :=
  ⟨h.trans, fun h' => .inl (h.symm.trans h')⟩

lemma moves_tryAgainOnly_setTryAgain (hwaits : waits) : Moves (TryAgainOnly waits) setTryAgain :=
  fun _ _ _ h => by
    cases h
    exact ⟨fun _ => rfl, fun _ => .inr hwaits⟩

lemma moves_tryAgainOnly_putSymbol (name : String) (symbol : OvsdbSymbol) :
    Moves (TryAgainOnly waits) (putSymbol name symbol) :=
  fun _ _ _ h => by
    cases h
    exact .of_eq rfl

lemma moves_tryAgainOnly_symbolTableInsert (name : String) : Moves (TryAgainOnly waits) (symbolTableInsert name) :=
  fun _ _ _ h => .of_eq (symbolTableInsert_run_ok h).1.tryAgain

/-- The parts of the read-only run passes other than `ctx->try_again = true` leave the flag
as it is. -/
lemma quietPrims_tryAgainOnly : QuietPrims (TryAgainOnly waits) where
  putOutput _ _ _ _ h := by cases h; exact .of_eq rfl
  setTable _ _ _ _ h := by cases h; exact .of_eq rfl
  addTableRow _ _ _ _ h := by cases h; exact .of_eq rfl
  reads h := h.moves fun _ _ _ => .of_eq rfl
  atom _ _ _ := Moves.mono (fun _ _ h => .of_eq h.tryAgain) moves_symbolsOnly_ovsdbAtomFromString
  datum _ _ _ := Moves.mono (fun _ _ h => .of_eq h.tryAgain) moves_symbolsOnly_ovsdbDatumFromString
  defineId id row s a s' _ :=
    moves_getDefineId_of moves_tryAgainOnly_putSymbol moves_tryAgainOnly_symbolTableInsert id row s a s'

/-- So do those of the read-write run passes. -/
lemma quietCmdPrims_tryAgainOnly : QuietCmdPrims (TryAgainOnly waits) where
  toQuietPrims := quietPrims_tryAgainOnly
  txnWrite _ _ _ _ _ _ _ h := by cases h; exact .of_eq rfl
  txnDelete _ _ _ _ _ h := by cases h; exact .of_eq rfl
  deleteAll := quietPrims_tryAgainOnly.moves_deleteAll fun _ _ _ _ h => by cases h; exact .of_eq rfl
  insert table id := Moves.bind
    (moves_createDefineId_of moves_tryAgainOnly_putSymbol moves_tryAgainOnly_symbolTableInsert table id)
    fun uuid _ _ _ h => by rcases uuid with _ | _ <;> cases h <;> exact .of_eq rfl

end TryAgainOnly

/-- **Only `wait-until` sets `try_again`**: along every completed run of a command stream,
`ctx->try_again` once set stays set, and a run that starts with it clear ends with it set
only if one of its commands is a `wait-until`. -/
theorem runStream_tryAgain (L : Lib) (tables : List CtlTableClass) (showTables : List CmdShowTable)
    (commands : List CtlCommand) (s s' : Ctx)
    (hrun : (runStream L tables showTables commands).run s = .ok ((), s')) :
    (s.tryAgain = true → s'.tryAgain = true) ∧
      (s'.tryAgain = true → s.tryAgain = true ∨ ∃ command ∈ commands, command.commandSyntax.name = "wait-until") := by
  have hmoves : Moves (TryAgainOnly (∃ command ∈ commands, command.commandSyntax.name = "wait-until"))
      (runStream L tables showTables commands) :=
    Moves.forM commands fun command hmem => quietCmdPrims_tryAgainOnly.moves_ctlCommandRun L tables showTables
      command fun hname => moves_tryAgainOnly_setTryAgain ⟨command, hmem, hname⟩
  exact ⟨(hmoves s () s' hrun).kept, (hmoves s () s' hrun).set⟩

theorem runStream_tryAgain_waitUntil :
    ∃ s', (runStream simpleLib [mapCtlTable] []
        [⟨⟨"wait-until", 2, intMax, "", .ro⟩, ⟨[], ["wait-until", "T", "x"]⟩⟩]).run mapCtx = .ok ((), s') ∧
      s'.tryAgain = true ∧ (mapCtx.tryAgain = true → s'.tryAgain = true) ∧
      (s'.tryAgain = true → mapCtx.tryAgain = true ∨
        ∃ command ∈ [(⟨⟨"wait-until", 2, intMax, "", .ro⟩, ⟨[], ["wait-until", "T", "x"]⟩⟩ : CtlCommand)],
          command.commandSyntax.name = "wait-until") :=
  ⟨_, rfl, rfl, runStream_tryAgain simpleLib [mapCtlTable] []
    [⟨⟨"wait-until", 2, intMax, "", .ro⟩, ⟨[], ["wait-until", "T", "x"]⟩⟩] mapCtx _ rfl⟩

end DbCtlBase
