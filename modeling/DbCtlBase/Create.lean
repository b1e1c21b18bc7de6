import DbCtlBase.Frame

/-!
What `create` does to the view.

`cmd_create` inserts one row into the table its first argument names, under the UUID its
`--id` symbol holds or a fresh one, sets each `COLUMN[:KEY]=VALUE` argument on that row with
`set_column`, and prints the row's UUID. `set_column` writes only the row it is given, and
there only the column its argument names.

* `SetsOnly row named`: the rows of the view and the output stay, and so does every datum
  but those of `row` in the columns `named` holds of.
* `moves_setsOnly_setColumns`: the `set_column` loop of `create` moves along `SetsOnly`.
* `cmdCreate_spec`: a completed `create` appends one row of its table, under a UUID no row
  had, changes no datum of another row, leaves at its default every column none of its
  arguments names, and prints the new row's UUID.
-/

namespace DbCtlBase

/-- From `s` to `s'` the rows of the view and the output are as they were, and so is every
datum, except those of `row` in the columns `named` holds of. -/
structure SetsOnly (row : Row) (named : Column → Prop) (s s' : Ctx) : Prop where
  rows : s'.idl.rows = s.idl.rows
  output : s'.output = s.output
  data : ∀ u column, (u ≠ row.uuid ∨ ¬ named column) → s'.idl.data u column = s.idl.data u column

section SetsOnly

variable {row : Row} {named : Column → Prop}

instance : IsRefl Ctx (SetsOnly row named) := ⟨fun _ => ⟨rfl, rfl, fun _ _ _ => rfl⟩⟩

instance : IsTrans Ctx (SetsOnly row named) :=
  ⟨fun _ _ _ h₁ h₂ => ⟨h₂.rows.trans h₁.rows, h₂.output.trans h₁.output,
    fun u column h => (h₂.data u column h).trans (h₁.data u column h)⟩⟩

lemma SetsOnly.of_symbolsOnly {s s' : Ctx} (h : SymbolsOnly s s') : SetsOnly row named s s' :=
  ⟨by rw [h.idl], h.output, fun _ _ _ => by rw [h.idl]⟩

/-- With no column named, nothing of the view changes. -/
lemma SetsOnly.idl_eq {s s' : Ctx} (h : SetsOnly row (fun _ => False) s s') : s'.idl = s.idl :=
  calc s'.idl = ⟨s'.idl.rows, s'.idl.data⟩ := rfl
    _ = ⟨s.idl.rows, s.idl.data⟩ := by rw [h.rows, funext₂ fun u c => h.data u c (.inr id)]

lemma moves_setsOnly_of_symbolsOnly {α : Type} {x : CtlM α} (h : Moves SymbolsOnly x) :
    Moves (SetsOnly row named) x :=
  h.mono fun _ _ => SetsOnly.of_symbolsOnly

lemma moves_setsOnly_putSymbol (name : String) (symbol : OvsdbSymbol) :
    Moves (SetsOnly row named) (putSymbol name symbol) :=
  fun _ _ _ h => by
    cases h
    exact ⟨rfl, rfl, fun _ _ _ => rfl⟩

lemma moves_setsOnly_txnWrite {column : Column} (hcolumn : named column) (datum : Datum) :
    Moves (SetsOnly row named) (txnWrite row column datum) :=
  fun _ _ _ h => by
    cases h
    refine ⟨rfl, rfl, fun u c hne => if_neg ?_⟩
    rintro ⟨rfl, rfl⟩
    exact hne.elim (· rfl) (· hcolumn)

/-- The `--id` part of `create` changes only the symbol table and the UUID counter. -/
lemma moves_setsOnly_createDefineId (table : CtlTableClass) (id : Option String) :
    Moves (SetsOnly row named) (createDefineId table id) :=
  moves_createDefineId_of moves_setsOnly_putSymbol
    (fun _ _ _ _ h => SetsOnly.of_symbolsOnly (symbolTableInsert_run_ok h).1) table id

/-- The `set_column` loop of `create` on its row writes only the columns its arguments
name. -/
lemma moves_setsOnly_setColumns (L : Lib) (table : CtlTableClass) (args : List String) :
    Moves (SetsOnly row fun column => ∃ arg ∈ args, ∃ rest, parseColumnName L arg table = .ok (column, rest))
      (args.forM (setColumn L table row)) :=
  Moves.forM args fun arg harg => moves_setColumn_of L
    (fun _ _ => moves_setsOnly_of_symbolsOnly moves_symbolsOnly_ovsdbAtomFromString)
    (fun _ _ => moves_setsOnly_of_symbolsOnly moves_symbolsOnly_ovsdbDatumFromString)
    fun _ rest hname =>
      ⟨moves_setsOnly_of_symbolsOnly (readsAs_idlRead (P := fun _ => True) trivial).moves_symbolsOnly,
        moves_setsOnly_of_symbolsOnly (readsAs_txnVerify (P := fun _ => True) trivial).moves_symbolsOnly,
        fun _ => moves_setsOnly_txnWrite ⟨arg, harg, rest, hname⟩⟩

end SetsOnly

/-- **`create` appends one row and sets only the columns it names**: a completed `cmd_create`
appends to the view one row of the table its first argument names, whose UUID is, without
`--id`, the next one `uuid_generate` hands out and, from a context whose UUIDs are fresh, is
held by no row of the view; it changes no datum of another row, leaves at its default every
column of the new row that none of its `COLUMN[:KEY]=VALUE` arguments names, and prints the
new row's UUID. -/
theorem cmdCreate_spec (L : Lib) (tables : List CtlTableClass) (args : CmdArgs) (s s' : Ctx)
    (h : (cmdCreate L tables args).run s = .ok ((), s')) :
    ∃ table row, getTable tables (args.arg 1) = .ok table ∧ row.table = table.cls.name ∧
      (args.optionValue "--id" = none → row.uuid = s.nextUuid) ∧
      (UuidsFresh s → ∀ r ∈ s.idl.rows, r.uuid ≠ row.uuid) ∧
      s'.idl.rows = s.idl.rows ++ [row] ∧
      (∀ u column, u ≠ row.uuid → s'.idl.data u column = s.idl.data u column) ∧
      (∀ column, (∀ arg ∈ args.argv.drop 2, ∀ rest, parseColumnName L arg table ≠ .ok (column, rest)) →
        s'.idl.data row.uuid column = Datum.default column.type) ∧
      s'.output = s.output ++ L.uuidToString row.uuid := by
  obtain ⟨table, hget, h⟩ := dieIfError_bind_run_ok.1 h
  obtain ⟨uuid, s₁, h₁, h⟩ := bind_run_ok.1 h
  obtain ⟨row, s₂, h₂, h⟩ := bind_run_ok.1 h
  obtain ⟨⟨⟩, s₃, h₃, h₄⟩ := bind_run_ok.1 h
  cases h₄
  have hs₁ : SetsOnly row (fun _ => False) s s₁ := moves_setsOnly_createDefineId table _ s uuid s₁ h₁
  have hidl₁ : s₁.idl = s.idl := hs₁.idl_eq
  have hs₂ : s₂.idl = s₁.idl.insert row ∧ s₂.output = s₁.output ∧ row.table = table.cls.name ∧
      (uuid = none → row.uuid = s₁.nextUuid) := by
    rcases uuid with _ | u <;> cases h₂ <;> simp
  have hs₃ := moves_setsOnly_setColumns L table _ s₂ () s₃ h₃
  refine ⟨table, row, hget, hs₂.2.2.1, fun hid => ?_, fun hf r hr => ?_, ?_, fun u column hu => ?_,
    fun column hcol => ?_, ?_⟩
  · rw [hid] at h₁
    cases h₁
    exact hs₂.2.2.2 rfl
  · obtain ⟨⟨hf₁, -⟩, hfresh⟩ := createDefineId_fresh h₁ hf
    rw [← hidl₁] at hr
    rcases uuid with _ | u
    · rw [hs₂.2.2.2 rfl]
      exact (hf₁.rows_lt r hr).ne
    · rcases h₂ with ⟨⟩
      exact (hfresh u rfl).1.not_row r hr
  · rw [hs₃.rows, hs₂.1, hidl₁]
    rfl
  · rw [hs₃.data u column (.inl hu), hs₂.1, ← hidl₁]
    exact if_neg hu
  · rw [hs₃.data _ column (.inr fun ⟨arg, harg, rest, hname⟩ => hcol arg harg rest hname), hs₂.1]
    exact if_pos rfl
  · show s₃.output ++ _ = _
    rw [hs₃.output, hs₂.2.1, hs₁.output]

theorem cmdCreate_spec_hostCtx :
    UuidsFresh hostCtx ∧ ∃ s', (cmdCreate hostLib hostTables ⟨[], ["create", "Host", "tags=z"]⟩).run hostCtx = .ok ((), s') ∧
      ∃ table row, getTable hostTables "Host" = .ok table ∧ row.table = table.cls.name ∧
        (CmdArgs.optionValue ⟨[], ["create", "Host", "tags=z"]⟩ "--id" = none → row.uuid = hostCtx.nextUuid) ∧
        (UuidsFresh hostCtx → ∀ r ∈ hostCtx.idl.rows, r.uuid ≠ row.uuid) ∧
        s'.idl.rows = hostCtx.idl.rows ++ [row] ∧
        (∀ u column, u ≠ row.uuid → s'.idl.data u column = hostCtx.idl.data u column) ∧
        (∀ column, (∀ arg ∈ ["tags=z"], ∀ rest, parseColumnName hostLib arg table ≠ .ok (column, rest)) →
          s'.idl.data row.uuid column = Datum.default column.type) ∧
        s'.output = hostCtx.output ++ hostLib.uuidToString row.uuid :=
  ⟨hostCtx_uuidsFresh, _, rfl, cmdCreate_spec hostLib hostTables ⟨[], ["create", "Host", "tags=z"]⟩ hostCtx _ rfl⟩

end DbCtlBase
