import DbCtlBase.Stream

/-!
Every name an `--id` defines names a row of the transaction, over every command stream.

`create --id=@name` inserts its row under the UUID of `@name`, and `get --id=@name` binds
`@name` to the row `get_row` found; a later reference to `@name` in a value is to that row.
No other step defines a name: `ovsdb_symbol_table_insert` adds names whose `created` flag
is clear.

* `IdsBound`: every defined name holds the UUID of a row of the view, or of a row the
  transaction deleted.
* `createSymbol_run_get`: `create_symbol` changes only the binding of its own name.
* `cmdPrims_keepsBound`: every part of a run pass keeps `IdsBound`, and
  `runStream_idsBound`, every command stream.
* `runStream_symbolUuidsKept`: a name, once in the symbol table, keeps its UUID over every
  command stream, so a reference to `@name` made before the `--id` that defines it names
  the same row as one made after. `get --id` may bind a name to another UUID only because
  it insists that the name be new.
-/

namespace DbCtlBase

/-- Every name an `--id` has defined holds the UUID of a row of the view, or of a row the
transaction deleted. -/
def IdsBound (s : Ctx) : Prop :=
  ∀ name symbol, s.symtab.get name = some symbol → symbol.created = true →
    ∃ row : Row, row.uuid = symbol.uuid ∧ (row ∈ s.idl.rows ∨ IdlOp.delete row ∈ s.log)

lemma IdsBound.of_symbols_nil {s : Ctx} (h : s.symtab.symbols = []) : IdsBound s := fun name symbol hget => by
  simp [SymbolTable.get, h] at hget

/-- From `s` to `s'` `IdsBound` is kept. -/
def KeepsBound (s s' : Ctx) : Prop := IdsBound s → IdsBound s'

instance : IsRefl Ctx KeepsBound := ⟨fun _ => id⟩

instance : IsTrans Ctx KeepsBound := ⟨fun _ _ _ h₁ h₂ => h₂ ∘ h₁⟩

/-- A step that defines no new name, keeps or deletes each row, and only appends to the
log keeps `IdsBound`. -/
lemma keepsBound_of {s s' : Ctx}
    (hsym : ∀ name symbol, s'.symtab.get name = some symbol → symbol.created = true →
      s.symtab.get name = some symbol)
    (hrow : ∀ row ∈ s.idl.rows, row ∈ s'.idl.rows ∨ IdlOp.delete row ∈ s'.log)
    (hlog : ∀ op ∈ s.log, op ∈ s'.log) : KeepsBound s s' := fun h name symbol hget hc => by
  obtain ⟨row, hu, hr | hd⟩ := h name symbol (hsym name symbol hget hc) hc
  · exact ⟨row, hu, hrow row hr⟩
  · exact ⟨row, hu, .inr (hlog _ hd)⟩

lemma keepsBound_of_eq {s s' : Ctx} (hsym : s'.symtab = s.symtab) (hrows : s'.idl.rows = s.idl.rows)
    (l : List IdlOp) (hlog : s'.log = s.log ++ l) : KeepsBound s s' :=
  keepsBound_of (fun _ _ hget _ => hsym ▸ hget) (fun _ hr => .inl (hrows ▸ hr))
    (fun _ hop => hlog ▸ List.mem_append_left _ hop)

lemma moves_keepsBound_symbolTableInsert (name : String) : Moves KeepsBound (symbolTableInsert name) := by
  intro s symbol s' hrun
  rw [symbolTableInsert_run] at hrun
  split at hrun
  · cases hrun
    exact refl_of KeepsBound s
  · cases hrun
    refine keepsBound_of (fun n y hget hc => ?_) (fun _ hr => .inl hr) fun _ => id
    rw [SymbolTable.get_put] at hget
    split_ifs at hget
    · cases hget
      cases hc
    · exact hget

lemma moves_keepsBound_insertSymbols : ∀ names, Moves KeepsBound (insertSymbols names)
  | [] => Moves.pure _
  | name :: names => Moves.bind (moves_keepsBound_symbolTableInsert name) fun _ =>
      moves_keepsBound_insertSymbols names

/-- `create_symbol` changes only the binding of its own name, to the symbol it returns. -/
lemma createSymbol_run_get {id : String} {s s' : Ctx} {symbol : OvsdbSymbol} {new : Bool}
    (h : (createSymbol id).run s = .ok ((symbol, new), s')) :
    s'.idl = s.idl ∧ s'.log = s.log ∧ s'.symtab.get id = some symbol ∧
      ∀ name, name ≠ id → s'.symtab.get name = s.symtab.get name := by
  unfold createSymbol at h
  split_ifs at h
  · simp at h
  obtain ⟨s₀, s₁, h₀, h₁⟩ := bind_run_ok.1 h
  cases h₀
  obtain ⟨sym, s₂, h₂, h₃⟩ := bind_run_ok.1 h₁
  by_cases hc : sym.created = true
  · simp [hc] at h₃
  simp only [hc, Bool.false_eq_true, if_false, StateT.run_bind, putSymbol_run, except_ok_bind,
    StateT.run_pure, except_pure_eq, Except.ok.injEq, Prod.mk.injEq] at h₃
  obtain ⟨⟨rfl, rfl⟩, rfl⟩ := h₃
  rw [symbolTableInsert_run] at h₂
  split at h₂ <;> cases h₂ <;> exact ⟨rfl, rfl, by simp, fun name hn => by simp [hn]⟩

/-- `get --id` binds its name to the row `get_row` found. -/
lemma keepsBound_getDefineId (id : Option String) (row : Row) (s : Ctx) (a : Unit) (s' : Ctx)
    (hrow : row ∈ s.idl.rows) (h : (getDefineId id row).run s = .ok (a, s')) : KeepsBound s s' := by
  rcases id with _ | id
  · exact Moves.pure _ s a s' h
  obtain ⟨⟨symbol, new⟩, s₁, h₁, h₂⟩ := bind_run_ok.1 h
  obtain ⟨hidl, hlog, -, hother⟩ := createSymbol_run_get h₁
  dsimp only at h₂
  split at h₂
  · cases h₂
  cases h₂
  intro hb n y hget hc
  rw [SymbolTable.get_put] at hget
  split_ifs at hget with hn
  · cases hget
    exact ⟨row, rfl, .inl (hidl ▸ hrow)⟩
  · rw [hother n hn] at hget
    obtain ⟨r, hu, hr⟩ := hb n y hget hc
    exact ⟨r, hu, by rwa [hidl, hlog]⟩

/-- `create --id=@name` binds `@name` to the UUID it hands to the insert, and changes no
other binding, no row and no call of the log. -/
lemma createDefineId_run_get {table : CtlTableClass} {id : String} {s s' : Ctx} {uuid : Option Uuid}
    (h : (createDefineId table (some id)).run s = .ok (uuid, s')) :
    s'.idl = s.idl ∧ s'.log = s.log ∧ (∃ symbol, s'.symtab.get id = some symbol ∧ uuid = some symbol.uuid) ∧
      ∀ name, name ≠ id → s'.symtab.get name = s.symtab.get name := by
  obtain ⟨⟨symbol, new⟩, s₁, h₁, h₂⟩ := bind_run_ok.1 h
  obtain ⟨hidl, hlog, hget, hother⟩ := createSymbol_run_get h₁
  obtain ⟨⟨⟩, s₂, h₃, h₄⟩ := bind_run_ok.1 h₂
  cases h₄
  split at h₃ <;> cases h₃
  · exact ⟨hidl, hlog, ⟨{ symbol with strongRef := true }, by simp, rfl⟩, fun name hn => by simp [hn, hother name hn]⟩
  · exact ⟨hidl, hlog, ⟨symbol, hget, rfl⟩, hother⟩

/-- `create` inserts its row under the UUID of its `--id` name, which it defines. -/
lemma moves_keepsBound_insert (table : CtlTableClass) (id : Option String) :
    Moves KeepsBound (createDefineId table id >>= fun uuid => txnInsert table.cls uuid) := by
  intro s row s' h hb
  obtain ⟨uuid, s₁, h₁, h₂⟩ := bind_run_ok.1 h
  rcases id with _ | id
  · cases h₁
    cases h₂
    revert hb
    exact keepsBound_of (fun _ _ hget _ => hget) (fun _ hr => .inl (List.mem_append_left _ hr))
      fun _ hop => List.mem_append_left _ hop
  obtain ⟨hidl, hlog, ⟨symbol, hsym, rfl⟩, hother⟩ := createDefineId_run_get h₁
  cases h₂
  intro n y hget hc
  by_cases hn : n = id
  · subst hn
    cases hsym.symm.trans hget
    exact ⟨_, rfl, .inl (List.mem_append_right _ (List.mem_singleton_self _))⟩
  · rw [hother n hn] at hget
    obtain ⟨r, hu, hr⟩ := hb n y hget hc
    exact ⟨r, hu, hr.imp (fun hr => List.mem_append_left _ (hidl ▸ hr)) fun hr => List.mem_append_left _ (hlog ▸ hr)⟩

lemma moves_keepsBound_txnDelete (row : Row) : Moves KeepsBound (txnDelete row) := fun _ _ _ h => by
  cases h
  refine keepsBound_of (fun _ _ hget _ => hget) (fun r hr => ?_) fun _ hop => List.mem_append_left _ hop
  by_cases hr' : r = row
  · exact .inr (hr' ▸ List.mem_append_right _ (List.mem_singleton_self _))
  · exact .inl (List.mem_filter.2 ⟨hr, by simpa using hr'⟩)

/-- The read-only parts keep `IdsBound`. -/
lemma readPrims_keepsBound : ReadPrims KeepsBound where
  putOutput _ _ _ _ h := by cases h; exact keepsBound_of_eq rfl rfl [] (List.append_nil _).symm
  setTable _ _ _ _ h := by cases h; exact keepsBound_of_eq rfl rfl [] (List.append_nil _).symm
  addTableRow _ _ _ _ h := by cases h; exact keepsBound_of_eq rfl rfl [] (List.append_nil _).symm
  setTryAgain _ _ _ h := by cases h; exact keepsBound_of_eq rfl rfl [] (List.append_nil _).symm
  reads h := h.moves fun _ l _ => keepsBound_of_eq rfl rfl l rfl
  atom _ _ _ := Moves.bind (moves_keepsBound_insertSymbols _) fun _ => Moves.bind Moves.get fun _ => Moves.pure _
  datum _ _ _ := Moves.bind (moves_keepsBound_insertSymbols _) fun _ => Moves.bind Moves.get fun _ => Moves.pure _
  defineId := keepsBound_getDefineId

/-- Every part of a run pass keeps `IdsBound`. -/
lemma cmdPrims_keepsBound : CmdPrims KeepsBound where
  toReadPrims := readPrims_keepsBound
  txnWrite _ _ _ _ _ _ _ h := by cases h; exact keepsBound_of_eq rfl rfl _ rfl
  txnDelete row s a s' _ h := moves_keepsBound_txnDelete row s a s' h
  deleteAll := readPrims_keepsBound.moves_deleteAll moves_keepsBound_txnDelete
  insert := moves_keepsBound_insert

/-- **Every defined name names a row, over every command stream**: from a context where
every name an `--id` has defined holds the UUID of a row of the view or of a deleted row,
every completed run of a command stream ends in one where this still holds. -/
theorem runStream_idsBound (L : Lib) (tables : List CtlTableClass) (showTables : List CmdShowTable)
    (commands : List CtlCommand) (s s' : Ctx) (hs : IdsBound s)
    (hrun : (runStream L tables showTables commands).run s = .ok ((), s')) : IdsBound s' :=
  cmdPrims_keepsBound.moves_runStream L tables showTables commands s () s' hrun hs

theorem runStream_idsBound_getCreate :
    ∃ s', (runStream simpleLib [mapCtlTable] []
        [⟨⟨"get", 2, intMax, "--if-exists,--id=", .ro⟩, ⟨[("--id", some "@a")], ["get", "T", "."]⟩⟩,
          ⟨⟨"create", 2, intMax, "--id=", .rw⟩, ⟨[("--id", some "@b")], ["create", "T"]⟩⟩]).run mapCtx =
        .ok ((), s') ∧ IdsBound s' :=
  ⟨_, rfl, runStream_idsBound simpleLib [mapCtlTable] []
    [⟨⟨"get", 2, intMax, "--if-exists,--id=", .ro⟩, ⟨[("--id", some "@a")], ["get", "T", "."]⟩⟩,
      ⟨⟨"create", 2, intMax, "--id=", .rw⟩, ⟨[("--id", some "@b")], ["create", "T"]⟩⟩] mapCtx _
    (IdsBound.of_symbols_nil rfl) rfl⟩

/-! ### Each name keeps its UUID -/

/-- From `s` to `s'` every name of the symbol table stays bound, to a symbol with the same
UUID. -/
def UuidsKept (s s' : Ctx) : Prop :=
  ∀ name symbol, s.symtab.get name = some symbol →
    ∃ symbol', s'.symtab.get name = some symbol' ∧ symbol'.uuid = symbol.uuid

instance : IsRefl Ctx UuidsKept := ⟨fun _ _ symbol h => ⟨symbol, h, rfl⟩⟩

instance : IsTrans Ctx UuidsKept :=
  ⟨fun _ _ _ h₁ h₂ name symbol h => by
    obtain ⟨symbol₁, h₁', hu₁⟩ := h₁ name symbol h
    obtain ⟨symbol₂, h₂', hu₂⟩ := h₂ name symbol₁ h₁'
    exact ⟨symbol₂, h₂', hu₂.trans hu₁⟩⟩

lemma uuidsKept_of_le {s s' : Ctx} (h : s.symtab ≤ s'.symtab) : UuidsKept s s' :=
  fun name symbol hget => ⟨symbol, h name symbol hget, rfl⟩

lemma uuidsKept_of_symtab_eq {s s' : Ctx} (h : s'.symtab = s.symtab) : UuidsKept s s' :=
  uuidsKept_of_le (h ▸ le_rfl)

/-- Binding a name to a symbol with the UUID it already holds. -/
lemma uuidsKept_put {s : Ctx} {name : String} {old symbol : OvsdbSymbol} (hold : s.symtab.get name = some old)
    (hu : symbol.uuid = old.uuid) : UuidsKept s { s with symtab := s.symtab.put name symbol } := by
  intro n y hget
  rw [SymbolTable.get_put]
  split_ifs with hn
  · subst hn
    rw [hold] at hget
    cases hget
    exact ⟨symbol, rfl, hu⟩
  · exact ⟨y, hget, rfl⟩

/-- `create_symbol` on a name already bound returns its symbol, so its UUID. -/
lemma createSymbol_run_uuid {id : String} {s s' : Ctx} {symbol : OvsdbSymbol} {new : Bool}
    (h : (createSymbol id).run s = .ok ((symbol, new), s')) {old : OvsdbSymbol} (hold : s.symtab.get id = some old) :
    symbol.uuid = old.uuid := by
  unfold createSymbol at h
  split_ifs at h
  · simp at h
  obtain ⟨s₀, s₁, h₀, h₁⟩ := bind_run_ok.1 h
  cases h₀
  obtain ⟨sym, s₂, h₂, h₃⟩ := bind_run_ok.1 h₁
  obtain ⟨hs₂, hget₂⟩ := symbolTableInsert_run_ok h₂
  rw [hs₂.symtab id old hold] at hget₂
  cases hget₂
  by_cases hc : old.created = true
  · simp [hc] at h₃
  simp only [hc, Bool.false_eq_true, if_false, StateT.run_bind, putSymbol_run, except_ok_bind,
    StateT.run_pure, except_pure_eq, Except.ok.injEq, Prod.mk.injEq] at h₃
  obtain ⟨⟨rfl, rfl⟩, rfl⟩ := h₃
  rfl

lemma createSymbol_uuidsKept {id : String} {s s' : Ctx} {symbol : OvsdbSymbol} {new : Bool}
    (h : (createSymbol id).run s = .ok ((symbol, new), s')) : UuidsKept s s' := by
  obtain ⟨-, -, hget, hother⟩ := createSymbol_run_get h
  intro name old hold
  by_cases hn : name = id
  · subst hn
    exact ⟨symbol, hget, createSymbol_run_uuid h hold⟩
  · exact ⟨old, (hother name hn).trans hold, rfl⟩

/-- `get --id=@name` rebinds `@name` to the row's UUID, which keeps every UUID because it
completes only on a new name. -/
lemma moves_uuidsKept_getDefineId (id : Option String) (row : Row) : Moves UuidsKept (getDefineId id row) := by
  rintro s ⟨⟩ s' h
  rcases id with _ | id
  · exact Moves.pure _ s () s' h
  obtain ⟨⟨symbol, new⟩, s₁, h₁, h₂⟩ := bind_run_ok.1 h
  obtain ⟨-, -, -, hnew, -⟩ := createSymbol_run_ok h₁
  obtain ⟨-, -, -, hother⟩ := createSymbol_run_get h₁
  dsimp only at h₂
  split at h₂
  · cases h₂
  rename_i hn
  cases h₂
  intro name old hold
  rw [SymbolTable.get_put]
  split_ifs with heq
  · subst heq
    simp [hold] at hnew
    simp [hnew] at hn
  · exact ⟨old, (hother name heq).trans hold, rfl⟩

/-- `create --id=@name` sets the flags of `@name`'s symbol, not its UUID. -/
lemma moves_uuidsKept_createDefineId (table : CtlTableClass) (id : Option String) :
    Moves UuidsKept (createDefineId table id) := by
  rintro s uuid s' h
  rcases id with _ | id
  · exact Moves.pure _ s uuid s' h
  obtain ⟨⟨symbol, new⟩, s₁, h₁, h₂⟩ := bind_run_ok.1 h
  obtain ⟨⟨⟩, s₂, h₃, h₄⟩ := bind_run_ok.1 h₂
  cases h₄
  obtain ⟨-, -, hget, -⟩ := createSymbol_run_get h₁
  refine trans_of UuidsKept (createSymbol_uuidsKept h₁) ?_
  split at h₃
  · cases h₃
    exact uuidsKept_put hget rfl
  · cases h₃
    exact refl_of UuidsKept _

/-- The read-only parts keep every UUID. -/
lemma readPrims_uuidsKept : ReadPrims UuidsKept where
  putOutput _ _ _ _ h := by cases h; exact uuidsKept_of_symtab_eq rfl
  setTable _ _ _ _ h := by cases h; exact uuidsKept_of_symtab_eq rfl
  addTableRow _ _ _ _ h := by cases h; exact uuidsKept_of_symtab_eq rfl
  setTryAgain _ _ _ h := by cases h; exact uuidsKept_of_symtab_eq rfl
  reads h := h.moves fun _ _ _ => uuidsKept_of_symtab_eq rfl
  atom _ _ _ := Moves.mono (fun _ _ h => uuidsKept_of_le h.symtab) moves_symbolsOnly_ovsdbAtomFromString
  datum _ _ _ := Moves.mono (fun _ _ h => uuidsKept_of_le h.symtab) moves_symbolsOnly_ovsdbDatumFromString
  defineId id row s a s' _ := moves_uuidsKept_getDefineId id row s a s'

/-- Every part of a run pass keeps every UUID. -/
lemma cmdPrims_uuidsKept : CmdPrims UuidsKept where
  toReadPrims := readPrims_uuidsKept
  txnWrite _ _ _ _ _ _ _ h := by cases h; exact uuidsKept_of_symtab_eq rfl
  txnDelete _ _ _ _ _ h := by cases h; exact uuidsKept_of_symtab_eq rfl
  deleteAll := readPrims_uuidsKept.moves_deleteAll fun _ _ _ _ h => by cases h; exact uuidsKept_of_symtab_eq rfl
  insert table id := Moves.bind (moves_uuidsKept_createDefineId table id) fun uuid _ _ _ h => by
    rcases uuid with _ | _ <;> cases h <;> exact uuidsKept_of_symtab_eq rfl

/-- **Every `@name` keeps its UUID over every command stream**: along every completed run of
a command stream, a name in the symbol table stays in it, bound to a symbol with the same
UUID. So the UUID a reference to `@name` reads, whether it comes before or after the
`--id=@name` that defines it, is the one under which `create` inserts its row. -/
theorem runStream_symbolUuidsKept (L : Lib) (tables : List CtlTableClass) (showTables : List CmdShowTable)
    (commands : List CtlCommand) (s s' : Ctx) (hrun : (runStream L tables showTables commands).run s = .ok ((), s')) :
    ∀ name symbol, s.symtab.get name = some symbol →
      ∃ symbol', s'.symtab.get name = some symbol' ∧ symbol'.uuid = symbol.uuid :=
  cmdPrims_uuidsKept.moves_runStream L tables showTables commands s () s' hrun

theorem runStream_symbolUuidsKept_createRef :
    ∃ s', (runStream simpleLib [mapCtlTable] []
        [⟨⟨"create", 2, intMax, "--id=", .rw⟩, ⟨[("--id", some "@p")], ["create", "T"]⟩⟩]).run
        { mapCtx with symtab := ⟨[("@p", ⟨5, false, false⟩)]⟩ } = .ok ((), s') ∧
      (⟨5, "T"⟩ : Row) ∈ s'.idl.rows ∧
      ∀ name symbol, SymbolTable.get ⟨[("@p", ⟨5, false, false⟩)]⟩ name = some symbol →
        ∃ symbol', s'.symtab.get name = some symbol' ∧ symbol'.uuid = symbol.uuid :=
  ⟨_, rfl, by decide, runStream_symbolUuidsKept simpleLib [mapCtlTable] []
    [⟨⟨"create", 2, intMax, "--id=", .rw⟩, ⟨[("--id", some "@p")], ["create", "T"]⟩⟩]
    { mapCtx with symtab := ⟨[("@p", ⟨5, false, false⟩)]⟩ } _ rfl⟩

end DbCtlBase
