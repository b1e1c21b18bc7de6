import DbCtlBase.Stream

/-!
No two rows share a UUID, over every command stream.

`uuid_generate` hands out `nextUuid`, and `create --id=@name` gives its row the UUID of
the symbol `@name`, which a reference to `@name` may have taken from `uuid_generate`
before. `create_symbol` refuses a name that an `--id` has already defined, by
`create` or by `get`; without that check a second `create --id=@name`, or a `create`
after `get --id=@name`, would insert a second row under a UUID a row already has.

* `UuidsFresh`: the rows' UUIDs are distinct and below `nextUuid`, and each pending
  symbol (bound but not yet defined by an `--id`) holds a UUID below `nextUuid` that no
  row and no other pending symbol has.
* `UuidsFresh.mono`, `UuidsFresh.putPending`, `UuidsFresh.freshFor_generate` and
  `UuidsFresh.insert`: the ways a primitive changes the rows, the symbols and the
  counter keep the invariant.
* `createSymbol_fresh`: the UUID `create_symbol` hands to `create` is fresh.
* `cmdPrims_keepsFresh`: every part of a run pass keeps the invariant, and every UUID
  that is free (`FreshFor`: below the counter, held by no row and no pending symbol)
  stays free.
* `runStream_uuidsFresh`: every command stream keeps the invariant, and
  `runStream_freshFor`: a free UUID stays free, so a UUID a deleted row held is never
  given to a row again.
-/

namespace DbCtlBase

/-- `name` is bound to `symbol`, which no `--id` has defined yet. -/
def SymbolTable.Pending (st : SymbolTable) (name : String) (symbol : OvsdbSymbol) : Prop :=
  st.get name = some symbol ∧ symbol.created = false

lemma SymbolTable.pending_put {st : SymbolTable} {name n : String} {symbol y : OvsdbSymbol} :
    (st.put name symbol).Pending n y ↔
      n = name ∧ y = symbol ∧ symbol.created = false ∨ n ≠ name ∧ st.Pending n y := by
  by_cases h : n = name
  · subst h
    simp only [SymbolTable.Pending, SymbolTable.get_put, if_true, Option.some.injEq, true_and, ne_eq,
      not_true_eq_false, false_and, or_false]
    constructor <;> rintro ⟨rfl, hc⟩ <;> exact ⟨rfl, hc⟩
  · simp [SymbolTable.Pending, h]

/-- The UUIDs in use are distinct and below the counter: those of the rows, and those of
the pending symbols, which `create` may yet give to a row. -/
structure UuidsFresh (s : Ctx) : Prop where
  nodup : (s.idl.rows.map (·.uuid)).Nodup
  rows_lt : ∀ r ∈ s.idl.rows, r.uuid < s.nextUuid
  pending_lt : ∀ name symbol, s.symtab.Pending name symbol → symbol.uuid < s.nextUuid
  pending_not_row : ∀ name symbol, s.symtab.Pending name symbol → ∀ r ∈ s.idl.rows, r.uuid ≠ symbol.uuid
  pending_ne : ∀ name₁ name₂ symbol₁ symbol₂, s.symtab.Pending name₁ symbol₁ →
    s.symtab.Pending name₂ symbol₂ → name₁ ≠ name₂ → symbol₁.uuid ≠ symbol₂.uuid

/-- `u` is below the counter, and no row and no pending symbol has it: a row may take it. -/
structure FreshFor (s : Ctx) (u : Uuid) : Prop where
  lt : u < s.nextUuid
  not_row : ∀ r ∈ s.idl.rows, r.uuid ≠ u
  not_pending : ∀ name symbol, s.symtab.Pending name symbol → symbol.uuid ≠ u

lemma SymbolTable.not_pending_of_symbols_nil {st : SymbolTable} (h : st.symbols = []) (name : String)
    (symbol : OvsdbSymbol) : ¬ st.Pending name symbol := by
  simp [SymbolTable.Pending, SymbolTable.get, h]

/-- A context with no symbols, whose rows have distinct UUIDs below the counter. -/
lemma UuidsFresh.of_symbols_nil {s : Ctx} (hsym : s.symtab.symbols = [])
    (hnodup : (s.idl.rows.map (·.uuid)).Nodup) (hlt : ∀ r ∈ s.idl.rows, r.uuid < s.nextUuid) :
    UuidsFresh s :=
  have hnone := SymbolTable.not_pending_of_symbols_nil hsym
  ⟨hnodup, hlt, fun n y hp => absurd hp (hnone n y), fun n y hp => absurd hp (hnone n y),
    fun n _ y _ hp => absurd hp (hnone n y)⟩

/-- `hostCtx` has no symbol, and its rows have distinct UUIDs below the counter. -/
lemma hostCtx_uuidsFresh : UuidsFresh hostCtx := UuidsFresh.of_symbols_nil rfl (by decide) (by decide)

/-- Binding a name to a defined symbol makes no symbol pending. -/
lemma SymbolTable.pending_of_put_created {st : SymbolTable} {name n : String} {symbol y : OvsdbSymbol}
    (hc : symbol.created = true) (hp : (st.put name symbol).Pending n y) : st.Pending n y := by
  rcases SymbolTable.pending_put.1 hp with ⟨-, -, hc'⟩ | ⟨-, hp⟩
  · simp [hc] at hc'
  · exact hp

namespace UuidsFresh

variable {s s' : Ctx}

/-- Dropping rows, dropping pending symbols and raising the counter keep the invariant. -/
lemma mono (h : UuidsFresh s) (hrows : s'.idl.rows.Sublist s.idl.rows)
    (hpend : ∀ name symbol, s'.symtab.Pending name symbol → s.symtab.Pending name symbol)
    (hn : s.nextUuid ≤ s'.nextUuid) : UuidsFresh s' where
  nodup := (hrows.map _).nodup h.nodup
  rows_lt r hr := (h.rows_lt r (hrows.subset hr)).trans_le hn
  pending_lt n y hp := (h.pending_lt n y (hpend n y hp)).trans_le hn
  pending_not_row n y hp r hr := h.pending_not_row n y (hpend n y hp) r (hrows.subset hr)
  pending_ne n₁ n₂ y₁ y₂ hp₁ hp₂ := h.pending_ne n₁ n₂ y₁ y₂ (hpend n₁ y₁ hp₁) (hpend n₂ y₂ hp₂)

/-- Binding a name to a defined symbol keeps the invariant. -/
lemma putCreated (h : UuidsFresh s) {name : String} {symbol : OvsdbSymbol} (hc : symbol.created = true) :
    UuidsFresh { s with symtab := s.symtab.put name symbol } :=
  h.mono (List.Sublist.refl _) (fun _ _ => SymbolTable.pending_of_put_created hc) le_rfl

/-- `ovsdb_symbol_table_insert` of a new name binds it to a pending symbol holding the
counter, and raises the counter. -/
lemma putPending (h : UuidsFresh s) (name : String) :
    UuidsFresh { s with nextUuid := s.nextUuid + 1, symtab := s.symtab.put name ⟨s.nextUuid, false, false⟩ } where
  nodup := h.nodup
  rows_lt r hr := Nat.lt_succ_of_lt (h.rows_lt r hr)
  pending_lt n y hp := by
    rcases SymbolTable.pending_put.1 hp with ⟨-, rfl, -⟩ | ⟨-, hp⟩
    · exact Nat.lt_succ_self _
    · exact Nat.lt_succ_of_lt (h.pending_lt n y hp)
  pending_not_row n y hp r hr := by
    rcases SymbolTable.pending_put.1 hp with ⟨-, rfl, -⟩ | ⟨-, hp⟩
    · exact (h.rows_lt r hr).ne
    · exact h.pending_not_row n y hp r hr
  pending_ne n₁ n₂ y₁ y₂ hp₁ hp₂ hne := by
    rcases SymbolTable.pending_put.1 hp₁ with ⟨rfl, rfl, -⟩ | ⟨-, hq₁⟩ <;>
      rcases SymbolTable.pending_put.1 hp₂ with ⟨rfl, rfl, -⟩ | ⟨-, hq₂⟩
    · exact absurd rfl hne
    · exact (h.pending_lt n₂ y₂ hq₂).ne'
    · exact (h.pending_lt n₁ y₁ hq₁).ne
    · exact h.pending_ne n₁ n₂ y₁ y₂ hq₁ hq₂ hne

/-- `uuid_generate` hands out a fresh UUID. -/
lemma freshFor_generate (h : UuidsFresh s) : FreshFor { s with nextUuid := s.nextUuid + 1 } s.nextUuid :=
  ⟨Nat.lt_succ_self _, fun r hr => (h.rows_lt r hr).ne, fun n y hp => (h.pending_lt n y hp).ne⟩

/-- Appending a row whose UUID is fresh keeps the invariant. -/
lemma insert (h : UuidsFresh s) {row : Row} (hfresh : FreshFor s row.uuid)
    (hrows : s'.idl.rows = s.idl.rows ++ [row]) (hsym : s'.symtab = s.symtab)
    (hn : s'.nextUuid = s.nextUuid) : UuidsFresh s' where
  nodup := by
    rw [hrows, List.map_append, List.nodup_append]
    exact ⟨h.nodup, List.nodup_singleton _, by simpa using hfresh.not_row⟩
  rows_lt r hr := by
    rw [hrows, List.mem_append, List.mem_singleton] at hr
    rw [hn]
    rcases hr with hr | rfl
    · exact h.rows_lt r hr
    · exact hfresh.lt
  pending_lt n y hp := hn ▸ h.pending_lt n y (hsym ▸ hp)
  pending_not_row n y hp r hr := by
    rw [hsym] at hp
    rw [hrows, List.mem_append, List.mem_singleton] at hr
    rcases hr with hr | rfl
    · exact h.pending_not_row n y hp r hr
    · exact (hfresh.not_pending n y hp).symm
  pending_ne n₁ n₂ y₁ y₂ hp₁ hp₂ := h.pending_ne n₁ n₂ y₁ y₂ (hsym ▸ hp₁) (hsym ▸ hp₂)

end UuidsFresh

namespace FreshFor

variable {s s' : Ctx} {u : Uuid}

lemma mono (h : FreshFor s u) (hrows : s'.idl.rows.Sublist s.idl.rows)
    (hpend : ∀ name symbol, s'.symtab.Pending name symbol → s.symtab.Pending name symbol)
    (hn : s.nextUuid ≤ s'.nextUuid) : FreshFor s' u :=
  ⟨h.lt.trans_le hn, fun r hr => h.not_row r (hrows.subset hr), fun n y hp => h.not_pending n y (hpend n y hp)⟩

lemma putCreated (h : FreshFor s u) {name : String} {symbol : OvsdbSymbol} (hc : symbol.created = true) :
    FreshFor { s with symtab := s.symtab.put name symbol } u :=
  h.mono (List.Sublist.refl _) (fun _ _ => SymbolTable.pending_of_put_created hc) le_rfl

/-- The symbol `ovsdb_symbol_table_insert` makes holds the counter, which no free UUID is. -/
lemma putPending (h : FreshFor s u) (name : String) :
    FreshFor { s with nextUuid := s.nextUuid + 1, symtab := s.symtab.put name ⟨s.nextUuid, false, false⟩ } u :=
  ⟨Nat.lt_succ_of_lt h.lt, h.not_row, fun n y hp => by
    rcases SymbolTable.pending_put.1 hp with ⟨-, rfl, -⟩ | ⟨-, hq⟩
    · exact h.lt.ne'
    · exact h.not_pending n y hq⟩

lemma insert (h : FreshFor s u) {row : Row} (hne : row.uuid ≠ u)
    (hrows : s'.idl.rows = s.idl.rows ++ [row]) (hsym : s'.symtab = s.symtab)
    (hn : s'.nextUuid = s.nextUuid) : FreshFor s' u where
  lt := hn ▸ h.lt
  not_row r hr := by
    rw [hrows, List.mem_append, List.mem_singleton] at hr
    rcases hr with hr | rfl
    · exact h.not_row r hr
    · exact hne
  not_pending n y hp := h.not_pending n y (hsym ▸ hp)

end FreshFor

/-! ### The primitives -/

/-- From `s` to `s'` the invariant is kept, and every UUID free in `s` stays free. -/
def KeepsFresh (s s' : Ctx) : Prop := UuidsFresh s → UuidsFresh s' ∧ ∀ u, FreshFor s u → FreshFor s' u

instance : IsRefl Ctx KeepsFresh := ⟨fun _ h => ⟨h, fun _ => id⟩⟩

instance : IsTrans Ctx KeepsFresh :=
  ⟨fun _ _ _ h₁ h₂ hf => ⟨(h₂ (h₁ hf).1).1, fun u hu => (h₂ (h₁ hf).1).2 u ((h₁ hf).2 u hu)⟩⟩

lemma keepsFresh_of_mono {s s' : Ctx} (hrows : s'.idl.rows.Sublist s.idl.rows)
    (hpend : ∀ name symbol, s'.symtab.Pending name symbol → s.symtab.Pending name symbol)
    (hn : s.nextUuid ≤ s'.nextUuid) : KeepsFresh s s' :=
  fun h => ⟨h.mono hrows hpend hn, fun _ hu => hu.mono hrows hpend hn⟩

lemma keepsFresh_of_eq {s s' : Ctx} (hrows : s'.idl.rows = s.idl.rows) (hsym : s'.symtab = s.symtab)
    (hn : s'.nextUuid = s.nextUuid) : KeepsFresh s s' :=
  keepsFresh_of_mono (hrows ▸ List.Sublist.refl _) (fun _ _ hp => hsym ▸ hp) hn.ge

lemma keepsFresh_putCreated (s : Ctx) (name : String) (symbol : OvsdbSymbol) (hc : symbol.created = true) :
    KeepsFresh s { s with symtab := s.symtab.put name symbol } :=
  keepsFresh_of_mono (List.Sublist.refl _) (fun _ _ => SymbolTable.pending_of_put_created hc) le_rfl

lemma keepsFresh_generate (s : Ctx) : KeepsFresh s { s with nextUuid := s.nextUuid + 1 } :=
  keepsFresh_of_mono (List.Sublist.refl _) (fun _ _ => id) (Nat.le_succ _)

lemma moves_keepsFresh_symbolTableInsert (name : String) : Moves KeepsFresh (symbolTableInsert name) := by
  intro s symbol s' hrun hf
  rw [symbolTableInsert_run] at hrun
  split at hrun
  · cases hrun
    exact ⟨hf, fun _ => id⟩
  · cases hrun
    exact ⟨hf.putPending name, fun _ hu => hu.putPending name⟩

lemma moves_keepsFresh_insertSymbols : ∀ names, Moves KeepsFresh (insertSymbols names)
  | [] => Moves.pure _
  | name :: names => Moves.bind (moves_keepsFresh_symbolTableInsert name) fun _ =>
      moves_keepsFresh_insertSymbols names

/-- `create_symbol` keeps the invariant and the free UUIDs, and the symbol it defines holds
a UUID that is fresh afterwards and was not free before: it was pending, and pending UUIDs
are distinct. -/
lemma createSymbol_fresh {id : String} {s s' : Ctx} {symbol : OvsdbSymbol} {new : Bool}
    (h : (createSymbol id).run s = .ok ((symbol, new), s')) (hf : UuidsFresh s) :
    KeepsFresh s s' ∧ symbol.created = true ∧ FreshFor s' symbol.uuid ∧
      ∀ u, FreshFor s u → symbol.uuid ≠ u := by
  unfold createSymbol at h
  split_ifs at h
  · simp at h
  obtain ⟨s₀, s₁, h₀, h₁⟩ := bind_run_ok.1 h
  cases h₀
  obtain ⟨sym, s₂, h₂, h₃⟩ := bind_run_ok.1 h₁
  have hk₂ := moves_keepsFresh_symbolTableInsert id s sym s₂ h₂
  obtain ⟨hf₂, hu₂⟩ := hk₂ hf
  by_cases hc : sym.created = true
  · simp [hc] at h₃
  simp only [hc, Bool.false_eq_true, if_false, StateT.run_bind, putSymbol_run, except_ok_bind,
    StateT.run_pure, except_pure_eq, Except.ok.injEq, Prod.mk.injEq] at h₃
  obtain ⟨⟨rfl, rfl⟩, rfl⟩ := h₃
  have hp : s₂.symtab.Pending id sym := ⟨(symbolTableInsert_run_ok h₂).2, by simpa using hc⟩
  refine ⟨trans_of KeepsFresh hk₂ (keepsFresh_putCreated s₂ id _ rfl), rfl,
    ⟨hf₂.pending_lt id sym hp, hf₂.pending_not_row id sym hp, fun n y hq => ?_⟩,
    fun u hu => (hu₂ u hu).not_pending id sym hp⟩
  rcases SymbolTable.pending_put.1 hq with ⟨-, -, hc'⟩ | ⟨hne, hq⟩
  · cases hc'
  · exact hf₂.pending_ne n id y sym hq hp hne

lemma moves_keepsFresh_getDefineId (id : Option String) (row : Row) : Moves KeepsFresh (getDefineId id row) := by
  rcases id with _ | id
  · exact Moves.pure _
  rintro s ⟨⟩ s' h hf
  obtain ⟨⟨symbol, new⟩, s₁, h₁, h₂⟩ := bind_run_ok.1 h
  obtain ⟨hk, hc, -⟩ := createSymbol_fresh h₁ hf
  dsimp only at h₂
  split at h₂
  · cases h₂
  · cases h₂
    exact trans_of KeepsFresh hk (keepsFresh_putCreated s₁ id { symbol with uuid := row.uuid, strongRef := true } hc) hf

/-- The `--id` part of `create` keeps the invariant and the free UUIDs, and the UUID it
hands to the insert is fresh and was not free. -/
lemma createDefineId_fresh {table : CtlTableClass} {id : Option String} {s s' : Ctx} {uuid : Option Uuid}
    (h : (createDefineId table id).run s = .ok (uuid, s')) (hf : UuidsFresh s) :
    (UuidsFresh s' ∧ ∀ u, FreshFor s u → FreshFor s' u) ∧
      ∀ u, uuid = some u → FreshFor s' u ∧ ∀ v, FreshFor s v → u ≠ v := by
  rcases id with _ | id
  · cases h
    exact ⟨⟨hf, fun _ => id⟩, fun _ h => nomatch h⟩
  obtain ⟨⟨symbol, new⟩, s₂, h₃, h₄⟩ := bind_run_ok.1 h
  obtain ⟨hk₂, hc, hfresh, hne⟩ := createSymbol_fresh h₃ hf
  obtain ⟨⟨⟩, s₃, h₅, h₆⟩ := bind_run_ok.1 h₄
  have hk₃ : KeepsFresh s s₃ ∧ FreshFor s₃ symbol.uuid := by
    split at h₅
    · cases h₅
      exact ⟨trans_of KeepsFresh hk₂ (keepsFresh_putCreated s₂ id { symbol with strongRef := true } hc),
        hfresh.putCreated hc⟩
    · cases h₅
      exact ⟨hk₂, hfresh⟩
  cases h₆
  exact ⟨hk₃.1 hf, fun u hu => by cases hu; exact ⟨hk₃.2, hne⟩⟩

/-- `create` inserts its row under the UUID of its `--id` symbol, or a generated one:
either is fresh, and neither was free. -/
lemma moves_keepsFresh_insert (table : CtlTableClass) (id : Option String) :
    Moves KeepsFresh (createDefineId table id >>= fun uuid => txnInsert table.cls uuid) := by
  intro s row s' h hf
  obtain ⟨uuid, s₁, h₁, h₂⟩ := bind_run_ok.1 h
  obtain ⟨⟨hf₁, hu₁⟩, hfresh⟩ := createDefineId_fresh h₁ hf
  rcases uuid with _ | u
  · cases h₂
    obtain ⟨hf', hu'⟩ := keepsFresh_generate s₁ hf₁
    exact ⟨hf'.insert hf₁.freshFor_generate rfl rfl rfl, fun v hv =>
      (hu' v (hu₁ v hv)).insert (hu₁ v hv).lt.ne' rfl rfl rfl⟩
  · obtain ⟨hfu, hne⟩ := hfresh u rfl
    cases h₂
    exact ⟨hf₁.insert hfu rfl rfl rfl, fun v hv => (hu₁ v hv).insert (hne v hv) rfl rfl rfl⟩

lemma moves_keepsFresh_txnDelete (row : Row) : Moves KeepsFresh (txnDelete row) := fun _ _ _ h => by
  cases h
  exact keepsFresh_of_mono (List.filter_sublist _) (fun _ _ => id) le_rfl

/-- The read-only parts keep the invariant and the free UUIDs. -/
lemma readPrims_keepsFresh : ReadPrims KeepsFresh where
  putOutput _ _ _ _ h := by cases h; exact keepsFresh_of_eq rfl rfl rfl
  setTable _ _ _ _ h := by cases h; exact keepsFresh_of_eq rfl rfl rfl
  addTableRow _ _ _ _ h := by cases h; exact keepsFresh_of_eq rfl rfl rfl
  setTryAgain _ _ _ h := by cases h; exact keepsFresh_of_eq rfl rfl rfl
  reads h := h.moves fun _ _ _ => keepsFresh_of_eq rfl rfl rfl
  atom _ _ _ := Moves.bind (moves_keepsFresh_insertSymbols _) fun _ => Moves.bind Moves.get fun _ => Moves.pure _
  datum _ _ _ := Moves.bind (moves_keepsFresh_insertSymbols _) fun _ => Moves.bind Moves.get fun _ => Moves.pure _
  defineId id row s a s' _ h := moves_keepsFresh_getDefineId id row s a s' h

/-- Every part of a run pass keeps the invariant and the free UUIDs. -/
lemma cmdPrims_keepsFresh : CmdPrims KeepsFresh where
  toReadPrims := readPrims_keepsFresh
  txnWrite _ _ _ _ _ _ _ h := by cases h; exact keepsFresh_of_eq rfl rfl rfl
  txnDelete row s a s' _ h := moves_keepsFresh_txnDelete row s a s' h
  deleteAll := readPrims_keepsFresh.moves_deleteAll moves_keepsFresh_txnDelete
  insert := moves_keepsFresh_insert

/-- **UUIDs stay fresh over every command stream**: from a context whose row UUIDs and
pending symbols are fresh, every completed run of a command stream ends in one where they
still are; in particular no two rows share a UUID. -/
theorem runStream_uuidsFresh (L : Lib) (tables : List CtlTableClass) (showTables : List CmdShowTable)
    (commands : List CtlCommand) (s s' : Ctx) (hs : UuidsFresh s)
    (hrun : (runStream L tables showTables commands).run s = .ok ((), s')) : UuidsFresh s' :=
  (cmdPrims_keepsFresh.moves_runStream L tables showTables commands s () s' hrun hs).1

theorem runStream_uuidsFresh_createTwice :
    ∃ s', (runStream simpleLib [mapCtlTable] []
        [⟨⟨"create", 2, intMax, "--id=", .rw⟩, ⟨[("--id", some "@r")], ["create", "T"]⟩⟩,
          ⟨⟨"create", 2, intMax, "--id=", .rw⟩, ⟨[], ["create", "T"]⟩⟩]).run { mapCtx with nextUuid := 8 } =
        .ok ((), s') ∧ UuidsFresh s' :=
  ⟨_, rfl, runStream_uuidsFresh simpleLib [mapCtlTable] []
    [⟨⟨"create", 2, intMax, "--id=", .rw⟩, ⟨[("--id", some "@r")], ["create", "T"]⟩⟩,
      ⟨⟨"create", 2, intMax, "--id=", .rw⟩, ⟨[], ["create", "T"]⟩⟩] { mapCtx with nextUuid := 8 } _
    (UuidsFresh.of_symbols_nil rfl (by decide) (by decide)) rfl⟩

/-- **No UUID is handed out twice**: a UUID that is free at the start (below the counter,
held by no row and no pending symbol, such as that of a row a transaction deleted) is, at
the end of every completed run of a command stream, still free; in particular no row of
the final view holds it. -/
theorem runStream_freshFor (L : Lib) (tables : List CtlTableClass) (showTables : List CmdShowTable)
    (commands : List CtlCommand) (s s' : Ctx) (hs : UuidsFresh s) (u : Uuid) (hu : FreshFor s u)
    (hrun : (runStream L tables showTables commands).run s = .ok ((), s')) : FreshFor s' u :=
  (cmdPrims_keepsFresh.moves_runStream L tables showTables commands s () s' hrun hs).2 u hu

theorem runStream_freshFor_createTwice :
    ∃ s', (runStream simpleLib [mapCtlTable] []
        [⟨⟨"create", 2, intMax, "--id=", .rw⟩, ⟨[("--id", some "@r")], ["create", "T"]⟩⟩,
          ⟨⟨"create", 2, intMax, "--id=", .rw⟩, ⟨[], ["create", "T"]⟩⟩]).run { mapCtx with nextUuid := 8 } =
        .ok ((), s') ∧ FreshFor s' 3 :=
  ⟨_, rfl, runStream_freshFor simpleLib [mapCtlTable] []
    [⟨⟨"create", 2, intMax, "--id=", .rw⟩, ⟨[("--id", some "@r")], ["create", "T"]⟩⟩,
      ⟨⟨"create", 2, intMax, "--id=", .rw⟩, ⟨[], ["create", "T"]⟩⟩] { mapCtx with nextUuid := 8 } _
    (UuidsFresh.of_symbols_nil rfl (by decide) (by decide)) 3
    ⟨by decide, by decide, fun n y hp => absurd hp (SymbolTable.not_pending_of_symbols_nil rfl n y)⟩ rfl⟩

end DbCtlBase
