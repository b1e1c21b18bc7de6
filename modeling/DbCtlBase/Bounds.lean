import DbCtlBase.Data

/-!
No command leaves a row of the view with fewer values in a column than its type's
`n_min`.

OVSDB allows an `n_min` of 0 or 1 only, so the bound says that a column with `n_min = 1`
is never left empty. `clear` refuses such a column; `remove` checks the count it would
write against `n_min`; `add` writes a union, which keeps every value of the datum it read,
and the `COLUMN:KEY=VALUE` form of `set` writes one that holds the new pair; `create`
starts its row at the defaults, which hold `n_min` values. A plain `COLUMN=VALUE` writes
what `ovsdb_datum_from_string` returns, so it keeps the bound when the parser does
(`Lib.NMinDatums`). The upper bound `n_max` has no such invariant:
`cmdSet_keyForm_exceeds_nMax` breaks it.

* `Idl.NMinHolds`: every row of the view holds at least `n_min` values in each column of
  its table whose `n_min` is at most 1.
* `Idl.NMinHolds.write`: a write keeps it when the datum written holds `n_min` values, or
  no fewer than the one it replaces.
* `runStream_nMinHolds`: every command stream keeps it.
-/

namespace DbCtlBase

/-- The datum parser never returns fewer values than its type's `n_min`. -/
def Lib.NMinDatums (L : Lib) : Prop :=
  ∀ t str st d, L.datumFromString t str st = .ok d → t.nMin ≤ d.n

/-- Every row of the view holds at least `n_min` values in each column of its table whose
`n_min` is at most 1. -/
def Idl.NMinHolds (tables : List CtlTableClass) (idl : Idl) : Prop :=
  ∀ row ∈ idl.rows, ∀ table ∈ tables, table.cls.name = row.table → ∀ column ∈ table.cls.columns,
    column.type.nMin ≤ 1 → column.type.nMin ≤ (idl.data row.uuid column).n

namespace Idl.NMinHolds

variable {tables : List CtlTableClass} {idl : Idl} (h : idl.NMinHolds tables)
include h

/-- A write keeps the bound when the datum written holds `n_min` values, or no fewer than
the one it replaces. -/
lemma write {row : Row} {column : Column} {datum : Datum}
    (hd : column.type.nMin ≤ 1 → column.type.nMin ≤ datum.n ∨ (idl.data row.uuid column).n ≤ datum.n) :
    (idl.write row column datum).NMinHolds tables := by
  intro r hr table ht hname c hc hmin
  simp only [Idl.write]
  split_ifs with heq
  · obtain ⟨hu, rfl⟩ := heq
    rcases hd hmin with hd | hd
    · exact hd
    · exact (h r hr table ht hname c hc hmin).trans (by rw [hu]; exact hd)
  · exact h r hr table ht hname c hc hmin

/-- A new row holds its defaults, `n_min` values in each column. -/
lemma insert (row : Row) : (idl.insert row).NMinHolds tables := by
  intro r hr table ht hname c hc hmin
  simp only [Idl.insert]
  split_ifs with hu
  · simp [Datum.default, Datum.n]
  · obtain hr | hr := List.mem_append.1 hr
    · exact h r hr table ht hname c hc hmin
    · exact absurd (congrArg Row.uuid (List.mem_singleton.1 hr)) hu

lemma delete (row : Row) : ({ idl with rows := idl.rows.filter (· ≠ row) } : Idl).NMinHolds tables :=
  fun r hr => h r (List.mem_filter.1 hr).1

end Idl.NMinHolds

/-! ### The parts of a run pass -/

/-- From `s` to `s'` the bound is kept. -/
def KeepsNMin (tables : List CtlTableClass) (s s' : Ctx) : Prop :=
  s.idl.NMinHolds tables → s'.idl.NMinHolds tables

section Parts

variable {tables : List CtlTableClass}

instance : IsRefl Ctx (KeepsNMin tables) := ⟨fun _ => id⟩

instance : IsTrans Ctx (KeepsNMin tables) := ⟨fun _ _ _ h₁ h₂ => h₂ ∘ h₁⟩

lemma keepsNMin_of_idl_eq {s s' : Ctx} (h : s'.idl = s.idl) : KeepsNMin tables s s' := fun hs => h ▸ hs

/-- The read-only parts leave the view, so they keep the bound. -/
lemma readPrims_keepsNMin : ReadPrims (KeepsNMin tables) :=
  readPrims_untouched.mono fun _ _ h => keepsNMin_of_idl_eq h.idl

/-- A write of a datum that holds `n_min` values. -/
lemma moves_keepsNMin_txnWrite (row : Row) {column : Column} {datum : Datum}
    (hd : column.type.nMin ≤ 1 → column.type.nMin ≤ datum.n) :
    Moves (KeepsNMin tables) (txnWrite row column datum) := by
  intro s _ s' h hs
  cases h
  exact hs.write fun hmin => .inl (hd hmin)

lemma moves_keepsNMin_txnDelete (row : Row) : Moves (KeepsNMin tables) (txnDelete row) := by
  intro s _ s' h hs
  cases h
  exact hs.delete row

/-- Reading a datum and going on from a state that still holds the datum read. -/
lemma moves_keepsNMin_readWrite {α : Type} (row : Row) (column : Column) {g : Datum → CtlM α}
    (hg : ∀ s a s', (g (s.idl.data row.uuid column)).run s = .ok (a, s') → KeepsNMin tables s s') :
    Moves (KeepsNMin tables) (idlRead row column >>= g) := by
  intro s a s' h
  obtain ⟨cur, s₁, h₁, h₂⟩ := bind_run_ok.1 h
  cases h₁
  exact hg { s with log := s.log ++ [.read row column] } a s' h₂

/-- The check on the count and the write that end `cmd_add` and `cmd_remove`, when the
datum written holds `n_min` values or no fewer than the one it replaces. -/
lemma keepsNMin_boundedWrite {row : Row} {column : Column} {c : Prop} [Decidable c] {message : String}
    {old : Datum} {s s' : Ctx} {u : Unit}
    (h : (if c then ctlFatal message else txnVerify row column >>= fun _ => txnWrite row column old).run s =
      .ok (u, s'))
    (hold : ¬ c → column.type.nMin ≤ 1 → column.type.nMin ≤ old.n ∨ (s.idl.data row.uuid column).n ≤ old.n) :
    KeepsNMin tables s s' := by
  split at h
  · cases h
  · obtain ⟨_, s₁, h₁, h₂⟩ := bind_run_ok.1 h
    cases h₁
    cases h₂
    exact fun hs => hs.write (hold ‹_›)

end Parts

/-- The loop of `cmd_add` keeps every value of the datum it starts from, and the view. -/
lemma addLoop_n_le {L : Lib} {type : OvsdbType} :
    ∀ {D : Datum} {args : List String} {s s' : Ctx} {D' : Datum},
      (addLoop L type D args).run s = .ok (D', s') → D.n ≤ D'.n ∧ s'.idl = s.idl
  | D, [], s, s', D', h => by
    cases h
    exact ⟨le_rfl, rfl⟩
  | D, arg :: args, s, s', D', h => by
    obtain ⟨r, s₁, h₁, h₂⟩ := bind_run_ok.1 h
    obtain ⟨V, rfl, h₃⟩ := dieIfError_bind_run_ok.1 h₂
    obtain ⟨hn, hidl⟩ := addLoop_n_le h₃
    exact ⟨((Nat.le_add_right _ _).trans_eq (Datum.n_union D V).symm).trans hn,
      hidl.trans (ovsdbDatumFromString_run_eq h₁).2⟩

/-! ### The run passes that write -/

section Commands

variable (L : Lib) (tables : List CtlTableClass) (args : CmdArgs)

lemma moves_keepsNMin_cmdAdd : Moves (KeepsNMin tables) (cmdAdd L tables args) :=
  Moves.bind (Moves.dieIfError _) fun _ => Moves.bind (Moves.dieIfError _) fun column =>
    Moves.bind (readPrims_keepsNMin.moves_getRow L _ _ _) fun row => by
      rcases row with _ | row
      · exact Moves.pure _
      refine Moves.bind (moves_checkMutable L _ _) fun _ => moves_keepsNMin_readWrite row column fun s _ s' h => ?_
      obtain ⟨old, s₁, h₁, h₂⟩ := bind_run_ok.1 h
      obtain ⟨hn, hidl⟩ := addLoop_n_le h₁
      exact fun hs => keepsNMin_boundedWrite h₂ (fun _ _ => .inr (by rw [hidl]; exact hn)) (hidl ▸ hs)

lemma moves_keepsNMin_cmdRemove : Moves (KeepsNMin tables) (cmdRemove L tables args) :=
  Moves.bind (Moves.dieIfError _) fun _ => Moves.bind (Moves.dieIfError _) fun column =>
    Moves.bind (readPrims_keepsNMin.moves_getRow L _ _ _) fun row => by
      rcases row with _ | row
      · exact Moves.pure _
      refine Moves.bind (moves_checkMutable L _ _) fun _ => moves_keepsNMin_readWrite row column fun s _ s' h => ?_
      obtain ⟨old, s₁, h₁, h₂⟩ := bind_run_ok.1 h
      exact trans_of (KeepsNMin tables) (readPrims_keepsNMin.moves_removeLoop L _ _ _ s old s₁ h₁)
        (keepsNMin_boundedWrite h₂ fun hc _ => .inl (not_lt.1 hc))

lemma moves_keepsNMin_cmdClear : Moves (KeepsNMin tables) (cmdClear L tables args) :=
  Moves.bind (Moves.dieIfError _) fun _ => Moves.bind (readPrims_keepsNMin.moves_getRow L _ _ _) fun row => by
    rcases row with _ | row
    · exact Moves.pure _
    refine Moves.forM _ fun _ _ => Moves.bind (Moves.dieIfError _) fun _ =>
      Moves.bind (moves_checkMutable L _ _) fun _ => ?_
    split
    · exact Moves.ctlFatal _
    · exact moves_keepsNMin_txnWrite row fun _ => not_lt.1 ‹_›

lemma moves_keepsNMin_cmdDestroy : Moves (KeepsNMin tables) (cmdDestroy L tables args) := by
  refine Moves.bind (Moves.dieIfError _) fun _ => ?_
  dsimp only
  split
  · exact Moves.ctlFatal _
  split
  · exact Moves.ctlFatal _
  split
  · exact Moves.bind (readPrims_keepsNMin.moves_idlRows _) fun _ => Moves.forM _ fun _ _ => moves_keepsNMin_txnDelete _
  · exact Moves.forM _ fun _ _ => Moves.bind (readPrims_keepsNMin.moves_getRow L _ _ _) fun row => by
      rcases row with _ | row
      · exact Moves.pure _
      · exact moves_keepsNMin_txnDelete _

variable {L} (hmin : L.NMinDatums)
include hmin

lemma moves_keepsNMin_setColumn (table : CtlTableClass) (row : Row) (arg : String) :
    Moves (KeepsNMin tables) (setColumn L table row arg) := by
  refine Moves.bind (Moves.dieIfError _) fun ⟨column, key, v⟩ => ?_
  rcases v with _ | ⟨_, valueString⟩
  · exact Moves.ctlFatal _
  refine Moves.bind (moves_checkMutable L _ _) fun _ => ?_
  rcases key with _ | keyString
  · intro s a s' h hs
    obtain ⟨r, s₁, h₁, h₂⟩ := bind_run_ok.1 h
    obtain ⟨d, rfl, h₃⟩ := dieIfError_bind_run_ok.1 h₂
    obtain ⟨hr, hidl⟩ := ovsdbDatumFromString_run_eq h₁
    exact moves_keepsNMin_txnWrite row (fun _ => hmin _ _ _ _ hr.symm) _ _ _ h₃ (hidl ▸ hs)
  dsimp only
  split
  · exact Moves.ctlFatal _
  · exact Moves.bind (readPrims_keepsNMin.atom _ _ _) fun r => Moves.bind (Moves.dieIfError r) fun key =>
      Moves.bind (readPrims_keepsNMin.atom _ _ _) fun r => Moves.bind (Moves.dieIfError r) fun value =>
        Moves.bind (readPrims_keepsNMin.moves_idlRead _ _) fun cur =>
          Moves.bind (readPrims_keepsNMin.reads (readsAs_txnVerify rfl)) fun _ =>
            moves_keepsNMin_txnWrite row fun hm => hm.trans (by rw [Datum.n_union]; exact Nat.le_add_right _ _)

lemma moves_keepsNMin_ctlSetColumn (tableName : String) (row : Row) (arg : String) :
    Moves (KeepsNMin tables) (ctlSetColumn L tables tableName row arg) :=
  Moves.bind (Moves.dieIfError _) fun table => moves_keepsNMin_setColumn tables hmin table row arg

lemma moves_keepsNMin_cmdSet : Moves (KeepsNMin tables) (cmdSet L tables args) :=
  Moves.bind (Moves.dieIfError _) fun _ => Moves.bind (readPrims_keepsNMin.moves_getRow L _ _ _) fun row => by
    rcases row with _ | row
    · exact Moves.pure _
    · exact Moves.forM _ fun _ _ => moves_keepsNMin_setColumn tables hmin _ _ _

lemma moves_keepsNMin_cmdCreate : Moves (KeepsNMin tables) (cmdCreate L tables args) := by
  refine Moves.bind (Moves.dieIfError _) fun table => ?_
  refine Moves.bind_bind (fun s _ s' h hs => ?_) fun row =>
    Moves.bind (Moves.forM _ fun _ _ => moves_keepsNMin_setColumn tables hmin _ _ _) fun _ =>
      readPrims_keepsNMin.putOutput _
  obtain ⟨uuid, s₁, h₁, h₂⟩ := bind_run_ok.1 h
  rw [← (moves_untouched_createDefineId table _ s uuid s₁ h₁).idl] at hs
  rcases uuid with _ | u <;> cases h₂ <;> exact hs.insert _

/-- Every run pass keeps the bound. -/
lemma moves_keepsNMin_ctlCommandRun (showTables : List CmdShowTable) (command : CtlCommand) :
    Moves (KeepsNMin tables) (ctlCommandRun L tables showTables command) :=
  moves_ctlCommandRun_of (readPrims_keepsNMin.moves_cmdGet L tables _) (readPrims_keepsNMin.moves_cmdList L tables _)
    (readPrims_keepsNMin.moves_cmdFind L tables _) (moves_keepsNMin_cmdSet tables _ hmin)
    (moves_keepsNMin_cmdAdd L tables _) (moves_keepsNMin_cmdRemove L tables _) (moves_keepsNMin_cmdClear L tables _)
    (moves_keepsNMin_cmdCreate tables _ hmin) (moves_keepsNMin_cmdDestroy L tables _)
    (fun _ => readPrims_keepsNMin.moves_cmdWaitUntil L tables _) (readPrims_keepsNMin.moves_cmdShow L showTables)

end Commands

/-- **No column with `n_min = 1` is left empty, over every command stream**: when the datum
parser never returns fewer values than a type's `n_min`, every completed run of a command
stream from a view whose rows hold at least `n_min` values in each column of their table
(for the columns whose `n_min` is at most 1, as OVSDB allows) ends in one whose rows still
do. -/
theorem runStream_nMinHolds (L : Lib) (hmin : L.NMinDatums) (tables : List CtlTableClass)
    (showTables : List CmdShowTable) (commands : List CtlCommand) (s s' : Ctx) (hs : s.idl.NMinHolds tables)
    (hrun : (runStream L tables showTables commands).run s = .ok ((), s')) : s'.idl.NMinHolds tables :=
  Moves.forM commands (fun _ _ => moves_keepsNMin_ctlCommandRun tables hmin showTables _) s () s' hrun hs

/-- The datum parser of `hostLib` checks `n_min`. -/
lemma hostLib_nMinDatums : hostLib.NMinDatums := by
  intro t str st d h
  obtain ⟨entries, -, h⟩ := except_bind_eq_ok.1 h
  split_ifs at h with hc
  cases h
  simpa [Datum.n, Datum.length_sortEntries] using hc.2

/-- Every row of `hostCtx` holds a value in each of its columns that may not be empty. -/
lemma hostCtx_nMinHolds : hostCtx.idl.NMinHolds hostTables := by
  unfold Idl.NMinHolds
  decide

theorem runStream_nMinHolds_addRemoveCreate :
    ∃ s', (runStream hostLib hostTables []
        [⟨⟨"add", 4, intMax, "--if-exists", .rw⟩, ⟨[], ["add", "Host", ".", "tags", "y"]⟩⟩,
          ⟨⟨"remove", 4, intMax, "--if-exists", .rw⟩, ⟨[], ["remove", "Host", ".", "tags", "x"]⟩⟩,
          ⟨⟨"create", 2, intMax, "--id=", .rw⟩, ⟨[], ["create", "Host", "serial=5", "tags=z"]⟩⟩]).run
        hostCtx = .ok ((), s') ∧ s'.idl.NMinHolds hostTables :=
  ⟨_, rfl, runStream_nMinHolds hostLib hostLib_nMinDatums hostTables []
    [⟨⟨"add", 4, intMax, "--if-exists", .rw⟩, ⟨[], ["add", "Host", ".", "tags", "y"]⟩⟩,
      ⟨⟨"remove", 4, intMax, "--if-exists", .rw⟩, ⟨[], ["remove", "Host", ".", "tags", "x"]⟩⟩,
      ⟨⟨"create", 2, intMax, "--id=", .rw⟩, ⟨[], ["create", "Host", "serial=5", "tags=z"]⟩⟩]
    hostCtx _ hostCtx_nMinHolds rfl⟩

end DbCtlBase
