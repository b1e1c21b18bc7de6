import DbCtlBase.Uuid

/-!
The calls a command stream stages form a valid transaction on the view it starts from.

The transaction's view is what its staged calls make of the view it started from
(`Idl.replay`), and each call is allowed where it stands: `ovsdb_idl_txn_write` and
`ovsdb_idl_txn_delete` are given a row of the view, never one the transaction deleted,
and `ovsdb_idl_txn_insert` a UUID that no row of the view has. The commands find their
rows through `get_row`, which only returns rows of the view, and `destroy --all` deletes
each row of its table once.

* `Idl.apply`, `Idl.replay`: what a call, and a list of calls, does to the view.
* `IdlOp.allowed`, `allowedTrace`: whether a call is allowed on a view, and whether each
  call of a list is allowed where it stands.
* `Staged`: the calls appended to the log replay the view into the next one, each allowed;
  `cmdPrims_staged` gives it to every part of a run pass.
* `runStream_staged`: every command stream, from a context whose UUIDs are fresh, stages
  a valid transaction whose replay is the view it ends with.
-/

namespace DbCtlBase

/-- What an IDL call does to the transaction's view. -/
def Idl.apply (idl : Idl) : IdlOp → Idl
  | .write row column datum => idl.write row column datum
  | .insert row => idl.insert row
  | .delete row => { idl with rows := idl.rows.filter (· ≠ row) }
  | _ => idl

/-- The view after the calls `ops`, in order. -/
def Idl.replay (idl : Idl) (ops : List IdlOp) : Idl := ops.foldl Idl.apply idl

/-- Whether the call `op` is allowed on the view `idl`: a write or a delete names a row of
the view, an insert a UUID that no row of the view has. -/
def IdlOp.allowed (idl : Idl) : IdlOp → Bool
  | .write row _ _ => row ∈ idl.rows
  | .delete row => row ∈ idl.rows
  | .insert row => idl.rows.all (·.uuid ≠ row.uuid)
  | _ => true

/-- Whether every call of `ops` is allowed where it stands. -/
def allowedTrace : Idl → List IdlOp → Bool
  | _, [] => true
  | idl, op :: ops => op.allowed idl && allowedTrace (idl.apply op) ops

lemma Idl.replay_append (idl : Idl) (l₁ l₂ : List IdlOp) :
    idl.replay (l₁ ++ l₂) = (idl.replay l₁).replay l₂ :=
  List.foldl_append _ _ _ _

lemma allowedTrace_append : ∀ (idl : Idl) (l₁ l₂ : List IdlOp),
    allowedTrace idl (l₁ ++ l₂) = (allowedTrace idl l₁ && allowedTrace (idl.replay l₁) l₂)
  | _, [], _ => rfl
  | idl, op :: l₁, l₂ => by
    show (op.allowed idl && allowedTrace (idl.apply op) (l₁ ++ l₂)) = _
    rw [allowedTrace_append _ l₁ l₂, ← Bool.and_assoc]
    rfl

/-- Calls that change nothing leave the view, and are always allowed. -/
lemma replay_of_changesDb : ∀ {l : List IdlOp}, (∀ op ∈ l, op.changesDb = false) → ∀ idl : Idl,
    idl.replay l = idl ∧ allowedTrace idl l = true
  | [], _, _ => ⟨rfl, rfl⟩
  | op :: l, h, idl => by
    have happly : idl.apply op = idl ∧ op.allowed idl = true := by
      have hop := h op (List.mem_cons_self _ _)
      cases op <;> simp_all [IdlOp.changesDb, Idl.apply, IdlOp.allowed]
    obtain ⟨hrep, htr⟩ := replay_of_changesDb (fun o ho => h o (List.mem_cons_of_mem _ ho)) idl
    refine ⟨?_, by simp [allowedTrace, happly.1, happly.2, htr]⟩
    show (idl.apply op).replay l = idl
    rw [happly.1, hrep]

/-- Deleting distinct rows of the view one after the other: each is allowed, and the view
loses them. -/
lemma replay_deletes : ∀ {rows : List Row} (idl : Idl), rows.Nodup → (∀ r ∈ rows, r ∈ idl.rows) →
    idl.replay (rows.map .delete) = idl.without rows ∧ allowedTrace idl (rows.map .delete) = true
  | [], idl, _, _ => ⟨by simp [Idl.replay, Idl.without], rfl⟩
  | row :: rows, idl, hnd, hsub => by
    obtain ⟨hrow, hnd'⟩ := List.nodup_cons.1 hnd
    have hsub' : ∀ r ∈ rows, r ∈ (idl.apply (.delete row)).rows := fun r hr =>
      List.mem_filter.2 ⟨hsub r (List.mem_cons_of_mem _ hr), by simpa using ne_of_mem_of_not_mem hr hrow⟩
    obtain ⟨hrep, htr⟩ := replay_deletes (idl.apply (.delete row)) hnd' hsub'
    refine ⟨?_, by simp [allowedTrace, IdlOp.allowed, hsub row (List.mem_cons_self _ _), htr]⟩
    simp only [List.map_cons, Idl.replay, List.foldl_cons] at hrep ⊢
    rw [hrep]
    simp [Idl.apply, Idl.without, List.filter_filter, Bool.and_comm]

/-! ### What a valid transaction keeps -/

section Keeps

variable {row : Row} {column : Column}

/-- One allowed call that neither deletes `row` nor writes `column` of it keeps the UUIDs of
the view distinct, `row` in the view and its datum in `column`. A write to another row with
`row`'s UUID is excluded by the distinct UUIDs, and an insert of one by its being allowed. -/
lemma Idl.apply_keeps {idl : Idl} {op : IdlOp} (hnd : (idl.rows.map (·.uuid)).Nodup) (hrow : row ∈ idl.rows)
    (hop : op.allowed idl = true) (hdel : op ≠ .delete row) (hwrite : ∀ datum, op ≠ .write row column datum) :
    ((idl.apply op).rows.map (·.uuid)).Nodup ∧ row ∈ (idl.apply op).rows ∧
      (idl.apply op).data row.uuid column = idl.data row.uuid column := by
  cases op with
  | write r c d =>
    have hr : r ∈ idl.rows := by simpa [IdlOp.allowed] using hop
    refine ⟨hnd, hrow, if_neg ?_⟩
    rintro ⟨hu, rfl⟩
    exact hwrite d (by rw [List.inj_on_of_nodup_map hnd hr hrow hu.symm])
  | insert r =>
    have hfresh : ∀ x ∈ idl.rows, x.uuid ≠ r.uuid := by simpa [IdlOp.allowed] using hop
    refine ⟨?_, List.mem_append_left _ hrow, if_neg (hfresh row hrow)⟩
    simpa [Idl.apply, Idl.insert, List.nodup_append, hnd] using fun x hx h => hfresh x hx h
  | delete r =>
    exact ⟨hnd.sublist ((List.filter_sublist _).map _),
      List.mem_filter.2 ⟨hrow, decide_eq_true fun h => hdel (by rw [h])⟩, rfl⟩
  | addTable _ | addColumn _ | iterate _ | lookup _ | read _ _ | verify _ _ => exact ⟨hnd, hrow, rfl⟩

/-- A row of the view that no call deletes stays in the view. -/
lemma Idl.mem_replay : ∀ (idl : Idl) (l : List IdlOp), row ∈ idl.rows → IdlOp.delete row ∉ l →
    row ∈ (idl.replay l).rows
  | _, [], hrow, _ => hrow
  | idl, op :: l, hrow, hdel => by
    refine Idl.mem_replay (idl.apply op) l ?_ fun h => hdel (List.mem_cons_of_mem _ h)
    cases op <;> simp_all [Idl.apply, Idl.write, Idl.insert]

/-- **A valid transaction keeps what it does not touch**: on a view whose rows have distinct
UUIDs, replaying calls each allowed where it stands, none of which deletes `row` or writes
`column` of it, leaves the datum of `row` in `column` as it was. -/
lemma Idl.data_replay_of_untouched : ∀ (idl : Idl) (l : List IdlOp), (idl.rows.map (·.uuid)).Nodup →
    row ∈ idl.rows → allowedTrace idl l = true → IdlOp.delete row ∉ l →
    (∀ datum, IdlOp.write row column datum ∉ l) →
    (idl.replay l).data row.uuid column = idl.data row.uuid column
  | _, [], _, _, _, _, _ => rfl
  | idl, op :: l, hnd, hrow, htr, hdel, hwrite => by
    obtain ⟨hop, htr'⟩ := Bool.and_eq_true_iff.1 htr
    obtain ⟨hnd', hrow', hdata⟩ := Idl.apply_keeps hnd hrow hop (fun h => hdel (h ▸ List.mem_cons_self _ _))
      fun d h => hwrite d (h ▸ List.mem_cons_self _ _)
    rw [← hdata]
    exact Idl.data_replay_of_untouched (idl.apply op) l hnd' hrow' htr'
      (fun h => hdel (List.mem_cons_of_mem _ h)) fun d h => hwrite d (List.mem_cons_of_mem _ h)

end Keeps

/-! ### Staged calls -/

/-- The calls appended to the log from `s` to `s'` replay the view of `s` into the view of
`s'`, each allowed where it stands. -/
def Replays (s s' : Ctx) : Prop :=
  ∃ l, s'.log = s.log ++ l ∧ s'.idl = s.idl.replay l ∧ allowedTrace s.idl l = true

lemma Replays.trans {s₁ s₂ s₃ : Ctx} (h₁ : Replays s₁ s₂) (h₂ : Replays s₂ s₃) : Replays s₁ s₃ := by
  obtain ⟨l₁, hlog₁, hidl₁, htr₁⟩ := h₁
  obtain ⟨l₂, hlog₂, hidl₂, htr₂⟩ := h₂
  refine ⟨l₁ ++ l₂, by rw [hlog₂, hlog₁, List.append_assoc], by rw [hidl₂, hidl₁, Idl.replay_append], ?_⟩
  rw [allowedTrace_append, htr₁, ← hidl₁, htr₂]
  rfl

/-- A step that keeps the view and logs only calls that change nothing. -/
lemma replays_of_untouched {s s' : Ctx} (hu : Untouched s s') : Replays s s' := by
  obtain ⟨l, hlog, hl⟩ := hu.logs
  obtain ⟨hrep, htr⟩ := replay_of_changesDb hl s.idl
  exact ⟨l, hlog, hu.idl.trans hrep.symm, htr⟩

/-- A step that logs one allowed call and does to the view what the call does. -/
lemma replays_of_call {s s' : Ctx} (op : IdlOp) (hlog : s'.log = s.log ++ [op])
    (hidl : s'.idl = s.idl.apply op) (hallowed : op.allowed s.idl = true) : Replays s s' :=
  ⟨[op], hlog, hidl, by simp [allowedTrace, hallowed]⟩

/-- The UUID invariant is kept, and from a context that has it, the step's calls replay the
view into the next one. -/
def Staged (s s' : Ctx) : Prop := KeepsFresh s s' ∧ (UuidsFresh s → Replays s s')

instance : IsRefl Ctx Staged := ⟨fun s => ⟨refl_of KeepsFresh s, fun _ => ⟨[], by simp, rfl, rfl⟩⟩⟩

instance : IsTrans Ctx Staged :=
  ⟨fun _ _ _ h₁ h₂ => ⟨trans_of KeepsFresh h₁.1 h₂.1, fun hf => (h₁.2 hf).trans (h₂.2 (h₁.1 hf).1)⟩⟩

/-- The read-only parts keep the view and log no change. -/
lemma readPrims_staged : ReadPrims Staged :=
  (readPrims_keepsFresh.and readPrims_untouched).mono fun _ _ h => ⟨h.1, fun _ => replays_of_untouched h.2⟩

/-- `destroy --all` deletes each row of its table once: they are distinct, since their
UUIDs are. -/
lemma moves_staged_deleteAll (tc : TableClass) : Moves Staged (idlRows tc >>= fun rows => rows.forM txnDelete) := by
  intro s a s' h
  refine ⟨cmdPrims_keepsFresh.deleteAll tc s a s' h, fun hf => ?_⟩
  obtain ⟨rows, s₁, h₁, h₂⟩ := bind_run_ok.1 h
  rw [idlRows_run] at h₁
  cases h₁
  rw [forM_txnDelete_run] at h₂
  cases h₂
  have hnd : (s.idl.rows.filter (·.table = tc.name)).Nodup := (hf.nodup.of_map _).filter _
  obtain ⟨hrep, htr⟩ := replay_deletes s.idl hnd fun r hr => List.mem_of_mem_filter hr
  refine ⟨.iterate tc :: (s.idl.rows.filter (·.table = tc.name)).map .delete, by simp, ?_, ?_⟩
  · rw [← hrep]
    rfl
  · simp only [allowedTrace, IdlOp.allowed, Bool.true_and]
    exact htr

/-- `create` inserts its row under a UUID that no row of the view has. -/
lemma moves_staged_insert (table : CtlTableClass) (id : Option String) :
    Moves Staged (createDefineId table id >>= fun uuid => txnInsert table.cls uuid) := by
  intro s row s' h
  refine ⟨cmdPrims_keepsFresh.insert table id s row s' h, fun hf => ?_⟩
  obtain ⟨uuid, s₁, h₁, h₂⟩ := bind_run_ok.1 h
  obtain ⟨⟨hf₁, -⟩, hfresh⟩ := createDefineId_fresh h₁ hf
  refine (replays_of_untouched (moves_untouched_createDefineId table id s uuid s₁ h₁)).trans ?_
  have hnew : ∀ r ∈ s₁.idl.rows, r.uuid ≠ row.uuid := by
    rcases uuid with _ | u <;> cases h₂
    · exact fun r hr => (hf₁.rows_lt r hr).ne
    · exact (hfresh u rfl).1.not_row
  rcases uuid with _ | u <;> cases h₂ <;>
    exact replays_of_call (.insert _) rfl rfl (by simpa [IdlOp.allowed] using hnew)

/-- Every part of a run pass keeps `Staged`. -/
lemma cmdPrims_staged : CmdPrims Staged where
  toReadPrims := readPrims_staged
  txnWrite row column datum s a s' hrow h := by
    have hk := cmdPrims_keepsFresh.txnWrite row column datum s a s' hrow h
    cases h
    exact ⟨hk, fun _ => replays_of_call (.write row column datum) rfl rfl (by simpa [IdlOp.allowed] using hrow)⟩
  txnDelete row s a s' hrow h := by
    have hk := cmdPrims_keepsFresh.txnDelete row s a s' hrow h
    cases h
    exact ⟨hk, fun _ => replays_of_call (.delete row) rfl rfl (by simpa [IdlOp.allowed] using hrow)⟩
  deleteAll := moves_staged_deleteAll
  insert := moves_staged_insert

/-- **Every command stream stages a valid transaction**: from a context whose UUIDs are
fresh, every completed run of a command stream appends to the log calls that, replayed on
the view it started from, give the view it ends with, and each of which is allowed where it
stands: every write and delete is on a row of the view, none deleted before, and every
insert brings a UUID that no row of the view has. -/
theorem runStream_staged (L : Lib) (tables : List CtlTableClass) (showTables : List CmdShowTable)
    (commands : List CtlCommand) (s s' : Ctx) (hs : UuidsFresh s)
    (hrun : (runStream L tables showTables commands).run s = .ok ((), s')) :
    ∃ l, s'.log = s.log ++ l ∧ s'.idl = s.idl.replay l ∧ allowedTrace s.idl l = true :=
  (cmdPrims_staged.moves_runStream L tables showTables commands s () s' hrun).2 hs

theorem runStream_staged_setCreateDestroy :
    ∃ s', (runStream simpleLib [mapCtlTable] []
        [⟨⟨"set", 3, intMax, "--if-exists", .rw⟩, ⟨[], ["set", "T", ".", "C:b=2"]⟩⟩,
          ⟨⟨"create", 2, intMax, "--id=", .rw⟩, ⟨[("--id", some "@r")], ["create", "T"]⟩⟩,
          ⟨⟨"destroy", 1, intMax, "--if-exists,--all", .rw⟩, ⟨[("--all", none)], ["destroy", "T"]⟩⟩]).run
        { mapCtx with nextUuid := 8 } = .ok ((), s') ∧
      ∃ l, s'.log = l ∧ s'.idl = mapCtx.idl.replay l ∧ allowedTrace mapCtx.idl l = true :=
  ⟨_, rfl, runStream_staged simpleLib [mapCtlTable] []
    [⟨⟨"set", 3, intMax, "--if-exists", .rw⟩, ⟨[], ["set", "T", ".", "C:b=2"]⟩⟩,
      ⟨⟨"create", 2, intMax, "--id=", .rw⟩, ⟨[("--id", some "@r")], ["create", "T"]⟩⟩,
      ⟨⟨"destroy", 1, intMax, "--if-exists,--all", .rw⟩, ⟨[("--all", none)], ["destroy", "T"]⟩⟩]
    { mapCtx with nextUuid := 8 } _ (UuidsFresh.of_symbols_nil rfl (by decide) (by decide)) rfl⟩

end DbCtlBase
