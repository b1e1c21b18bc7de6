import DbCtlBase.Uuid

/-!
Every datum stays well formed, over every command stream.

A datum keeps its keys strictly increasing, with a value beside each key exactly when
its column is a map (`Datum.WellFormed`); the specifications of `find`, `wait-until`,
`set`, `add` and `remove` assume it of the datum they read. Every write of a run pass
keeps it, when the datum parser returns well-formed datums: `set` writes a parsed datum,
or one pair united with the current map; `add` and `remove` write unions and
differences of the current datum; `clear` writes the empty datum; `create` starts its row
at the defaults.

* `Idl.DataWellFormed`: every datum of a column whose type has `n_min` at most 1 is well
  formed (the default datum of a larger `n_min` repeats one key).
* `moves_keepsData_readWrite` and `moves_keepsData_parse`: a write of a datum made from
  the current one, or from a parsed one, keeps the invariant.
* `addLoop_wellFormed`, `removeLoop_wellFormed`: the loops of `add` and `remove` return
  a well-formed datum from a well-formed one.
* `runStream_dataWellFormed`: every command stream keeps the invariant.
-/

namespace DbCtlBase

/-- Every datum of the view is well formed for its column's type, for the columns whose
type has `n_min` at most 1. -/
def Idl.DataWellFormed (idl : Idl) : Prop :=
  ∀ uuid (column : Column), column.type.nMin ≤ 1 → Datum.WellFormed column.type (idl.data uuid column)

/-- `ovsdb_datum_init_default` of a type with `n_min` at most 1 is well formed. -/
lemma Datum.wellFormed_default {t : OvsdbType} (h : t.nMin ≤ 1) : Datum.WellFormed t (Datum.default t) := by
  refine ⟨?_, fun e he => ?_⟩
  · rcases Nat.le_one_iff_eq_zero_or_eq_one.1 h with h | h <;> simp [Datum.default, h]
  · rw [Datum.default, List.mem_replicate] at he
    rw [he.2]
    cases t.isMap <;> rfl

namespace Idl.DataWellFormed

variable {idl : Idl} (h : idl.DataWellFormed)
include h

lemma write {row : Row} {column : Column} {datum : Datum}
    (hd : column.type.nMin ≤ 1 → Datum.WellFormed column.type datum) :
    (idl.write row column datum).DataWellFormed := by
  intro u c hc
  simp only [Idl.write]
  split_ifs with heq
  · obtain ⟨-, rfl⟩ := heq
    exact hd hc
  · exact h u c hc

lemma insert (row : Row) : (idl.insert row).DataWellFormed := by
  intro u c hc
  simp only [Idl.insert]
  split_ifs
  · exact Datum.wellFormed_default hc
  · exact h u c hc

end Idl.DataWellFormed

/-! ### The parts of a run pass -/

/-- From `s` to `s'` the invariant is kept. -/
def KeepsData (s s' : Ctx) : Prop := s.idl.DataWellFormed → s'.idl.DataWellFormed

instance : IsRefl Ctx KeepsData := ⟨fun _ => id⟩

instance : IsTrans Ctx KeepsData := ⟨fun _ _ _ h₁ h₂ => h₂ ∘ h₁⟩

lemma keepsData_of_idl_eq {s s' : Ctx} (h : s'.idl = s.idl) : KeepsData s s' := fun hs => h ▸ hs

/-- The read-only parts leave the view, so they keep the invariant. -/
lemma readPrims_keepsData : ReadPrims KeepsData :=
  readPrims_untouched.mono fun _ _ h => keepsData_of_idl_eq h.idl

lemma moves_keepsData_txnWrite (row : Row) {column : Column} {datum : Datum}
    (hd : column.type.nMin ≤ 1 → Datum.WellFormed column.type datum) :
    Moves KeepsData (txnWrite row column datum) := by
  intro s _ s' h hs
  cases h
  exact hs.write hd

/-- Reading a datum and going on with one that is well formed when the datum read is. -/
lemma moves_keepsData_readWrite {α : Type} (row : Row) (column : Column) {g : Datum → CtlM α}
    (hg : ∀ cur, (column.type.nMin ≤ 1 → Datum.WellFormed column.type cur) → Moves KeepsData (g cur)) :
    Moves KeepsData (idlRead row column >>= g) := by
  intro s a s' h hs
  obtain ⟨cur, s₁, h₁, h₂⟩ := bind_run_ok.1 h
  cases h₁
  exact hg _ (hs _ _) _ _ _ h₂ hs

/-- `ovsdb_datum_from_string` returns what the datum parser makes of the string against
the symbol table it leaves, and changes only the symbol table. -/
lemma ovsdbDatumFromString_run_eq {L : Lib} {t : OvsdbType} {str : String} {s s' : Ctx}
    {r : Except String Datum} (h : (ovsdbDatumFromString L t str).run s = .ok (r, s')) :
    r = L.datumFromString t str s'.symtab ∧ s'.idl = s.idl := by
  obtain ⟨⟨u, s₁⟩, h₁, h₂⟩ := except_bind_eq_ok.1 (by simpa [ovsdbDatumFromString] using h)
  obtain ⟨hs, -⟩ := insertSymbols_run_ok h₁
  obtain ⟨rfl, rfl⟩ := Prod.mk.inj (Except.ok.inj h₂)
  exact ⟨rfl, hs.idl⟩

section Parse

variable {L : Lib} (hwf : L.WellFormedDatums)
include hwf

lemma ovsdbDatumFromString_wellFormed {t : OvsdbType} {str : String} {s s' : Ctx} {d : Datum}
    (h : (ovsdbDatumFromString L t str).run s = .ok (.ok d, s')) : Datum.WellFormed t d ∧ s'.idl = s.idl := by
  obtain ⟨hr, hidl⟩ := ovsdbDatumFromString_run_eq h
  exact ⟨hwf _ _ _ _ hr.symm, hidl⟩

/-- Parsing a datum and going on with it, when every well-formed datum keeps the invariant. -/
lemma moves_keepsData_parse {α : Type} (t : OvsdbType) (str : String) {g : Datum → CtlM α}
    (hg : ∀ d, Datum.WellFormed t d → Moves KeepsData (g d)) :
    Moves KeepsData (ovsdbDatumFromString L t str >>= fun r => dieIfError r >>= g) := by
  intro s a s' h hs
  obtain ⟨r, s₁, h₁, h₂⟩ := bind_run_ok.1 h
  obtain ⟨d, rfl, h₃⟩ := dieIfError_bind_run_ok.1 h₂
  obtain ⟨hd, hidl⟩ := ovsdbDatumFromString_wellFormed hwf h₁
  exact hg d hd _ _ _ h₃ (hidl ▸ hs)

/-- The loop of `cmd_add` returns a well-formed datum from a well-formed one, and keeps
the view. -/
lemma addLoop_wellFormed {type : OvsdbType} : ∀ {D : Datum} {args : List String} {s s' : Ctx} {D' : Datum},
    (addLoop L type D args).run s = .ok (D', s') →
      (Datum.WellFormed type D → Datum.WellFormed type D') ∧ s'.idl = s.idl
  | D, [], s, s', D', h => by
    cases h
    exact ⟨id, rfl⟩
  | D, arg :: args, s, s', D', h => by
    obtain ⟨r, s₁, h₁, h₂⟩ := bind_run_ok.1 h
    obtain ⟨V, rfl, h₃⟩ := dieIfError_bind_run_ok.1 h₂
    obtain ⟨hV, hidl₁⟩ := ovsdbDatumFromString_wellFormed hwf h₁
    obtain ⟨hD', hidl⟩ := addLoop_wellFormed h₃
    exact ⟨fun hD => hD' (Datum.wellFormed_union hD (hV.of_isMap_eq rfl)), hidl.trans hidl₁⟩

end Parse

/-- The loop of `cmd_remove` returns a well-formed datum from a well-formed one, and keeps
the invariant. -/
lemma removeLoop_wellFormed {L : Lib} {type : OvsdbType} :
    ∀ {D : Datum} {args : List String} {s s' : Ctx} {D' : Datum},
      (removeLoop L type D args).run s = .ok (D', s') → (Datum.WellFormed type D →
        Datum.WellFormed type D') ∧ KeepsData s s'
  | D, [], s, s', D', h => by
    cases h
    exact ⟨id, refl_of _ s⟩
  | D, arg :: args, s, s', D', h => by
    obtain ⟨r, s₁, h₁, h₂⟩ := bind_run_ok.1 h
    obtain ⟨hD', hk⟩ := removeLoop_wellFormed h₂
    exact ⟨fun hD => hD' (Datum.wellFormed_subtract hD),
      trans_of KeepsData (readPrims_keepsData.moves_parseRemoveArg L type arg s r s₁ h₁) hk⟩

/-! ### The run passes that write -/

lemma moves_keepsData_txnDelete (row : Row) : Moves KeepsData (txnDelete row) := by
  intro s _ s' h hs
  cases h
  exact hs

/-- The check on the count and the write that end `cmd_add` and `cmd_remove`. -/
lemma moves_keepsData_boundedWrite (row : Row) (column : Column) (c : Prop) [Decidable c] (message : String)
    {old : Datum} (hold : column.type.nMin ≤ 1 → Datum.WellFormed column.type old) :
    Moves KeepsData (if c then ctlFatal message else txnVerify row column >>= fun _ => txnWrite row column old) := by
  split
  · exact Moves.ctlFatal _
  · exact Moves.bind (readPrims_keepsData.reads (readsAs_txnVerify rfl)) fun _ => moves_keepsData_txnWrite row hold

section Commands

variable (L : Lib) (tables : List CtlTableClass) (args : CmdArgs)

lemma moves_keepsData_cmdRemove : Moves KeepsData (cmdRemove L tables args) :=
  Moves.bind (Moves.dieIfError _) fun _ => Moves.bind (Moves.dieIfError _) fun column =>
    Moves.bind (readPrims_keepsData.moves_getRow L _ _ _) fun row => by
      rcases row with _ | row
      · exact Moves.pure _
      refine Moves.bind (moves_checkMutable L _ _) fun _ => moves_keepsData_readWrite row column fun cur hcur => ?_
      intro s _ s' h hs
      obtain ⟨old, s₁, h₁, h₂⟩ := bind_run_ok.1 h
      obtain ⟨hold, hk⟩ := removeLoop_wellFormed h₁
      exact moves_keepsData_boundedWrite row column _ _ (fun hc => hold (hcur hc)) _ _ _ h₂ (hk hs)

lemma moves_keepsData_cmdClear : Moves KeepsData (cmdClear L tables args) :=
  Moves.bind (Moves.dieIfError _) fun _ => Moves.bind (readPrims_keepsData.moves_getRow L _ _ _) fun row => by
    rcases row with _ | row
    · exact Moves.pure _
    refine Moves.forM _ fun _ _ => Moves.bind (Moves.dieIfError _) fun _ =>
      Moves.bind (moves_checkMutable L _ _) fun _ => ?_
    split
    · exact Moves.ctlFatal _
    · exact moves_keepsData_txnWrite row fun _ => wellFormed_empty

lemma moves_keepsData_cmdDestroy : Moves KeepsData (cmdDestroy L tables args) := by
  refine Moves.bind (Moves.dieIfError _) fun _ => ?_
  dsimp only
  split
  · exact Moves.ctlFatal _
  split
  · exact Moves.ctlFatal _
  split
  · exact Moves.bind (readPrims_keepsData.moves_idlRows _) fun _ => Moves.forM _ fun _ _ => moves_keepsData_txnDelete _
  · exact Moves.forM _ fun _ _ => Moves.bind (readPrims_keepsData.moves_getRow L _ _ _) fun row => by
      rcases row with _ | row
      · exact Moves.pure _
      · exact moves_keepsData_txnDelete _

variable {L} (hwf : L.WellFormedDatums)
include hwf

lemma moves_keepsData_setColumn (table : CtlTableClass) (row : Row) (arg : String) :
    Moves KeepsData (setColumn L table row arg) := by
  refine Moves.bind (Moves.dieIfError _) fun ⟨column, key, v⟩ => ?_
  rcases v with _ | ⟨_, valueString⟩
  · exact Moves.ctlFatal _
  refine Moves.bind (moves_checkMutable L _ _) fun _ => ?_
  rcases key with _ | keyString
  · exact moves_keepsData_parse hwf _ _ fun _ hd => moves_keepsData_txnWrite row fun _ => hd
  dsimp only
  split
  · exact Moves.ctlFatal _
  next hvoid =>
    have hmap : column.type.isMap = true := by simpa [OvsdbType.isMap] using hvoid
    exact Moves.bind (readPrims_keepsData.atom _ _ _) fun r => Moves.bind (Moves.dieIfError r) fun key =>
      Moves.bind (readPrims_keepsData.atom _ _ _) fun r => Moves.bind (Moves.dieIfError r) fun value =>
        moves_keepsData_readWrite row column fun cur hcur =>
          Moves.bind (readPrims_keepsData.reads (readsAs_txnVerify rfl)) fun _ =>
            moves_keepsData_txnWrite row fun hc => Datum.wellFormed_union
              ⟨List.sorted_singleton _, by simpa using hmap.symm⟩ (hcur hc)

lemma moves_keepsData_ctlSetColumn (tableName : String) (row : Row) (arg : String) :
    Moves KeepsData (ctlSetColumn L tables tableName row arg) :=
  Moves.bind (Moves.dieIfError _) fun table => moves_keepsData_setColumn hwf table row arg

lemma moves_keepsData_cmdSet : Moves KeepsData (cmdSet L tables args) :=
  Moves.bind (Moves.dieIfError _) fun _ => Moves.bind (readPrims_keepsData.moves_getRow L _ _ _) fun row => by
    rcases row with _ | row
    · exact Moves.pure _
    · exact Moves.forM _ fun _ _ => moves_keepsData_setColumn hwf _ _ _

lemma moves_keepsData_cmdAdd : Moves KeepsData (cmdAdd L tables args) :=
  Moves.bind (Moves.dieIfError _) fun _ => Moves.bind (Moves.dieIfError _) fun column =>
    Moves.bind (readPrims_keepsData.moves_getRow L _ _ _) fun row => by
      rcases row with _ | row
      · exact Moves.pure _
      refine Moves.bind (moves_checkMutable L _ _) fun _ => moves_keepsData_readWrite row column fun cur hcur => ?_
      intro s _ s' h hs
      obtain ⟨old, s₁, h₁, h₂⟩ := bind_run_ok.1 h
      obtain ⟨hold, hidl⟩ := addLoop_wellFormed hwf h₁
      exact moves_keepsData_boundedWrite row column _ _ (fun hc => hold (hcur hc)) _ _ _ h₂ (hidl ▸ hs)

lemma moves_keepsData_cmdCreate : Moves KeepsData (cmdCreate L tables args) := by
  refine Moves.bind (Moves.dieIfError _) fun table => ?_
  refine Moves.bind_bind (fun s _ s' h hs => ?_) fun row =>
    Moves.bind (Moves.forM _ fun _ _ => moves_keepsData_setColumn hwf _ _ _) fun _ => readPrims_keepsData.putOutput _
  obtain ⟨uuid, s₁, h₁, h₂⟩ := bind_run_ok.1 h
  rw [← (moves_untouched_createDefineId table _ s uuid s₁ h₁).idl] at hs
  rcases uuid with _ | u <;> cases h₂ <;> exact hs.insert _

/-- Every run pass keeps the invariant. -/
lemma moves_keepsData_ctlCommandRun (showTables : List CmdShowTable) (command : CtlCommand) :
    Moves KeepsData (ctlCommandRun L tables showTables command) :=
  moves_ctlCommandRun_of (readPrims_keepsData.moves_cmdGet L tables _) (readPrims_keepsData.moves_cmdList L tables _)
    (readPrims_keepsData.moves_cmdFind L tables _) (moves_keepsData_cmdSet tables _ hwf)
    (moves_keepsData_cmdAdd tables _ hwf) (moves_keepsData_cmdRemove L tables _) (moves_keepsData_cmdClear L tables _)
    (moves_keepsData_cmdCreate tables _ hwf) (moves_keepsData_cmdDestroy L tables _)
    (fun _ => readPrims_keepsData.moves_cmdWaitUntil L tables _) (readPrims_keepsData.moves_cmdShow L showTables)

end Commands

/-- **Every datum stays well formed over every command stream**: when the datum parser
returns well-formed datums, every completed run of a command stream from a view whose
datums are well formed (for the columns whose type has `n_min` at most 1) ends in one
whose datums still are. So the well-formedness that the specifications of `find`,
`wait-until`, `set`, `add` and `remove` assume of the datum they read holds at every
command of a stream. -/
theorem runStream_dataWellFormed (L : Lib) (hwf : L.WellFormedDatums) (tables : List CtlTableClass)
    (showTables : List CmdShowTable) (commands : List CtlCommand) (s s' : Ctx) (hs : s.idl.DataWellFormed)
    (hrun : (runStream L tables showTables commands).run s = .ok ((), s')) : s'.idl.DataWellFormed :=
  Moves.forM commands (fun _ _ => moves_keepsData_ctlCommandRun tables hwf showTables _) s () s' hrun hs

/-- The one datum of `mapCtx` is a well-formed map, and every other is empty. -/
lemma mapCtx_dataWellFormed : mapCtx.idl.DataWellFormed := by
  intro u c _
  dsimp only [mapCtx]
  split_ifs with h
  · obtain ⟨-, rfl⟩ := h
    exact ⟨List.sorted_singleton _, by decide⟩
  · exact wellFormed_empty

theorem runStream_dataWellFormed_setCreate :
    ∃ s', (runStream simpleLib [mapCtlTable] []
        [⟨⟨"set", 3, intMax, "--if-exists", .rw⟩, ⟨[], ["set", "T", ".", "C:b=2"]⟩⟩,
          ⟨⟨"create", 2, intMax, "--id=", .rw⟩, ⟨[], ["create", "T", "C:c=3"]⟩⟩]).run mapCtx = .ok ((), s') ∧
      s'.idl.DataWellFormed :=
  ⟨_, rfl, runStream_dataWellFormed simpleLib (fun _ _ _ _ h => by cases h) [mapCtlTable] []
    [⟨⟨"set", 3, intMax, "--if-exists", .rw⟩, ⟨[], ["set", "T", ".", "C:b=2"]⟩⟩,
      ⟨⟨"create", 2, intMax, "--id=", .rw⟩, ⟨[], ["create", "T", "C:c=3"]⟩⟩] mapCtx _ mapCtx_dataWellFormed rfl⟩

end DbCtlBase
