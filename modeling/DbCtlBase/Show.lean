import DbCtlBase.Context

/-!
`show`: `pre_cmd_show` declares every table and column of the `show` layout, and
`cmd_show` prints the rows of the first show table, following UUID references into
the other show tables.

The recursion of `cmd_show_row` into referenced rows is bounded by the show tables
not yet in `shown`; the model counts it with a fuel argument that `cmd_show` sets
to the number of show tables plus one.

* `cmdShowRow_completes`: whatever the rows and their references, cycles included,
  `cmd_show_row` with more fuel than `showDepth` (the show tables not in `shown`)
  completes and hands `shown` back as it was; each row it expands adds a show table
  not yet in `shown`, which lowers `showDepth`.
* `cmdShow_completes`: so `cmd_show` completes, its final assertion included.
-/

namespace DbCtlBase

/-- The message of an `ovs_assert` that fails. -/
def notReachedShow : String := "assertion failed"

/-- `ds_put_char_multiple (&ctx->output, ' ', level * 4)`. -/
def indent (level : ℕ) : String := String.mk (List.replicate (level * 4) ' ')

/-- The UUID a UUID atom holds. -/
def Atom.uuidOf : Atom → Uuid
  | .uuid u => u
  | _ => 0

/-- `cmd_show_find_table_by_row`. -/
def findShowTableByRow (showTables : List CmdShowTable) (row : Row) : Option CmdShowTable :=
  showTables.find? (·.table.name = row.table)

/-- `cmd_show_find_table_by_name`. -/
def findShowTableByName (showTables : List CmdShowTable) (name : String) : Option CmdShowTable :=
  showTables.find? (·.table.name = name)

/-- `pre_cmd_show`: every show table with its name column and columns, and the weak
reference table with its two columns. -/
def preCmdShow (showTables : List CmdShowTable) : CtlM Unit :=
  showTables.forM fun showTable => do
    idlAddTable showTable.table
    showTable.nameColumn.elim (pure ()) idlAddColumn
    showTable.columns.forM fun column => column.elim (pure ()) idlAddColumn
    showTable.wrefTable.table.elim (pure ()) idlAddTable
    showTable.wrefTable.nameColumn.elim (pure ()) idlAddColumn
    showTable.wrefTable.wrefColumn.elim (pure ()) idlAddColumn

/-- `cmd_show_weak_ref`: the rows of the weak reference table whose reference column
names `curRow`, by their name column. -/
def cmdShowWeakRef (L : Lib) (showTable : CmdShowTable) (curRow : Row) (level : ℕ) : CtlM Unit :=
  match showTable.wrefTable.table, showTable.wrefTable.nameColumn, showTable.wrefTable.wrefColumn with
  | some table, some nameColumn, some wrefColumn => do
    (← idlRows table).forM fun rowWref => do
      let wrefDatum ← idlRead rowWref wrefColumn
      if wrefDatum.n ≠ 0 ∧ (wrefDatum.keys.headD (.uuid 0)).uuidOf = curRow.uuid then do
        let nameDatum ← idlRead rowWref nameColumn
        putOutput (indent (level + 1) ++ table.name ++ " " ++
          L.datumToString nameDatum nameColumn.type ++ "\n")
      else pure ()
  | _, _, _ => pure ()

/-- The rows of `refTable` that the UUIDs `keys` name, each shown one level deeper
by `showRow`; `shown` is threaded through. -/
def showRefRows (showRow : Row → ℕ → List String → CtlM (List String)) (refTable : TableClass)
    (level : ℕ) : List Atom → List String → CtlM (List String)
  | [], shown => pure shown
  | key :: keys, shown => do
    match ← idlGetRowForUuid refTable key.uuidOf with
    | some refRow => showRefRows showRow refTable level keys (← showRow refRow (level + 1) shown)
    | none => showRefRows showRow refTable level keys shown

/-- The pairs of a map column whose values refer to rows of `refShow`, each printed
as the key and the name of the row it refers to. -/
def showRefMap (L : Lib) (refShow : CmdShowTable) (nameColumn column : Column) (level : ℕ) :
    List (Atom × Option Atom) → CtlM Unit
  | [] => pure ()
  | (key, value) :: pairs => do
    let refRow ← idlGetRowForUuid refShow.table ((value.map Atom.uuidOf).getD 0)
    putOutput (indent (level + 2) ++ L.atomToString key column.type.key.type ++ "=")
    (match refRow with
      | some refRow => do
        let refDatum ← idlRead refRow nameColumn
        putOutput (L.datumToString refDatum nameColumn.type)
      | none => putOutput "\"<null>\"")
    putOutput "\n"
    showRefMap L refShow nameColumn column level pairs

/-- A column of a shown row that `cmd_show_row` prints as it is. -/
def showPlainColumn (L : Lib) (column : Column) (datum : Datum) (level : ℕ) : CtlM Unit :=
  if datum ≠ Datum.default column.type then
    putOutput (indent (level + 1) ++ column.name ++ ": " ++ L.datumToString datum column.type ++ "\n")
  else pure ()

/-- The column loop of `cmd_show_row`, up to the first `NULL` column: a UUID column
into a show table shows the rows it names, a map into a show table with a name
column prints its pairs, and any other column is printed unless it holds its
default. -/
def showColumns (L : Lib) (showTables : List CmdShowTable)
    (showRow : Row → ℕ → List String → CtlM (List String)) (row : Row) (level : ℕ) :
    List (Option Column) → List String → CtlM (List String)
  | [], shown => pure shown
  | none :: _, shown => pure shown
  | some column :: columns, shown => do
    let datum ← idlRead row column
    match column.type.key.type, column.type.key.refTableName, column.type.value.type,
        column.type.value.refTableName with
    | .uuid, some refTableName, _, _ =>
      match findShowTableByName showTables refTableName with
      | some refShow =>
        showColumns L showTables showRow row level columns
          (← showRefRows showRow refShow.table level datum.keys shown)
      | none => do
        showPlainColumn L column datum level
        showColumns L showTables showRow row level columns shown
    | _, _, .uuid, some refTableName =>
      match findShowTableByName showTables refTableName with
      | some ⟨refTable, some nameColumn, refColumns, refWref⟩ => do
        putOutput (indent (level + 1) ++ column.name ++ ":\n")
        showRefMap L ⟨refTable, some nameColumn, refColumns, refWref⟩ nameColumn column level
          datum.entries
        showColumns L showTables showRow row level columns shown
      | _ => do
        showPlainColumn L column datum level
        showColumns L showTables showRow row level columns shown
    | _, _, _, _ => do
      showPlainColumn L column datum level
      showColumns L showTables showRow row level columns shown

/-- `cmd_show_row`: the row's heading, then, the first time its show table is met on
this path, its columns and the rows that weakly refer to it; `shown` holds the show
tables being expanded, and the name added here is removed again at the end. -/
def cmdShowRow (L : Lib) (showTables : List CmdShowTable) :
    ℕ → Row → ℕ → List String → CtlM (List String)
  | 0, _, _, _ => ctlFatal notReachedShow
  | fuel + 1, row, level, shown => do
    let showTable := findShowTableByRow showTables row
    putOutput (indent level)
    (match showTable with
      | some ⟨table, some nameColumn, _, _⟩ => do
        putOutput (table.name ++ " ")
        let datum ← idlRead row nameColumn
        putOutput (L.datumToString datum nameColumn.type)
      | _ => putOutput (L.uuidToString row.uuid))
    putOutput "\n"
    match showTable with
    | none => pure shown
    | some showTable =>
      if showTable.table.name ∈ shown then pure shown
      else do
        let shown ← showColumns L showTables (cmdShowRow L showTables fuel) row level showTable.columns
          (shown ++ [showTable.table.name])
        cmdShowWeakRef L showTable row level
        if showTable.table.name ∈ shown then pure (shown.erase showTable.table.name)
        else ctlFatal notReachedShow

/-- `cmd_show`: every row of the first show table, from an empty `shown`, which must
be empty again at the end. -/
def cmdShow (L : Lib) (showTables : List CmdShowTable) : CtlM Unit :=
  match showTables with
  | [] => pure ()
  | first :: _ => do
    let shown ← (← idlRows first.table).foldlM
      (fun shown row => cmdShowRow L showTables (showTables.length + 1) row 0 shown) []
    if shown = [] then pure () else ctlFatal notReachedShow

/-! ### Termination -/

lemma findShowTableByRow_mem {showTables : List CmdShowTable} {row : Row} {showTable : CmdShowTable}
    (h : findShowTableByRow showTables row = some showTable) : showTable ∈ showTables :=
  List.mem_of_find?_eq_some h

lemma findShowTableByName_mem {showTables : List CmdShowTable} {name : String} {showTable : CmdShowTable}
    (h : findShowTableByName showTables name = some showTable) : showTable ∈ showTables :=
  List.mem_of_find?_eq_some h

/-- `x` completes from every context, with a result that `P` holds of. -/
def Completes {α : Type} (x : CtlM α) (P : α → Prop) : Prop :=
  ∀ s, ∃ a s', x.run s = .ok (a, s') ∧ P a

section Completes

variable {α β : Type} {P Q : α → Prop}

lemma Completes.pure {a : α} (h : P a) : Completes (pure a : CtlM α) P :=
  fun s => ⟨a, s, rfl, h⟩

lemma Completes.bind {x : CtlM α} {f : α → CtlM β} {Q : β → Prop} (hx : Completes x P)
    (hf : ∀ a, P a → Completes (f a) Q) : Completes (x >>= f) Q := fun s =>
  let ⟨a, s₁, h₁, ha⟩ := hx s
  let ⟨b, s₂, h₂, hb⟩ := hf a ha s₁
  ⟨b, s₂, bind_run_ok.2 ⟨a, s₁, h₁, h₂⟩, hb⟩

lemma Completes.forM {γ : Type} {f : γ → CtlM PUnit} :
    ∀ (xs : List γ), (∀ x ∈ xs, Completes (f x) fun _ => True) → Completes (xs.forM f) fun _ => True
  | [], _ => Completes.pure trivial
  | x :: xs, h => (h x (List.mem_cons_self _ _)).bind fun _ _ =>
      Completes.forM xs fun y hy => h y (List.mem_cons_of_mem _ hy)

lemma Completes.foldlM {γ : Type} {f : α → γ → CtlM α} (hf : ∀ a x, P a → Completes (f a x) P) :
    ∀ (xs : List γ) (init : α), P init → Completes (xs.foldlM f init) P
  | [], _, h => Completes.pure h
  | x :: xs, init, h => (hf init x h).bind fun a ha => Completes.foldlM hf xs a ha

lemma completes_putOutput (str : String) : Completes (putOutput str) fun _ => True :=
  fun s => ⟨_, _, putOutput_run str s, trivial⟩

lemma completes_idlRead (row : Row) (column : Column) : Completes (idlRead row column) fun _ => True :=
  fun s => ⟨_, _, idlRead_run row column s, trivial⟩

lemma completes_idlRows (tc : TableClass) : Completes (idlRows tc) fun _ => True :=
  fun s => ⟨_, _, idlRows_run tc s, trivial⟩

lemma completes_idlGetRowForUuid (tc : TableClass) (uuid : Uuid) :
    Completes (idlGetRowForUuid tc uuid) fun _ => True :=
  fun s => ⟨_, _, idlGetRowForUuid_run tc uuid s, trivial⟩

end Completes

section Show

variable (L : Lib) (showTables : List CmdShowTable)

lemma completes_cmdShowWeakRef (showTable : CmdShowTable) (curRow : Row) (level : ℕ) :
    Completes (cmdShowWeakRef L showTable curRow level) fun _ => True := by
  unfold cmdShowWeakRef
  split
  · refine (completes_idlRows _).bind fun rows _ => Completes.forM rows fun rowWref _ =>
      (completes_idlRead _ _).bind fun _ _ => ?_
    split
    · exact (completes_idlRead _ _).bind fun _ _ => completes_putOutput _
    · exact Completes.pure trivial
  · exact Completes.pure trivial

lemma completes_showRefMap (refShow : CmdShowTable) (nameColumn column : Column) (level : ℕ) :
    ∀ pairs, Completes (showRefMap L refShow nameColumn column level pairs) fun _ => True
  | [] => Completes.pure trivial
  | _ :: pairs => (completes_idlGetRowForUuid _ _).bind fun refRow _ =>
    (completes_putOutput _).bind fun _ _ => (show Completes _ fun _ => True by
      rcases refRow with _ | refRow
      · exact completes_putOutput _
      · exact (completes_idlRead _ _).bind fun _ _ => completes_putOutput _).bind fun _ _ =>
    (completes_putOutput _).bind fun _ _ => completes_showRefMap refShow nameColumn column level pairs

lemma completes_showPlainColumn (column : Column) (datum : Datum) (level : ℕ) :
    Completes (showPlainColumn L column datum level) fun _ => True := by
  unfold showPlainColumn
  split
  · exact completes_putOutput _
  · exact Completes.pure trivial

variable {L showTables} {showRow : Row → ℕ → List String → CtlM (List String)} {shown : List String}

/-- Following the references of a column hands `shown` back unchanged, when each
referenced row's `showRow` does. -/
lemma completes_showRefRows (hrow : ∀ row level, Completes (showRow row level shown) (· = shown))
    (refTable : TableClass) (level : ℕ) :
    ∀ keys, Completes (showRefRows showRow refTable level keys shown) (· = shown)
  | [] => Completes.pure rfl
  | _ :: keys => (completes_idlGetRowForUuid _ _).bind fun refRow _ => by
    rcases refRow with _ | refRow
    · exact completes_showRefRows hrow refTable level keys
    · exact (hrow _ _).bind fun _ hsh => hsh ▸ completes_showRefRows hrow refTable level keys

lemma completes_showColumns (hrow : ∀ row level, Completes (showRow row level shown) (· = shown))
    (row : Row) (level : ℕ) :
    ∀ columns, Completes (showColumns L showTables showRow row level columns shown) (· = shown)
  | [] => Completes.pure rfl
  | none :: _ => Completes.pure rfl
  | some column :: columns => by
    have ih := completes_showColumns hrow row level columns
    refine (completes_idlRead _ _).bind fun datum _ => ?_
    split
    · split
      · exact (completes_showRefRows hrow _ _ _).bind fun _ hsh => hsh ▸ ih
      · exact (completes_showPlainColumn L _ _ _).bind fun _ _ => ih
    · split
      · exact (completes_putOutput _).bind fun _ _ =>
          (completes_showRefMap L _ _ _ _ _).bind fun _ _ => ih
      · exact (completes_showPlainColumn L _ _ _).bind fun _ _ => ih
    · exact (completes_showPlainColumn L _ _ _).bind fun _ _ => ih

variable (showTables)

/-- The show tables, by name, that are not in `shown`: each row `cmd_show_row`
expands takes one of them, so they bound the depth of its recursion. -/
def showDepth (shown : List String) : ℕ :=
  ((showTables.map (·.table.name)).toFinset \ shown.toFinset).card

/-- Expanding a row of a show table not yet in `shown` lowers `showDepth`. -/
lemma showDepth_append_lt {showTable : CmdShowTable} (hst : showTable ∈ showTables)
    (hn : showTable.table.name ∉ shown) :
    showDepth showTables (shown ++ [showTable.table.name]) < showDepth showTables shown := by
  unfold showDepth
  rw [List.toFinset_append, List.toFinset_cons, List.toFinset_nil, insert_emptyc_eq,
    Finset.union_comm, ← Finset.insert_eq, Finset.sdiff_insert]
  exact Finset.card_erase_lt_of_mem (Finset.mem_sdiff.2
    ⟨List.mem_toFinset.2 (List.mem_map_of_mem _ hst), by simpa using hn⟩)

lemma showDepth_le_length (shown : List String) : showDepth showTables shown ≤ showTables.length :=
  calc showDepth showTables shown
      ≤ (showTables.map (·.table.name)).toFinset.card := Finset.card_le_card Finset.sdiff_subset
    _ ≤ showTables.length := (List.toFinset_card_le _).trans (List.length_map _ _).le

variable (L)

/-- `cmd_show_row` terminates whatever the references among rows: with more fuel
than `showDepth`, it completes and hands `shown` back as it was. -/
lemma cmdShowRow_completes : ∀ fuel row level shown, showDepth showTables shown < fuel →
    Completes (cmdShowRow L showTables fuel row level shown) (· = shown)
  | 0, _, _, _, h => absurd h (Nat.not_lt_zero _)
  | fuel + 1, row, level, shown, h => by
    rw [cmdShowRow]
    refine (completes_putOutput _).bind fun _ _ => (show Completes _ fun _ => True by
      split
      · exact (completes_putOutput _).bind fun _ _ => (completes_idlRead _ _).bind fun _ _ =>
          completes_putOutput _
      · exact completes_putOutput _).bind fun _ _ => (completes_putOutput _).bind fun _ _ => ?_
    split
    · exact Completes.pure rfl
    · rename_i showTable hfind
      split
      · exact Completes.pure rfl
      · rename_i hn
        have hlt := showDepth_append_lt showTables (findShowTableByRow_mem hfind) hn
        refine (completes_showColumns (fun r lvl => cmdShowRow_completes fuel r lvl _ (by omega)) _ _ _).bind
          fun _ hsh => ?_
        subst hsh
        refine (completes_cmdShowWeakRef L _ _ _).bind fun _ _ => ?_
        rw [if_pos (List.mem_append_right _ (List.mem_singleton_self _))]
        exact Completes.pure (by simp [List.erase_append_right _ hn])

end Show

/-- Whatever the references among rows, cycles and self-references included, and
whatever the show tables: `cmd_show_row`, given more fuel than the show tables not in
`shown`, completes with `shown` as it was at entry, so its recursion never nests
deeper than `showDepth + 1` calls; and `cmd_show` completes, its assertion that
`shown` ends empty included. -/
theorem cmdShow_terminates (L : Lib) (showTables : List CmdShowTable) :
    (∀ fuel row level shown, showDepth showTables shown < fuel →
      Completes (cmdShowRow L showTables fuel row level shown) (· = shown)) ∧
    Completes (cmdShow L showTables) fun _ => True := by
  refine ⟨cmdShowRow_completes L showTables, ?_⟩
  rcases showTables with _ | ⟨first, rest⟩
  · exact Completes.pure trivial
  refine (completes_idlRows _).bind fun rows _ => (Completes.foldlM (P := (· = []))
    (fun shown row hsh => ?_) rows [] rfl).bind fun shown hsh => ?_
  · subst hsh
    exact cmdShowRow_completes L _ _ row 0 [] (Nat.lt_succ_of_le (showDepth_le_length _ _))
  · subst hsh
    exact Completes.pure trivial

/-- Two show tables whose rows refer to each other, `A → B` and `B → A`. -/
def cycleShowTables : List CmdShowTable :=
  [⟨⟨"A", true, [⟨"b", ⟨⟨.uuid, some "B"⟩, ⟨.void, none⟩, 0, 1⟩⟩]⟩, none,
      [some ⟨"b", ⟨⟨.uuid, some "B"⟩, ⟨.void, none⟩, 0, 1⟩⟩], ⟨none, none, none⟩⟩,
    ⟨⟨"B", true, [⟨"a", ⟨⟨.uuid, some "A"⟩, ⟨.void, none⟩, 0, 1⟩⟩]⟩, none,
      [some ⟨"a", ⟨⟨.uuid, some "A"⟩, ⟨.void, none⟩, 0, 1⟩⟩], ⟨none, none, none⟩⟩]

theorem cmdShow_terminates_cycle :
    showDepth cycleShowTables [] < 3 ∧
      Completes (cmdShowRow simpleLib cycleShowTables 3 ⟨1, "A"⟩ 0 []) (· = []) :=
  have h : showDepth cycleShowTables [] < 3 := by decide
  ⟨h, (cmdShow_terminates simpleLib cycleShowTables).1 3 ⟨1, "A"⟩ 0 [] h⟩

end DbCtlBase
