import DbCtlBase.Effect

/-!
`get_row_by_id` and `get_row`: how a record token names a row.

* `findReferrer_readsAs`: the loop over the rows of `id->table` ends on the one row
  whose name column is the token, and aborts as soon as a second one matches, so
  it never picks one of two.
* `getRow_readsAs`: `get_row` computes `getRowSpec` from the IDL and changes
  nothing but the log, where it makes only the lookups in the table class and the
  iterations and reads that the row-id descriptors name (`RowIdOps`).
* `getRow_spec`: `get_row` returns the row its UUID names, or else what the first
  resolving row-id descriptor gives, or `NULL` (`no row` when it must exist).
-/

namespace DbCtlBase

/-- The test `name->n == 1 && !strcmp(name->keys[0].string, record_id)` of
`get_row_by_id`. -/
def nameMatches (name : Datum) (recordId : String) : Bool :=
  match name.entries with
  | [(.string s, _)] => s == recordId
  | _ => false

/-- The message of the second match in `get_row_by_id`. -/
def multipleRowsError (table : CtlTableClass) (recordId : String) : String :=
  "multiple rows in " ++ table.cls.name ++ " match \"" ++ recordId ++ "\""

/-- The test `referrer && !ovsdb_idl_next_row(referrer)` of `get_row_by_id` on the rows
of a table: the only one. -/
def onlyRow : List Row → Option Row
  | [row] => some row
  | _ => none

/-- The test `uuid->n == 1` of `get_row_by_id`, and the UUID `uuid->keys[0].uuid`. -/
def singleUuid (uuid : Datum) : Option Uuid :=
  match uuid.entries with
  | [(.uuid u, _)] => some u
  | _ => none

/-- The loop of `get_row_by_id` over the rows of `id->table`: `referrer` is the row
found so far whose name column is `recordId`, and a second one is fatal. -/
def findReferrer (table : CtlTableClass) (nameColumn : Column) (recordId : String) :
    List Row → Option Row → CtlM (Option Row)
  | [], referrer => pure referrer
  | row :: rows, referrer => do
    let name ← idlRead row nameColumn
    if nameMatches name recordId then
      if referrer.isSome then ctlFatal (multipleRowsError table recordId)
      else findReferrer table nameColumn recordId rows (some row)
    else findReferrer table nameColumn recordId rows referrer

/-- The end of `get_row_by_id`: through `uuid_column`, the row of `table->class`
that the referrer's single UUID names. -/
def followUuidColumn (table : CtlTableClass) (uuidColumn : Option Column) (referrer : Row) :
    CtlM (Option Row) :=
  match uuidColumn with
  | none => pure (some referrer)
  | some uuidColumn => do
    txnVerify referrer uuidColumn
    match singleUuid (← idlRead referrer uuidColumn) with
    | some u => idlGetRowForUuid table.cls u
    | none => pure none

/-- `get_row_by_id`. -/
def getRowById (table : CtlTableClass) (id : RowId) (recordId : String) : CtlM (Option Row) :=
  match id.table with
  | none => pure none
  | some idTable => do
    let referrer ← (match id.nameColumn with
      | none =>
        if recordId ≠ "." then pure none else do return onlyRow (← idlRows idTable)
      | some nameColumn => do findReferrer table nameColumn recordId (← idlRows idTable) none)
    match referrer with
    | none => pure none
    | some referrer => followUuidColumn table id.uuidColumn referrer

/-- The loop of `get_row` over `table->row_ids`, up to the first that resolves. -/
def getRowByIds (table : CtlTableClass) (recordId : String) : List RowId → CtlM (Option Row)
  | [] => pure none
  | id :: ids => do
    match ← getRowById table id recordId with
    | some row => pure (some row)
    | none => getRowByIds table recordId ids

/-- The message of `get_row` when `must_exist` and no row resolves. -/
def noRowError (table : CtlTableClass) (recordId : String) : String :=
  "no row \"" ++ recordId ++ "\" in table " ++ table.cls.name

/-- `get_row`. -/
def getRow (L : Lib) (table : CtlTableClass) (recordId : String) (mustExist : Bool) :
    CtlM (Option Row) := do
  let row ← (match L.uuidFromString recordId with
    | some uuid => idlGetRowForUuid table.cls uuid
    | none => pure none)
  let row ← (match row with
    | some row => pure (some row)
    | none => getRowByIds table recordId table.rowIds)
  if mustExist ∧ row.isNone then ctlFatal (noRowError table recordId) else pure row

/-- `create_symbol`: `@name` is defined by this command. The flag says whether the
name was new to the symbol table; a name defined before aborts. -/
def createSymbol (id : String) : CtlM (OvsdbSymbol × Bool) := do
  if id.get 0 ≠ '@' then ctlFatal ("row id \"" ++ id ++ "\" does not begin with \"@\"")
  else do
    let new := ((← get).symtab.get id).isNone
    let symbol ← symbolTableInsert id
    if symbol.created then
      ctlFatal ("row id \"" ++ id ++ "\" may only be specified on one --id option")
    else do
      let symbol := { symbol with created := true }
      putSymbol id symbol
      return (symbol, new)

/-! ### What `get_row` resolves a token to -/

/-- The rows of `tc` in the IDL, in iteration order. -/
def Idl.rowsOf (idl : Idl) (tc : TableClass) : List Row := idl.rows.filter (·.table = tc.name)

/-- The row of `tc` whose UUID is `uuid`, if the IDL has it. -/
def Idl.rowForUuid (idl : Idl) (tc : TableClass) (uuid : Uuid) : Option Row :=
  idl.rows.find? fun r => r.table = tc.name ∧ r.uuid = uuid

/-- The only row of `rows`: none for none, an abort for two or more. -/
def theOneRow (table : CtlTableClass) (recordId : String) : List Row → Except String (Option Row)
  | [] => .ok none
  | [row] => .ok (some row)
  | _ => .error (multipleRowsError table recordId)

/-- Through the UUID column, if any, the row of `table.cls` that the referrer's single
UUID names. -/
def Idl.followUuid (idl : Idl) (table : CtlTableClass) (uuidColumn : Option Column)
    (referrer : Row) : Option Row :=
  match uuidColumn with
  | none => some referrer
  | some uuidColumn => (singleUuid (idl.data referrer.uuid uuidColumn)).bind (idl.rowForUuid table.cls)

/-- What a row-id descriptor resolves `recordId` to. With a name column: the only
row of `id.table` whose name column is the single string `recordId`, an abort when
two or more are. Without one: for `.` only, the only row of `id.table`. Through a
UUID column: the row of `table.cls` that the referrer's single UUID names. -/
def resolveRowId (idl : Idl) (table : CtlTableClass) (id : RowId) (recordId : String) :
    Except String (Option Row) :=
  match id.table with
  | none => .ok none
  | some t =>
    let referrer : Except String (Option Row) := match id.nameColumn with
      | none => .ok (if recordId = "." then onlyRow (idl.rowsOf t) else none)
      | some nameColumn =>
        theOneRow table recordId
          ((idl.rowsOf t).filter fun r => nameMatches (idl.data r.uuid nameColumn) recordId)
    referrer.map fun referrer => referrer.bind (idl.followUuid table id.uuidColumn)

/-- The result of the first descriptor of `ids` that resolves `recordId` or aborts;
the later ones are not consulted. -/
def firstResolving (idl : Idl) (table : CtlTableClass) (recordId : String) :
    List RowId → Except String (Option Row)
  | [] => .ok none
  | id :: ids =>
    match resolveRowId idl table id recordId with
    | .ok none => firstResolving idl table recordId ids
    | r => r

/-- What `get_row` returns: the row of `table.cls` whose UUID the token is, or else
the first resolving descriptor's row, or else nothing (an abort when it must
exist). -/
def getRowSpec (L : Lib) (idl : Idl) (table : CtlTableClass) (recordId : String)
    (mustExist : Bool) : Except String (Option Row) :=
  match (L.uuidFromString recordId).bind (idl.rowForUuid table.cls) with
  | some row => .ok (some row)
  | none =>
    match firstResolving idl table recordId table.rowIds with
    | .ok none => if mustExist then .error (noRowError table recordId) else .ok none
    | r => r

/-! ### `get_row` reads as its specification -/

/-- The IDL calls `get_row` makes for `table` all satisfy `P`: lookups in
`table.cls`, and for each row-id descriptor the iteration of its table and the reads
of its name column and (verified) UUID column. -/
structure RowIdOps (P : IdlOp → Prop) (table : CtlTableClass) : Prop where
  lookup : P (.lookup table.cls)
  iterate : ∀ id ∈ table.rowIds, ∀ t, id.table = some t → P (.iterate t)
  readName : ∀ id ∈ table.rowIds, ∀ c, id.nameColumn = some c → ∀ row, P (.read row c)
  readUuid : ∀ id ∈ table.rowIds, ∀ c, id.uuidColumn = some c → ∀ row,
    P (.verify row c) ∧ P (.read row c)

lemma rowIdOps_true (table : CtlTableClass) : RowIdOps (fun _ => True) table :=
  ⟨trivial, fun _ _ _ _ => trivial, fun _ _ _ _ _ => trivial, fun _ _ _ _ _ => ⟨trivial, trivial⟩⟩

section GetRow

variable {P : IdlOp → Prop} (table : CtlTableClass) (recordId : String)

/-- The name loop keeps the referrer so far in front of the rows that match after
it, and ends on the only one of them. -/
lemma findReferrer_readsAs (nameColumn : Column) (h : ∀ row, P (.read row nameColumn)) :
    ∀ (rows : List Row) (referrer : Option Row),
      ReadsAs P (findReferrer table nameColumn recordId rows referrer) fun idl =>
        theOneRow table recordId
          (referrer.toList ++ rows.filter fun r => nameMatches (idl.data r.uuid nameColumn) recordId)
  | [], referrer => by
    cases referrer <;> exact ReadsAs.pure _
  | row :: rows, referrer => by
    refine (ReadsAs.bind (readsAs_idlRead (h row)) fun name =>
      ReadsAs.ite (nameMatches name recordId = true)
        (ReadsAs.ite (referrer.isSome = true) (ReadsAs.ctlFatal _)
          (findReferrer_readsAs nameColumn h rows (some row)))
        (findReferrer_readsAs nameColumn h rows referrer)).congr fun idl => ?_
    by_cases hm : nameMatches (idl.data row.uuid nameColumn) recordId
    · rcases referrer with _ | r <;> simp [hm, List.filter_cons, theOneRow]
    · simp [hm, List.filter_cons]

lemma followUuidColumn_readsAs (uuidColumn : Option Column) (referrer : Row)
    (hl : P (.lookup table.cls))
    (h : ∀ c, uuidColumn = some c → ∀ row, P (.verify row c) ∧ P (.read row c)) :
    ReadsAs P (followUuidColumn table uuidColumn referrer) fun idl =>
      .ok (idl.followUuid table uuidColumn referrer) := by
  cases uuidColumn with
  | none => exact ReadsAs.pure _
  | some c =>
    have hk : ∀ d : Datum, ReadsAs P (match singleUuid d with
        | some u => idlGetRowForUuid table.cls u
        | none => pure none) fun idl => .ok ((singleUuid d).bind (idl.rowForUuid table.cls)) := by
      intro d
      rcases singleUuid d with _ | u
      · exact ReadsAs.pure _
      · exact readsAs_idlGetRowForUuid u hl
    exact (ReadsAs.bind (readsAs_txnVerify (h c rfl referrer).1) fun _ =>
      ReadsAs.bind (readsAs_idlRead (h c rfl referrer).2) hk).congr fun _ => rfl

lemma getRowById_readsAs (hP : RowIdOps P table) {id : RowId} (hid : id ∈ table.rowIds) :
    ReadsAs P (getRowById table id recordId) fun idl => resolveRowId idl table id recordId := by
  obtain ⟨_ | t, nameColumn, uuidColumn⟩ := id
  · exact ReadsAs.pure _
  have hk : ∀ referrer : Option Row, ReadsAs P (match referrer with
      | none => pure none
      | some referrer => followUuidColumn table uuidColumn referrer) fun idl =>
        .ok (referrer.bind (idl.followUuid table uuidColumn)) := by
    rintro (_ | r)
    · exact ReadsAs.pure _
    · exact followUuidColumn_readsAs table uuidColumn r hP.lookup (hP.readUuid _ hid)
  have hrows := readsAs_idlRows (hP.iterate _ hid t rfl)
  cases nameColumn with
  | none =>
    refine (ReadsAs.bind (ReadsAs.ite (recordId ≠ ".") (ReadsAs.pure none)
      (ReadsAs.bind hrows fun rows => ReadsAs.pure (onlyRow rows))) hk).congr fun idl => ?_
    by_cases hx : recordId = "." <;> simp [hx, resolveRowId, Idl.rowsOf, Except.map]
  | some c =>
    refine (ReadsAs.bind (ReadsAs.bind hrows fun rows =>
      findReferrer_readsAs table recordId c (hP.readName _ hid c rfl) rows none) hk).congr
        fun idl => ?_
    simp only [resolveRowId, Idl.rowsOf, Option.toList, List.nil_append, except_ok_bind]
    cases theOneRow table recordId _ <;> rfl

lemma getRowByIds_readsAs (hP : RowIdOps P table) :
    ∀ ids : List RowId, (∀ id ∈ ids, id ∈ table.rowIds) →
      ReadsAs P (getRowByIds table recordId ids) fun idl => firstResolving idl table recordId ids
  | [], _ => ReadsAs.pure _
  | id :: ids, hids => by
    have hk : ∀ row : Option Row, ReadsAs P (match row with
        | some row => pure (some row)
        | none => getRowByIds table recordId ids) fun idl =>
          match row with
          | some row => .ok (some row)
          | none => firstResolving idl table recordId ids := by
      rintro (_ | r)
      · exact getRowByIds_readsAs hP ids fun id hid => hids id (List.mem_cons_of_mem _ hid)
      · exact ReadsAs.pure _
    refine (ReadsAs.bind (getRowById_readsAs table recordId hP (hids id (List.mem_cons_self _ _)))
      hk).congr fun idl => ?_
    simp only [firstResolving]
    rcases resolveRowId idl table id recordId with _ | _ | _ <;> rfl

lemma getRow_readsAs (L : Lib) (mustExist : Bool) (hP : RowIdOps P table) :
    ReadsAs P (getRow L table recordId mustExist) fun idl =>
      getRowSpec L idl table recordId mustExist := by
  have hu : ReadsAs P (match L.uuidFromString recordId with
      | some uuid => idlGetRowForUuid table.cls uuid
      | none => pure none) fun idl => .ok ((L.uuidFromString recordId).bind (idl.rowForUuid table.cls)) := by
    rcases L.uuidFromString recordId with _ | u
    · exact ReadsAs.pure _
    · exact readsAs_idlGetRowForUuid u hP.lookup
  have hk : ∀ row : Option Row, ReadsAs P (match row with
      | some row => pure (some row)
      | none => getRowByIds table recordId table.rowIds) fun idl =>
        match row with
        | some row => .ok (some row)
        | none => firstResolving idl table recordId table.rowIds := by
    rintro (_ | r)
    · exact getRowByIds_readsAs table recordId hP table.rowIds fun _ => id
    · exact ReadsAs.pure _
  refine (ReadsAs.bind hu fun row => ReadsAs.bind (hk row) fun row =>
    ReadsAs.ite (mustExist = true ∧ row.isNone = true) (ReadsAs.ctlFatal _) (ReadsAs.pure row)).congr
      fun idl => ?_
  simp only [getRowSpec, except_ok_bind]
  rcases (L.uuidFromString recordId).bind (idl.rowForUuid table.cls) with _ | r
  · rcases firstResolving idl table recordId table.rowIds with _ | _ | _ <;> cases mustExist <;> rfl
  · cases mustExist <;> rfl

end GetRow

/-- `get_row` returns the row of `table.cls` whose UUID the token is, when it parses
as one and the IDL has that row; otherwise the row of the first row-id descriptor
that resolves the token, where a name shared by two rows aborts and later
descriptors are not consulted; otherwise nothing, or `no row` when the row must
exist. It changes nothing in the context but the log. -/
theorem getRow_spec (L : Lib) (table : CtlTableClass) (recordId : String) (mustExist : Bool)
    (s : Ctx) : ∃ l, (getRow L table recordId mustExist).run s =
      (getRowSpec L s.idl table recordId mustExist).map fun row => (row, { s with log := s.log ++ l }) :=
  let ⟨l, _, h⟩ := getRow_readsAs (P := fun _ => True) table recordId L mustExist
    ⟨trivial, fun _ _ _ _ => trivial, fun _ _ _ _ _ => trivial, fun _ _ _ _ _ => ⟨trivial, trivial⟩⟩ s
  ⟨l, h⟩


/-- `get_row` writes nothing. -/
lemma rowIdOps_not_isWrite (table : CtlTableClass) : RowIdOps (fun op => op.isWrite = false) table :=
  ⟨rfl, fun _ _ _ _ => rfl, fun _ _ _ _ _ => rfl, fun _ _ _ _ _ => ⟨rfl, rfl⟩⟩

/-- A completed `get_row`: its specification's row, and a log grown by calls that do not
write. -/
lemma getRow_run_ok {L : Lib} {table : CtlTableClass} {recordId : String} {mustExist : Bool}
    {s s' : Ctx} {row : Option Row} (h : (getRow L table recordId mustExist).run s = .ok (row, s')) :
    getRowSpec L s.idl table recordId mustExist = .ok row ∧
      ∃ l, (∀ op ∈ l, op.isWrite = false) ∧ s' = { s with log := s.log ++ l } := by
  obtain ⟨l, hl, hrun⟩ := getRow_readsAs table recordId L mustExist (rowIdOps_not_isWrite table) s
  rw [hrun] at h
  rcases hspec : getRowSpec L s.idl table recordId mustExist with e | r <;>
    simp only [hspec, Except.map, reduceCtorEq, Except.ok.injEq, Prod.mk.injEq] at h
  exact ⟨by rw [h.1], l, hl, h.2.symm⟩

/-! ### `get_row` returns a row of the view -/

lemma Idl.mem_of_rowForUuid {idl : Idl} {tc : TableClass} {uuid : Uuid} {row : Row}
    (h : idl.rowForUuid tc uuid = some row) : row ∈ idl.rows :=
  List.mem_of_find?_eq_some h

lemma mem_of_onlyRow {rows : List Row} {row : Row} (h : onlyRow rows = some row) : row ∈ rows := by
  unfold onlyRow at h
  split at h
  · cases h
    exact List.mem_singleton_self _
  · cases h

lemma mem_of_theOneRow {table : CtlTableClass} {recordId : String} {rows : List Row} {row : Row}
    (h : theOneRow table recordId rows = .ok (some row)) : row ∈ rows := by
  unfold theOneRow at h
  split at h
  · cases h
  · cases h
    exact List.mem_singleton_self _
  · cases h

lemma Idl.mem_of_followUuid {idl : Idl} {table : CtlTableClass} {uuidColumn : Option Column}
    {referrer row : Row} (href : referrer ∈ idl.rows) (h : idl.followUuid table uuidColumn referrer = some row) :
    row ∈ idl.rows := by
  rcases uuidColumn with _ | c
  · cases h
    exact href
  · obtain ⟨u, -, hu⟩ := Option.bind_eq_some.1 h
    exact Idl.mem_of_rowForUuid hu

lemma except_map_bind_eq_ok_some {ε α β : Type} {r : Except ε (Option α)} {f : α → Option β} {b : β}
    (h : r.map (fun a => a.bind f) = .ok (some b)) : ∃ a, r = .ok (some a) ∧ f a = some b := by
  rcases r with _ | _ | a
  · cases h
  · cases h
  · exact ⟨a, rfl, Except.ok.inj h⟩

lemma mem_of_resolveRowId {idl : Idl} {table : CtlTableClass} {id : RowId} {recordId : String} {row : Row}
    (h : resolveRowId idl table id recordId = .ok (some row)) : row ∈ idl.rows := by
  unfold resolveRowId at h
  split at h
  · cases h
  obtain ⟨referrer, href, hrow⟩ := except_map_bind_eq_ok_some h
  refine Idl.mem_of_followUuid ?_ hrow
  split at href
  · split_ifs at href
    · exact List.mem_of_mem_filter (mem_of_onlyRow (Except.ok.inj href))
    · cases href
  · exact List.mem_of_mem_filter (List.mem_of_mem_filter (mem_of_theOneRow href))

lemma mem_of_firstResolving {idl : Idl} {table : CtlTableClass} {recordId : String} {row : Row} :
    ∀ {ids : List RowId}, firstResolving idl table recordId ids = .ok (some row) → row ∈ idl.rows
  | [], h => by cases h
  | id :: ids, h => by
    unfold firstResolving at h
    split at h
    · exact mem_of_firstResolving h
    · exact mem_of_resolveRowId h

/-- What `get_row` returns is a row of the view. -/
lemma mem_of_getRowSpec {L : Lib} {idl : Idl} {table : CtlTableClass} {recordId : String} {mustExist : Bool}
    {row : Row} (h : getRowSpec L idl table recordId mustExist = .ok (some row)) : row ∈ idl.rows := by
  unfold getRowSpec at h
  split at h
  · next hu =>
    cases h
    obtain ⟨u, -, hu⟩ := Option.bind_eq_some.1 hu
    exact Idl.mem_of_rowForUuid hu
  · split at h
    · split_ifs at h
      cases h
    · exact mem_of_firstResolving h

/-- A completed `get_row` returns a row of the view it ran on. -/
lemma getRow_run_mem {L : Lib} {table : CtlTableClass} {recordId : String} {mustExist : Bool}
    {s s' : Ctx} {row : Row} (h : (getRow L table recordId mustExist).run s = .ok (some row, s')) :
    row ∈ s.idl.rows :=
  mem_of_getRowSpec (getRow_run_ok h).1

end DbCtlBase
