import DbCtlBase.Context

/-!
What a command's computation may change, as properties of `CtlM` computations
that are closed under `bind`, so that a command has one as soon as every IDL call
and symbol-table update it makes has it.

* `Moves R x`: every completed run of `x` relates its start and end contexts by
  `R`; for a reflexive and transitive `R` it holds of `pure` and of `ctl_fatal`,
  and passes through `bind`.
* `Logs P`: the IDL calls appended to the log all satisfy `P`.
* `SymtabGrows`: no symbol leaves the symbol table and no `created` flag is
  cleared.
* `ReadsAs x e`: `x` computes `e` from the IDL, and changes nothing in the context
  but the log.
-/

namespace DbCtlBase

/-- Every completed run of `x` takes its context from `s` to an `s'` with `R s s'`. -/
def Moves (R : Ctx → Ctx → Prop) {α : Type} (x : CtlM α) : Prop :=
  ∀ s a s', x.run s = .ok (a, s') → R s s'

section Moves

variable {R R' : Ctx → Ctx → Prop} {α β : Type}

lemma Moves.pure [IsRefl Ctx R] (a : α) : Moves R (pure a : CtlM α) := by
  intro s b s' h
  cases (Prod.mk.inj (Except.ok.inj h)).2
  exact refl_of R s

lemma Moves.get [IsRefl Ctx R] : Moves R (get : CtlM Ctx) := by
  intro s b s' h
  cases (Prod.mk.inj (Except.ok.inj h)).2
  exact refl_of R s

lemma Moves.bind [IsTrans Ctx R] {x : CtlM α} {f : α → CtlM β} (hx : Moves R x)
    (hf : ∀ a, Moves R (f a)) : Moves R (x >>= f) := by
  intro s b s' h
  rw [StateT.run_bind] at h
  obtain ⟨⟨a, s₁⟩, h₁, h₂⟩ := except_bind_eq_ok.1 h
  exact trans_of R (hx s a s₁ h₁) (hf a s₁ b s' h₂)

/-- A `bind` whose continuation moves along `R` only on the values `x` can return. -/
lemma Moves.bind_of [IsTrans Ctx R] {x : CtlM α} {f : α → CtlM β} {Q : α → Prop} (hx : Moves R x)
    (hQ : ∀ s a s', x.run s = .ok (a, s') → Q a) (hf : ∀ a, Q a → Moves R (f a)) : Moves R (x >>= f) := by
  intro s b s' h
  rw [StateT.run_bind] at h
  obtain ⟨⟨a, s₁⟩, h₁, h₂⟩ := except_bind_eq_ok.1 h
  exact trans_of R (hx s a s₁ h₁) (hf a (hQ s a s₁ h₁) s₁ b s' h₂)

lemma Moves.ctlFatal (message : String) : Moves R (ctlFatal message : CtlM α) := by
  intro s a s' h
  cases h

lemma Moves.dieIfError [IsRefl Ctx R] (e : Except String α) : Moves R (dieIfError e) := by
  cases e
  · exact Moves.ctlFatal _
  · exact Moves.pure _

lemma Moves.mono (hR : ∀ s s', R s s' → R' s s') {x : CtlM α} (hx : Moves R x) : Moves R' x :=
  fun s a s' h => hR s s' (hx s a s' h)

lemma Moves.and {x : CtlM α} (h : Moves R x) (h' : Moves R' x) :
    Moves (fun s s' => R s s' ∧ R' s s') x :=
  fun s a s' hr => ⟨h s a s' hr, h' s a s' hr⟩

/-- A loop over a list whose body moves along `R` moves along `R`. -/
lemma Moves.forM [IsRefl Ctx R] [IsTrans Ctx R] {γ : Type} (xs : List γ) {f : γ → CtlM PUnit}
    (hf : ∀ x ∈ xs, Moves R (f x)) : Moves R (xs.forM f) := by
  induction xs with
  | nil => exact Moves.pure _
  | cons x xs ih =>
    exact Moves.bind (hf x (List.mem_cons_self _ _)) fun _ =>
      ih fun y hy => hf y (List.mem_cons_of_mem _ hy)

/-- A left fold whose steps move along `R` moves along `R`. -/
lemma Moves.foldlM [IsRefl Ctx R] [IsTrans Ctx R] {γ : Type}
    {f : α → γ → CtlM α} (hf : ∀ a x, Moves R (f a x)) :
    ∀ (xs : List γ) (init : α), Moves R (xs.foldlM f init)
  | [], _ => Moves.pure _
  | x :: xs, init => Moves.bind (hf init x) fun a => Moves.foldlM hf xs a

end Moves

/-! ### The log -/

/-- The IDL calls appended to the log from `s` to `s'` all satisfy `P`. -/
def Logs (P : IdlOp → Prop) (s s' : Ctx) : Prop :=
  ∃ l, s'.log = s.log ++ l ∧ ∀ op ∈ l, P op

section Logs

variable {P : IdlOp → Prop}

instance : IsRefl Ctx (Logs P) := ⟨fun s => ⟨[], by simp, by simp⟩⟩

instance : IsTrans Ctx (Logs P) :=
  ⟨fun _ _ _ ⟨l₁, h₁, p₁⟩ ⟨l₂, h₂, p₂⟩ =>
    ⟨l₁ ++ l₂, by rw [h₂, h₁, List.append_assoc], fun op hop =>
      (List.mem_append.1 hop).elim (p₁ op) (p₂ op)⟩⟩

lemma Logs.of_log_eq {s s' : Ctx} (h : s'.log = s.log) : Logs P s s' := ⟨[], by simp [h], by simp⟩

/-- A computation that logs nothing leaves the log as it was. -/
lemma Logs.log_eq {s s' : Ctx} (h : Logs (fun _ => False) s s') : s'.log = s.log := by
  obtain ⟨l, hl, hp⟩ := h
  rw [hl, List.eq_nil_iff_forall_not_mem.2 hp, List.append_nil]

lemma Logs.mono {Q : IdlOp → Prop} (hPQ : ∀ op, P op → Q op) {s s' : Ctx} (h : Logs P s s') :
    Logs Q s s' :=
  let ⟨l, hl, hp⟩ := h
  ⟨l, hl, fun op hop => hPQ op (hp op hop)⟩

lemma moves_logs_logOp {op : IdlOp} (h : P op) : Moves (Logs P) (logOp op) := by
  rintro s ⟨⟩ s' ⟨⟩
  exact ⟨[op], rfl, by simpa using h⟩

lemma moves_logs_idlRows {tc : TableClass} (h : P (.iterate tc)) : Moves (Logs P) (idlRows tc) := by
  rintro s r s' hr
  cases (Prod.mk.inj (Except.ok.inj hr)).2
  exact ⟨[_], rfl, by simpa using h⟩

lemma moves_logs_idlGetRowForUuid {tc : TableClass} {uuid : Uuid} (h : P (.lookup tc)) :
    Moves (Logs P) (idlGetRowForUuid tc uuid) := by
  rintro s r s' hr
  cases (Prod.mk.inj (Except.ok.inj hr)).2
  exact ⟨[_], rfl, by simpa using h⟩

lemma moves_logs_idlRead {row : Row} {column : Column} (h : P (.read row column)) :
    Moves (Logs P) (idlRead row column) := by
  rintro s d s' hr
  cases (Prod.mk.inj (Except.ok.inj hr)).2
  exact ⟨[_], rfl, by simpa using h⟩

lemma moves_logs_txnWrite {row : Row} {column : Column} {datum : Datum}
    (h : P (.write row column datum)) : Moves (Logs P) (txnWrite row column datum) := by
  rintro s d s' hr
  cases (Prod.mk.inj (Except.ok.inj hr)).2
  exact ⟨[_], rfl, by simpa using h⟩

lemma moves_logs_uuidGenerate : Moves (Logs P) uuidGenerate := by
  rintro s u s' hr
  cases (Prod.mk.inj (Except.ok.inj hr)).2
  exact Logs.of_log_eq rfl

lemma moves_logs_txnInsert {tc : TableClass} {uuid : Option Uuid}
    (h : ∀ row, P (.insert row)) : Moves (Logs P) (txnInsert tc uuid) := by
  refine Moves.bind ?_ fun u => Moves.bind (moves_logs_logOp (h _)) fun _ => Moves.bind ?_
    fun _ => Moves.pure _
  · cases uuid
    · exact moves_logs_uuidGenerate
    · exact Moves.pure _
  · rintro s ⟨⟩ s' hr
    cases (Prod.mk.inj (Except.ok.inj hr)).2
    exact Logs.of_log_eq rfl

lemma moves_logs_txnDelete {row : Row} (h : P (.delete row)) : Moves (Logs P) (txnDelete row) := by
  refine Moves.bind (moves_logs_logOp h) fun _ => ?_
  rintro s ⟨⟩ s' hr
  cases (Prod.mk.inj (Except.ok.inj hr)).2
  exact Logs.of_log_eq rfl

lemma moves_logs_putSymbol {name : String} {symbol : OvsdbSymbol} :
    Moves (Logs P) (putSymbol name symbol) := by
  rintro s ⟨⟩ s' hr
  cases (Prod.mk.inj (Except.ok.inj hr)).2
  exact Logs.of_log_eq rfl

lemma moves_logs_symbolTableInsert {name : String} : Moves (Logs P) (symbolTableInsert name) := by
  refine Moves.bind Moves.get fun st => ?_
  · cases st.symtab.get name
    · exact Moves.bind moves_logs_uuidGenerate fun _ =>
        Moves.bind moves_logs_putSymbol fun _ => Moves.pure _
    · exact Moves.pure _

lemma moves_logs_insertSymbols (names : List String) : Moves (Logs P) (insertSymbols names) := by
  induction names with
  | nil => exact Moves.pure _
  | cons name names ih => exact Moves.bind moves_logs_symbolTableInsert fun _ => ih

lemma moves_logs_ovsdbAtomFromString {L : Lib} {base : BaseType} {str : String} :
    Moves (Logs P) (ovsdbAtomFromString L base str) :=
  Moves.bind (moves_logs_insertSymbols _) fun _ => Moves.bind Moves.get fun _ => Moves.pure _

lemma moves_logs_ovsdbDatumFromString {L : Lib} {t : OvsdbType} {str : String} :
    Moves (Logs P) (ovsdbDatumFromString L t str) :=
  Moves.bind (moves_logs_insertSymbols _) fun _ => Moves.bind Moves.get fun _ => Moves.pure _

end Logs

/-! ### The symbol table -/

/-- From `s` to `s'` every symbol stays in the symbol table, and a symbol whose
`created` flag was set keeps it set. -/
def SymtabGrows (s s' : Ctx) : Prop :=
  ∀ name symbol, s.symtab.get name = some symbol →
    ∃ symbol', s'.symtab.get name = some symbol' ∧ (symbol.created = true → symbol'.created = true)

instance : IsRefl Ctx SymtabGrows := ⟨fun _ _ symbol h => ⟨symbol, h, id⟩⟩

instance : IsTrans Ctx SymtabGrows :=
  ⟨fun _ _ _ h₁ h₂ name symbol h => by
    obtain ⟨symbol₁, hs₁, hc₁⟩ := h₁ name symbol h
    obtain ⟨symbol₂, hs₂, hc₂⟩ := h₂ name symbol₁ hs₁
    exact ⟨symbol₂, hs₂, hc₂ ∘ hc₁⟩⟩

lemma SymtabGrows.of_symtab_eq {s s' : Ctx} (h : s'.symtab = s.symtab) : SymtabGrows s s' :=
  fun _ symbol hs => ⟨symbol, h ▸ hs, id⟩

/-- Storing `symbol` under `name` grows the table when it keeps the `created` flag
of the symbol it replaces. -/
lemma moves_symtabGrows_putSymbol {name : String} {symbol : OvsdbSymbol}
    (h : ∀ (s : Ctx) (old : OvsdbSymbol), s.symtab.get name = some old → old.created = true →
      symbol.created = true) :
    Moves SymtabGrows (putSymbol name symbol) := by
  rintro s ⟨⟩ s' hr
  cases (Prod.mk.inj (Except.ok.inj hr)).2
  intro name' old hold
  by_cases hn : name' = name
  · subst hn; exact ⟨symbol, by simp, h s old hold⟩
  · exact ⟨old, by simpa [hn] using hold, id⟩

lemma moves_symtabGrows_of_symtab_eq {α : Type} {x : CtlM α}
    (h : ∀ s a s', x.run s = .ok (a, s') → s'.symtab = s.symtab) : Moves SymtabGrows x :=
  fun s a s' hr => SymtabGrows.of_symtab_eq (h s a s' hr)

lemma moves_symtabGrows_symbolTableInsert {name : String} :
    Moves SymtabGrows (symbolTableInsert name) := by
  intro s symbol s' hr
  rw [symbolTableInsert_run] at hr
  rcases hget : s.symtab.get name with _ | old
  · rw [hget] at hr
    cases (Prod.mk.inj (Except.ok.inj hr)).2
    intro name' old hold
    have hn : name' ≠ name := by rintro rfl; simp [hget] at hold
    exact ⟨old, by simpa [hn] using hold, id⟩
  · rw [hget] at hr
    cases (Prod.mk.inj (Except.ok.inj hr)).2
    exact refl_of SymtabGrows s

lemma moves_symtabGrows_insertSymbols (names : List String) :
    Moves SymtabGrows (insertSymbols names) := by
  induction names with
  | nil => exact Moves.pure _
  | cons name names ih => exact Moves.bind moves_symtabGrows_symbolTableInsert fun _ => ih

lemma moves_symtabGrows_ovsdbAtomFromString {L : Lib} {base : BaseType} {str : String} :
    Moves SymtabGrows (ovsdbAtomFromString L base str) :=
  Moves.bind (moves_symtabGrows_insertSymbols _) fun _ => Moves.bind Moves.get fun _ => Moves.pure _

lemma moves_symtabGrows_ovsdbDatumFromString {L : Lib} {t : OvsdbType} {str : String} :
    Moves SymtabGrows (ovsdbDatumFromString L t str) :=
  Moves.bind (moves_symtabGrows_insertSymbols _) fun _ => Moves.bind Moves.get fun _ => Moves.pure _

/-! ### Inserting symbols -/

/-- `st'` keeps every symbol of `st` as it is. -/
instance : Preorder SymbolTable where
  le st st' := ∀ name symbol, st.get name = some symbol → st'.get name = some symbol
  le_refl _ _ _ := id
  le_trans _ _ _ h₁ h₂ name symbol h := h₂ name symbol (h₁ name symbol h)

/-- From `s` to `s'` the IDL, the output and the flags are unchanged, and the symbol
table only gains symbols. -/
structure SymbolsOnly (s s' : Ctx) : Prop where
  idl : s'.idl = s.idl
  output : s'.output = s.output
  table : s'.table = s.table
  tryAgain : s'.tryAgain = s.tryAgain
  symtab : s.symtab ≤ s'.symtab

instance : IsRefl Ctx SymbolsOnly := ⟨fun _ => ⟨rfl, rfl, rfl, rfl, le_rfl⟩⟩

instance : IsTrans Ctx SymbolsOnly :=
  ⟨fun _ _ _ h₁ h₂ => ⟨h₂.idl.trans h₁.idl, h₂.output.trans h₁.output, h₂.table.trans h₁.table,
    h₂.tryAgain.trans h₁.tryAgain, h₁.symtab.trans h₂.symtab⟩⟩

lemma SymbolsOnly.symtabGrows {s s' : Ctx} (h : SymbolsOnly s s') : SymtabGrows s s' :=
  fun name symbol hs => ⟨symbol, h.symtab name symbol hs, id⟩

/-- `ovsdb_symbol_table_insert` leaves `name` in the table and changes no symbol. -/
lemma symbolTableInsert_run_ok {name : String} {s s' : Ctx} {symbol : OvsdbSymbol}
    (h : (symbolTableInsert name).run s = .ok (symbol, s')) :
    SymbolsOnly s s' ∧ s'.symtab.get name = some symbol := by
  rw [symbolTableInsert_run] at h
  rcases hget : s.symtab.get name with _ | old <;> rw [hget] at h <;> simp at h <;>
    obtain ⟨rfl, rfl⟩ := h
  · refine ⟨⟨rfl, rfl, rfl, rfl, fun n sym hn => ?_⟩, by simp⟩
    have : n ≠ name := by rintro rfl; simp [hget] at hn
    simpa [this] using hn
  · exact ⟨refl_of SymbolsOnly s, hget⟩

/-- After `insertSymbols names` every name is in the table, and no symbol changed. -/
lemma insertSymbols_run_ok : ∀ {names : List String} {s s' : Ctx} {u : Unit},
    (insertSymbols names).run s = .ok (u, s') →
      SymbolsOnly s s' ∧ ∀ name ∈ names, (s'.symtab.get name).isSome
  | [], s, s', u, h => by
    cases (Prod.mk.inj (Except.ok.inj h)).2
    exact ⟨refl_of SymbolsOnly s, by simp⟩
  | name :: names, s, s', u, h => by
    obtain ⟨⟨symbol, s₁⟩, h₁, h₂⟩ := except_bind_eq_ok.1 (by simpa [insertSymbols] using h)
    obtain ⟨hs₁, hn⟩ := symbolTableInsert_run_ok h₁
    obtain ⟨hs₂, hns⟩ := insertSymbols_run_ok h₂
    refine ⟨trans_of SymbolsOnly hs₁ hs₂, List.forall_mem_cons.2 ⟨?_, hns⟩⟩
    rw [hs₂.symtab name symbol hn]
    rfl

lemma moves_symbolsOnly_insertSymbols (names : List String) :
    Moves SymbolsOnly (insertSymbols names) :=
  fun _ _ _ h => (insertSymbols_run_ok h).1

lemma moves_symbolsOnly_ovsdbAtomFromString {L : Lib} {base : BaseType} {str : String} :
    Moves SymbolsOnly (ovsdbAtomFromString L base str) :=
  Moves.bind (moves_symbolsOnly_insertSymbols _) fun _ => Moves.bind Moves.get fun _ => Moves.pure _

lemma moves_symbolsOnly_ovsdbDatumFromString {L : Lib} {t : OvsdbType} {str : String} :
    Moves SymbolsOnly (ovsdbDatumFromString L t str) :=
  Moves.bind (moves_symbolsOnly_insertSymbols _) fun _ => Moves.bind Moves.get fun _ => Moves.pure _

/-- Two symbol tables that both keep the symbols of one holding all of `names` agree
on `names`. -/
lemma SymbolTable.get_eq_of_le {st st' : SymbolTable} {names : List String}
    (hle : st ≤ st') (hs : ∀ name ∈ names, (st.get name).isSome) :
    ∀ name ∈ names, st.get name = st'.get name := fun name hn => by
  obtain ⟨symbol, h⟩ := Option.isSome_iff_exists.1 (hs name hn)
  rw [h, hle name symbol h]

/-- `ovsdb_datum_from_string` returns what the parser gives on any later symbol
table: the names it reads are in the table, and they keep their symbols. -/
lemma ovsdbDatumFromString_run_ok {L : Lib} (hL : L.Local) {t : OvsdbType} {str : String}
    {s s' : Ctx} {r : Except String Datum} (h : (ovsdbDatumFromString L t str).run s = .ok (r, s')) :
    SymbolsOnly s s' ∧ ∀ st, s'.symtab ≤ st → r = L.datumFromString t str st := by
  obtain ⟨⟨u, s₁⟩, h₁, h₂⟩ := except_bind_eq_ok.1 (by simpa [ovsdbDatumFromString] using h)
  obtain ⟨hs, hin⟩ := insertSymbols_run_ok h₁
  cases (Prod.mk.inj (Except.ok.inj h₂)).2
  cases (Prod.mk.inj (Except.ok.inj h₂)).1
  exact ⟨hs, fun st hle => hL.datum _ _ _ _ (SymbolTable.get_eq_of_le hle hin)⟩

lemma ovsdbAtomFromString_run_ok {L : Lib} (hL : L.Local) {base : BaseType} {str : String}
    {s s' : Ctx} {r : Except String Atom} (h : (ovsdbAtomFromString L base str).run s = .ok (r, s')) :
    SymbolsOnly s s' ∧ ∀ st, s'.symtab ≤ st → r = L.atomFromString base str st := by
  obtain ⟨⟨u, s₁⟩, h₁, h₂⟩ := except_bind_eq_ok.1 (by simpa [ovsdbAtomFromString] using h)
  obtain ⟨hs, hin⟩ := insertSymbols_run_ok h₁
  cases (Prod.mk.inj (Except.ok.inj h₂)).2
  cases (Prod.mk.inj (Except.ok.inj h₂)).1
  exact ⟨hs, fun st hle => hL.atom _ _ _ _ (SymbolTable.get_eq_of_le hle hin)⟩

lemma ovsdbAtomFromString_log {L : Lib} {base : BaseType} {str : String} {s s' : Ctx}
    {r : Except String Atom} (h : (ovsdbAtomFromString L base str).run s = .ok (r, s')) : s'.log = s.log :=
  (moves_logs_ovsdbAtomFromString _ _ _ h).log_eq

lemma ovsdbDatumFromString_log {L : Lib} {t : OvsdbType} {str : String} {s s' : Ctx}
    {r : Except String Datum} (h : (ovsdbDatumFromString L t str).run s = .ok (r, s')) : s'.log = s.log :=
  (moves_logs_ovsdbDatumFromString _ _ _ h).log_eq

lemma insertSymbols_run_exists : ∀ (names : List String) (s : Ctx),
    ∃ s', (insertSymbols names).run s = .ok ((), s')
  | [], s => ⟨s, rfl⟩
  | name :: names, s => by
    have ⟨symbol, s₁, h₁⟩ : ∃ symbol s₁, (symbolTableInsert name).run s = .ok (symbol, s₁) := by
      rw [symbolTableInsert_run]; split <;> exact ⟨_, _, rfl⟩
    obtain ⟨s', h⟩ := insertSymbols_run_exists names s₁
    exact ⟨s', by simp [insertSymbols, StateT.run_bind, h₁, h]⟩

/-- `ovsdb_atom_from_string` always completes, with the parse against the symbol
table it leaves. -/
lemma ovsdbAtomFromString_run_exists (L : Lib) (base : BaseType) (str : String) (s : Ctx) :
    ∃ s', (ovsdbAtomFromString L base str).run s = .ok (L.atomFromString base str s'.symtab, s') := by
  obtain ⟨s', h⟩ := insertSymbols_run_exists (L.atomRefs base str) s
  exact ⟨s', by simp [ovsdbAtomFromString, StateT.run_bind, h]⟩

/-- `ovsdb_datum_from_string` always completes, with the parse against the symbol
table it leaves. -/
lemma ovsdbDatumFromString_run_exists (L : Lib) (t : OvsdbType) (str : String) (s : Ctx) :
    ∃ s', (ovsdbDatumFromString L t str).run s = .ok (L.datumFromString t str s'.symtab, s') := by
  obtain ⟨s', h⟩ := insertSymbols_run_exists (L.datumRefs t str) s
  exact ⟨s', by simp [ovsdbDatumFromString, StateT.run_bind, h]⟩

/-! ### Reading the IDL -/

/-- `x` computes `e` from the IDL, and changes nothing in the context but the log,
to which it appends only IDL calls that satisfy `P`. -/
def ReadsAs {α : Type} (P : IdlOp → Prop) (x : CtlM α) (e : Idl → Except String α) : Prop :=
  ∀ s, ∃ l, (∀ op ∈ l, P op) ∧ x.run s = (e s.idl).map fun a => (a, { s with log := s.log ++ l })

section ReadsAs

variable {P : IdlOp → Prop} {α β : Type}

lemma ReadsAs.pure (a : α) : ReadsAs P (pure a : CtlM α) fun _ => .ok a :=
  fun s => ⟨[], by simp, by simp [Except.map]⟩

lemma ReadsAs.ctlFatal (message : String) :
    ReadsAs P (ctlFatal message : CtlM α) fun _ => .error message :=
  fun _ => ⟨[], by simp, rfl⟩

lemma ReadsAs.bind {x : CtlM α} {f : α → CtlM β} {e : Idl → Except String α}
    {g : α → Idl → Except String β} (hx : ReadsAs P x e) (hf : ∀ a, ReadsAs P (f a) (g a)) :
    ReadsAs P (x >>= f) fun idl => e idl >>= fun a => g a idl := by
  intro s
  obtain ⟨l₁, p₁, h₁⟩ := hx s
  rw [StateT.run_bind, h₁]
  rcases he : e s.idl with m | a
  · exact ⟨[], by simp, by simp [he, Except.map]⟩
  · obtain ⟨l₂, p₂, h₂⟩ := hf a { s with log := s.log ++ l₁ }
    refine ⟨l₁ ++ l₂, fun op hop => (List.mem_append.1 hop).elim (p₁ op) (p₂ op), ?_⟩
    simpa [he, Except.map] using h₂

lemma ReadsAs.ite (c : Prop) [Decidable c] {x y : CtlM α} {e e' : Idl → Except String α}
    (hx : ReadsAs P x e) (hy : ReadsAs P y e') :
    ReadsAs P (if c then x else y) fun idl => if c then e idl else e' idl := by
  by_cases h : c <;> simpa [h]

lemma ReadsAs.congr {x : CtlM α} {e e' : Idl → Except String α} (h : ReadsAs P x e)
    (he : ∀ idl, e idl = e' idl) : ReadsAs P x e' :=
  fun s => (he s.idl) ▸ h s

lemma ReadsAs.mono {Q : IdlOp → Prop} (hPQ : ∀ op, P op → Q op) {x : CtlM α}
    {e : Idl → Except String α} (h : ReadsAs P x e) : ReadsAs Q x e := fun s =>
  let ⟨l, hl, hr⟩ := h s
  ⟨l, fun op hop => hPQ op (hl op hop), hr⟩

/-- A computation that changes only the log moves along any `R` that every
extension of the log by calls satisfying `P` satisfies. -/
lemma ReadsAs.moves {x : CtlM α} {e : Idl → Except String α} (h : ReadsAs P x e)
    {R : Ctx → Ctx → Prop} (hR : ∀ s l, (∀ op ∈ l, P op) → R s { s with log := s.log ++ l }) :
    Moves R x := by
  intro s a s' hr
  obtain ⟨l, hl, hrun⟩ := h s
  rw [hrun] at hr
  rcases he : e s.idl with m | b <;> simp [he, Except.map] at hr
  exact hr.2 ▸ hR s l hl

lemma ReadsAs.moves_logs {x : CtlM α} {e : Idl → Except String α} (h : ReadsAs P x e) :
    Moves (Logs P) x :=
  h.moves fun _ l hl => ⟨l, rfl, hl⟩

lemma ReadsAs.moves_symtabGrows {x : CtlM α} {e : Idl → Except String α} (h : ReadsAs P x e) :
    Moves SymtabGrows x :=
  h.moves fun _ _ _ => SymtabGrows.of_symtab_eq rfl

lemma ReadsAs.moves_symbolsOnly {x : CtlM α} {e : Idl → Except String α} (h : ReadsAs P x e) :
    Moves SymbolsOnly x :=
  h.moves fun _ _ _ => ⟨rfl, rfl, rfl, rfl, le_rfl⟩

lemma readsAs_idlRows {tc : TableClass} (h : P (.iterate tc)) :
    ReadsAs P (idlRows tc) fun idl => .ok (idl.rows.filter (·.table = tc.name)) :=
  fun _ => ⟨[_], by simpa using h, rfl⟩

lemma readsAs_idlGetRowForUuid {tc : TableClass} (uuid : Uuid) (h : P (.lookup tc)) :
    ReadsAs P (idlGetRowForUuid tc uuid) fun idl =>
      .ok (idl.rows.find? fun r => r.table = tc.name ∧ r.uuid = uuid) :=
  fun _ => ⟨[_], by simpa using h, rfl⟩

lemma readsAs_idlRead {row : Row} {column : Column} (h : P (.read row column)) :
    ReadsAs P (idlRead row column) fun idl => .ok (idl.data row.uuid column) :=
  fun _ => ⟨[_], by simpa using h, rfl⟩

lemma readsAs_txnVerify {row : Row} {column : Column} (h : P (.verify row column)) :
    ReadsAs P (txnVerify row column) fun _ => .ok () :=
  fun _ => ⟨[_], by simpa using h, rfl⟩

end ReadsAs

end DbCtlBase
