import DbCtlBase.Context

/-!
`parse_column_key_value`: `COLUMN[:KEY][OP VALUE]`, with the token lexer
`ovsdb_token_parse` taken from `Lib`.

* `bestOperator_spec`: the operator loop picks the longest allowed operator that
  begins the remainder and leaves at least one character, the first one among
  equally long ones.
* `parseColumnKeyValue_spec`: the parse succeeds exactly when the lexer yields a
  non-empty column token that `get_column` resolves, optionally `:` and a key, and
  a remainder that is empty or begins with an allowed operator followed by a
  value; on success the outputs are the column, key, operator index and the
  non-empty value, and on every failure all of them are cleared.
-/

namespace DbCtlBase

/-- The output arguments of `parse_column_key_value`: `*columnp`, `*keyp`,
`*operatorp` and `*valuep`. -/
structure ColumnKeyValue where
  column : Option Column
  key : Option String
  operator : ℤ
  value : Option String
  deriving DecidableEq, Repr

/-- `missing_operator_error`. -/
def missingOperatorError (arg : String) (allowedOperators : List String) : String :=
  let quote (s : String) := "\"" ++ s ++ "\""
  arg ++ ": argument does not end in " ++ quote (allowedOperators.headD "") ++
    (match allowedOperators with
      | [_, op] => " or " ++ quote op
      | _ :: ops@(_ :: _ :: _) =>
        String.join (ops.dropLast.map (", " ++ quote ·)) ++ ", or " ++ quote (ops.getLastD "")
      | _ => "") ++
    " followed by a value."

/-- The loop of `parse_column_key_value` over the allowed operators: `best` and
`best_len` become the index and length of an operator that is longer than the
best so far, begins `p` and leaves at least one character of it. -/
def bestOperator (p : List Char) : List String → ℕ → ℤ × ℕ → ℤ × ℕ
  | [], _, best => best
  | op :: ops, i, best =>
    if best.2 < op.length ∧ op.toList <+: p ∧ op.length < p.length then
      bestOperator p ops (i + 1) (i, op.length)
    else bestOperator p ops (i + 1) best

/-- The column block of `parse_column_key_value`: a non-empty token that
`get_column` resolves. -/
def parseColumnName (L : Lib) (arg : String) (table : CtlTableClass) :
    Except String (Column × List Char) := do
  let (columnName, p) ← L.tokenParse arg.toList
  let column ← if columnName = "" then .error (arg ++ ": missing column name")
    else getColumn table columnName
  pure (column, p)

/-- The key block of `parse_column_key_value`: `:` and a key token, or nothing. -/
def parseKey (L : Lib) : List Char → Except String (Option String × List Char)
  | ':' :: p => (L.tokenParse p).map fun (key, p) => (some key, p)
  | p => .ok (none, p)

/-- The value block of `parse_column_key_value` when `valuep` is nonnull: the best
operator, which must exist, and the value after it. -/
def parseValue (arg : String) (allowedOperators : Option (List String)) (p : List Char) :
    Except String (ℕ × String) :=
  let ops := allowedOperators.getD ["="]
  let (best, bestLen) := bestOperator p ops 0 (-1, 0)
  if best < 0 then .error (missingOperatorError arg ops)
  else .ok (best.toNat, String.mk (p.drop bestLen))

/-- The end of `parse_column_key_value` when `valuep` is null: nothing may follow. -/
def checkTrailing (arg : String) (p : List Char) : Except String Unit :=
  if p ≠ [] then .error (arg ++ ": trailing garbage \"" ++ String.mk p ++ "\" in argument")
  else .ok ()

/-- The parse of `parse_column_key_value` up to its `error:` label: the column,
the key, and (when `valuep`) the operator index and the value. -/
def parseColumnKeyValueAux (L : Lib) (arg : String) (table : CtlTableClass)
    (allowedOperators : Option (List String)) (valuep : Bool) :
    Except String (Column × Option String × Option (ℕ × String)) := do
  let (column, p) ← parseColumnName L arg table
  let (key, p) ← parseKey L p
  if valuep then
    let v ← parseValue arg allowedOperators p
    pure (column, key, some v)
  else
    checkTrailing arg p
    pure (column, key, none)

/-- `parse_column_key_value`: the error message, if any, and the output arguments
as it leaves them. `valuep` and `operatorp` say whether those pointers are
nonnull; on failure every output is cleared at the `error:` label. -/
def parseColumnKeyValue (L : Lib) (arg : String) (table : CtlTableClass)
    (allowedOperators : Option (List String)) (valuep operatorp : Bool) (outs : ColumnKeyValue) :
    Option String × ColumnKeyValue :=
  match parseColumnKeyValueAux L arg table allowedOperators valuep with
  | .ok (column, key, v) =>
    (none, { column := some column, key := key,
             operator := if operatorp then ((v.map (·.1)).getD 0 : ℤ) else outs.operator,
             value := if valuep then v.map (·.2) else outs.value })
  | .error e =>
    (some e, { column := none, key := none,
               operator := if operatorp then -1 else outs.operator,
               value := if valuep then none else outs.value })

/-! ### The operator loop -/

/-- `op` begins `p` and leaves at least one character of it. -/
def OperatorFits (p : List Char) (op : String) : Prop := op.toList <+: p ∧ op.length < p.length

/-- `op`, at index `i` of `ops`, is the longest operator of `ops` that fits `p`, and
the first of that length. -/
def IsBestOperator (ops : List String) (p : List Char) (i : ℕ) (op : String) : Prop :=
  ops[i]? = some op ∧ OperatorFits p op ∧
    (∀ op' ∈ ops, OperatorFits p op' → op'.length ≤ op.length) ∧
    (∀ j < i, ∀ op', ops[j]? = some op' → OperatorFits p op' → op'.length < op.length)

lemma bestOperator_spec (p : List Char) : ∀ (ops : List String) (i₀ : ℕ) (best : ℤ × ℕ),
    (bestOperator p ops i₀ best = best ∧ ∀ op ∈ ops, OperatorFits p op → op.length ≤ best.2) ∨
    ∃ j op, ops[j]? = some op ∧ OperatorFits p op ∧ best.2 < op.length ∧
      bestOperator p ops i₀ best = (((i₀ + j : ℕ) : ℤ), op.length) ∧
      (∀ op' ∈ ops, OperatorFits p op' → op'.length ≤ op.length) ∧
      (∀ j' < j, ∀ op', ops[j']? = some op' → OperatorFits p op' →
        op'.length < op.length ∨ op'.length ≤ best.2)
  | [], _, _ => .inl ⟨rfl, by simp⟩
  | op :: ops, i₀, best => by
    unfold bestOperator
    split_ifs with hc
    · obtain ⟨hlt, hfit⟩ : best.2 < op.length ∧ OperatorFits p op := ⟨hc.1, hc.2⟩
      rcases bestOperator_spec p ops (i₀ + 1) (i₀, op.length) with ⟨hr, hall⟩ | ⟨j, op', hj, hfit', hlt', hr, hall, hearly⟩
      · exact .inr ⟨0, op, by simp, hfit, hlt, by simpa using hr,
          List.forall_mem_cons.2 ⟨fun _ => le_rfl, hall⟩, by simp⟩
      · refine .inr ⟨j + 1, op', by simpa using hj, hfit', hlt.trans hlt', ?_, ?_, ?_⟩
        · rw [hr]; congr 2; omega
        · exact List.forall_mem_cons.2 ⟨fun _ => hlt'.le, hall⟩
        · intro j' hj' op'' hop'' hfit''
          rcases j' with _ | j'
          · simp only [List.getElem?_cons_zero, Option.some.injEq] at hop''
            subst hop''
            exact .inl hlt'
          · rcases hearly j' (by omega) op'' (by simpa using hop'') hfit'' with h | h
            · exact .inl h
            · exact .inl (lt_of_le_of_lt h hlt')
    · have hop : OperatorFits p op → op.length ≤ best.2 := fun hfit => by
        by_contra h
        exact hc ⟨not_le.1 h, hfit⟩
      rcases bestOperator_spec p ops (i₀ + 1) best with ⟨hr, hall⟩ | ⟨j, op', hj, hfit', hlt', hr, hall, hearly⟩
      · exact .inl ⟨hr, List.forall_mem_cons.2 ⟨hop, hall⟩⟩
      · refine .inr ⟨j + 1, op', by simpa using hj, hfit', hlt', ?_, ?_, ?_⟩
        · rw [hr]; congr 2; omega
        · exact List.forall_mem_cons.2 ⟨fun h => (hop h).trans hlt'.le, hall⟩
        · intro j' hj' op'' hop'' hfit''
          rcases j' with _ | j'
          · simp only [List.getElem?_cons_zero, Option.some.injEq] at hop''
            subst hop''
            exact .inr (hop hfit'')
          · exact hearly j' (by omega) op'' (by simpa using hop'') hfit''

/-- From `best = -1` and `best_len = 0`, and with no empty operator, the loop either
finds no operator that fits, leaving `best` negative, or ends on the best one. -/
lemma bestOperator_start {p : List Char} {ops : List String} (hops : ∀ op ∈ ops, op ≠ "") :
    ((bestOperator p ops 0 (-1, 0)).1 < 0 ∧ ∀ op ∈ ops, ¬OperatorFits p op) ∨
    ∃ i op, IsBestOperator ops p i op ∧ bestOperator p ops 0 (-1, 0) = ((i : ℤ), op.length) := by
  have hpos : ∀ op ∈ ops, 0 < op.length := fun op hop => by
    rcases op with ⟨_ | ⟨c, l⟩⟩
    · exact absurd rfl (hops _ hop)
    · simp [String.length]
  rcases bestOperator_spec p ops 0 (-1, 0) with ⟨hr, hall⟩ | ⟨j, op, hj, hfit, -, hr, hall, hearly⟩
  · exact .inl ⟨by simp [hr], fun op hop hfit => by have := hall op hop hfit; have := hpos op hop; omega⟩
  · refine .inr ⟨j, op, ⟨hj, hfit, hall, fun j' hj' op' hop' hfit' => ?_⟩, by simpa using hr⟩
    have := hpos op' (List.getElem?_mem hop')
    rcases hearly j' hj' op' hop' hfit' with h | h
    · exact h
    · simp at h; omega

/-! ### The parse -/

/-- What a successful parse reads from `arg`, stated without the parser's control flow:
the lexer yields a non-empty column token that `get_column` resolves in `table`, then either `:`
and a key token or no `:`, leaving the remainder `p`. -/
def ParsesColumnKey (L : Lib) (arg : String) (table : CtlTableClass) (column : Column)
    (key : Option String) (p : List Char) : Prop :=
  ∃ columnName rest, L.tokenParse arg.toList = .ok (columnName, rest) ∧ columnName ≠ "" ∧
    getColumn table columnName = .ok column ∧
    ((∃ r k, rest = ':' :: r ∧ L.tokenParse r = .ok (k, p) ∧ key = some k) ∨
      (rest.head? ≠ some ':' ∧ key = none ∧ p = rest))

lemma parseColumnName_eq_ok {L : Lib} {arg : String} {table : CtlTableClass} {column : Column}
    {p : List Char} :
    parseColumnName L arg table = .ok (column, p) ↔ ∃ columnName, L.tokenParse arg.toList =
      .ok (columnName, p) ∧ columnName ≠ "" ∧ getColumn table columnName = .ok column := by
  unfold parseColumnName
  rcases hlex : L.tokenParse arg.toList with e | ⟨columnName, p'⟩
  · simp
  · by_cases hne : columnName = ""
    · simp [hne]
    · rcases hcol : getColumn table columnName with e | column'
      · simp [hne, hcol]
      · simp only [hne, hcol, if_false, except_ok_bind, except_pure_eq, Except.ok.injEq,
          Prod.mk.injEq]
        constructor
        · rintro ⟨rfl, rfl⟩; exact ⟨columnName, ⟨rfl, rfl⟩, hne, hcol⟩
        · rintro ⟨_, ⟨rfl, rfl⟩, -, h'⟩
          rw [hcol] at h'
          cases h'
          exact ⟨rfl, rfl⟩

lemma parseKey_eq_ok {L : Lib} {rest p : List Char} {key : Option String} :
    parseKey L rest = .ok (key, p) ↔
      (∃ r k, rest = ':' :: r ∧ L.tokenParse r = .ok (k, p) ∧ key = some k) ∨
        (rest.head? ≠ some ':' ∧ key = none ∧ p = rest) := by
  unfold parseKey
  split
  · rename_i r
    rcases h : L.tokenParse r with e | ⟨k, p'⟩
    · simp [h, Except.map]
    · simp only [h, Except.map, Except.ok.injEq, Prod.mk.injEq]
      constructor
      · rintro ⟨rfl, rfl⟩; exact .inl ⟨r, k, rfl, h, rfl⟩
      · rintro (⟨_, _, h', h'', rfl⟩ | ⟨h', -⟩)
        · cases h'; rw [h] at h''; cases h''; exact ⟨rfl, rfl⟩
        · exact absurd rfl h'
  · rename_i hrest
    have hhead : rest.head? ≠ some ':' := by
      cases rest with
      | nil => simp
      | cons c r => rintro ⟨⟩; exact hrest r rfl
    constructor
    · intro h; cases h; exact .inr ⟨hhead, rfl, rfl⟩
    · rintro (⟨r, k, rfl, -⟩ | ⟨-, rfl, rfl⟩)
      · exact absurd rfl (hrest r)
      · rfl

lemma checkTrailing_eq_ok {arg : String} {p : List Char} : checkTrailing arg p = .ok () ↔ p = [] := by
  unfold checkTrailing; split_ifs with h <;> simpa using h

/-- With no empty operator, the value block succeeds on the best operator that fits,
and only when one fits. -/
lemma parseValue_eq_ok {arg : String} {allowedOperators : Option (List String)} {p : List Char}
    (hops : ∀ op ∈ allowedOperators.getD ["="], op ≠ "") {i : ℕ} {v : String} :
    parseValue arg allowedOperators p = .ok (i, v) ↔
      ∃ op, IsBestOperator (allowedOperators.getD ["="]) p i op ∧ v = String.mk (p.drop op.length) := by
  unfold parseValue
  rcases bestOperator_start (p := p) hops with ⟨hneg, hnone⟩ | ⟨j, op, hbest, hr⟩
  · simp only [hneg, if_true]
    constructor
    · intro h; cases h
    · rintro ⟨op, h, -⟩
      exact absurd h.2.1 (hnone op (List.getElem?_mem h.1))
  · simp only [hr, Int.natCast_nonneg, not_lt.2, if_false, Int.toNat_natCast, Except.ok.injEq,
      Prod.mk.injEq]
    constructor
    · rintro ⟨rfl, rfl⟩; exact ⟨op, hbest, rfl⟩
    · rintro ⟨op', hbest', rfl⟩
      have hj : j = i := by
        by_contra hji
        rcases Nat.lt_or_gt_of_ne hji with h | h
        · have := hbest'.2.2.2 j h op hbest.1 hbest.2.1
          have := hbest.2.2.1 op' (List.getElem?_mem hbest'.1) hbest'.2.1
          omega
        · have := hbest.2.2.2 i h op' hbest'.1 hbest'.2.1
          have := hbest'.2.2.1 op (List.getElem?_mem hbest.1) hbest.2.1
          omega
      subst hj
      have hop : op = op' := Option.some.inj (hbest.1.symm.trans hbest'.1)
      subst hop
      exact ⟨rfl, rfl⟩

lemma parseColumnKeyValueAux_eq_ok {L : Lib} {arg : String} {table : CtlTableClass}
    {allowedOperators : Option (List String)} {valuep : Bool} {column : Column}
    {key : Option String} {v : Option (ℕ × String)} :
    parseColumnKeyValueAux L arg table allowedOperators valuep = .ok (column, key, v) ↔
      ∃ p, ParsesColumnKey L arg table column key p ∧
        if valuep then ∃ iv, parseValue arg allowedOperators p = .ok iv ∧ v = some iv
        else p = [] ∧ v = none := by
  have hpk : ∀ p, ParsesColumnKey L arg table column key p ↔
      ∃ rest, parseColumnName L arg table = .ok (column, rest) ∧ parseKey L rest = .ok (key, p) := by
    intro p
    simp only [ParsesColumnKey, parseColumnName_eq_ok, parseKey_eq_ok]
    constructor
    · rintro ⟨columnName, rest, h₁, h₂, h₃, h₄⟩; exact ⟨rest, ⟨columnName, h₁, h₂, h₃⟩, h₄⟩
    · rintro ⟨rest, ⟨columnName, h₁, h₂, h₃⟩, h₄⟩; exact ⟨columnName, rest, h₁, h₂, h₃, h₄⟩
  simp only [hpk, parseColumnKeyValueAux, except_bind_eq_ok]
  constructor
  · rintro ⟨⟨column', rest⟩, hcol, ⟨key', p⟩, hkey, hret⟩
    refine ⟨p, ?_⟩
    cases valuep
    · obtain ⟨⟨⟩, hu, hret⟩ := except_bind_eq_ok.1 (by simpa using hret)
      simp only [Except.ok.injEq, Prod.mk.injEq] at hret
      obtain ⟨rfl, rfl, rfl⟩ := hret
      exact ⟨⟨rest, hcol, hkey⟩, checkTrailing_eq_ok.1 hu, rfl⟩
    · obtain ⟨iv, hiv, hret⟩ := except_bind_eq_ok.1 (by simpa using hret)
      simp only [Except.ok.injEq, Prod.mk.injEq] at hret
      obtain ⟨rfl, rfl, rfl⟩ := hret
      exact ⟨⟨rest, hcol, hkey⟩, iv, hiv, rfl⟩
  · rintro ⟨p, ⟨rest, hcol, hkey⟩, hv⟩
    refine ⟨(column, rest), hcol, (key, p), hkey, ?_⟩
    cases valuep
    · obtain ⟨rfl, rfl⟩ := hv
      simp [checkTrailing]
    · obtain ⟨iv, hiv, rfl⟩ := hv
      simp [hiv]

lemma operatorFits_drop_ne {p : List Char} {op : String} (h : OperatorFits p op) :
    String.mk (p.drop op.length) ≠ "" := by
  intro he
  have hnil : p.drop op.length = [] := by simpa using congrArg String.data he
  exact absurd h.2 (not_lt.2 (List.drop_eq_nil_iff.1 hnil))

/-- On a column and key the lexer reads and the best operator that fits, the value
parse returns them with the value after the operator. -/
lemma parseColumnKeyValue_of_isBestOperator {L : Lib} {arg : String} {table : CtlTableClass}
    {allowedOperators : Option (List String)} {operatorp : Bool} {outs : ColumnKeyValue}
    (hops : ∀ op ∈ allowedOperators.getD ["="], op ≠ "") {column : Column} {key : Option String}
    {p : List Char} {i : ℕ} {op : String} (hpk : ParsesColumnKey L arg table column key p)
    (hbest : IsBestOperator (allowedOperators.getD ["="]) p i op) :
    parseColumnKeyValue L arg table allowedOperators true operatorp outs =
      (none, { column := some column, key := key, operator := if operatorp then (i : ℤ) else outs.operator,
               value := some (String.mk (p.drop op.length)) }) := by
  have haux : parseColumnKeyValueAux L arg table allowedOperators true =
      .ok (column, key, some (i, String.mk (p.drop op.length))) :=
    parseColumnKeyValueAux_eq_ok.2 ⟨p, hpk, _, (parseValue_eq_ok hops).2 ⟨op, hbest, rfl⟩, rfl⟩
  simp [parseColumnKeyValue, haux]

/-- `parse_column_key_value` succeeds exactly when the lexer reads a non-empty
column token that `get_column` resolves, optionally `:` and a key, and leaves a
remainder that is empty (no `valuep`) or that an allowed operator fits (with
`valuep`). It then returns the longest fitting operator, the first of its length,
and the non-empty value after it; on every failure it clears every output it was
given. So the `missing value` branches of its callers are never taken. -/
theorem parseColumnKeyValue_spec (L : Lib) (arg : String) (table : CtlTableClass)
    (allowedOperators : Option (List String)) (valuep operatorp : Bool) (outs : ColumnKeyValue)
    (hops : ∀ op ∈ allowedOperators.getD ["="], op ≠ "") :
    ((parseColumnKeyValue L arg table allowedOperators valuep operatorp outs).1 = none ↔
      ∃ column key p, ParsesColumnKey L arg table column key p ∧
        if valuep then ∃ op ∈ allowedOperators.getD ["="], OperatorFits p op else p = []) ∧
    (∀ column key p, ParsesColumnKey L arg table column key p →
      (valuep = false → p = [] →
        (parseColumnKeyValue L arg table allowedOperators valuep operatorp outs).1 = none ∧
        (parseColumnKeyValue L arg table allowedOperators valuep operatorp outs).2.column = some column ∧
        (parseColumnKeyValue L arg table allowedOperators valuep operatorp outs).2.key = key ∧
        (parseColumnKeyValue L arg table allowedOperators valuep operatorp outs).2.value = outs.value) ∧
      (∀ i op, valuep = true → IsBestOperator (allowedOperators.getD ["="]) p i op →
        parseColumnKeyValue L arg table allowedOperators valuep operatorp outs =
          (none, {
            column := some column, key := key,
            operator := if operatorp then (i : ℤ) else outs.operator,
            value := some (String.mk (p.drop op.length)) }) ∧ String.mk (p.drop op.length) ≠ "")) ∧
    ((parseColumnKeyValue L arg table allowedOperators valuep operatorp outs).1 ≠ none →
      (parseColumnKeyValue L arg table allowedOperators valuep operatorp outs).2 = {
        column := none, key := none, operator := if operatorp then -1 else outs.operator,
        value := if valuep then none else outs.value }) ∧
    ((parseColumnKeyValue L arg table allowedOperators valuep operatorp outs).1 = none →
      valuep = true → ∃ v,
        (parseColumnKeyValue L arg table allowedOperators valuep operatorp outs).2.value = some v ∧
          v ≠ "") := by
  refine ⟨⟨fun h => ?_, fun ⟨column, key, p, hpk, hv⟩ => ?_⟩, fun column key p hpk => ⟨fun hv hp => ?_,
    fun i op hv hbest => ?_⟩, fun h => ?_, fun h hv => ?_⟩
  · unfold parseColumnKeyValue at h
    split at h
    · rename_i column key v haux
      obtain ⟨p, hpk, hv⟩ := parseColumnKeyValueAux_eq_ok.1 haux
      refine ⟨column, key, p, hpk, ?_⟩
      cases valuep
      · exact hv.1
      · obtain ⟨⟨i, w⟩, hiv, -⟩ := hv
        obtain ⟨op, hbest, -⟩ := (parseValue_eq_ok hops).1 hiv
        exact ⟨op, List.getElem?_mem hbest.1, hbest.2.1⟩
    · cases h
  · cases valuep
    · have haux : parseColumnKeyValueAux L arg table allowedOperators false = .ok (column, key, none) :=
        parseColumnKeyValueAux_eq_ok.2 ⟨p, hpk, by simpa using hv⟩
      simp [parseColumnKeyValue, haux]
    · obtain ⟨op, hop, hfit⟩ := by simpa using hv
      rcases bestOperator_start (p := p) hops with ⟨-, hnone⟩ | ⟨i, op', hbest, -⟩
      · exact absurd hfit (hnone op hop)
      · rw [parseColumnKeyValue_of_isBestOperator hops hpk hbest]
  · subst hv hp
    have haux : parseColumnKeyValueAux L arg table allowedOperators false = .ok (column, key, none) :=
      parseColumnKeyValueAux_eq_ok.2 ⟨[], hpk, rfl, rfl⟩
    simp [parseColumnKeyValue, haux]
  · subst hv
    exact ⟨parseColumnKeyValue_of_isBestOperator hops hpk hbest, operatorFits_drop_ne hbest.2.1⟩
  · rcases haux : parseColumnKeyValueAux L arg table allowedOperators valuep with e | ⟨column, key, v⟩
      <;> simp [parseColumnKeyValue, haux] at h ⊢
  · subst hv
    rcases haux : parseColumnKeyValueAux L arg table allowedOperators true with e | ⟨column, key, v⟩
    · simp [parseColumnKeyValue, haux] at h
    · obtain ⟨p, -, ⟨i, w⟩, hiv, rfl⟩ := parseColumnKeyValueAux_eq_ok.1 haux
      obtain ⟨op, hbest, rfl⟩ := (parseValue_eq_ok hops).1 hiv
      simp only [parseColumnKeyValue, haux, if_true, Option.map_some']
      exact ⟨_, rfl, operatorFits_drop_ne hbest.2.1⟩

theorem parseColumnKeyValue_spec_simpleLib :
    (∀ op ∈ (none : Option (List String)).getD ["="], op ≠ "") ∧
      ((parseColumnKeyValue simpleLib "C=1" mapCtlTable none true true ⟨none, none, 0, none⟩).1 = none →
        true = true → ∃ v,
          (parseColumnKeyValue simpleLib "C=1" mapCtlTable none true true ⟨none, none, 0, none⟩).2.value =
            some v ∧ v ≠ "") ∧
      parseColumnKeyValue simpleLib "C:a>=1" mapCtlTable (some ["=", "!=", "<", ">", "<=", ">="]) true true
          ⟨none, none, 0, none⟩ =
        (none, { column := some mapColumn, key := some "a", operator := 5, value := some "1" }) ∧ "1" ≠ "" := by
  have hbest : IsBestOperator ["=", "!=", "<", ">", "<=", ">="] ">=1".toList 5 ">=" := by
    refine ⟨rfl, by unfold OperatorFits; decide, by unfold OperatorFits; decide, fun j hj op' hop' => ?_⟩
    unfold OperatorFits
    rcases j with _ | _ | _ | _ | _ | j
    all_goals first | omega | (obtain rfl := Option.some.inj hop'; decide)
  exact ⟨by decide, (parseColumnKeyValue_spec simpleLib "C=1" mapCtlTable none true true ⟨none, none, 0, none⟩
    (by decide)).2.2.2, ((parseColumnKeyValue_spec simpleLib "C:a>=1" mapCtlTable
      (some ["=", "!=", "<", ">", "<=", ">="]) true true ⟨none, none, 0, none⟩ (by decide)).2.1 mapColumn (some "a")
      ">=1".toList ⟨"C", ":a>=1".toList, rfl, by decide, rfl, .inl ⟨"a>=1".toList, "a", rfl, rfl, rfl⟩⟩).2
      5 ">=" rfl hbest⟩

end DbCtlBase
