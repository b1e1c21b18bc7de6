import DbCtlBase.Schema
import Mathlib.Data.List.Infix
import Mathlib.Data.List.Perm.Basic

/-!
Fuzzy matching of table and column names (`score_partial_match`, `get_column`,
`get_table`).

* `scorePartialMatch_eq`: the score is `UINT_MAX` for the same name, `UINT_MAX - 1`
  for the same name up to case and `-`/`_`, the length of the query when it is a
  prefix of the name in that sense, and 0 otherwise.
* `bestMatch_eq`: the loop of `get_column` and `get_table` ends on the highest
  score, and on a candidate exactly when one candidate alone reaches it: a tie is
  remembered until a strictly higher score replaces it.
* `getColumn_getTable_firstTier`: both lookups return the only member of the first
  non-empty tier of exact, normalised and prefix matches, report ambiguity when
  that tier has more members, and report no match when all tiers are empty, so
  the order of the candidates does not matter.
-/

namespace DbCtlBase

/-- `to_lower_and_underscores`. -/
def toLowerAndUnderscores (c : Char) : Char := if c = '-' then '_' else c.toLower

/-- A name as `score_partial_match` compares it: lower case, `-` read as `_`. -/
def normName (s : String) : List Char := s.toList.map toLowerAndUnderscores

/-- The loop of `score_partial_match`: `name` and `s` advance together while their
characters agree up to case and `-`/`_`. C strings hold no NUL, so a list ends
where its C string does. -/
def scoreLoop : List Char → List Char → ℕ → ℕ
  | [], [], _ => uintMax - 1
  | c :: name, d :: s, score =>
    if toLowerAndUnderscores c = toLowerAndUnderscores d then scoreLoop name s (score + 1) else 0
  | _ :: _, [], score => score
  | [], _ :: _, _ => 0

/-- `score_partial_match`. -/
def scorePartialMatch (name s : String) : ℕ :=
  if name = s then uintMax else scoreLoop name.toList s.toList 0

/-- One round of the loop in `get_column` and `get_table`: a strictly higher score
takes over, an equal one makes the best match ambiguous. -/
def bestMatchStep {α : Type} (score : α → ℕ) (best : Option α × ℕ) (x : α) : Option α × ℕ :=
  if score x > best.2 then (some x, score x)
  else if score x = best.2 then (none, best.2)
  else best

/-- `best_match` and `best_score` after the loop of `get_column` and `get_table`. -/
def bestMatch {α : Type} (score : α → ℕ) (xs : List α) : Option α × ℕ :=
  xs.foldl (bestMatchStep score) (none, 0)

/-- The tail shared by `get_column` and `get_table`: the best match if there is
one, otherwise an error saying whether several candidates tied or none matched. -/
def bestMatchLookup {α : Type} (score : α → ℕ) (cands : List α) (ambiguous noMatch : String) :
    Except String α :=
  match (bestMatch score cands).1 with
  | some best => .ok best
  | none => if (bestMatch score cands).2 ≠ 0 then .error ambiguous else .error noMatch

/-- The error of `get_column` when several columns match. -/
def moreThanOneColumnError (table : CtlTableClass) (columnName : String) : String :=
  table.cls.name ++ " contains more than one column whose name matches \"" ++ columnName ++ "\""

/-- The error of `get_column` when no column matches. -/
def noColumnError (table : CtlTableClass) (columnName : String) : String :=
  table.cls.name ++ " does not contain a column whose name matches \"" ++ columnName ++ "\""

/-- `get_column`. -/
def getColumn (table : CtlTableClass) (columnName : String) : Except String Column :=
  bestMatchLookup (fun c => scorePartialMatch c.name columnName) table.cls.columns
    (moreThanOneColumnError table columnName) (noColumnError table columnName)

/-- The fatal error of `get_table` when several tables match. -/
def multipleTablesError (tableName : String) : String :=
  "multiple table names match \"" ++ tableName ++ "\""

/-- The fatal error of `get_table` when no table matches. -/
def unknownTableError (tableName : String) : String :=
  "unknown table \"" ++ tableName ++ "\""

/-- `get_table`, over the `tables` array given to `ctl_init`; its errors are
fatal. -/
def getTable (tables : List CtlTableClass) (tableName : String) : Except String CtlTableClass :=
  bestMatchLookup (fun t => scorePartialMatch t.cls.name tableName) tables
    (multipleTablesError tableName) (unknownTableError tableName)

/-! ### The score -/

lemma scoreLoop_eq (name s : List Char) (k : ℕ) :
    scoreLoop name s k =
      if name.map toLowerAndUnderscores = s.map toLowerAndUnderscores then uintMax - 1
      else if s.map toLowerAndUnderscores <+: name.map toLowerAndUnderscores then k + s.length
      else 0 := by
  induction name, s, k using scoreLoop.induct with
  | case1 => simp [scoreLoop]
  | case2 c name d s k hcd ih =>
    have hk : k + 1 + s.length = k + (s.length + 1) := by omega
    simp [scoreLoop, hcd, ih, List.cons_prefix_cons, hk]
  | case3 c name d s k hcd => simp [scoreLoop, hcd, Ne.symm hcd, List.cons_prefix_cons]
  | case4 => simp [scoreLoop]
  | case5 => simp [scoreLoop]

lemma scorePartialMatch_eq (name q : String) :
    scorePartialMatch name q =
      if name = q then uintMax
      else if normName name = normName q then uintMax - 1
      else if normName q <+: normName name then q.length
      else 0 := by
  have hl : q.data.length = q.length := by cases q; rfl
  simp [scorePartialMatch, scoreLoop_eq, normName, hl]

/-! ### The best match -/

section BestMatch

variable {α : Type} (score : α → ℕ)

/-- The highest score among `xs`, 0 for none. -/
def topScore (xs : List α) : ℕ := xs.foldl (fun m x => max m (score x)) 0

/-- The candidates that reach the highest score. -/
def topScorers (xs : List α) : List α := xs.filter (score · = topScore score xs)

/-- The only element of a one-element list. -/
def theOnly : List α → Option α
  | [x] => some x
  | _ => none

private lemma foldl_max_ge (xs : List α) (b : ℕ) :
    b ≤ xs.foldl (fun m x => max m (score x)) b ∧
      ∀ x ∈ xs, score x ≤ xs.foldl (fun m x => max m (score x)) b := by
  induction xs generalizing b with
  | nil => simp
  | cons y ys ih =>
    obtain ⟨h₁, h₂⟩ := ih (max b (score y))
    refine ⟨le_of_max_le_left h₁, ?_⟩
    simpa [List.foldl_cons] using ⟨le_of_max_le_right h₁, h₂⟩

private lemma foldl_max_mem (xs : List α) (b : ℕ) :
    xs.foldl (fun m x => max m (score x)) b = b ∨
      ∃ x ∈ xs, score x = xs.foldl (fun m x => max m (score x)) b := by
  induction xs generalizing b with
  | nil => simp
  | cons y ys ih =>
    rcases ih (max b (score y)) with h | ⟨x, hx, h⟩
    · simp only [List.foldl_cons, h]
      rcases max_choice b (score y) with h' | h'
      · exact .inl h'
      · exact .inr ⟨y, List.mem_cons_self _ _, h'.symm⟩
    · exact .inr ⟨x, List.mem_cons_of_mem _ hx, h⟩

lemma le_topScore {xs : List α} {x : α} (hx : x ∈ xs) : score x ≤ topScore score xs :=
  (foldl_max_ge score xs 0).2 x hx

lemma exists_eq_topScore {xs : List α} (h : 0 < topScore score xs) :
    ∃ x ∈ xs, score x = topScore score xs :=
  (foldl_max_mem score xs 0).resolve_left h.ne'

lemma topScore_eq {xs : List α} {m : ℕ} (hle : ∀ x ∈ xs, score x ≤ m)
    (hex : ∃ x ∈ xs, score x = m) : topScore score xs = m := by
  obtain ⟨x, hx, rfl⟩ := hex
  refine le_antisymm ?_ (le_topScore score hx)
  rcases foldl_max_mem score xs 0 with h | ⟨y, hy, h⟩
  · exact h.trans_le (Nat.zero_le _)
  · show xs.foldl _ 0 ≤ _
    rw [← h]
    exact hle y hy

lemma topScore_append_singleton (xs : List α) (x : α) :
    topScore score (xs ++ [x]) = max (topScore score xs) (score x) := by
  simp [topScore, List.foldl_append]

/-- What the loop of `get_column` has computed after the candidates `p`. -/
def bestSummary (p : List α) : Option α × ℕ :=
  (if 0 < topScore score p then theOnly (topScorers score p) else none, topScore score p)

lemma bestMatchStep_bestSummary (p : List α) (x : α) :
    bestMatchStep score (bestSummary score p) x = bestSummary score (p ++ [x]) := by
  have htop := topScore_append_singleton score p x
  simp only [bestMatchStep, bestSummary, topScorers, htop]
  rcases lt_trichotomy (topScore score p) (score x) with hlt | heq | hgt
  · have hnone : p.filter (score · = score x) = [] :=
      List.filter_eq_nil_iff.2 fun y hy => by simpa using (le_topScore score hy).trans_lt hlt |>.ne
    simp [hlt, max_eq_right hlt.le, List.filter_append, hnone, theOnly, hlt.trans_le' (Nat.zero_le _)]
  · simp only [heq, max_self, lt_irrefl, if_false, if_true, gt_iff_lt]
    split_ifs with hpos
    · obtain ⟨y, hy, hys⟩ := exists_eq_topScore score (heq ▸ hpos : 0 < topScore score p)
      have hne : p.filter (score · = score x) ≠ [] :=
        List.ne_nil_of_mem (List.mem_filter.2 ⟨hy, by simp [hys, heq]⟩)
      rw [List.filter_append]
      obtain ⟨a, as, has⟩ := List.exists_cons_of_ne_nil hne
      simp [has, theOnly]
    · rfl
  · simp [max_eq_left hgt.le, List.filter_append, hgt.ne, not_lt.2 hgt.le]

lemma foldl_bestMatchStep (p xs : List α) :
    xs.foldl (bestMatchStep score) (bestSummary score p) = bestSummary score (p ++ xs) := by
  induction xs generalizing p with
  | nil => simp
  | cons x xs ih =>
    rw [List.foldl_cons, bestMatchStep_bestSummary, ih, List.append_assoc, List.singleton_append]

/-- The loop of `get_column` and `get_table` ends on the highest score, and on a
candidate exactly when that candidate alone reaches it. -/
lemma bestMatch_eq (xs : List α) :
    bestMatch score xs =
      (if 0 < topScore score xs then theOnly (topScorers score xs) else none, topScore score xs) := by
  have h := foldl_bestMatchStep score [] xs
  simpa [bestSummary, topScore, topScorers, theOnly] using h

lemma topScore_eq_zero {xs : List α} (h : ∀ x ∈ xs, score x = 0) : topScore score xs = 0 := by
  by_contra hne
  obtain ⟨x, hx, hxs⟩ := exists_eq_topScore score (Nat.pos_of_ne_zero hne)
  exact hne (hxs ▸ h x hx)

/-- A non-empty tier of candidates that all reach the score `m > 0`, which no candidate
exceeds, is what the top scorers are. -/
lemma topScorers_of_tier {xs tier : List α} {m : ℕ} (hm : 0 < m) (hle : ∀ x ∈ xs, score x ≤ m)
    (htier : xs.filter (score · = m) = tier) (hne : tier ≠ []) :
    (0 < topScore score xs ↔ tier ≠ []) ∧ (0 < topScore score xs → topScorers score xs = tier) := by
  obtain ⟨x, hx⟩ := List.exists_mem_of_ne_nil _ hne
  obtain ⟨hxs, hxm⟩ := List.mem_filter.1 (htier ▸ hx)
  have htop := topScore_eq score hle ⟨x, hxs, of_decide_eq_true hxm⟩
  rw [topScorers, htop]
  exact ⟨iff_of_true hm hne, fun _ => htier⟩

/-- The lookup of `get_column` and `get_table` returns one of the candidates. -/
lemma mem_of_bestMatchLookup {cands : List α} {ambiguous noMatch : String} {x : α}
    (h : bestMatchLookup score cands ambiguous noMatch = .ok x) : x ∈ cands := by
  unfold bestMatchLookup at h
  split at h
  · next hbest =>
    cases h
    rw [bestMatch_eq] at hbest
    split_ifs at hbest
    unfold theOnly at hbest
    split at hbest
    · next hone =>
      cases hbest
      exact List.mem_of_mem_filter (hone ▸ List.mem_singleton_self x)
    · cases hbest
  · split_ifs at h

end BestMatch

/-- `get_table` returns one of the tables given to `ctl_init`. -/
lemma getTable_mem {tables : List CtlTableClass} {tableName : String} {table : CtlTableClass}
    (h : getTable tables tableName = .ok table) : table ∈ tables :=
  mem_of_bestMatchLookup _ h

/-! ### Tiers -/

/-- A lookup in one tier of candidates: its only member, the ambiguity message when it
has more, the no-match message when it is empty. `get_column` and `get_table` answer so
on their first non-empty tier (`getColumn_getTable_firstTier`). -/
def tierLookup {α : Type} (tier : List α) (ambiguous noMatch : String) : Except String α :=
  match tier with
  | [c] => .ok c
  | [] => .error noMatch
  | _ :: _ :: _ => .error ambiguous

lemma tierLookup_perm {α : Type} {T T' : List α} (h : T'.Perm T) (ambiguous noMatch : String) :
    tierLookup T' ambiguous noMatch = tierLookup T ambiguous noMatch := by
  have hl := h.length_eq
  rcases T with _ | ⟨c, _ | ⟨c', cs⟩⟩
  · simp [h.eq_nil]
  · simp [List.perm_singleton.1 h]
  · rcases T' with _ | ⟨d, _ | ⟨d', ds⟩⟩ <;> simp_all [tierLookup]

section Tiers

variable {α : Type} [DecidableEq α] (name : α → String) (cands : List α) (q : String)

/-- The candidates named exactly `q`. -/
def exactMatches : List α := cands.filter (name · = q)

/-- The candidates named `q` up to case and `-`/`_`. -/
def normMatches : List α := cands.filter fun c => normName (name c) = normName q

/-- The candidates whose name `q` is a non-empty proper prefix of, up to case and
`-`/`_`. -/
def prefixMatches : List α :=
  cands.filter fun c => normName q ≠ [] ∧ normName q <+: normName (name c) ∧ normName (name c) ≠ normName q

/-- The first non-empty tier among the exact, normalised and prefix matches. -/
def firstTier : List α :=
  if exactMatches name cands q ≠ [] then exactMatches name cands q
  else if normMatches name cands q ≠ [] then normMatches name cands q
  else prefixMatches name cands q

variable {name cands q}

private lemma normName_eq_nil {q : String} : normName q = [] ↔ q.length = 0 := by
  cases q; simp [normName, String.length]

/-- The highest score is reached exactly by the first non-empty tier, and is 0 when
every tier is empty. -/
lemma topScore_firstTier (hq : q.length < uintMax - 1) :
    (0 < topScore (fun c => scorePartialMatch (name c) q) cands ↔ firstTier name cands q ≠ []) ∧
      (0 < topScore (fun c => scorePartialMatch (name c) q) cands →
        topScorers (fun c => scorePartialMatch (name c) q) cands = firstTier name cands q) := by
  by_cases h₁ : exactMatches name cands q ≠ []
  · rw [firstTier, if_pos h₁]
    exact topScorers_of_tier _ (m := uintMax) (by unfold uintMax; omega)
      (fun c _ => by simp only [scorePartialMatch_eq]; split_ifs <;> omega)
      (List.filter_congr fun c _ => by simp only [scorePartialMatch_eq]; split_ifs <;> simp_all <;> omega) h₁
  have hne : ∀ c ∈ cands, name c ≠ q := fun c hc hcq =>
    h₁ (List.ne_nil_of_mem (List.mem_filter.2 ⟨hc, by simpa using hcq⟩))
  by_cases h₂ : normMatches name cands q ≠ []
  · rw [firstTier, if_neg h₁, if_pos h₂]
    exact topScorers_of_tier _ (m := uintMax - 1) (by unfold uintMax; omega)
      (fun c hc => by simp only [scorePartialMatch_eq, if_neg (hne c hc)]; split_ifs <;> omega)
      (List.filter_congr fun c hc => by
        simp only [scorePartialMatch_eq, if_neg (hne c hc)]; split_ifs <;> simp_all <;> omega) h₂
  have hnorm : ∀ c ∈ cands, normName (name c) ≠ normName q := fun c hc hcq =>
    h₂ (List.ne_nil_of_mem (List.mem_filter.2 ⟨hc, by simpa using hcq⟩))
  have hsc : ∀ c ∈ cands, scorePartialMatch (name c) q =
      if normName q <+: normName (name c) then q.length else 0 :=
    fun c hc => by simp only [scorePartialMatch_eq, if_neg (hne c hc), if_neg (hnorm c hc)]
  by_cases h₃ : prefixMatches name cands q ≠ []
  · obtain ⟨c₀, hc₀⟩ := List.exists_mem_of_ne_nil _ h₃
    have hq₀ : normName q ≠ [] := (of_decide_eq_true (List.mem_filter.1 hc₀).2).1
    have hpos : 0 < q.length := Nat.pos_of_ne_zero (mt normName_eq_nil.2 hq₀)
    rw [firstTier, if_neg h₁, if_neg h₂]
    exact topScorers_of_tier _ hpos (fun c hc => by simp only [hsc c hc]; split_ifs <;> omega)
      (List.filter_congr fun c hc => by simp only [hsc c hc]; split_ifs <;> simp_all [hpos.ne]) h₃
  · have hzero : topScore (fun c => scorePartialMatch (name c) q) cands = 0 :=
      topScore_eq_zero _ fun c hc => by
        simp only [hsc c hc]
        split_ifs with hpre
        · by_contra hl
          have hq0 : normName q ≠ [] := mt normName_eq_nil.1 hl
          exact h₃ (List.ne_nil_of_mem (List.mem_filter.2 ⟨hc, by simp [hq0, hpre, hnorm c hc]⟩))
        · rfl
    simp [firstTier, h₁, h₂, h₃, hzero]

/-- The shared tail of `get_column` and `get_table` returns what `tierLookup` says
of the first non-empty tier. -/
lemma bestMatchLookup_eq (hq : q.length < uintMax - 1) (ambiguous noMatch : String) :
    bestMatchLookup (fun c => scorePartialMatch (name c) q) cands ambiguous noMatch =
      tierLookup (firstTier name cands q) ambiguous noMatch := by
  obtain ⟨hpos, hscorers⟩ := @topScore_firstTier _ _ name cands _ hq
  unfold bestMatchLookup
  rw [bestMatch_eq]
  by_cases h : 0 < topScore (fun c => scorePartialMatch (name c) q) cands
  · have hT := hscorers h
    have hne := hpos.1 h
    simp only [h, if_true, hT]
    rcases hT' : firstTier name cands q with _ | ⟨c, _ | ⟨c', cs⟩⟩
    · exact absurd hT' hne
    · rfl
    · simp [theOnly, tierLookup, Nat.pos_iff_ne_zero.1 h]
  · have hT : firstTier name cands q = [] := by simpa using mt hpos.2 h
    simp [h, hT, tierLookup, Nat.eq_zero_of_not_pos h]

lemma firstTier_perm {cands' : List α} (h : cands'.Perm cands) :
    (firstTier name cands' q).Perm (firstTier name cands q) := by
  have iff_nil : ∀ {l l' : List α}, l'.Perm l → (l' = [] ↔ l = []) := fun h => by
    rw [← List.length_eq_zero, h.length_eq, List.length_eq_zero]
  have he : (exactMatches name cands' q).Perm (exactMatches name cands q) := h.filter _
  have hn : (normMatches name cands' q).Perm (normMatches name cands q) := h.filter _
  have hp : (prefixMatches name cands' q).Perm (prefixMatches name cands q) := h.filter _
  unfold firstTier
  by_cases h₁ : exactMatches name cands q = []
  · rw [if_neg (not_not.2 h₁), if_neg (not_not.2 ((iff_nil he).2 h₁))]
    by_cases h₂ : normMatches name cands q = []
    · rwa [if_neg (not_not.2 h₂), if_neg (not_not.2 ((iff_nil hn).2 h₂))]
    · rwa [if_pos h₂, if_pos (mt (iff_nil hn).1 h₂)]
  · rwa [if_pos h₁, if_pos (mt (iff_nil he).1 h₁)]

end Tiers

/-- `get_column` and `get_table` return the only member of the first non-empty tier
of exact, normalised and prefix matches, report ambiguity when that tier has more
members and no match when every tier is empty; so reordering the candidates
changes nothing. -/
theorem getColumn_getTable_firstTier (q : String) (hq : q.length < 2 ^ 31 - 1) :
    (∀ table : CtlTableClass, getColumn table q =
      tierLookup (firstTier Column.name table.cls.columns q)
        (moreThanOneColumnError table q) (noColumnError table q)) ∧
    (∀ tables : List CtlTableClass, getTable tables q =
      tierLookup (firstTier (fun t : CtlTableClass => t.cls.name) tables q)
        (multipleTablesError q) (unknownTableError q)) ∧
    (∀ (table : CtlTableClass) (columns : List Column), columns.Perm table.cls.columns →
      getColumn { table with cls.columns := columns } q = getColumn table q) ∧
    (∀ tables tables' : List CtlTableClass, tables'.Perm tables →
      getTable tables' q = getTable tables q) := by
  have hq' : q.length < uintMax - 1 := by unfold uintMax; omega
  have hcol : ∀ table : CtlTableClass, getColumn table q =
      tierLookup (firstTier Column.name table.cls.columns q)
        (moreThanOneColumnError table q) (noColumnError table q) := fun _ =>
    @bestMatchLookup_eq _ _ Column.name _ _ hq' _ _
  have htab : ∀ tables : List CtlTableClass, getTable tables q =
      tierLookup (firstTier (fun t : CtlTableClass => t.cls.name) tables q)
        (multipleTablesError q) (unknownTableError q) := fun _ =>
    @bestMatchLookup_eq _ _ (fun t : CtlTableClass => t.cls.name) _ _ hq' _ _
  refine ⟨hcol, htab, fun table columns h => ?_, fun tables tables' h => ?_⟩
  · rw [hcol, hcol]
    exact tierLookup_perm (firstTier_perm h) _ _
  · rw [htab, htab]
    exact tierLookup_perm (firstTier_perm h) _ _

theorem getColumn_getTable_firstTier_C :
    "C".length < 2 ^ 31 - 1 ∧ ∀ table : CtlTableClass, getColumn table "C" =
      tierLookup (firstTier Column.name table.cls.columns "C")
        (moreThanOneColumnError table "C") (noColumnError table "C") :=
  ⟨by decide, (getColumn_getTable_firstTier "C" (by decide)).1⟩

end DbCtlBase
