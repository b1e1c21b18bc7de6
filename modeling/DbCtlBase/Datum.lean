import Mathlib.Data.List.Sort
import Mathlib.Data.Prod.Lex
import Mathlib.Data.List.Lex
import Mathlib.Data.Char
import Mathlib.Data.Finset.Card

/-!
Atoms, types and datums of `ovsdb-data.h` as `db-ctl-base.c` uses them, and the
datum primitives its commands call (`ovsdb_datum_find_key`, `ovsdb_datum_union`,
`ovsdb_datum_subtract`, `ovsdb_datum_includes_all`, `ovsdb_datum_compare_3way`).
The primitives live in `ovsdb-data.c`, which is not part of this repository: they
are modelled from the spec, whose datums keep their keys sorted and unique.

* `Datum.WellFormed`: keys strictly increasing, and a value beside each key
  exactly when the type is a map.
* `mem_union`, `mem_subtract`: a union keeps every pair already there and adds the
  pairs whose key is new; a subtraction drops the pairs found in the other datum.
* `compare3way_eq_iff`, `eq_iff_mem`, `includesAll_iff`: on well-formed datums the
  three-way comparison says equal exactly for equal datums, which are the datums
  with the same elements, and `includes_all` is inclusion of elements.
* `mem_foldl_union`, `mem_foldl_subtract`, `foldl_subtract_foldl_union`: the pairs
  left by a run of unions or of subtractions, and subtracting what was united
  gives the datum back.
-/

namespace DbCtlBase

/-- UUIDs, as naturals: the code only copies and compares them. -/
abbrev Uuid := ℕ

/-- `union ovsdb_atom`: one value of an atomic type. Reals are left out. -/
inductive Atom where
  | integer (i : ℤ)
  | boolean (b : Bool)
  | string (s : String)
  | uuid (u : Uuid)
  deriving DecidableEq, Repr

namespace Atom

/-- The order datums are sorted in: by kind, then by value. The code only ever
compares atoms of one kind, so the order across kinds is immaterial. -/
def sortKey : Atom → ℕ ×ₗ List Char ×ₗ ℤ
  | integer i => toLex (0, toLex ([], i))
  | boolean b => toLex (1, toLex ([], if b then 1 else 0))
  | string s => toLex (2, toLex (s.toList, 0))
  | uuid u => toLex (3, toLex ([], (u : ℤ)))

lemma sortKey_injective : Function.Injective sortKey := by
  intro a b h
  cases a <;> cases b <;> simp [sortKey] at h ⊢ <;>
    first | exact String.ext h | exact_mod_cast h | (split_ifs at h <;> simp_all)

instance : LinearOrder Atom := LinearOrder.lift' sortKey sortKey_injective

end Atom

/-- `enum ovsdb_atomic_type`, without reals. -/
inductive AtomicType where
  | void | integer | boolean | string | uuid
  deriving DecidableEq, Repr

/-- `struct ovsdb_base_type`: an atomic type and, for a reference, the name of
the table it refers to. -/
structure BaseType where
  type : AtomicType
  refTableName : Option String := none
  deriving DecidableEq, Repr

/-- `struct ovsdb_type`: the key and value types and the bounds on the number of
elements. The value type is `void` except for a map. -/
structure OvsdbType where
  key : BaseType
  value : BaseType
  nMin : ℕ
  nMax : ℕ
  deriving DecidableEq, Repr

/-- `UINT_MAX`: the `n_max` of an unbounded type. -/
def uintMax : ℕ := 4294967295

/-- `ovsdb_type_is_map`. -/
def OvsdbType.isMap (t : OvsdbType) : Bool := t.value.type != .void

/-- `struct ovsdb_datum`: its keys in order, each with its value when the datum
is a map. -/
structure Datum where
  entries : List (Atom × Option Atom)
  deriving DecidableEq, Repr

namespace Datum

/-- The element count `n`. -/
def n (d : Datum) : ℕ := d.entries.length

/-- The `keys` array. -/
def keys (d : Datum) : List Atom := d.entries.map (·.1)

/-- The `values` array, empty for a set. -/
def values (d : Datum) : List Atom := d.entries.filterMap (·.2)

/-- `ovsdb_datum_init_empty`. -/
def empty : Datum := ⟨[]⟩

/-- A datum as the `ovsdb_datum_*` primitives keep it for type `t`: keys strictly
increasing, and a value beside each key exactly when `t` is a map. -/
structure WellFormed (t : OvsdbType) (d : Datum) : Prop where
  sorted : d.entries.Sorted (fun e f => e.1 < f.1)
  value_isSome : ∀ e ∈ d.entries, e.2.isSome = t.isMap

/-- `ovsdb_datum_find_key`: the pair whose key is `key`. -/
def findKey (d : Datum) (key : Atom) : Option (Atom × Option Atom) :=
  d.entries.find? (·.1 == key)

/-- `ovsdb_datum_find`: whether the pair `e` is in `b`, its value compared only
when `bType` is a map. -/
def find (e : Atom × Option Atom) (b : Datum) (bType : OvsdbType) : Bool :=
  match b.findKey e.1 with
  | some f => !bType.isMap || f.2 == e.2
  | none => false

/-- `ovsdb_datum_includes_all`: every element of `a` is in `b`. -/
def includesAll (a b : Datum) (t : OvsdbType) : Bool :=
  decide (a.n ≤ b.n) && a.entries.all (find · b t)

/-- `ovsdb_datum_sort`: the pairs ordered by key. -/
def sortEntries (es : List (Atom × Option Atom)) : List (Atom × Option Atom) :=
  es.insertionSort (fun e f => e.1 ≤ f.1)

/-- `ovsdb_datum_union` with `replace` false, the only way `db-ctl-base.c`
calls it: the pairs of `b` whose key is not in `a` are appended, then the result
is sorted. A pair whose key `a` already has is dropped, so `a`'s value stays. -/
def union (a b : Datum) : Datum :=
  let added := b.entries.filter fun f => (a.findKey f.1).isNone
  if added = [] then a else ⟨sortEntries (a.entries ++ added)⟩

/-- `ovsdb_datum_subtract`: the pairs of `a` found in `b` are removed. -/
def subtract (a b : Datum) (bType : OvsdbType) : Datum :=
  let kept := a.entries.filter fun e => !find e b bType
  if kept.length = a.n then a else ⟨sortEntries kept⟩

/-- `atom_arrays_compare_3way`: the first differing atom decides. -/
def atomArraysCompare3way : List Atom → List Atom → Ordering
  | a :: as, b :: bs => (compare a b).then (atomArraysCompare3way as bs)
  | _, _ => .eq

/-- `ovsdb_datum_compare_3way`: by size, then keys, then (for a map) values. -/
def compare3way (a b : Datum) (t : OvsdbType) : Ordering :=
  if a.n ≠ b.n then compare a.n b.n
  else (atomArraysCompare3way a.keys b.keys).then
    (if t.isMap then atomArraysCompare3way a.values b.values else .eq)

/-! ### Lookup -/

/-- Keys strictly increasing: the order `ovsdb_datum_sort` leaves a datum in. -/
abbrev KeySorted (es : List (Atom × Option Atom)) : Prop := es.Sorted (fun e f => e.1 < f.1)

lemma KeySorted.nodup {es : List (Atom × Option Atom)} (h : KeySorted es) : es.Nodup :=
  h.imp fun h => ne_of_apply_ne Prod.fst h.ne

lemma KeySorted.keys_nodup {es : List (Atom × Option Atom)} (h : KeySorted es) :
    (es.map (·.1)).Nodup :=
  List.pairwise_map.2 (h.imp fun h => h.ne)

lemma findKey_eq_none {d : Datum} {k : Atom} :
    d.findKey k = none ↔ ∀ e ∈ d.entries, e.1 ≠ k := by
  simp [findKey, List.find?_eq_none]

lemma findKey_eq_some {d : Datum} {k : Atom} {f : Atom × Option Atom}
    (h : d.findKey k = some f) : f ∈ d.entries ∧ f.1 = k :=
  ⟨List.mem_of_find?_eq_some h, by simpa using List.find?_some h⟩

private lemma find?_key_of_mem :
    ∀ {l : List (Atom × Option Atom)} {e}, KeySorted l → e ∈ l → l.find? (·.1 == e.1) = some e
  | x :: xs, e, hs, he => by
    rw [KeySorted, List.sorted_cons] at hs
    rcases List.mem_cons.1 he with rfl | he
    · simp
    · have hne : x.1 ≠ e.1 := (hs.1 e he).ne
      simp [List.find?_cons, hne, find?_key_of_mem hs.2 he]

/-- In a datum with sorted keys, the pair found for a key is the pair that has it. -/
lemma findKey_of_mem {d : Datum} {e : Atom × Option Atom} (hs : KeySorted d.entries)
    (he : e ∈ d.entries) : d.findKey e.1 = some e :=
  find?_key_of_mem hs he

/-- `ovsdb_datum_find` against a datum of the same type is membership. -/
lemma find_iff_mem {t : OvsdbType} {b : Datum} {e : Atom × Option Atom}
    (hb : WellFormed t b) (he : e.2.isSome = t.isMap) : find e b t = true ↔ e ∈ b.entries := by
  refine ⟨fun h => ?_, fun h => by simp [find, findKey_of_mem hb.sorted h]⟩
  unfold find at h
  split at h
  · rename_i f hf
    obtain ⟨hmem, hk⟩ := findKey_eq_some hf
    have hfv := hb.value_isSome f hmem
    obtain ⟨k, v⟩ := e; obtain ⟨k', v'⟩ := f
    cases hm : t.isMap <;> cases v <;> cases v' <;> simp_all
  · simp at h

/-- `ovsdb_datum_find` against a set of keys only looks at the key. -/
lemma find_of_not_isMap {bt : OvsdbType} {b : Datum} {e : Atom × Option Atom}
    (hbt : bt.isMap = false) : find e b bt = true ↔ ∃ f ∈ b.entries, f.1 = e.1 := by
  unfold find
  split
  · rename_i f hf
    exact ⟨fun _ => ⟨f, findKey_eq_some hf⟩, fun _ => by simp [hbt]⟩
  · rename_i hf
    simp only [Bool.false_eq_true, false_iff, not_exists, not_and]
    exact findKey_eq_none.1 hf

/-! ### Union and subtraction -/

instance : IsTotal (Atom × Option Atom) (fun e f => e.1 ≤ f.1) := ⟨fun _ _ => le_total _ _⟩
instance : IsTrans (Atom × Option Atom) (fun e f => e.1 ≤ f.1) := ⟨fun _ _ _ => le_trans⟩

lemma mem_sortEntries {es : List (Atom × Option Atom)} {e : Atom × Option Atom} :
    e ∈ sortEntries es ↔ e ∈ es :=
  List.mem_insertionSort _

lemma length_sortEntries (es : List (Atom × Option Atom)) : (sortEntries es).length = es.length :=
  (List.perm_insertionSort _ es).length_eq

/-- Sorting pairs with distinct keys makes the keys strictly increasing. -/
lemma keySorted_sortEntries {es : List (Atom × Option Atom)} (h : (es.map (·.1)).Nodup) :
    KeySorted (sortEntries es) := by
  have hle : (sortEntries es).Sorted (fun e f => e.1 ≤ f.1) := List.sorted_insertionSort _ _
  have hne : (sortEntries es).Pairwise (fun e f => e.1 ≠ f.1) := by
    rw [← List.pairwise_map (R := (· ≠ ·))]
    exact ((List.perm_insertionSort _ es).map _).nodup_iff.2 h
  exact (hle.and hne).imp fun h => lt_of_le_of_ne h.1 h.2

lemma mem_union {a b : Datum} {e : Atom × Option Atom} :
    e ∈ (a.union b).entries ↔ e ∈ a.entries ∨ (e ∈ b.entries ∧ ∀ f ∈ a.entries, f.1 ≠ e.1) := by
  have hadd : e ∈ b.entries.filter (fun f => (a.findKey f.1).isNone) ↔
      e ∈ b.entries ∧ ∀ f ∈ a.entries, f.1 ≠ e.1 := by
    simp [Option.isNone_iff_eq_none, findKey_eq_none]
  dsimp only [union]
  split_ifs with h
  · rw [h] at hadd
    simp only [List.not_mem_nil, false_iff] at hadd
    exact ⟨Or.inl, fun h' => h'.resolve_right hadd⟩
  · simp [mem_sortEntries, hadd]

lemma n_union (a b : Datum) :
    (a.union b).n = a.n + (b.entries.filter fun f => (a.findKey f.1).isNone).length := by
  dsimp only [union]
  split_ifs with h
  · simp [h]
  · simp [n, length_sortEntries]

lemma mem_subtract {a b : Datum} {bt : OvsdbType} {e : Atom × Option Atom} :
    e ∈ (a.subtract b bt).entries ↔ e ∈ a.entries ∧ find e b bt = false := by
  dsimp only [subtract]
  split_ifs with h
  · have hall := List.filter_eq_self.1 (List.Sublist.eq_of_length (List.filter_sublist _) h)
    exact ⟨fun he => ⟨he, by simpa using hall e he⟩, fun he => he.1⟩
  · simp [mem_sortEntries]

lemma n_subtract_le (a b : Datum) (bt : OvsdbType) : (a.subtract b bt).n ≤ a.n := by
  dsimp only [subtract]
  split_ifs
  · exact le_rfl
  · simpa [n, length_sortEntries] using List.length_filter_le _ _

/-! ### Equality and inclusion -/

/-- Two datums with sorted keys are equal when they have the same pairs. -/
lemma eq_iff_mem {a b : Datum} (ha : KeySorted a.entries) (hb : KeySorted b.entries) :
    a = b ↔ ∀ e, e ∈ a.entries ↔ e ∈ b.entries := by
  refine ⟨fun h _ => h ▸ Iff.rfl, fun h => ?_⟩
  haveI : IsAntisymm (Atom × Option Atom) (fun e f => e.1 < f.1) :=
    ⟨fun _ _ h h' => absurd (h.trans h') (lt_irrefl _)⟩
  cases a; cases b
  simpa using List.eq_of_perm_of_sorted ((List.perm_ext_iff_of_nodup ha.nodup hb.nodup).2 h) ha hb

lemma includesAll_iff {t : OvsdbType} {a b : Datum} (ha : WellFormed t a) (hb : WellFormed t b) :
    includesAll a b t = true ↔ ∀ e ∈ a.entries, e ∈ b.entries := by
  simp only [includesAll, Bool.and_eq_true, decide_eq_true_eq, List.all_eq_true]
  refine ⟨fun h e he => (find_iff_mem hb (ha.value_isSome e he)).1 (h.2 e he), fun h => ?_⟩
  exact ⟨((KeySorted.nodup ha.sorted).subperm h).length_le,
    fun e he => (find_iff_mem hb (ha.value_isSome e he)).2 (h e he)⟩

private lemma then_eq_eq {o₁ o₂ : Ordering} : o₁.then o₂ = .eq ↔ o₁ = .eq ∧ o₂ = .eq := by
  cases o₁ <;> cases o₂ <;> decide

lemma atomArraysCompare3way_eq_iff :
    ∀ {as bs : List Atom}, as.length = bs.length → (atomArraysCompare3way as bs = .eq ↔ as = bs)
  | [], [], _ => by simp [atomArraysCompare3way]
  | a :: as, b :: bs, h => by
    rw [atomArraysCompare3way, then_eq_eq, compare_eq_iff_eq,
      atomArraysCompare3way_eq_iff (by simpa using h), List.cons.injEq]

private lemma eq_of_map_fst_snd {l l' : List (Atom × Option Atom)}
    (h₁ : l.map Prod.fst = l'.map Prod.fst) (h₂ : l.map Prod.snd = l'.map Prod.snd) : l = l' := by
  rw [← List.zip_unzip l, ← List.zip_unzip l', List.unzip_fst, List.unzip_snd, List.unzip_fst,
    List.unzip_snd, h₁, h₂]

/-- The values of a well-formed map, as the second components of its pairs. -/
lemma WellFormed.map_snd {t : OvsdbType} {d : Datum} (hd : WellFormed t d) (hm : t.isMap) :
    d.entries.map Prod.snd = d.values.map some := by
  obtain ⟨es⟩ := d
  have hv : ∀ e ∈ es, e.2.isSome := fun e he => (hd.value_isSome e he).trans hm
  simp only [values]
  clear hd
  induction es with
  | nil => rfl
  | cons e es ih =>
    obtain ⟨k, v⟩ := e
    obtain ⟨v, rfl⟩ := Option.isSome_iff_exists.1 (hv (k, v) (List.mem_cons_self _ _))
    simp [ih fun e he => hv e (List.mem_cons_of_mem _ he)]

/-- A well-formed datum is determined by its keys and, for a map, its values. -/
lemma WellFormed.ext {t : OvsdbType} {a b : Datum} (ha : WellFormed t a) (hb : WellFormed t b)
    (hk : a.keys = b.keys) (hv : t.isMap → a.values = b.values) : a = b := by
  cases a; cases b
  congr 1
  refine eq_of_map_fst_snd hk ?_
  cases hm : t.isMap
  · have hnone : ∀ {d : Datum}, WellFormed t d → d.entries.map Prod.snd = d.entries.map fun _ => none :=
      fun hd => List.map_congr_left fun e he => by
        simpa [hm, Option.not_isSome_iff_eq_none] using hd.value_isSome e he
    have hl := congrArg List.length hk
    simp only [keys, List.length_map] at hl
    rw [hnone ha, hnone hb, List.map_const', List.map_const', hl]
  · rw [ha.map_snd hm, hb.map_snd hm, hv hm]

/-- On well-formed datums `ovsdb_datum_compare_3way` says equal exactly for equal
datums. -/
lemma compare3way_eq_iff {t : OvsdbType} {a b : Datum} (ha : WellFormed t a) (hb : WellFormed t b) :
    compare3way a b t = .eq ↔ a = b := by
  have hself := fun l => (@atomArraysCompare3way_eq_iff l l rfl).2 rfl
  refine ⟨fun h => ?_, by rintro rfl; simp [compare3way, hself, then_eq_eq]⟩
  unfold compare3way at h
  by_cases hn : a.n = b.n
  swap
  · simp [hn, compare_eq_iff_eq] at h
  rw [if_neg (not_not.2 hn), then_eq_eq] at h
  have hkl : a.keys.length = b.keys.length := by simpa [keys, n] using hn
  refine ha.ext hb ((atomArraysCompare3way_eq_iff hkl).1 h.1) fun hm => ?_
  have hvl : a.values.length = b.values.length := by
    have h₁ := congrArg List.length (ha.map_snd hm)
    have h₂ := congrArg List.length (hb.map_snd hm)
    simp only [List.length_map] at h₁ h₂
    simp only [n] at hn
    omega
  simpa [hm, atomArraysCompare3way_eq_iff hvl] using h.2

/-! ### Several unions and subtractions -/

/-- Well-formedness depends on the type only through whether it is a map. -/
lemma WellFormed.of_isMap_eq {t t' : OvsdbType} {d : Datum} (hd : WellFormed t d)
    (h : t.isMap = t'.isMap) : WellFormed t' d :=
  ⟨hd.sorted, fun e he => (hd.value_isSome e he).trans h⟩

lemma wellFormed_union {t : OvsdbType} {a b : Datum} (ha : WellFormed t a) (hb : WellFormed t b) :
    WellFormed t (a.union b) := by
  dsimp only [union]
  split_ifs
  · exact ha
  refine ⟨keySorted_sortEntries ?_, fun e he => ?_⟩
  · rw [List.map_append, List.nodup_append]
    refine ⟨KeySorted.keys_nodup ha.sorted,
      (KeySorted.keys_nodup hb.sorted).sublist ((List.filter_sublist _).map _), ?_⟩
    simp only [List.disjoint_left, List.mem_map, List.mem_filter, Option.isNone_iff_eq_none,
      findKey_eq_none]
    rintro _ ⟨e, he, rfl⟩ ⟨f, ⟨-, hf⟩, hfe⟩
    exact hf e he hfe.symm
  · rcases List.mem_append.1 (mem_sortEntries.1 he) with he | he
    · exact ha.value_isSome e he
    · exact hb.value_isSome e (List.mem_of_mem_filter he)

lemma wellFormed_subtract {t bt : OvsdbType} {a b : Datum} (ha : WellFormed t a) :
    WellFormed t (a.subtract b bt) := by
  dsimp only [subtract]
  split_ifs
  · exact ha
  exact ⟨keySorted_sortEntries ((KeySorted.keys_nodup ha.sorted).sublist ((List.filter_sublist _).map _)),
    fun e he => ha.value_isSome e (List.mem_of_mem_filter (mem_sortEntries.1 he))⟩

/-- A key is in `a ∪ b` when it is in `a` or in `b`. -/
lemma forall_key_ne_union {a b : Datum} {k : Atom} :
    (∀ f ∈ (a.union b).entries, f.1 ≠ k) ↔ ∀ f ∈ a.entries ++ b.entries, f.1 ≠ k := by
  simp only [List.mem_append, mem_union]
  refine ⟨fun h f hf => ?_, fun h f hf => h f (hf.imp id And.left)⟩
  rcases hf with hf | hf
  · exact h f (.inl hf)
  by_cases hk : ∀ g ∈ a.entries, g.1 ≠ f.1
  · exact h f (.inr ⟨hf, hk⟩)
  push_neg at hk
  obtain ⟨g, hg, hgf⟩ := hk
  exact hgf ▸ h g (.inl hg)

/-- The pairs of `D ∪ V₁ ∪ … ∪ Vₙ`: those of `D`, and those of a `Vᵢ` whose key is
neither in `D` nor in an earlier `Vⱼ`. -/
lemma mem_foldl_union {e : Atom × Option Atom} : ∀ {D : Datum} {Vs : List Datum},
    e ∈ (Vs.foldl union D).entries ↔ e ∈ D.entries ∨
      ∃ pre V post, Vs = pre ++ V :: post ∧ e ∈ V.entries ∧
        ∀ f ∈ D.entries ++ pre.flatMap entries, f.1 ≠ e.1
  | D, [] => by simp
  | D, V :: Vs => by
    rw [List.foldl_cons, mem_foldl_union, mem_union]
    simp only [List.forall_mem_append, forall_key_ne_union, List.cons_eq_append_iff]
    constructor
    · rintro ((hD | ⟨hV, hk⟩) | ⟨pre, W, post, rfl, hW, hk⟩)
      · exact .inl hD
      · exact .inr ⟨[], V, Vs, .inl ⟨rfl, rfl⟩, hV, hk, by simp⟩
      · exact .inr ⟨V :: pre, W, post, .inr ⟨pre, rfl, rfl⟩, hW, by simpa only [List.flatMap_cons, List.forall_mem_append, and_assoc] using hk⟩
    · rintro (hD | ⟨pre, W, post, ⟨rfl, h⟩ | ⟨pre', rfl, rfl⟩, hW, hk⟩)
      · exact .inl (.inl hD)
      · cases h
        exact .inl (.inr ⟨hW, hk.1⟩)
      · exact .inr ⟨pre', W, post, rfl, hW, by simpa only [List.flatMap_cons, List.forall_mem_append, and_assoc] using hk⟩

lemma mem_foldl_subtract {e : Atom × Option Atom} : ∀ {D : Datum} {Rs : List (Datum × OvsdbType)},
    e ∈ (Rs.foldl (fun d r => d.subtract r.1 r.2) D).entries ↔
      e ∈ D.entries ∧ ∀ r ∈ Rs, find e r.1 r.2 = false
  | D, [] => by simp
  | D, r :: Rs => by
    rw [List.foldl_cons, mem_foldl_subtract, mem_subtract]
    simp [and_assoc]

lemma wellFormed_foldl_union {t : OvsdbType} : ∀ {D : Datum} {Vs : List Datum}, WellFormed t D →
    (∀ V ∈ Vs, WellFormed t V) → WellFormed t (Vs.foldl union D)
  | _, [], hD, _ => hD
  | _, V :: _, hD, hVs => by
    rw [List.foldl_cons]
    exact wellFormed_foldl_union (wellFormed_union hD (hVs V (List.mem_cons_self _ _)))
      fun W hW => hVs W (List.mem_cons_of_mem _ hW)

lemma wellFormed_foldl_subtract {t : OvsdbType} : ∀ {D : Datum} {Rs : List (Datum × OvsdbType)},
    WellFormed t D → WellFormed t (Rs.foldl (fun d r => d.subtract r.1 r.2) D)
  | _, [], hD => hD
  | _, _ :: _, hD => by
    rw [List.foldl_cons]
    exact wellFormed_foldl_subtract (wellFormed_subtract hD)

/-- Subtracting again the datums `Vs` united into `D` gives `D` back, when no element
of a `V` is in `D`. -/
lemma foldl_subtract_foldl_union {t vt : OvsdbType} {D : Datum} {Vs : List Datum} (ht : vt.isMap = t.isMap)
    (hD : WellFormed t D) (hVs : ∀ V ∈ Vs, WellFormed t V)
    (hdisj : ∀ V ∈ Vs, ∀ e ∈ V.entries, e ∉ D.entries) :
    (Vs.map (·, vt)).foldl (fun d r => d.subtract r.1 r.2) (Vs.foldl union D) = D := by
  have hfind : ∀ {V e}, V ∈ Vs → e.2.isSome = t.isMap → (find e V vt = true ↔ e ∈ V.entries) :=
    fun hV he => find_iff_mem ((hVs _ hV).of_isMap_eq ht.symm) (he.trans ht.symm)
  refine (eq_iff_mem (wellFormed_foldl_subtract (wellFormed_foldl_union hD hVs)).sorted hD.sorted).2
    fun e => ?_
  simp only [mem_foldl_subtract, mem_foldl_union, List.forall_mem_map]
  constructor
  · rintro ⟨hD' | ⟨pre, V, post, rfl, heV, -⟩, hnot⟩
    · exact hD'
    · have hV : V ∈ pre ++ V :: post := by simp
      have := hnot V hV
      rw [(hfind hV ((hVs V hV).value_isSome e heV)).2 heV] at this
      cases this
  · intro heD
    refine ⟨.inl heD, fun V hV => ?_⟩
    rw [Bool.eq_false_iff, ne_eq, hfind hV (hD.value_isSome e heD)]
    exact fun heV => hdisj V hV e heV heD

end Datum

end DbCtlBase
