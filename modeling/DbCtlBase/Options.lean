import DbCtlBase.Command

/-!
`ctl_add_cmd_options`: the long options of the registered commands, appended to the
program's `getopt_long` table, each name once, then the all-zero terminator.

* `addCmdOption_eq`: on an item `--name` or `--name=`, one iteration of the loop looks
  the name up with `find_option` and appends it when it is new.
* `addCmdOption_appended`: when the commands agree on each name's `has_arg` and share no
  name with the existing entries, an iteration keeps the invariant `Appended` and none
  of its assertions fails.
* `ctlAddCmdOptions_spec`: so the existing entries stay as they are, every declared
  name is appended exactly once with the `has_arg` its items give, and the terminator
  follows.
-/

namespace DbCtlBase

/-- `has_arg` of `struct option`. -/
inductive HasArg where
  | no
  | required
  | optional
  deriving DecidableEq, Repr

/-- `struct option` of `getopt_long`; `none` stands for a `NULL` name or flag. -/
structure LongOption where
  name : Option String
  hasArg : HasArg
  flag : Option ℕ
  val : ℤ
  deriving DecidableEq, Repr

/-- The all-zero entry that ends the table. -/
def optionTerminator : LongOption := ⟨none, .no, none, 0⟩

/-- `ovs_assert`. -/
def ovsAssert (c : Prop) [Decidable c] : Except String Unit :=
  if c then .ok () else .error "assertion failed"

/-- `find_option`: the first entry named `name`, with its index. -/
def findOption (name : String) : List LongOption → Option (ℕ × LongOption)
  | [] => none
  | o :: os => if o.name = some name then some (0, o) else (findOption name os).map fun p => (p.1 + 1, p.2)

/-- The items `strtok_r (s, ",", ...)` yields: the non-empty stretches between commas. -/
def strtokComma (s : String) : List (List Char) := (s.toList.splitOn ',').filter (· ≠ [])

/-- One item of an options string, as the loop of `ctl_add_cmd_options` handles it:
after the assertion that it starts with `--` and goes on, the name is cut at its first
`=`, which makes the option take an argument, and looked up among the entries so far;
a name already there must be a new one, with the same `has_arg`. -/
def addCmdOption (nExisting : ℕ) (optVal : ℤ) (options : List LongOption) (item : List Char) :
    Except String (List LongOption) := do
  ovsAssert (item.take 2 = ['-', '-'] ∧ 2 < item.length)
  let name := item.drop 2
  let (name, hasArg) :=
    if '=' ∈ name then (name.takeWhile (· ≠ '='), HasArg.required) else (name, HasArg.no)
  match findOption (String.mk name) options with
  | some (i, o) => do
    ovsAssert (nExisting ≤ i)
    ovsAssert (o.hasArg = hasArg)
    pure options
  | none => pure (options ++ [⟨some (String.mk name), hasArg, none, optVal⟩])

/-- `ctl_add_cmd_options`, over the registered commands in the order their hash table
yields them. -/
def ctlAddCmdOptions (commands : List CtlCommandSyntax) (options : List LongOption) (optVal : ℤ) :
    Except String (List LongOption) := do
  let added ← commands.foldlM (fun opts p =>
    if p.options ≠ "" then (strtokComma p.options).foldlM (addCmdOption options.length optVal) opts
    else pure opts) options
  pure (added ++ [optionTerminator])

/-! ### The options the commands declare -/

/-- The name an item declares: the item without its two dashes and a trailing `=`. -/
def itemName (item : List Char) : List Char :=
  if (item.drop 2).getLast? = some '=' then (item.drop 2).dropLast else item.drop 2

/-- An item takes an argument when it ends in `=`. -/
def itemHasArg (item : List Char) : HasArg :=
  if (item.drop 2).getLast? = some '=' then .required else .no

/-- The option an item declares. -/
def itemOption (item : List Char) : String × HasArg := (String.mk (itemName item), itemHasArg item)

/-- An item as the command syntax describes it: `--name` or `--name=`, with a name that
is not empty and has no `=`. -/
def WellFormedItem (item : List Char) : Prop :=
  item.take 2 = ['-', '-'] ∧ itemName item ≠ [] ∧ '=' ∉ itemName item

instance : DecidablePred WellFormedItem := fun item =>
  inferInstanceAs (Decidable (item.take 2 = ['-', '-'] ∧ itemName item ≠ [] ∧ '=' ∉ itemName item))

/-- The options the commands declare, item by item. -/
def declaredOptions (commands : List CtlCommandSyntax) : List (String × HasArg) :=
  commands.flatMap fun p => (strtokComma p.options).map itemOption

/-! ### `find_option` -/

lemma findOption_eq_none {name : String} :
    ∀ {os : List LongOption}, findOption name os = none ↔ ∀ o ∈ os, o.name ≠ some name
  | [] => by simp [findOption]
  | o :: os => by
    unfold findOption
    split_ifs with h <;> simp [h, findOption_eq_none]

lemma findOption_mem {name : String} :
    ∀ {os : List LongOption} {i : ℕ} {o : LongOption}, findOption name os = some (i, o) → o ∈ os ∧ o.name = some name
  | [], _, _, h => by simp [findOption] at h
  | o' :: os, i, o, h => by
    unfold findOption at h
    split_ifs at h with h'
    · cases h
      exact ⟨List.mem_cons_self _ _, h'⟩
    · obtain ⟨⟨j, o''⟩, hj, he⟩ := Option.map_eq_some'.1 h
      cases he
      exact (findOption_mem hj).imp (List.mem_cons_of_mem _) id

/-- Entries of other names in front shift the index `find_option` returns. -/
lemma findOption_append {name : String} :
    ∀ {xs : List LongOption} (ys : List LongOption), (∀ o ∈ xs, o.name ≠ some name) →
      findOption name (xs ++ ys) = (findOption name ys).map fun p => (xs.length + p.1, p.2)
  | [], ys, _ => by simp
  | x :: xs, ys, h => by
    rw [List.cons_append, findOption, if_neg (h x (List.mem_cons_self _ _)),
      findOption_append ys fun o ho => h o (List.mem_cons_of_mem _ ho), Option.map_map]
    congr 1
    funext p
    simp only [Function.comp, List.length_cons]
    congr 1
    omega

/-! ### One item -/

/-- On a well-formed item the loop body computes the item's declared option. -/
lemma addCmdOption_eq {nExisting : ℕ} {optVal : ℤ} {options : List LongOption} {item : List Char}
    (hwf : WellFormedItem item) :
    addCmdOption nExisting optVal options item =
      match findOption (itemOption item).1 options with
      | some (i, o) => do
        ovsAssert (nExisting ≤ i)
        ovsAssert (o.hasArg = (itemOption item).2)
        pure options
      | none => pure (options ++ [⟨some (itemOption item).1, (itemOption item).2, none, optVal⟩]) := by
  obtain ⟨hdash, hne, heq⟩ := hwf
  have hlen : 2 < item.length := by
    by_contra hle
    exact hne (by simp [itemName, List.drop_eq_nil_of_le (not_lt.1 hle)])
  have hcut : (if '=' ∈ item.drop 2 then ((item.drop 2).takeWhile (· ≠ '='), HasArg.required)
      else (item.drop 2, HasArg.no)) = (itemName item, itemHasArg item) := by
    rw [itemName] at heq
    rw [itemName, itemHasArg]
    generalize item.drop 2 = body at heq ⊢
    by_cases hlast : body.getLast? = some '='
    · obtain ⟨name, rfl⟩ : ∃ name, body = name ++ ['='] :=
        ⟨_, (List.dropLast_append_getLast? _ hlast).symm⟩
      simp only [hlast, if_true, List.dropLast_concat] at heq ⊢
      rw [if_pos (by simp), List.takeWhile_append_of_pos fun c hc => by
        simpa using ne_of_mem_of_not_mem hc heq]
      simp
    · simp only [hlast, if_false] at heq ⊢
      rw [if_neg heq]
  simp only [addCmdOption, ovsAssert, if_pos (And.intro hdash hlen), except_ok_bind, hcut]
  rfl

/-! ### The loops -/

/-- What the loop has appended after the existing entries, having handled the items
that declare `seen`: one entry for each name, each built from a seen declaration with
a `NULL` flag and the value `optVal`, and every seen name among them. -/
structure Appended (optVal : ℤ) (seen : List (String × HasArg)) (added : List LongOption) : Prop where
  nodup : (added.map (·.name)).Nodup
  mem : ∀ o ∈ added, ∃ x ∈ seen, o = ⟨some x.1, x.2, none, optVal⟩
  complete : ∀ x ∈ seen, some x.1 ∈ added.map (·.name)

lemma Appended.nil {optVal : ℤ} : Appended optVal [] [] := ⟨List.nodup_nil, by simp, by simp⟩

/-- A declaration whose name is already appended changes nothing. -/
lemma Appended.snoc_seen {optVal : ℤ} {seen : List (String × HasArg)} {added : List LongOption}
    {x : String × HasArg} (h : Appended optVal seen added) (hx : some x.1 ∈ added.map (·.name)) :
    Appended optVal (seen ++ [x]) added :=
  ⟨h.nodup, fun o ho => (h.mem o ho).imp fun _ hy => ⟨List.mem_append_left _ hy.1, hy.2⟩, fun y hy =>
    (List.mem_append.1 hy).elim (h.complete y) fun hy => List.mem_singleton.1 hy ▸ hx⟩

/-- A declaration of a new name appends its entry. -/
lemma Appended.snoc_new {optVal : ℤ} {seen : List (String × HasArg)} {added : List LongOption}
    {x : String × HasArg} (h : Appended optVal seen added) (hx : some x.1 ∉ added.map (·.name)) :
    Appended optVal (seen ++ [x]) (added ++ [⟨some x.1, x.2, none, optVal⟩]) := by
  refine ⟨?_, fun o ho => ?_, fun y hy => ?_⟩
  · rw [List.map_append, List.map_singleton]
    exact h.nodup.append (List.nodup_singleton _) (List.disjoint_singleton.2 hx)
  · rcases List.mem_append.1 ho with ho | ho
    · exact (h.mem o ho).imp fun _ hy => ⟨List.mem_append_left _ hy.1, hy.2⟩
    · exact ⟨x, List.mem_append_right _ (List.mem_singleton_self _), List.mem_singleton.1 ho⟩
  · rw [List.map_append]
    rcases List.mem_append.1 hy with hy | hy
    · exact List.mem_append_left _ (h.complete y hy)
    · rw [List.mem_singleton.1 hy]
      exact List.mem_append_right _ (List.mem_singleton_self _)

section Loops

variable {options : List LongOption} {optVal : ℤ} {all : List (String × HasArg)}
  (hagree : ∀ x ∈ all, ∀ y ∈ all, x.1 = y.1 → x.2 = y.2)
  (hfresh : ∀ x ∈ all, ∀ o ∈ options, o.name ≠ some x.1)
include hagree hfresh

/-- One item: no assertion fails, and the invariant now covers the item's option. -/
lemma addCmdOption_appended {seen : List (String × HasArg)} {added : List LongOption}
    (hseen : ∀ x ∈ seen, x ∈ all) (h : Appended optVal seen added) {item : List Char}
    (hwf : WellFormedItem item) (hitem : itemOption item ∈ all) :
    ∃ added', addCmdOption options.length optVal (options ++ added) item = .ok (options ++ added') ∧
      Appended optVal (seen ++ [itemOption item]) added' := by
  rw [addCmdOption_eq hwf, findOption_append added (hfresh _ hitem)]
  rcases hfind : findOption (itemOption item).1 added with _ | ⟨j, o⟩
  · have hnew := findOption_eq_none.1 hfind
    exact ⟨_, by simp, h.snoc_new fun hm => let ⟨o, ho, hn⟩ := List.mem_map.1 hm; hnew o ho hn⟩
  · obtain ⟨ho, hname⟩ := findOption_mem hfind
    obtain ⟨x, hx, rfl⟩ := h.mem o ho
    have hsame : x.2 = (itemOption item).2 := hagree x (hseen x hx) _ hitem (Option.some.inj hname)
    exact ⟨added, by simp [ovsAssert, hsame], h.snoc_seen (hname ▸ List.mem_map_of_mem _ ho)⟩

/-- The items of the commands, one after the other. -/
lemma foldlM_addCmdOption_appended : ∀ (items : List (List Char)) {seen : List (String × HasArg)}
    {added : List LongOption}, (∀ x ∈ seen, x ∈ all) → Appended optVal seen added →
    (∀ item ∈ items, WellFormedItem item ∧ itemOption item ∈ all) →
    ∃ added', items.foldlM (addCmdOption options.length optVal) (options ++ added) = .ok (options ++ added') ∧
      Appended optVal (seen ++ items.map itemOption) added'
  | [], _, added, _, h, _ => ⟨added, rfl, by simpa using h⟩
  | item :: items, seen, added, hseen, h, hitems => by
    obtain ⟨hwf, hitem⟩ := hitems item (List.mem_cons_self _ _)
    obtain ⟨added₁, h₁, happ₁⟩ := addCmdOption_appended hagree hfresh hseen h hwf hitem
    obtain ⟨added₂, h₂, happ₂⟩ := foldlM_addCmdOption_appended items
      (fun x hx => (List.mem_append.1 hx).elim (hseen x) fun hx => List.mem_singleton.1 hx ▸ hitem) happ₁
      fun i hi => hitems i (List.mem_cons_of_mem _ hi)
    exact ⟨added₂, by rw [List.foldlM_cons, h₁]; exact h₂, by simpa using happ₂⟩

end Loops

/-- `ctl_add_cmd_options` on commands whose options strings are lists of `--name` and
`--name=` items, that agree on whether each name takes an argument, and that share no
name with the existing entries: none of its assertions fails; it leaves the existing
entries as they are and appends each declared name exactly once, taking an argument
when its items end in `=`, with a `NULL` flag and the value `optVal`; then the all-zero
terminator. -/
theorem ctlAddCmdOptions_spec (commands : List CtlCommandSyntax) (options : List LongOption) (optVal : ℤ)
    (hwf : ∀ p ∈ commands, ∀ item ∈ strtokComma p.options, WellFormedItem item)
    (hagree : ∀ x ∈ declaredOptions commands, ∀ y ∈ declaredOptions commands, x.1 = y.1 → x.2 = y.2)
    (hfresh : ∀ x ∈ declaredOptions commands, ∀ o ∈ options, o.name ≠ some x.1) :
    ∃ added, ctlAddCmdOptions commands options optVal = .ok (options ++ added ++ [optionTerminator]) ∧
      (added.map (·.name)).Nodup ∧
      (∀ o ∈ added, ∃ x ∈ declaredOptions commands, o = ⟨some x.1, x.2, none, optVal⟩) ∧
      ∀ x ∈ declaredOptions commands, some x.1 ∈ added.map (·.name) := by
  suffices hloop : ∀ (ps : List CtlCommandSyntax) {seen : List (String × HasArg)} {added : List LongOption},
      (∀ p ∈ ps, p ∈ commands) → (∀ x ∈ seen, x ∈ declaredOptions commands) → Appended optVal seen added →
      ∃ added', ps.foldlM (fun opts p =>
          if p.options ≠ "" then (strtokComma p.options).foldlM (addCmdOption options.length optVal) opts
          else pure opts) (options ++ added) = .ok (options ++ added') ∧
        Appended optVal (seen ++ declaredOptions ps) added' by
    obtain ⟨added, h, happ⟩ := @hloop commands [] [] (fun _ hp => hp) (by simp) Appended.nil
    rw [List.append_nil, List.nil_append] at *
    refine ⟨added, ?_, happ.nodup, happ.mem, happ.complete⟩
    unfold ctlAddCmdOptions
    rw [h]
    rfl
  intro ps
  induction ps with
  | nil => exact fun _ _ h => ⟨_, rfl, by simpa [declaredOptions] using h⟩
  | cons p ps ih =>
    intro seen added hps hseen h
    have hitems : ∀ item ∈ strtokComma p.options, WellFormedItem item ∧ itemOption item ∈ declaredOptions commands :=
      fun item hi => ⟨hwf p (hps p (List.mem_cons_self _ _)) item hi,
        List.mem_flatMap.2 ⟨p, hps p (List.mem_cons_self _ _), List.mem_map_of_mem _ hi⟩⟩
    obtain ⟨added₁, h₁, happ₁⟩ := foldlM_addCmdOption_appended hagree hfresh _ hseen h hitems
    obtain ⟨added₂, h₂, happ₂⟩ := ih (fun q hq => hps q (List.mem_cons_of_mem _ hq))
      (fun x hx => (List.mem_append.1 hx).elim (hseen x) fun hx => by
        obtain ⟨item, hi, rfl⟩ := List.mem_map.1 hx
        exact (hitems item hi).2) happ₁
    refine ⟨added₂, ?_, by simpa [declaredOptions] using happ₂⟩
    rw [List.foldlM_cons]
    split_ifs with hp
    · rw [h₁]
      exact h₂
    · have hnil : strtokComma p.options = [] := by simp [strtokComma, not_not.1 hp]
      rw [hnil, List.foldlM_nil] at h₁
      obtain rfl := List.append_cancel_left (Except.ok.inj h₁)
      simpa using h₂

/-- Two global options of a program, as its own table lists them before the commands'. -/
def globalOptions : List LongOption := [⟨some "db", .required, none, 256⟩, ⟨some "timeout", .required, none, 116⟩]

theorem ctlAddCmdOptions_spec_dbCtlCommands :
    ∃ added, ctlAddCmdOptions dbCtlCommands globalOptions 257 = .ok (globalOptions ++ added ++ [optionTerminator]) ∧
      (added.map (·.name)).Nodup ∧
      (∀ o ∈ added, ∃ x ∈ declaredOptions dbCtlCommands, o = ⟨some x.1, x.2, none, 257⟩) ∧
      ∀ x ∈ declaredOptions dbCtlCommands, some x.1 ∈ added.map (·.name) :=
  ctlAddCmdOptions_spec dbCtlCommands globalOptions 257 (by decide) (by decide) (by decide)

end DbCtlBase
