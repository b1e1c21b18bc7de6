import DbCtlBase.Command

/-!
Command lines round-trip through `ctl_parse_commands`.

A command is written on a command line as its option tokens (`KEY` or `KEY=VALUE`), its
verb and its arguments, and two commands are separated by `--`. `ctl_parse_commands`
reads such a line back into exactly the commands written, provided `parse_command`
accepts each of them and each can be told apart on the line (`Writable`).

* `splitOption_optionToken`: `parse_command` splits an option token back at its `=`.
* `parseOptions_tokens`, `parseCommand_tokens`: `parse_command` reads a command's tokens
  back.
* `parseCommandsLoop_append`: tokens without `--` only lengthen the current run.
* `ctlParseCommands_commandLine`: the round trip, for every non-empty list of commands.
-/

namespace DbCtlBase

/-- The token of an option on a command line: `KEY`, or `KEY=VALUE`. -/
def optionToken : String × Option String → String
  | (key, none) => key
  | (key, some value) => key ++ "=" ++ value

/-- A command's tokens on a command line: its options, then its verb and arguments. -/
def CtlCommand.tokens (c : CtlCommand) : List String := c.args.options.map optionToken ++ c.args.argv

/-- A command line for `cmds`: their tokens, with `--` between two commands. -/
def commandLine : List CtlCommand → List String
  | [] => []
  | [c] => c.tokens
  | c :: c' :: cs => c.tokens ++ "--" :: commandLine (c' :: cs)

/-- A command that can be told apart on a command line: each option key starts with `-`
and holds no `=`, the verb does not start with `-`, and no token is `--`. -/
structure Writable (c : CtlCommand) : Prop where
  keys : ∀ o ∈ c.args.options, o.1.toList.head? = some '-' ∧ '=' ∉ o.1.toList
  verb : ∀ verb ∈ c.args.argv.head?, verb.toList.head? ≠ some '-'
  noSep : "--" ∉ c.tokens

/-! ### One option -/

lemma span_ne_eq_append {key : List Char} (hkey : '=' ∉ key) (rest : List Char) :
    (key ++ rest).span (· ≠ '=') = (key ++ rest.takeWhile (· ≠ '='), rest.dropWhile (· ≠ '=')) := by
  have hk : ∀ c ∈ key, decide (c ≠ '=') = true := fun c hc => by simpa using ne_of_mem_of_not_mem hc hkey
  rw [List.span_eq_take_drop, List.takeWhile_append_of_pos hk, List.dropWhile_append_of_pos hk]

lemma optionToken_toList (key value : String) :
    (optionToken (key, some value)).toList = key.toList ++ '=' :: value.toList := by
  simp [optionToken, String.toList, String.data_append]

/-- `parse_command` splits an option token back into its key and value. -/
lemma splitOption_optionToken {o : String × Option String} (hkey : '=' ∉ o.1.toList) :
    splitOption (optionToken o) = o := by
  rcases o with ⟨key, _ | value⟩
  · have h := span_ne_eq_append hkey []
    rw [List.append_nil] at h
    unfold splitOption optionToken
    rw [h]
    simp
  · unfold splitOption
    rw [optionToken_toList, span_ne_eq_append hkey]
    simp

lemma optionToken_head {o : String × Option String} (h : o.1.toList.head? = some '-') :
    (optionToken o).toList.head? = some '-' := by
  rcases o with ⟨key, _ | value⟩
  · exact h
  · rw [optionToken_toList, List.head?_append, h]
    rfl

/-! ### One command -/

/-- The option loop of `parse_command` reads option tokens back, up to the verb. -/
lemma parseOptions_tokens {argv : List String} (hargv : ∀ verb ∈ argv.head?, verb.toList.head? ≠ some '-') :
    ∀ (options opts : List (String × Option String)), ((options ++ opts).map Prod.fst).Nodup →
      (∀ o ∈ opts, o.1.toList.head? = some '-' ∧ '=' ∉ o.1.toList) →
      parseOptions options (opts.map optionToken ++ argv) = .ok (options ++ opts, argv)
  | options, [], _, _ => by
    rcases argv with _ | ⟨verb, args⟩
    · simp [parseOptions]
    · rw [List.map_nil, List.nil_append, parseOptions, if_pos (hargv verb rfl), List.append_nil]
  | options, ⟨key, value⟩ :: opts, hnd, hopts => by
    obtain ⟨hhead, hkey⟩ := hopts _ (List.mem_cons_self _ _)
    rw [List.map_append, List.map_cons, List.nodup_append] at hnd
    have hnew : (options.lookup key).isSome = false := by
      rw [Bool.eq_false_iff, ne_eq, List.lookup_isSome_iff]
      rintro ⟨p, hp, hk⟩
      exact hnd.2.2 (List.mem_map.2 ⟨p, hp, (beq_iff_eq.1 hk).symm⟩) (List.mem_cons_self _ _)
    rw [List.map_cons, List.cons_append, parseOptions, if_neg (by simpa using optionToken_head hhead),
      splitOption_optionToken hkey]
    dsimp only
    rw [if_neg (by simp [hnew]), parseOptions_tokens hargv (options ++ [(key, value)]) opts
      (by simpa [List.nodup_append, List.disjoint_cons_right] using hnd) fun o ho => hopts o (List.mem_cons_of_mem _ ho)]
    simp

/-- `parse_command` reads the tokens of a command it accepts back into the command. -/
lemma parseCommand_tokens {commands : List CtlCommandSyntax} {c : CtlCommand} (hacc : Accepted commands c)
    (hw : Writable c) : parseCommand commands c.tokens [] = .ok c := by
  obtain ⟨verb, args, hargv, hfind, hmin, hmax⟩ := hacc.verb
  have hopts := parseOptions_tokens hw.verb [] _ (by simpa using hacc.nodup) hw.keys
  rcases c with ⟨p, options, argv⟩
  dsimp only at hargv hfind hmin hmax hopts
  subst hargv
  unfold parseCommand CtlCommand.tokens
  rw [hopts]
  simp only [except_ok_bind, List.nil_append, hfind]
  rw [forM_except_eq_ok.2 fun o ho => checkOption_eq_ok.2 (hacc.options o ho), except_ok_bind,
    checkArgCount_eq_ok.2 ⟨hmin, hmax⟩, except_ok_bind]
  rfl

/-! ### A command line -/

/-- Tokens with no `--` among them only lengthen the current run of `ctl_parse_commands`. -/
lemma parseCommandsLoop_append {commands : List CtlCommandSyntax} :
    ∀ {toks : List String}, "--" ∉ toks → ∀ (run argv : List String) localOptions parsed,
      parseCommandsLoop commands run (toks ++ argv) localOptions parsed =
        parseCommandsLoop commands (run ++ toks) argv localOptions parsed
  | [], _, run, _, _, _ => by rw [List.nil_append, List.append_nil]
  | t :: toks, h, run, argv, localOptions, parsed => by
    rw [List.cons_append, parseCommandsLoop, if_neg (ne_of_mem_of_not_mem (List.mem_cons_self _ _) h),
      parseCommandsLoop_append (fun h' => h (List.mem_cons_of_mem _ h')), List.append_assoc, List.singleton_append]

lemma CtlCommand.tokens_ne_nil {commands : List CtlCommandSyntax} {c : CtlCommand} (hacc : Accepted commands c) :
    c.tokens ≠ [] := by
  obtain ⟨verb, args, hargv, -⟩ := hacc.verb
  simp [CtlCommand.tokens, hargv]

/-- The loop of `ctl_parse_commands` reads a command line back into its commands. -/
lemma parseCommandsLoop_commandLine {commands : List CtlCommandSyntax} :
    ∀ {cmds : List CtlCommand}, (∀ c ∈ cmds, Accepted commands c ∧ Writable c) → ∀ parsed,
      parseCommandsLoop commands [] (commandLine cmds) [] parsed = .ok (parsed ++ cmds)
  | [], _, parsed => by simp [commandLine, parseCommandsLoop]
  | [c], h, parsed => by
    obtain ⟨hacc, hw⟩ := h c (List.mem_singleton_self _)
    rw [commandLine, ← List.append_nil c.tokens, parseCommandsLoop_append hw.noSep, List.nil_append,
      parseCommandsLoop, if_pos (CtlCommand.tokens_ne_nil hacc), parseCommand_tokens hacc hw]
    rfl
  | c :: c' :: cs, h, parsed => by
    obtain ⟨hacc, hw⟩ := h c (List.mem_cons_self _ _)
    rw [commandLine, parseCommandsLoop_append hw.noSep, List.nil_append, parseCommandsLoop, if_pos rfl,
      if_pos (CtlCommand.tokens_ne_nil hacc), parseCommand_tokens hacc hw, except_ok_bind,
      parseCommandsLoop_commandLine (fun c hc => h c (List.mem_cons_of_mem _ hc)), List.append_assoc,
      List.singleton_append]

/-- **Command lines round-trip through `ctl_parse_commands`**: writing commands that
`parse_command` accepts as their option tokens (`KEY` or `KEY=VALUE`), verbs and
arguments, with `--` between two of them, gives a command line that
`ctl_parse_commands` reads back into exactly those commands, in order, provided each can
be told apart on the line: option keys that start with `-` and hold no `=`, a verb that
does not start with `-`, and no token `--`. -/
theorem ctlParseCommands_commandLine (commands : List CtlCommandSyntax) (cmds : List CtlCommand)
    (hne : cmds ≠ []) (h : ∀ c ∈ cmds, Accepted commands c ∧ Writable c) :
    ctlParseCommands commands (commandLine cmds) [] = .ok cmds := by
  unfold ctlParseCommands
  rw [parseCommandsLoop_commandLine h [], List.nil_append, except_ok_bind, if_neg hne]
  rfl

theorem ctlParseCommands_commandLine_getSet :
    ([⟨⟨"get", 2, intMax, "--if-exists,--id=", .ro⟩,
        ⟨[("--if-exists", none), ("--id", some "@r")], ["get", "T", "R"]⟩⟩,
      ⟨⟨"set", 3, intMax, "--if-exists", .rw⟩, ⟨[], ["set", "T", ".", "C=1"]⟩⟩] : List CtlCommand) ≠ [] ∧
    (∀ c ∈ ([⟨⟨"get", 2, intMax, "--if-exists,--id=", .ro⟩,
        ⟨[("--if-exists", none), ("--id", some "@r")], ["get", "T", "R"]⟩⟩,
      ⟨⟨"set", 3, intMax, "--if-exists", .rw⟩, ⟨[], ["set", "T", ".", "C=1"]⟩⟩] : List CtlCommand),
      Accepted dbCtlCommands c ∧ Writable c) ∧
    ctlParseCommands dbCtlCommands ["--if-exists", "--id=@r", "get", "T", "R", "--", "set", "T", ".", "C=1"] [] =
      .ok [⟨⟨"get", 2, intMax, "--if-exists,--id=", .ro⟩,
        ⟨[("--if-exists", none), ("--id", some "@r")], ["get", "T", "R"]⟩⟩,
      ⟨⟨"set", 3, intMax, "--if-exists", .rw⟩, ⟨[], ["set", "T", ".", "C=1"]⟩⟩] := by
  have h : ∀ c ∈ ([⟨⟨"get", 2, intMax, "--if-exists,--id=", .ro⟩,
        ⟨[("--if-exists", none), ("--id", some "@r")], ["get", "T", "R"]⟩⟩,
      ⟨⟨"set", 3, intMax, "--if-exists", .rw⟩, ⟨[], ["set", "T", ".", "C=1"]⟩⟩] : List CtlCommand),
      Accepted dbCtlCommands c ∧ Writable c := by
    simp only [List.mem_cons, List.mem_singleton, List.not_mem_nil, or_false, forall_eq_or_imp, forall_eq]
    refine ⟨⟨⟨⟨"get", ["T", "R"], rfl, rfl, by decide, by decide⟩, by decide, by unfold OptionAccepted; decide⟩,
      ⟨by decide, by decide, by decide⟩⟩, ⟨⟨⟨"set", ["T", ".", "C=1"], rfl, rfl, by decide, by decide⟩,
        by decide, fun _ ho => by cases ho⟩, ⟨by decide, by decide, by decide⟩⟩⟩
  exact ⟨List.cons_ne_nil _ _, h, ctlParseCommands_commandLine dbCtlCommands _ (List.cons_ne_nil _ _) h⟩

end DbCtlBase
