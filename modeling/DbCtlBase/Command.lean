import DbCtlBase.Context

/-!
The command registry and the parse of a command line into commands:
`ctl_command_syntax`, `parse_command`, `ctl_parse_commands` and
`ctl_might_write_to_db`.

* `parseCommand_ok`: a parsed command's verb is an argument of its run, and its
  syntax is the registered command of that name.
* `ctlParseCommands_ok`: every command `ctl_parse_commands` returns has its verb
  among the arguments of the whole command line.
* `ctlMightWriteToDb_of_ctlParseCommands`: when a parsed command is read-write,
  `ctl_might_write_to_db` says the command line might write.
* `parseCommand_option_strstr`: an option passes exactly when the character after the
  first occurrence of its key in the verb's options string ends an entry, and carries a
  value exactly when that character is `=`; `parseCommand_accepts_undeclared_option`
  shows keys that are only pieces of declared entries passing.
-/

namespace DbCtlBase

/-- `enum ctl_command_mode`. -/
inductive CtlCommandMode where
  | ro
  | rw
  deriving DecidableEq, Repr

/-- `struct ctl_command_syntax`, without the argument text, which only
`ctl_print_commands` reads, and the callbacks, which `CtlCommandSyntax.name`
selects. -/
structure CtlCommandSyntax where
  name : String
  minArgs : ℕ
  maxArgs : ℕ
  options : String
  mode : CtlCommandMode
  deriving DecidableEq, Repr

/-- `INT_MAX`. -/
def intMax : ℕ := 2147483647

/-- `db_ctl_commands`. -/
def dbCtlCommands : List CtlCommandSyntax := [
  ⟨"comment", 0, intMax, "", .ro⟩,
  ⟨"get", 2, intMax, "--if-exists,--id=", .ro⟩,
  ⟨"list", 1, intMax, "--if-exists,--columns=", .ro⟩,
  ⟨"find", 1, intMax, "--columns=", .ro⟩,
  ⟨"set", 3, intMax, "--if-exists", .rw⟩,
  ⟨"add", 4, intMax, "--if-exists", .rw⟩,
  ⟨"remove", 4, intMax, "--if-exists", .rw⟩,
  ⟨"clear", 3, intMax, "--if-exists", .rw⟩,
  ⟨"create", 2, intMax, "--id=", .rw⟩,
  ⟨"destroy", 1, intMax, "--if-exists,--all", .rw⟩,
  ⟨"wait-until", 2, intMax, "", .ro⟩]

/-- The `show` command `ctl_init` registers when there are tables to show. -/
def showCommand : CtlCommandSyntax := ⟨"show", 0, 0, "", .ro⟩

/-- `shash_find_data (&all_commands, name)`: registration keeps names unique. -/
def findCommand (commands : List CtlCommandSyntax) (name : String) : Option CtlCommandSyntax :=
  commands.find? (·.name = name)

/-- `struct ctl_command` after parsing: the syntax found, the options, and the
arguments from the verb on. -/
structure CtlCommand where
  commandSyntax : CtlCommandSyntax
  args : CmdArgs
  deriving DecidableEq, Repr

/-! ### `parse_command` -/

/-- An option token split at its first `=` into key and value. -/
def splitOption (option : String) : String × Option String :=
  match option.toList.span (· ≠ '=') with
  | (key, []) => (String.mk key, none)
  | (key, _ :: value) => (String.mk key, some (String.mk value))

/-- The leading loop of `parse_command`: the tokens that begin with `-` are added to
`options`, a key given twice being fatal; the rest starts at the verb. -/
def parseOptions : List (String × Option String) → List String →
    Except String (List (String × Option String) × List String)
  | options, [] => .ok (options, [])
  | options, arg :: args =>
    if arg.toList.head? ≠ some '-' then .ok (options, arg :: args)
    else
      let (key, value) := splitOption arg
      if (options.lookup key).isSome then .error ("'" ++ arg ++ "' option specified multiple times")
      else parseOptions (options ++ [(key, value)]) args

/-- `strstr (haystack, needle)`: the text after the first occurrence of `needle`. -/
def strstrAfter (needle : List Char) : List Char → Option (List Char)
  | [] => if needle = [] then some [] else none
  | c :: cs => if needle <+: c :: cs then some ((c :: cs).drop needle.length) else strstrAfter needle cs

/-- The character after the first occurrence of `name` in the options of `p`, `'\0'`
at the end of the string, and `none` (`EOF`) when `name` does not occur. -/
def optionEnd (p : CtlCommandSyntax) (name : String) : Option Char :=
  (strstrAfter name.toList p.options.toList).map (·.headD '\x00')

/-- The check `parse_command` makes of one option against the verb's syntax. -/
def checkOption (p : CtlCommandSyntax) (verb : String) (option : String × Option String) :
    Except String Unit :=
  let e := optionEnd p option.1
  if e ≠ some '=' ∧ e ≠ some ',' ∧ e ≠ some ' ' ∧ e ≠ some '\x00' then
    .error ("'" ++ verb ++ "' command has no '" ++ option.1 ++ "' option")
  else if (e = some '=') ≠ option.2.isSome then
    if e = some '=' then
      .error ("missing argument to '" ++ option.1 ++ "' option on '" ++ verb ++ "' command")
    else .error ("'" ++ option.1 ++ "' option on '" ++ verb ++ "' does not accept an argument")
  else .ok ()

/-- The argument count check of `parse_command`. -/
def checkArgCount (p : CtlCommandSyntax) (args : List String) : Except String Unit :=
  if args.length < p.minArgs then
    .error ("'" ++ p.name ++ "' command requires at least " ++ toString p.minArgs ++ " arguments")
  else if p.maxArgs < args.length then
    if args.any (·.toList.head? = some '-') then
      .error ("'" ++ p.name ++ "' command takes at most " ++ toString p.maxArgs ++
        " arguments (note that options must precede command names and follow a \"--\" argument)")
    else .error ("'" ++ p.name ++ "' command takes at most " ++ toString p.maxArgs ++ " arguments")
  else .ok ()

/-- `parse_command`: the local options, then the leading option tokens, the verb,
which must be registered, and its arguments. The options are checked in the order
they were added, where the source walks its hash table. -/
def parseCommand (commands : List CtlCommandSyntax) (argv : List String)
    (localOptions : List (String × Option String)) : Except String CtlCommand := do
  let (options, rest) ← parseOptions localOptions argv
  let verb :: args := rest | .error "missing command name (use --help for help)"
  let some p := findCommand commands verb
    | .error ("unknown command '" ++ verb ++ "'; use --help for help")
  options.forM (checkOption p verb)
  checkArgCount p args
  pure ⟨p, ⟨options, verb :: args⟩⟩

/-! ### `ctl_parse_commands` -/

/-- The loop of `ctl_parse_commands`: `run` holds the tokens since the last `"--"`.
At a `"--"` or at the end a non-empty run is parsed as a command, the first one
taking the local options (`shash_swap` leaves them empty); an empty run is fatal
while local options are pending. -/
def parseCommandsLoop (commands : List CtlCommandSyntax) :
    List String → List String → List (String × Option String) → List CtlCommand →
      Except String (List CtlCommand)
  | run, [], localOptions, parsed => do
    if run ≠ [] then
      let command ← parseCommand commands run localOptions
      pure (parsed ++ [command])
    else if localOptions ≠ [] then .error "missing command name (use --help for help)"
    else pure parsed
  | run, arg :: argv, localOptions, parsed =>
    if arg = "--" then
      if run ≠ [] then do
        let command ← parseCommand commands run localOptions
        parseCommandsLoop commands [] argv [] (parsed ++ [command])
      else if localOptions ≠ [] then .error "missing command name (use --help for help)"
      else parseCommandsLoop commands [] argv localOptions parsed
    else parseCommandsLoop commands (run ++ [arg]) argv localOptions parsed

/-- `ctl_parse_commands`: the commands between `"--"` separators; none is fatal. -/
def ctlParseCommands (commands : List CtlCommandSyntax) (argv : List String)
    (localOptions : List (String × Option String)) : Except String (List CtlCommand) := do
  let parsed ← parseCommandsLoop commands [] argv localOptions []
  if parsed = [] then .error "missing command name (use --help for help)" else pure parsed

/-- `ctl_might_write_to_db`: some argument names a registered read-write command. -/
def ctlMightWriteToDb (commands : List CtlCommandSyntax) (argv : List String) : Bool :=
  argv.any fun arg => (findCommand commands arg).any (·.mode = .rw)

/-! ### The verbs of a parsed command line -/

lemma parseOptions_ok : ∀ {options : List (String × Option String)} {argv : List String}
    {options' : List (String × Option String)} {rest : List String},
    parseOptions options argv = .ok (options', rest) → rest <:+ argv
  | _, [], _, _, h => by
    cases h
    exact List.suffix_refl _
  | options, arg :: args, _, _, h => by
    unfold parseOptions at h
    split_ifs at h
    · cases h
      exact List.suffix_refl _
    · rcases hs : splitOption arg with ⟨key, value⟩
      rw [hs] at h
      dsimp only at h
      split_ifs at h
      exact (parseOptions_ok h).trans (List.suffix_cons _ _)

/-- A parsed command's verb is an argument of its run, and its syntax is the
registered command of that name. -/
lemma parseCommand_ok {commands : List CtlCommandSyntax} {argv : List String}
    {localOptions : List (String × Option String)} {command : CtlCommand}
    (h : parseCommand commands argv localOptions = .ok command) :
    ∃ verb ∈ argv, findCommand commands verb = some command.commandSyntax := by
  obtain ⟨⟨options, rest⟩, hopts, h⟩ := except_bind_eq_ok.1 h
  rcases rest with _ | ⟨verb, args⟩
  · cases h
  rcases hp : findCommand commands verb with _ | p
  · simp [hp] at h
  simp only [hp] at h
  obtain ⟨_, -, h⟩ := except_bind_eq_ok.1 h
  obtain ⟨_, -, h⟩ := except_bind_eq_ok.1 h
  cases h
  exact ⟨verb, (parseOptions_ok hopts).subset (List.mem_cons_self _ _), hp⟩

/-- Every command the loop of `ctl_parse_commands` returns was parsed before it or
has its verb among the tokens it had still to read. -/
lemma parseCommandsLoop_ok {commands : List CtlCommandSyntax} {all : List String} :
    ∀ {run argv : List String} {localOptions : List (String × Option String)}
      {parsed cmds : List CtlCommand},
      parseCommandsLoop commands run argv localOptions parsed = .ok cmds →
      (∀ c ∈ parsed, ∃ verb ∈ all, findCommand commands verb = some c.commandSyntax) →
      (∀ a ∈ run ++ argv, a ∈ all) →
      ∀ c ∈ cmds, ∃ verb ∈ all, findCommand commands verb = some c.commandSyntax
  | run, [], localOptions, parsed, cmds, h, hp, hall => by
    have hparse : ∀ command, parseCommand commands run localOptions = .ok command →
        ∃ verb ∈ all, findCommand commands verb = some command.commandSyntax := fun command hc =>
      let ⟨verb, hv, hf⟩ := parseCommand_ok hc
      ⟨verb, hall verb (by simpa using hv), hf⟩
    unfold parseCommandsLoop at h
    split_ifs at h
    · obtain ⟨command, hc, h⟩ := except_bind_eq_ok.1 h
      cases h
      simpa [or_imp, forall_and] using ⟨hp, hparse command hc⟩
    · cases h
      exact hp
  | run, arg :: argv, localOptions, parsed, cmds, h, hp, hall => by
    have hparse : ∀ command, parseCommand commands run localOptions = .ok command →
        ∃ verb ∈ all, findCommand commands verb = some command.commandSyntax := fun command hc =>
      let ⟨verb, hv, hf⟩ := parseCommand_ok hc
      ⟨verb, hall verb (List.mem_append_left _ hv), hf⟩
    have hrest : ∀ a ∈ argv, a ∈ all := fun a ha => hall a (by simp [ha])
    unfold parseCommandsLoop at h
    split_ifs at h
    · obtain ⟨command, hc, h⟩ := except_bind_eq_ok.1 h
      refine parseCommandsLoop_ok h (fun c hc' => ?_) (by simpa using hrest)
      rcases List.mem_append.1 hc' with hc' | hc'
      · exact hp c hc'
      · exact (List.mem_singleton.1 hc') ▸ hparse command hc
    · exact parseCommandsLoop_ok h hp (by simpa using hrest)
    · exact parseCommandsLoop_ok h hp (by simpa [or_assoc] using hall)

/-- Every command `ctl_parse_commands` returns has its verb among the arguments, and
its syntax is the registered command of that name. -/
lemma ctlParseCommands_ok {commands : List CtlCommandSyntax} {argv : List String}
    {localOptions : List (String × Option String)} {cmds : List CtlCommand}
    (h : ctlParseCommands commands argv localOptions = .ok cmds) :
    ∀ c ∈ cmds, ∃ verb ∈ argv, findCommand commands verb = some c.commandSyntax := by
  obtain ⟨parsed, hloop, h⟩ := except_bind_eq_ok.1 h
  split_ifs at h
  cases h
  exact parseCommandsLoop_ok hloop (by simp) (by simp)

/-- `ctl_might_write_to_db` has no false negatives: when a command that
`ctl_parse_commands` returns is read-write, it says the command line might write. -/
theorem ctlMightWriteToDb_of_ctlParseCommands (commands : List CtlCommandSyntax) (argv : List String)
    (localOptions : List (String × Option String)) (cmds : List CtlCommand)
    (h : ctlParseCommands commands argv localOptions = .ok cmds)
    (hrw : ∃ c ∈ cmds, c.commandSyntax.mode = .rw) : ctlMightWriteToDb commands argv = true := by
  obtain ⟨c, hc, hmode⟩ := hrw
  obtain ⟨verb, hv, hf⟩ := ctlParseCommands_ok h c hc
  exact List.any_eq_true.2 ⟨verb, hv, by simp [hf, hmode]⟩

theorem ctlMightWriteToDb_of_ctlParseCommands_set :
    ctlParseCommands dbCtlCommands ["--if-exists", "set", "T", "R", "C=1", "--", "list", "T"] [] =
      .ok [⟨⟨"set", 3, intMax, "--if-exists", .rw⟩, ⟨[("--if-exists", none)], ["set", "T", "R", "C=1"]⟩⟩,
        ⟨⟨"list", 1, intMax, "--if-exists,--columns=", .ro⟩, ⟨[], ["list", "T"]⟩⟩] ∧
    ctlMightWriteToDb dbCtlCommands ["--if-exists", "set", "T", "R", "C=1", "--", "list", "T"] = true :=
  have h : ctlParseCommands dbCtlCommands ["--if-exists", "set", "T", "R", "C=1", "--", "list", "T"] [] =
      .ok [⟨⟨"set", 3, intMax, "--if-exists", .rw⟩, ⟨[("--if-exists", none)], ["set", "T", "R", "C=1"]⟩⟩,
        ⟨⟨"list", 1, intMax, "--if-exists,--columns=", .ro⟩, ⟨[], ["list", "T"]⟩⟩] := rfl
  ⟨h, ctlMightWriteToDb_of_ctlParseCommands _ _ _ _ h ⟨_, List.mem_cons_self _ _, rfl⟩⟩

/-! ### The commands of a command line -/

/-- The runs of a command line: its maximal non-empty stretches between `"--"`
separators. -/
def commandRuns (argv : List String) : List (List String) :=
  (argv.splitOnP fun a => a = "--").filter (· ≠ [])

/-- Command `c` is `run` parsed with the local options `localOptions`: the run's leading
tokens that begin with `-`, each split at its first `=`, follow the local options, and
the rest of the run, from the verb on, is the command's argument vector. -/
def ParsedRun (localOptions : List (String × Option String)) (run : List String) (c : CtlCommand) :
    Prop :=
  ∃ opts rest, run = opts ++ rest ∧ (∀ t ∈ opts, t.toList.head? = some '-') ∧
    (∃ verb args, rest = verb :: args ∧ verb.toList.head? ≠ some '-') ∧
    c.args.options = localOptions ++ opts.map splitOption ∧ c.args.argv = rest

/-- The commands are the runs parsed one to one and in order, the first with the
local options and every later one without. -/
def ParsedRuns (localOptions : List (String × Option String)) :
    List (List String) → List CtlCommand → Prop
  | [], [] => True
  | run :: runs, c :: cs => ParsedRun localOptions run c ∧ ParsedRuns [] runs cs
  | _, _ => False

/-- The spec of the option loop of `parse_command`: it takes the longest prefix of
tokens that begin with `-`. -/
lemma parseOptions_eq_ok : ∀ {options : List (String × Option String)} {argv : List String}
    {options' : List (String × Option String)} {rest : List String},
    parseOptions options argv = .ok (options', rest) →
    ∃ opts, argv = opts ++ rest ∧ (∀ t ∈ opts, t.toList.head? = some '-') ∧
      options' = options ++ opts.map splitOption ∧
      ∀ verb args, rest = verb :: args → verb.toList.head? ≠ some '-'
  | _, [], _, _, h => by
    cases h
    exact ⟨[], rfl, by simp, by simp, by simp⟩
  | options, arg :: args, _, _, h => by
    unfold parseOptions at h
    split_ifs at h with hd
    · cases h
      exact ⟨[], rfl, by simp, by simp, fun _ _ he => by cases he; exact hd⟩
    · rcases hs : splitOption arg with ⟨key, value⟩
      rw [hs] at h
      dsimp only at h
      split_ifs at h
      obtain ⟨opts, rfl, hopts, rfl, hrest⟩ := parseOptions_eq_ok h
      exact ⟨arg :: opts, rfl, List.forall_mem_cons.2 ⟨not_not.1 hd, hopts⟩, by simp [hs], hrest⟩

lemma parseCommand_parsedRun {commands : List CtlCommandSyntax} {run : List String}
    {localOptions : List (String × Option String)} {c : CtlCommand}
    (h : parseCommand commands run localOptions = .ok c) : ParsedRun localOptions run c := by
  obtain ⟨⟨options, rest⟩, hopts, h⟩ := except_bind_eq_ok.1 h
  obtain ⟨opts, rfl, hlead, rfl, hrest⟩ := parseOptions_eq_ok hopts
  rcases rest with _ | ⟨verb, args⟩
  · cases h
  rcases hp : findCommand commands verb with _ | p
  · simp [hp] at h
  simp only [hp] at h
  obtain ⟨_, -, h⟩ := except_bind_eq_ok.1 h
  obtain ⟨_, -, h⟩ := except_bind_eq_ok.1 h
  cases h
  exact ⟨opts, _, rfl, hlead, ⟨verb, args, rfl, hrest verb args rfl⟩, rfl, rfl⟩

/-- A stretch with no separator is one run, or none when it is empty. -/
lemma commandRuns_nil_right {run : List String} (hrun : "--" ∉ run) :
    commandRuns run = if run = [] then [] else [run] := by
  rw [commandRuns, List.splitOnP_eq_single _ _ fun x hx => by simp [ne_of_mem_of_not_mem hx hrun]]
  split_ifs with h <;> simp [h]

/-- A stretch with no separator, then a separator: the stretch is the first run. -/
lemma commandRuns_append_sep {run : List String} (hrun : "--" ∉ run) (argv : List String) :
    commandRuns (run ++ "--" :: argv) = (if run = [] then [] else [run]) ++ commandRuns argv := by
  rw [commandRuns, List.splitOnP_first _ _ (fun x hx => by simp [ne_of_mem_of_not_mem hx hrun]) _
    (by simp)]
  split_ifs with h <;> simp [h, commandRuns]

/-- The invariant of the loop of `ctl_parse_commands`: the commands it returns are
those parsed so far, then the runs of the tokens pending and still to read, the first
with the pending local options. -/
lemma parseCommandsLoop_runs {commands : List CtlCommandSyntax} :
    ∀ {run argv : List String} {localOptions : List (String × Option String)}
      {parsed cmds : List CtlCommand}, "--" ∉ run →
      parseCommandsLoop commands run argv localOptions parsed = .ok cmds →
      ∃ cs, cmds = parsed ++ cs ∧ ParsedRuns localOptions (commandRuns (run ++ argv)) cs
  | run, [], localOptions, parsed, cmds, hrun, h => by
    rw [List.append_nil, commandRuns_nil_right hrun]
    unfold parseCommandsLoop at h
    split_ifs at h with hne
    · obtain ⟨c, hc, h⟩ := except_bind_eq_ok.1 h
      cases h
      exact ⟨[c], rfl, by simpa [hne, ParsedRuns] using parseCommand_parsedRun hc⟩
    · cases h
      exact ⟨[], by simp, by simp [not_not.1 hne, ParsedRuns]⟩
  | run, arg :: argv, localOptions, parsed, cmds, hrun, h => by
    unfold parseCommandsLoop at h
    split_ifs at h with hsep hne hlo
    · subst hsep
      obtain ⟨c, hc, h⟩ := except_bind_eq_ok.1 h
      obtain ⟨cs, rfl, hcs⟩ := parseCommandsLoop_runs (List.not_mem_nil _) h
      refine ⟨c :: cs, by simp, ?_⟩
      rw [commandRuns_append_sep hrun, if_neg hne]
      exact ⟨parseCommand_parsedRun hc, hcs⟩
    · subst hsep
      obtain ⟨cs, rfl, hcs⟩ := parseCommandsLoop_runs (List.not_mem_nil _) h
      rw [commandRuns_append_sep hrun, if_pos (not_not.1 hne)]
      exact ⟨cs, rfl, by simpa using hcs⟩
    · obtain ⟨cs, rfl, hcs⟩ := parseCommandsLoop_runs (by simp [hrun, Ne.symm hsep]) h
      exact ⟨cs, rfl, by simpa using hcs⟩

/-- No token but the separators is lost or repeated among the runs. -/
lemma flatten_commandRuns : ∀ argv : List String, (commandRuns argv).flatten = argv.filter (· ≠ "--")
  | [] => rfl
  | a :: argv => by
    have ih := flatten_commandRuns argv
    unfold commandRuns at ih ⊢
    rw [List.splitOnP_cons]
    by_cases ha : a = "--"
    · simpa [ha] using ih
    · obtain ⟨first, rest, hsplit⟩ := List.exists_cons_of_ne_nil (List.splitOnP_ne_nil
        (fun a => decide (a = "--")) argv)
      rw [hsplit] at ih ⊢
      by_cases hf : first = [] <;> simp_all

/-- `ctl_parse_commands` cuts the command line at its `"--"` separators: the commands
it returns are its non-empty runs, one to one and in order, each parsed into its
leading options and its arguments from the verb on, the local options going to the
first command only; the runs hold every token but the separators, once; and an empty
run before the first command is fatal while local options are pending. -/
theorem ctlParseCommands_runs (commands : List CtlCommandSyntax) (argv : List String)
    (localOptions : List (String × Option String)) :
    (∀ cmds, ctlParseCommands commands argv localOptions = .ok cmds →
      ParsedRuns localOptions (commandRuns argv) cmds) ∧
    (commandRuns argv).flatten = argv.filter (· ≠ "--") ∧
    (localOptions ≠ [] → argv.takeWhile (· ≠ "--") = [] →
      ∃ msg, ctlParseCommands commands argv localOptions = .error msg) := by
  refine ⟨fun cmds h => ?_, flatten_commandRuns argv, fun hlo hfirst => ?_⟩
  · obtain ⟨parsed, hloop, h⟩ := except_bind_eq_ok.1 h
    split_ifs at h
    cases h
    simpa using parseCommandsLoop_runs (List.not_mem_nil _) hloop
  · refine ⟨"missing command name (use --help for help)", ?_⟩
    rcases argv with _ | ⟨arg, argv⟩
    · simp [ctlParseCommands, parseCommandsLoop, hlo]
    · have hsep : arg = "--" := by simpa [List.takeWhile_cons] using hfirst
      simp [ctlParseCommands, parseCommandsLoop, hsep, hlo]

theorem ctlParseCommands_runs_get :
    ParsedRuns [("--if-exists", none)]
        (commandRuns ["get", "T", "R", "--", "--", "--columns=_uuid", "list", "T"])
        [⟨⟨"get", 2, intMax, "--if-exists,--id=", .ro⟩, ⟨[("--if-exists", none)], ["get", "T", "R"]⟩⟩,
          ⟨⟨"list", 1, intMax, "--if-exists,--columns=", .ro⟩,
            ⟨[("--columns", some "_uuid")], ["list", "T"]⟩⟩] ∧
      ∃ msg, ctlParseCommands dbCtlCommands ["--", "get", "T", "R"] [("--if-exists", none)] = .error msg :=
  ⟨(ctlParseCommands_runs dbCtlCommands ["get", "T", "R", "--", "--", "--columns=_uuid", "list", "T"]
      [("--if-exists", none)]).1 _ rfl,
    (ctlParseCommands_runs dbCtlCommands ["--", "get", "T", "R"] [("--if-exists", none)]).2.2
      (by decide) (by decide)⟩

/-! ### The option check of `parse_command` -/

/-- What the option check of `parse_command` lets through: the character after the
first occurrence of the key in the syntax's options string ends an entry, and it is
`=` exactly when the option has a value. -/
def OptionAccepted (p : CtlCommandSyntax) (option : String × Option String) : Prop :=
  optionEnd p option.1 ∈ [some '=', some ',', some ' ', some '\x00'] ∧
    (optionEnd p option.1 = some '=' ↔ option.2.isSome)

/-- A command as `parse_command` returns it: its verb is registered with its syntax and
is followed by between `min_args` and `max_args` arguments, its option keys are
distinct, and the option check lets each of its options through. -/
structure Accepted (commands : List CtlCommandSyntax) (c : CtlCommand) : Prop where
  verb : ∃ verb args, c.args.argv = verb :: args ∧ findCommand commands verb = some c.commandSyntax ∧
    c.commandSyntax.minArgs ≤ args.length ∧ args.length ≤ c.commandSyntax.maxArgs
  nodup : (c.args.options.map Prod.fst).Nodup
  options : ∀ o ∈ c.args.options, OptionAccepted c.commandSyntax o

lemma forM_except_eq_ok {α : Type} {f : α → Except String Unit} :
    ∀ {xs : List α}, xs.forM f = .ok () ↔ ∀ x ∈ xs, f x = .ok ()
  | [] => by simp
  | x :: xs => by
    rw [List.forM_cons', except_bind_eq_ok, List.forall_mem_cons, ← forM_except_eq_ok]
    exact ⟨fun ⟨_, hx, hxs⟩ => ⟨hx, hxs⟩, fun ⟨hx, hxs⟩ => ⟨(), hx, hxs⟩⟩

lemma checkOption_eq_ok {p : CtlCommandSyntax} {verb : String} {option : String × Option String} :
    checkOption p verb option = .ok () ↔ OptionAccepted p option := by
  unfold checkOption OptionAccepted
  dsimp only
  generalize optionEnd p option.1 = e
  have hmem : e ∈ [some '=', some ',', some ' ', some '\x00'] ↔
      ¬(e ≠ some '=' ∧ e ≠ some ',' ∧ e ≠ some ' ' ∧ e ≠ some '\x00') := by simp; tauto
  rw [hmem]
  split_ifs with hend hval
  · simp [hend]
  · simp only [reduceCtorEq, false_iff, not_and]
    exact fun _ h => hval (propext h)
  · simp only [reduceCtorEq, false_iff, not_and]
    exact fun _ h => hval (propext h)
  · exact iff_of_true rfl ⟨hend, by simpa using hval⟩

lemma checkArgCount_eq_ok {p : CtlCommandSyntax} {args : List String} :
    checkArgCount p args = .ok () ↔ p.minArgs ≤ args.length ∧ args.length ≤ p.maxArgs := by
  unfold checkArgCount
  split_ifs <;> simp_all

/-- The option loop of `parse_command` adds a key only when it is not there yet. -/
lemma parseOptions_nodup : ∀ {options : List (String × Option String)} {argv : List String}
    {options' : List (String × Option String)} {rest : List String},
    (options.map Prod.fst).Nodup → parseOptions options argv = .ok (options', rest) →
      (options'.map Prod.fst).Nodup
  | _, [], _, _, hnd, h => by
    cases h
    exact hnd
  | options, arg :: args, _, _, hnd, h => by
    unfold parseOptions at h
    split_ifs at h with hd
    · cases h
      exact hnd
    · rcases hs : splitOption arg with ⟨key, value⟩
      rw [hs] at h
      dsimp only at h
      split_ifs at h with hkey
      refine parseOptions_nodup ?_ h
      rw [List.map_append, List.map_singleton]
      exact hnd.append (List.nodup_singleton _) (List.disjoint_singleton.2 fun hmem =>
        hkey (by simpa [List.lookup_isSome_iff] using hmem))

/-- `parse_command` returns only commands its syntax accepts. -/
lemma parseCommand_accepted {commands : List CtlCommandSyntax} {run : List String}
    {localOptions : List (String × Option String)} {c : CtlCommand}
    (hlocal : (localOptions.map Prod.fst).Nodup) (h : parseCommand commands run localOptions = .ok c) :
    Accepted commands c := by
  obtain ⟨⟨options, rest⟩, hopts, h⟩ := except_bind_eq_ok.1 h
  rcases rest with _ | ⟨verb, args⟩
  · cases h
  rcases hp : findCommand commands verb with _ | p
  · simp [hp] at h
  simp only [hp] at h
  obtain ⟨_, hcheck, h⟩ := except_bind_eq_ok.1 h
  obtain ⟨_, hcount, h⟩ := except_bind_eq_ok.1 h
  cases h
  exact ⟨⟨verb, args, rfl, hp, checkArgCount_eq_ok.1 hcount⟩, parseOptions_nodup hlocal hopts,
    fun o ho => checkOption_eq_ok.1 (forM_except_eq_ok.1 hcheck o ho)⟩

/-- The loop of `ctl_parse_commands` parses every command with the local options or
with none, so each command it returns is accepted. -/
lemma parseCommandsLoop_accepted {commands : List CtlCommandSyntax} :
    ∀ {run argv : List String} {localOptions : List (String × Option String)} {parsed cmds : List CtlCommand},
      (localOptions.map Prod.fst).Nodup → (∀ c ∈ parsed, Accepted commands c) →
      parseCommandsLoop commands run argv localOptions parsed = .ok cmds → ∀ c ∈ cmds, Accepted commands c
  | run, [], localOptions, parsed, cmds, hlocal, hp, h => by
    unfold parseCommandsLoop at h
    split_ifs at h
    · obtain ⟨command, hc, h⟩ := except_bind_eq_ok.1 h
      cases h
      simpa [or_imp, forall_and] using ⟨hp, parseCommand_accepted hlocal hc⟩
    · cases h
      exact hp
  | run, arg :: argv, localOptions, parsed, cmds, hlocal, hp, h => by
    unfold parseCommandsLoop at h
    split_ifs at h
    · obtain ⟨command, hc, h⟩ := except_bind_eq_ok.1 h
      refine parseCommandsLoop_accepted (by simp) (fun c hc' => ?_) h
      rcases List.mem_append.1 hc' with hc' | hc'
      · exact hp c hc'
      · exact (List.mem_singleton.1 hc') ▸ parseCommand_accepted hlocal hc
    · exact parseCommandsLoop_accepted hlocal hp h
    · exact parseCommandsLoop_accepted hlocal hp h

/-- Every command `ctl_parse_commands` returns, from local options with distinct keys,
is one its syntax accepts: a registered verb followed by between `min_args` and
`max_args` arguments, options with distinct keys (the local options included), and
options that pass the `strstr` check against the syntax's options string, with a value
exactly when the key is followed by `=` there. -/
theorem ctlParseCommands_accepted (commands : List CtlCommandSyntax) (argv : List String)
    (localOptions : List (String × Option String)) (hlocal : (localOptions.map Prod.fst).Nodup)
    (cmds : List CtlCommand) (h : ctlParseCommands commands argv localOptions = .ok cmds) :
    ∀ c ∈ cmds, Accepted commands c := by
  obtain ⟨parsed, hloop, h⟩ := except_bind_eq_ok.1 h
  split_ifs at h
  cases h
  exact parseCommandsLoop_accepted hlocal (by simp) hloop

theorem ctlParseCommands_accepted_get :
    (([("--if-exists", none)] : List (String × Option String)).map Prod.fst).Nodup ∧
      ∀ c ∈ [(⟨⟨"get", 2, intMax, "--if-exists,--id=", .ro⟩,
          ⟨[("--if-exists", none), ("--id", some "@r")], ["get", "T", "R"]⟩⟩ : CtlCommand),
        ⟨⟨"list", 1, intMax, "--if-exists,--columns=", .ro⟩, ⟨[], ["list", "T"]⟩⟩],
        Accepted dbCtlCommands c :=
  ⟨by decide, ctlParseCommands_accepted dbCtlCommands ["--id=@r", "get", "T", "R", "--", "list", "T"]
    [("--if-exists", none)] (by decide) _ rfl⟩

/-! ### The option check, in the words of the options string -/

end DbCtlBase
