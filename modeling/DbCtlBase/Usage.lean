import Mathlib.Data.List.Basic

/-!
`print_command_arguments`, which `ctl_print_commands` calls to turn a command's
argument syntax into the sigils of the bash completion script. It scans the syntax
backward and writes backward from the end of a buffer of `2 * strlen` bytes.

* `printCommandArguments_length_le`: the scan writes at most two bytes a character,
  plus the terminating NUL and the final sigil, so at most `2 * strlen + 2` bytes.
* `printCommandArguments_overflows`: two bytes too many for the buffer are within
  reach: the syntax `a` writes `!a` and its NUL, three bytes into a buffer of two,
  and `A ` writes five into four.
* `printCommandArguments_fits`: a syntax with at least two characters other than spaces,
  as every registered one is, stays within the buffer.
-/

namespace DbCtlBase

/-- The state of the backward scan of `print_command_arguments`: the stack of nested
optionals (`uint32_t oew_stack`), the two flags, and the bytes written so far, from
`outp` to the end of the buffer. -/
structure ArgScan where
  oewStack : UInt32
  inRepeated : Bool
  wholeWordIsOptional : Bool
  written : List Char
  deriving DecidableEq, Repr

/-- The sigil of a required argument: `+` when it may repeat, `!` otherwise. -/
def requiredSigil (inRepeated : Bool) : Char := if inRepeated then '+' else '!'

/-- One iteration of the scan, at character `c` with the character before it
(`none` at the start of the text) and the one after it (`none` at its NUL). -/
def argScanStep (prev : Option Char) (c : Char) (next : Option Char) (st : ArgScan) : ArgScan :=
  match c with
  | ']' =>
    { st with oewStack := (st.oewStack <<< 1) |||
        (if next = none ∨ next = some ' ' ∨ next = some '.' then 1 else 0) }
  | '[' =>
    if (prev = none ∨ prev = some ' ') ∧ st.oewStack &&& 1 ≠ 0 then
      { st with written := (if st.inRepeated then '*' else '?') :: st.written,
                wholeWordIsOptional := true, oewStack := st.oewStack >>> 1 }
    else
      { st with written := '?' :: st.written, wholeWordIsOptional := false,
                oewStack := st.oewStack >>> 1 }
  | ' ' =>
    { st with
      written := ' ' :: ((if st.wholeWordIsOptional then [] else [requiredSigil st.inRepeated]) ++ st.written),
      inRepeated := false, wholeWordIsOptional := false }
  | '.' => { st with inRepeated := true }
  | c => { st with written := c :: st.written }

/-- Each byte of the argument text with the byte before it and the byte after it. -/
def argWindows : Option Char → List Char → List (Option Char × Char × Option Char)
  | _, [] => []
  | prev, c :: cs => (prev, c, cs.head?) :: argWindows (some c) cs

/-- The scan from the last byte to the first, from a buffer holding only the NUL. -/
def argScan (arguments : List Char) : ArgScan :=
  (argWindows none arguments).foldr (fun w st => argScanStep w.1 w.2.1 w.2.2 st) ⟨0, false, false, ['\x00']⟩

/-- `print_command_arguments`, on the bytes of the argument syntax: the bytes it writes
into its buffer, from the lowest address `outp` reaches to the end; nothing for an
empty syntax. The buffer holds `2 * arguments.length` bytes, so the writes stay in it
exactly when there are at most that many. -/
def printCommandArguments (arguments : List Char) : Option (List Char) :=
  if arguments = [] then none
  else
    let st := argScan arguments
    some (if arguments.head? ≠ some '[' ∧ st.written.length ≠ 1 then
      requiredSigil st.inRepeated :: st.written else st.written)

lemma length_argWindows : ∀ (prev : Option Char) (arguments : List Char),
    (argWindows prev arguments).length = arguments.length
  | _, [] => rfl
  | _, _ :: cs => by rw [argWindows, List.length_cons, length_argWindows, List.length_cons]

/-- One iteration writes at most two bytes, at a space that needs a sigil. -/
lemma argScanStep_written_length_le (prev : Option Char) (c : Char) (next : Option Char) (st : ArgScan) :
    (argScanStep prev c next st).written.length ≤ st.written.length + 2 := by
  unfold argScanStep
  split
  · simp
  · split <;> simp
  · split <;> simp
  · simp
  · simp

lemma argScan_written_length_le (arguments : List Char) :
    (argScan arguments).written.length ≤ 2 * arguments.length + 1 := by
  rw [argScan, ← length_argWindows none arguments]
  induction argWindows none arguments with
  | nil => simp
  | cons w ws ih =>
    rw [List.foldr_cons, List.length_cons]
    have := argScanStep_written_length_le w.1 w.2.1 w.2.2
      (ws.foldr (fun w st => argScanStep w.1 w.2.1 w.2.2 st) ⟨0, false, false, ['\x00']⟩)
    omega

/-- **The overflow is at most two bytes**: for every argument syntax, `print_command_arguments`
writes at most `2 * strlen + 2` bytes, two a character, the NUL and the final sigil, so it
runs past its buffer of `2 * strlen` bytes by two bytes at most. -/
theorem printCommandArguments_length_le (arguments written : List Char)
    (h : printCommandArguments arguments = some written) : written.length ≤ 2 * arguments.length + 2 := by
  unfold printCommandArguments at h
  split_ifs at h
  cases h
  have := argScan_written_length_le arguments
  split_ifs
  · rw [List.length_cons]
    omega
  · omega

/-- The syntax `a`, whose three bytes overflow its buffer of two, stays within the bound. -/
theorem printCommandArguments_length_le_a :
    printCommandArguments ['a'] = some ['!', 'a', '\x00'] ∧ ['!', 'a', '\x00'].length ≤ 2 * ['a'].length + 2 :=
  ⟨rfl, printCommandArguments_length_le ['a'] _ rfl⟩

/-- One iteration writes at most one byte, and two only at a space. -/
lemma argScanStep_written_length_le_space (prev : Option Char) (c : Char) (next : Option Char) (st : ArgScan) :
    (argScanStep prev c next st).written.length ≤ st.written.length + if c = ' ' then 2 else 1 := by
  unfold argScanStep
  split
  · simp
  · split <;> simp
  · split <;> simp
  · simp
  · simp_all

lemma foldr_argWindows_written_length_le : ∀ (prev : Option Char) (arguments : List Char),
    ((argWindows prev arguments).foldr (fun w st => argScanStep w.1 w.2.1 w.2.2 st)
      ⟨0, false, false, ['\x00']⟩).written.length ≤ arguments.length + (arguments.filter (· = ' ')).length + 1
  | _, [] => le_refl _
  | prev, c :: cs => by
    have ih := foldr_argWindows_written_length_le (some c) cs
    have hstep := argScanStep_written_length_le_space prev c cs.head?
      ((argWindows (some c) cs).foldr (fun w st => argScanStep w.1 w.2.1 w.2.2 st) ⟨0, false, false, ['\x00']⟩)
    rw [argWindows, List.foldr_cons, List.length_cons, List.filter_cons]
    split_ifs at hstep ⊢ with hc <;> simp_all <;> omega

/-- **The buffer suffices when two characters are not spaces**: `print_command_arguments`
writes one byte a character, a sigil after a space, the NUL and the final sigil, so a
syntax with at least two characters other than spaces stays within its `2 * strlen`
bytes. Every syntax `db_ctl_commands` registers is of that kind, and that of `show`, which
`ctl_init` adds, is empty. -/
theorem printCommandArguments_fits (arguments written : List Char)
    (hspaces : (arguments.filter (· = ' ')).length + 2 ≤ arguments.length)
    (h : printCommandArguments arguments = some written) : written.length ≤ 2 * arguments.length := by
  unfold printCommandArguments at h
  split_ifs at h
  cases h
  have := foldr_argWindows_written_length_le none arguments
  rw [← argScan] at this
  split_ifs
  · rw [List.length_cons]
    omega
  · omega

/-- `list`'s syntax `TABLE [RECORD]...`. -/
theorem printCommandArguments_fits_list :
    (['T', 'A', 'B', 'L', 'E', ' ', '[', 'R', 'E', 'C', 'O', 'R', 'D', ']', '.', '.', '.'].filter
        (· = ' ')).length + 2 ≤ 17 ∧
      ∃ written, printCommandArguments
        ['T', 'A', 'B', 'L', 'E', ' ', '[', 'R', 'E', 'C', 'O', 'R', 'D', ']', '.', '.', '.'] = some written ∧
        written.length ≤ 2 * 17 :=
  ⟨by decide, _, rfl, printCommandArguments_fits
    ['T', 'A', 'B', 'L', 'E', ' ', '[', 'R', 'E', 'C', 'O', 'R', 'D', ']', '.', '.', '.'] _ (by decide) rfl⟩

/-- The buffer of `2 * strlen` bytes overflows: the syntax `a` writes `!a` and the NUL,
three bytes into two, and `A ` writes `!A !` and the NUL, five bytes into four. -/
theorem printCommandArguments_overflows :
    printCommandArguments ['a'] = some ['!', 'a', '\x00'] ∧ 2 * ['a'].length < 3 ∧
    printCommandArguments ['A', ' '] = some ['!', 'A', ' ', '!', '\x00'] ∧ 2 * ['A', ' '].length < 5 := by
  decide

end DbCtlBase
