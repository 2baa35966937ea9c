import TerminalKernel.Computer.Syscall

/-!
# Bounded copies of strings

A call that takes a string copies only its first bytes into the kernel. For a command these are
enough for a name, a space and the arguments that a process keeps; for a file they are one more than
a name can have. A command or a name that goes on beyond them is treated as if it had been copied
whole: a name that was cut is too long to be found either way, and arguments that were cut are cut
again where the process is made.
-/

namespace TerminalKernel

/-! ## Cutting and splitting -/

namespace Bytes

variable {p : UInt8 → Bool}

theorem takeWhile_take (bytes : List UInt8) (n : Nat) :
    (bytes.take n).takeWhile p = (bytes.takeWhile p).take n := by
  induction bytes generalizing n with
  | nil => simp only [List.take_nil, List.takeWhile_nil]
  | cons b rest ih =>
    cases n with
    | zero => rfl
    | succ n =>
      rw [List.take_succ_cons, List.takeWhile_cons, List.takeWhile_cons]
      split
      · rw [ih, List.take_succ_cons]
      · rw [List.take_nil]

theorem dropWhile_take (bytes : List UInt8) (n : Nat) :
    (bytes.take n).dropWhile p = (bytes.dropWhile p).take (n - (bytes.takeWhile p).length) := by
  induction bytes generalizing n with
  | nil => simp only [List.take_nil, List.dropWhile_nil]
  | cons b rest ih =>
    cases n with
    | zero => simp only [List.take_zero, List.dropWhile_nil, Nat.zero_sub]
    | succ n =>
      rw [List.take_succ_cons, List.dropWhile_cons, List.dropWhile_cons, List.takeWhile_cons]
      split
      · rw [ih, List.length_cons, Nat.add_sub_add_right]
      · rw [List.length_nil, Nat.sub_zero, List.take_succ_cons]

theorem untilNul_take (bytes : List UInt8) (n : Nat) :
    untilNul (bytes.take n) = (untilNul bytes).take n :=
  takeWhile_take bytes n

theorem padTo_take {size n : Nat} (enough : size ≤ n) (bytes : List UInt8) :
    padTo size (bytes.take n) = padTo size bytes := by
  unfold padTo
  rw [List.take_take, Nat.min_eq_left enough, List.length_take]
  congr 2
  omega

end Bytes

namespace Command

theorem name_parse_take (line : List UInt8) (n : Nat) :
    (parse (line.take n)).name = (parse line).name.take n :=
  Bytes.takeWhile_take line n

/-- Of a command line that is cut, the name and the space leave so much less to the arguments. -/
theorem args_parse_take (line : List UInt8) (n : Nat) :
    (parse (line.take n)).args = (parse line).args.take (n - (parse line).name.length - 1) := by
  simp only [parse, Bytes.dropWhile_take]
  generalize n - _ = m
  generalize line.dropWhile _ = tail
  cases tail with
  | nil => simp only [List.take_nil]
  | cons b rest =>
    cases m with
    | zero => simp only [List.take_zero, Nat.zero_sub]
    | succ m =>
      simp only [List.take_succ_cons, Nat.add_sub_cancel]
      split
      · exact Bytes.takeWhile_take rest m
      · rw [List.take_nil]

end Command

/-! ## Names -/

namespace FileSystem

variable {fs : FileSystem} {name : List UInt8} {n : Nat}

theorem lookup_of_long (long : fileNameLength < name.length) :
    fs.lookup name = .error .notFound :=
  if_pos (.inr long)

/-- A name that is cut behind its last possible byte is found if and only if it was to be found. -/
theorem lookup_take (enough : fileNameLength < n) (name : List UInt8) :
    fs.lookup (name.take n) = fs.lookup name := by
  rcases Nat.lt_or_ge fileNameLength name.length with long | short
  · have still : fileNameLength < (name.take n).length := by
      rw [List.length_take]
      exact Nat.lt_min.mpr ⟨enough, long⟩
    rw [lookup_of_long long, lookup_of_long still]
  · rw [List.take_of_length_le (Nat.le_trans short (Nat.le_of_lt enough))]

theorem findProgram_of_long (long : fileNameLength < name.length) :
    fs.findProgram name = .error .notFound := by
  have filled : name.isEmpty = false := by
    cases name with
    | nil => cases long
    | cons b rest => rfl
  simp only [findProgram, filled, lookup_of_long long]
  rfl

end FileSystem

namespace Kernel

variable {k : Kernel} {name : List UInt8} {n : Nat}

/-! ## Arguments -/

theorem load_take_args (enough : maxArgsLength ≤ n) (t : TerminalId) (file : ProgramFile)
    (args : List UInt8) (save : Option TerminalId) :
    k.load t file (args.take n) save = k.load t file args save := by
  simp only [load, ProcessTable.allocate, ProcessRecord.new, Bytes.padTo_take enough]

theorem spawn_take_args (enough : maxArgsLength ≤ n) (t : TerminalId) (name args : List UInt8)
    (save : Option TerminalId) :
    k.spawn t name (args.take n) save = k.spawn t name args save := by
  simp only [spawn, load_take_args enough]

theorem spawn_of_long (long : fileNameLength < name.length) (t : TerminalId) (args : List UInt8)
    (save : Option TerminalId) : k.spawn t name args save = (k, .error .notFound) := by
  simp only [spawn, FileSystem.findProgram_of_long long]

/-! ## Commands and files -/

theorem ne_exitName_of_long (long : fileNameLength < name.length) : name ≠ Command.exitName := by
  rintro rfl
  simp only [Command.exitName, fileNameLength, List.length_cons, List.length_nil] at long
  omega

theorem execute_of_long {line : List UInt8}
    (long : fileNameLength < (Command.parse line).name.length) :
    k.execute line = (k, .error .notFound) := by
  simp only [execute, if_neg (ne_exitName_of_long long), spawn_of_long long]
  rfl

/-- A name that fits leaves room for the space and for all arguments that a process keeps. -/
theorem execute_take (enough : Computer.commandLimit ≤ n) (line : List UInt8) :
    k.execute (line.take n) = k.execute line := by
  have sizes : fileNameLength + 1 + maxArgsLength ≤ n := enough
  have name_eq := Command.name_parse_take line n
  rcases Nat.lt_or_ge fileNameLength (Command.parse line).name.length with long | short
  · have still : fileNameLength < (Command.parse (line.take n)).name.length := by
      rw [name_eq, List.length_take]
      omega
    rw [execute_of_long long, execute_of_long still]
  · have fits : (Command.parse line).name.length ≤ n := by omega
    have room : maxArgsLength ≤ n - (Command.parse line).name.length - 1 := by omega
    rw [List.take_of_length_le fits] at name_eq
    unfold execute
    dsimp only
    rw [name_eq, Command.args_parse_take, spawn_take_args room]

theorem openFile_take (enough : Computer.nameLimit ≤ n) (name : List UInt8) :
    k.openFile (name.take n) = k.openFile name := by
  simp only [openFile, FileSystem.lookup_take enough]

/-! ## Strings of the running program -/

/-- The whole string of the running program at an address: up to the first NUL or to the end of its
window. -/
def wholeText? (k : Kernel) (address : Nat) : Option (List UInt8) :=
  if k.acceptsRange address 1 then
    some (Bytes.untilNul (k.userBytes address (UserMemory.windowEnd address - address)))
  else none

/-- What is copied of a string are its first bytes. -/
theorem userText?_eq (k : Kernel) (address limit : Nat) :
    k.userText? address limit = (k.wholeText? address).map (·.take limit) := by
  unfold userText? UserMemory.text? wholeText? acceptsRange
  split
  · rw [Option.map_some, ← Bytes.untilNul_take, userBytes, ← List.map_take, List.take_range]
  · rfl

end Kernel

/-! ## The calls -/

/-- Registers with which a program makes a call. -/
def Registers.asking (r : Registers) (call : Syscall) : Registers :=
  { r with rax := UInt64.ofNat call.number }

namespace Computer

/-- Carry out what a command led to. -/
def finishExecute (c : Computer) (r : Registers) : Kernel × Except SyscallError Transfer → Computer
  | (k, .ok transfer) => (c.withKernel k).performResult r c.kernel.stackPointer (.ok transfer)
  | (k, .error cause) => ((c.withKernel k).log (.executeRejected cause)).answer r failed

/-- Answer with what opening a file led to. -/
def finishOpen (c : Computer) (r : Registers) (result : Kernel × Except SyscallError Nat) :
    Computer :=
  (c.withKernel result.1).answerCount r result.2

theorem callExecute_eq (c : Computer) (r : Registers) (address : Nat) :
    c.callExecute r address =
      ((c.kernel.userText? address commandLimit).map c.kernel.execute).elim (c.answer r failed)
        (c.finishExecute r) := by
  unfold callExecute
  cases c.kernel.userText? address commandLimit with
  | none => rfl
  | some line =>
    dsimp only [Option.map_some, Option.elim_some]
    split <;> rename_i same <;> rw [same] <;> rfl

theorem callOpen_eq (c : Computer) (r : Registers) (address : Nat) :
    c.callOpen r address =
      ((c.kernel.userText? address nameLimit).map c.kernel.openFile).elim (c.answer r failed)
        (c.finishOpen r) := by
  unfold callOpen
  cases c.kernel.userText? address nameLimit with
  | none => rfl
  | some name => rfl

/-- A program that starts another one or opens a file gets what the kernel makes of its whole
string, and the kernel is left as the whole string would leave it. -/
theorem dispatch_asking_whole (c : Computer) (r : Registers) :
    c.dispatch (r.asking .execute) =
        ((c.kernel.wholeText? r.rdi.toNat).map c.kernel.execute).elim
          (c.answer (r.asking .execute) failed) (c.finishExecute (r.asking .execute)) ∧
      c.dispatch (r.asking .openFile) =
        ((c.kernel.wholeText? r.rdi.toNat).map c.kernel.openFile).elim
          (c.answer (r.asking .openFile) failed) (c.finishOpen (r.asking .openFile)) := by
  constructor
  · have called : c.dispatch (r.asking .execute) = c.callExecute (r.asking .execute) r.rdi.toNat :=
      rfl
    rw [called, callExecute_eq, Kernel.userText?_eq, Option.map_map]
    congr 2
    funext line
    exact Kernel.execute_take (Nat.le_refl _) line
  · have called : c.dispatch (r.asking .openFile) = c.callOpen (r.asking .openFile) r.rdi.toNat :=
      rfl
    rw [called, callOpen_eq, Kernel.userText?_eq, Option.map_map]
    congr 2
    funext name
    exact Kernel.openFile_take (Nat.le_refl _) name

end Computer

end TerminalKernel
