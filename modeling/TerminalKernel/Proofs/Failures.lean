import TerminalKernel.Proofs.ConsoleSteps
import TerminalKernel.Proofs.Isolation
import TerminalKernel.Proofs.Relaunch

/-!
# Failures

A call that fails leaves the kernel as it was (`act_fails`): it checks before it changes anything, or
it has touched only the slot of a number that it then does not take. A terminal that is displayed
before its shell turns out not to start is the one case where something must be put back, and
putting the former terminal back on the display restores all that can be seen.
-/

namespace TerminalKernel

namespace Kernel

/-! ## What failing may leave behind -/

/-- The address lies in the slot of a process number that is not live. -/
def Spare (k : Kernel) (address : Nat) : Prop :=
  ∃ pid, pid < maxProcesses ∧ k.processes.isLive pid = false ∧
    programSlot pid ≤ address ∧ address < programSlot pid + programSlotSize

/-- The kernel is as it was, but for notices and for bytes in slots of numbers that are not live. -/
def Undisturbed (k k' : Kernel) : Prop :=
  ∃ (memory : Memory) (notices : List Notice),
    k' = { k with memory }.emit (notices.map .notice) ∧
      ∀ address, ¬ k.Spare address → memory.byteAt address = k.memory.byteAt address

/-- All tables are as they were: besides the console and what left the machine, only bytes in slots
of numbers that are not live may differ. -/
structure SameTables (k k' : Kernel) : Prop where
  files : k'.files = k.files
  processes : k'.processes = k.processes
  sessions : k'.sessions = k.sessions
  scheduled : k'.scheduled = k.scheduled
  space : k'.space = k.space
  rtc : k'.rtc = k.rtc
  clock : k'.clock = k.clock
  kernelStack : k'.kernelStack = k.kernelStack
  stackPointer : k'.stackPointerOverride = k.stackPointerOverride
  memory : ∀ address, ¬ k.Spare address → k'.memory.byteAt address = k.memory.byteAt address

/-- Besides, the same terminal is displayed, and every line and every screen with its cursor is as
it was. -/
structure Restored (k k' : Kernel) : Prop extends SameTables k k' where
  displayed : k'.console.displayed = k.console.displayed
  editor : ∀ t, k'.console.editorOf t = k.console.editorOf t
  hardwareCursor : k'.console.hardwareCursor = k.console.hardwareCursor

def causeOf {α : Type} : Except SyscallError α → Option SyscallError
  | .ok _ => none
  | .error cause => some cause

/-- Why an action fails, if it is a call that does. -/
def failure? (k : Kernel) : Action → Option SyscallError
  | .execute line => causeOf (k.execute line).2
  | .halt status => causeOf (k.halt status).2
  | .openFile name => causeOf (k.openFile name).2
  | .closeFile fd => causeOf (k.closeFile fd).2
  | .read fd room => (k.read fd room).2.failure
  | .write fd buffer => causeOf (k.write fd buffer).2
  | .getArgs room => causeOf (k.getArgs room)
  | .mapVideo address => causeOf (k.mapVideo address).2
  | .writeScreen fd address length => causeOf (k.writeScreen fd address length).2
  | _ => none

/-- The kernel once the terminal was told that no number is left, if that is why a command
failed. -/
def told (k : Kernel) : Action → SyscallError → Kernel
  | .execute _, .resourceExhausted => k.print k.scheduled processLimitMessage
  | _, _ => k

variable {k k' k'' : Kernel} {cause : SyscallError} {t : TerminalId} {a : Action}

theorem Undisturbed.refl (k : Kernel) : k.Undisturbed k :=
  ⟨k.memory, [], k.emit_nil.symm, fun _ _ => rfl⟩

theorem Undisturbed.log (undisturbed : k.Undisturbed k') (n : Notice) :
    k.Undisturbed (k'.log n) := by
  obtain ⟨memory, notices, rfl, same⟩ := undisturbed
  refine ⟨memory, notices ++ [n], ?_, same⟩
  rw [Kernel.log, emit_emit, List.map_append]
  rfl

/-! ## Starting a program -/

theorem toSyscall_ne (cause : FileError) : cause.toSyscall ≠ .resourceExhausted := by
  cases cause <;> simp [FileError.toSyscall]

/-- Whether a file can be executed does not depend on how many processes are live. -/
theorem findProgram_ne (fs : FileSystem) (name : List UInt8) :
    fs.findProgram name ≠ .error .resourceExhausted := by
  intro failed
  unfold FileSystem.findProgram at failed
  split at failed
  · cases failed
  · split at failed
    · exact toSyscall_ne _ (Except.error.inj failed)
    · split at failed
      · cases failed
      · split at failed
        · exact toSyscall_ne _ (Except.error.inj failed)
        · split at failed
          · cases failed
          · dsimp only at failed
            split at failed
            · exact toSyscall_ne _ (Except.error.inj failed)
            · split at failed <;> cases failed

theorem exists_free?_of_liveCount (few : k.processes.liveCount < maxProcesses) :
    ∃ pid, k.processes.free? = some pid := by
  by_contra none
  have full : k.processes.live = List.range maxProcesses := by
    rw [ProcessTable.live, List.filter_eq_self]
    intro pid inside
    by_contra free
    exact none (exists_free? (List.mem_range.mp inside)
      (ProcessTable.isLive_eq_false.mp (Bool.not_eq_true _ ▸ free)))
  rw [ProcessTable.liveCount, full, List.length_range] at few
  exact Nat.lt_irrefl _ few

/-- A program that cannot be loaded has at most left bytes in the slot of a number that stays
free. -/
theorem load_fails {file : ProgramFile} (fits : file.length ≤ maxProgramLength)
    (few : k.processes.liveCount < maxProcesses) {args : List UInt8} {save : Option TerminalId}
    (failed : (k.load t file args save).2 = .error cause) :
    cause ≠ .resourceExhausted ∧ k.Undisturbed (k.load t file args save).1 := by
  rcases k.load_cases t file args save with
    ⟨number, _⟩ | ⟨pid, cause', number, _, loads⟩ | ⟨_, _, _, started⟩
  · obtain ⟨pid, room⟩ := exists_free?_of_liveCount few
    rw [number] at room
    cases room
  · obtain ⟨valid, free⟩ := ProcessTable.free?_spec number
    have read := k.files.length_read_le file.inode 0 file.length
    rw [loads] at failed ⊢
    cases failed
    refine ⟨toSyscall_ne cause', _, [], (emit_nil _).symm, fun address used => ?_⟩
    refine k.memory.byteAt_write_of_outside ?_
    by_contra inside
    refine used ⟨pid, valid, ProcessTable.isLive_eq_false.mpr free, ?_, ?_⟩
    · omega
    · simp only [maxProgramLength, programSlotSize, programLoadOffset] at *
      omega
  · rw [started] at failed
    cases failed

/-- A program that cannot be started leaves the kernel as it was, unless no number is left: then the
terminal is told so. -/
theorem spawn_fails {name args : List UInt8} {save : Option TerminalId}
    (failed : (k.spawn t name args save).2 = .error cause) :
    (cause ≠ .resourceExhausted ∧ k.Undisturbed (k.spawn t name args save).1) ∨
      cause = .resourceExhausted ∧ maxProcesses ≤ k.processes.liveCount ∧
        (k.print t processLimitMessage).Undisturbed (k.spawn t name args save).1 := by
  unfold spawn at failed ⊢
  split at failed
  · rename_i found
    cases failed
    refine .inl ⟨?_, .refl k⟩
    rintro rfl
    exact findProgram_ne k.files name found
  · rename_i file found
    split at failed
    · rename_i full
      cases failed
      rw [if_pos full]
      exact .inr ⟨rfl, full, (Undisturbed.refl _).log _⟩
    · rename_i room
      rw [if_neg room]
      exact .inl (load_fails (length_le_of_findProgram found) (Nat.not_le.mp room) failed)

/-! ## Calls -/

/-- A call that fails changes nothing. -/
def Clean {α : Type} (k : Kernel) (r : Kernel × Except SyscallError α) : Prop :=
  ∀ cause, causeOf r.2 = some cause → r.1 = k

theorem Clean.same {α : Type} (k : Kernel) (result : Except SyscallError α) :
    k.Clean (k, result) := fun _ _ => rfl

theorem Clean.ok {α : Type} (k k' : Kernel) (value : α) : k.Clean (k', .ok value) := by
  intro cause failed
  cases failed

theorem current_ne : k.current ≠ .error .resourceExhausted := by
  intro failed
  unfold current at failed
  split at failed
  · cases failed
  · split at failed <;> cases failed

theorem halt_fails {status : UInt8} (failed : (k.halt status).2 = .error cause) :
    cause ≠ .resourceExhausted ∧ (k.halt status).1 = k := by
  unfold halt at failed ⊢
  split at failed
  · rename_i missing
    cases failed
    refine ⟨?_, rfl⟩
    rintro rfl
    exact k.current_ne missing
  · dsimp only at failed
    split at failed <;> cases failed

theorem told_of_ne (other : cause ≠ .resourceExhausted) (k : Kernel) (a : Action) :
    k.told a cause = k := by
  unfold told
  split
  · exact absurd rfl other
  · rfl

theorem execute_fails {line : List UInt8} (failed : (k.execute line).2 = .error cause) :
    (k.told (.execute line) cause).Undisturbed (k.execute line).1 := by
  unfold execute at failed ⊢
  dsimp only at failed ⊢
  split at failed
  · rename_i isExit
    obtain ⟨other, same⟩ := halt_fails failed
    rw [if_pos isExit, same, told_of_ne other]
    exact .refl k
  · rename_i command
    have spawned : (k.spawn k.scheduled (Command.parse line).name (Command.parse line).args none).2 =
        .error cause := by
      generalize k.spawn k.scheduled (Command.parse line).name (Command.parse line).args none = result
        at failed
      obtain ⟨k', cause' | launch⟩ := result
      · cases failed
        rfl
      · cases failed
    rw [if_neg command]
    rcases spawn_fails spawned with ⟨other, undisturbed⟩ | ⟨rfl, -, undisturbed⟩
    · rw [told_of_ne other]
      exact undisturbed
    · exact undisturbed

theorem openFile_clean (k : Kernel) (name : List UInt8) : k.Clean (k.openFile name) := by
  rcases k.openFile_cases name with ⟨_, failed⟩ | ⟨_, _, _, _, _, _, _, opened⟩
  · rw [failed]
    exact .same k _
  · rw [opened]
    exact .ok k _ _

theorem closeFile_clean (k : Kernel) (fd : Nat) : k.Clean (k.closeFile fd) := by
  rcases k.closeFile_cases fd with ⟨_, failed⟩ | ⟨_, _, _, _, _, _, _, closed⟩
  · rw [failed]
    exact .same k _
  · rw [closed]
    exact .ok k _ _

theorem write_clean (k : Kernel) (fd : Nat) (buffer : Option (List UInt8)) :
    k.Clean (k.write fd buffer) := by
  unfold write
  split
  · exact .same k _
  · exact .same k _
  · split
    · exact .ok k _ _
    · unfold writeClock
      split
      · exact .same k _
      · exact .ok k _ _
    all_goals exact .same k _

theorem writeScreen_clean (k : Kernel) (fd address length : Nat) :
    k.Clean (k.writeScreen fd address length) := by
  unfold writeScreen
  dsimp only
  split
  · split
    · exact .ok k _ _
    · exact k.write_clean _ _
  · exact k.write_clean _ _

theorem mapVideo_clean (k : Kernel) (address : Nat) : k.Clean (k.mapVideo address) := by
  rcases k.mapVideo_cases address with ⟨_, failed⟩ | ⟨_, _, _, mapped⟩
  · rw [failed]
    exact .same k _
  · rw [mapped]
    exact .ok k _ _

theorem read_fails {fd : Nat} {room : Option Nat} (failed : (k.read fd room).2.failure = some cause) :
    (k.read fd room).1 = k := by
  unfold read at failed ⊢
  split at failed
  · rfl
  · rfl
  · split at failed
    · unfold readLine at failed ⊢
      split at failed
      · rfl
      · cases failed
    · rfl
    · rename_i pid p d room _ _ _
      rcases k.readDirectory_cases pid fd d room with ⟨_, none⟩ | ⟨_, _, read⟩
      · rw [none]
      · rw [read] at failed
        cases failed
    · rename_i pid p d room _ _ _
      rcases k.readRegular_cases pid fd d room with ⟨_, none⟩ | ⟨_, read⟩
      · rw [none]
      · rw [read] at failed
        cases failed
    · rfl
    · rfl

theorem Clean.undisturbed {α : Type} {r : Kernel × Except SyscallError α} (clean : k.Clean r)
    (failed : causeOf r.2 = some cause) : k.Undisturbed r.1 := by
  rw [clean cause failed]
  exact .refl k

theorem eq_error_of_causeOf {α : Type} {result : Except SyscallError α}
    (failed : causeOf result = some cause) : result = .error cause := by
  cases result with
  | ok _ => cases failed
  | error _ => rw [Option.some_inj.mp failed]

theorem stays_of_failure? (failed : k.failure? a = some cause) : (k.act a).2 = .stay := by
  have stays : ∀ r : Kernel × Except SyscallError Transfer, causeOf r.2 = some cause →
      (ofCall r).2 = .stay := by
    rintro ⟨k', transfer | cause'⟩ failed
    · rfl
    · cases failed
  cases a with
  | execute line => exact stays _ failed
  | halt status => exact stays _ failed
  | openFile _ | closeFile _ | read _ _ | write _ _ | getArgs _ | mapVideo _ | writeScreen _ _ _ => rfl
  | start | store _ _ | tick | switchTerminal _ | key _ | clockTick | emit _ => cases failed

/-- A call that fails leaves the kernel as it was, but for the message that no number is left. -/
theorem act_fails (failed : k.failure? a = some cause) :
    (k.told a cause).Undisturbed (k.act a).1 := by
  cases a with
  | execute line =>
    rw [act, fst_ofCall]
    exact execute_fails (eq_error_of_causeOf failed)
  | halt status =>
    obtain ⟨other, same⟩ := halt_fails (eq_error_of_causeOf failed)
    rw [act, fst_ofCall, same, told_of_ne other]
    exact .refl k
  | openFile name => exact (k.openFile_clean name).undisturbed failed
  | closeFile fd => exact (k.closeFile_clean fd).undisturbed failed
  | read fd room =>
    rw [act, read_fails failed]
    exact .refl k
  | write fd buffer => exact (k.write_clean fd buffer).undisturbed failed
  | getArgs room => exact .refl k
  | mapVideo address => exact (k.mapVideo_clean address).undisturbed failed
  | writeScreen fd address length => exact (k.writeScreen_clean fd address length).undisturbed failed
  | start | store _ _ | tick | switchTerminal _ | key _ | clockTick | emit _ => cases failed

/-! ## Selecting a terminal -/

theorem SameTables.refl (k : Kernel) : k.SameTables k := by
  constructor <;> intros <;> rfl

theorem SameTables.trans (first : k.SameTables k') (second : k'.SameTables k'') :
    k.SameTables k'' where
  files := second.files.trans first.files
  processes := second.processes.trans first.processes
  sessions := second.sessions.trans first.sessions
  scheduled := second.scheduled.trans first.scheduled
  space := second.space.trans first.space
  rtc := second.rtc.trans first.rtc
  clock := second.clock.trans first.clock
  kernelStack := second.kernelStack.trans first.kernelStack
  stackPointer := second.stackPointer.trans first.stackPointer
  memory address used := by
    have still : ¬ k'.Spare address := by
      unfold Spare
      rw [first.processes]
      exact used
    exact (second.memory address still).trans (first.memory address used)

theorem Undisturbed.sameTables (undisturbed : k.Undisturbed k') : k.SameTables k' := by
  obtain ⟨memory, notices, rfl, same⟩ := undisturbed
  exact ⟨rfl, rfl, rfl, rfl, rfl, rfl, rfl, rfl, rfl, same⟩

theorem Undisturbed.console (undisturbed : k.Undisturbed k') : k'.console = k.console := by
  obtain ⟨memory, notices, rfl, _⟩ := undisturbed
  rfl

theorem sameTables_display (k : Kernel) (t : TerminalId) : k.SameTables (k.display t) := by
  unfold display
  split
  · exact .refl k
  · exact ⟨rfl, rfl, rfl, rfl, rfl, rfl, rfl, rfl, rfl, fun _ _ => rfl⟩

theorem console_display (k : Kernel) (t : TerminalId) :
    (k.display t).console = k.console.display t := by
  unfold display Console.display
  split <;> rfl

theorem spawn_of_missing (missing : ∀ file, ¬ k.files.Loads shellName file) (t : TerminalId)
    (args : List UInt8) (save : Option TerminalId) :
    ∃ cause, (k.spawn t shellName args save).2 = .error cause := by
  cases result : (k.spawn t shellName args save).2 with
  | error cause => exact ⟨cause, rfl⟩
  | ok launch =>
    obtain ⟨file, loads⟩ := loads_of_spawn result
    exact absurd loads (missing file)

/-- Where no shell can be started, selecting an unused terminal ends with the former one on the
display, and all that can be seen is as it was. -/
theorem displayFresh_fails (follows : k.console.CursorFollows)
    (missing : ∀ file, ¬ k.files.Loads shellName file)
    (few : k.processes.liveCount < maxProcesses) (t : TerminalId) :
    (k.displayFresh t).2 = .stay ∧ k.Restored (k.displayFresh t).1 := by
  have shown := k.sameTables_display t
  have still : ∀ file, ¬ (k.display t).files.Loads shellName file := by rwa [shown.files]
  obtain ⟨cause, failed⟩ := spawn_of_missing still t [] (some k.scheduled)
  have undisturbed : (k.display t).Undisturbed
      ((k.display t).spawn t shellName [] (some k.scheduled)).1 := by
    rcases spawn_fails failed with ⟨-, undisturbed⟩ | ⟨-, full, -⟩
    · exact undisturbed
    · rw [shown.processes] at full
      exact absurd full (Nat.not_le.mpr few)
  unfold displayFresh
  dsimp only
  generalize (k.display t).spawn t shellName [] (some k.scheduled) = spawned at failed undisturbed ⊢
  obtain ⟨k', result⟩ := spawned
  obtain rfl : result = _ := failed
  have logged := undisturbed.log (.shellNotStarted t cause)
  have back := (k'.log (.shellNotStarted t cause)).sameTables_display k.console.displayed
  have console := (k'.log (.shellNotStarted t cause)).console_display k.console.displayed
  rw [logged.console, k.console_display t] at console
  obtain ⟨displayed, editors, cursor⟩ := follows.display_back t
  rw [← console] at displayed editors cursor
  exact ⟨rfl, (shown.trans logged.sameTables).trans back, displayed, editors, cursor⟩

theorem switchTerminal_fails (follows : k.console.CursorFollows)
    (missing : ∀ file, ¬ k.files.Loads shellName file)
    (few : k.processes.liveCount < maxProcesses) (unused : (k.session t).active = false) :
    (k.switchTerminal t).2 = .stay ∧ k.Restored (k.switchTerminal t).1 := by
  unfold switchTerminal
  split
  · exact ⟨rfl, .refl k, rfl, fun _ => rfl, rfl⟩
  · rw [unused, if_neg Bool.false_ne_true, if_neg (Nat.not_le.mpr few)]
    exact displayFresh_fails follows missing few t

end Kernel

namespace Run

open Kernel

variable {files : FileSystem} {arena : Arena} {storage : Kernel.Storage} {h : List Moment}
  {k : Kernel}

/-- Wherever a run has come to, failures leave no trace. A call that fails returns to its caller, who
belongs to the scheduled terminal, and changes nothing but bytes of slots that are not in use; if a
command fails because no number is left, that terminal is told so. What a failed read copied goes to
the reader's buffer and nowhere else. And where no shell can be loaded, selecting an unused terminal
changes nothing that can be seen. -/
theorem failures_undone (run : Run (.new files arena storage) h k) :
    (∀ pid p, k.current = .ok (pid, p) → p.terminal = k.scheduled) ∧
    (∀ a cause, k.failure? a = some cause →
      (k.act a).2 = .stay ∧ (k.told a cause).Undisturbed (k.act a).1) ∧
    (∀ (c : Computer) r fd address room cause, c.kernel = k →
      (k.read fd (some room)).2.failure = some cause →
      (k.read fd (some room)).2.bytes.length ≤ room ∧
        (c.tryRead r fd address room).kernel =
          k.storeUser address (k.read fd (some room)).2.bytes) ∧
    ∀ t, (k.session t).active = false → k.processes.liveCount < maxProcesses →
      (∀ file, ¬ k.files.Loads shellName file) →
      (k.switchTerminal t).2 = .stay ∧ k.Restored (k.switchTerminal t).1 := by
  refine ⟨?_, ?_, ?_, ?_⟩
  · intro pid p running
    exact (owner_of_current run.sound run.onStack running).2
  · intro a cause failed
    exact ⟨stays_of_failure? failed, act_fails failed⟩
  · rintro c r fd address room cause rfl failed
    refine ⟨c.kernel.length_read_le fd room, ?_⟩
    rw [Computer.kernel_tryRead, read_fails failed]
  · intro t unused few missing
    exact switchTerminal_fails run.cursorFollows missing few unused

end Run

/-! ## Failures to look at -/

namespace Sample

theorem findProgram_cat : shellFiles.findProgram (ascii "cat") = .error .notFound := by
  have lookup : shellFiles.lookup (ascii "cat") = .error .notFound := by
    have only : List.range shellFiles.entryCount = [0] := rfl
    rw [FileSystem.lookup, if_neg (by decide), only, FileSystem.search, entry_shell]
    rfl
  rw [FileSystem.findProgram, if_neg (by decide), lookup]
  rfl

theorem failure?_cat {k : Kernel} (files : k.files = shellFiles) :
    k.failure? (.execute (ascii "cat")) = some .notFound := by
  have command : Command.parse (ascii "cat") = ⟨ascii "cat", []⟩ := by decide
  have missing : k.spawn k.scheduled (ascii "cat") [] none = (k, .error .notFound) := by
    rw [Kernel.spawn, files, findProgram_cat]
  rw [Kernel.failure?, Kernel.execute, command]
  dsimp only
  rw [if_neg (by decide), missing]
  rfl

/-- A file system without files. -/
def bareFiles : FileSystem where
  image := ofBlocks [[]]
  entryCount := 0
  inodeCount := 0
  blockCount := 0
  entries_le := by decide
  blocks_le := by
    rw [size_ofBlocks]
    decide

theorem not_loads_bare (file : ProgramFile) : ¬ bareFiles.Loads shellName file := by
  rintro ⟨found, _⟩
  have none : bareFiles.lookup shellName = .error .notFound := by
    rw [FileSystem.lookup, if_neg (by decide)]
    rfl
  rw [FileSystem.findProgram, if_neg (by decide), none] at found
  cases found

theorem run_bare : Run (.new bareFiles arena storage) []
    ((Kernel.new bareFiles arena storage).withStackPointer none) :=
  .new none (.inl (by decide))

theorem unused_bare (t : TerminalId) :
    (((Kernel.new bareFiles arena storage).withStackPointer none).session t).active = false := by
  simp [Kernel.withStackPointer, Kernel.new, Kernel.session, Session.idle]

end Sample

/-- A shell is asked for a program that is not there and stays as it is, and where nothing is on file
no second terminal can be selected. -/
theorem failures_undone_missing :
    Run Sample.shellKernel (Sample.played [.start]).1 (Sample.played [.start]).2 ∧
      (Sample.played [.start]).2.Undisturbed
        ((Sample.played [.start]).2.act (.execute (ascii "cat"))).1 ∧
      Kernel.Restored ((Kernel.new Sample.bareFiles Sample.arena Sample.storage).withStackPointer none)
        (((Kernel.new Sample.bareFiles Sample.arena Sample.storage).withStackPointer none).switchTerminal
          1).1 := by
  refine ⟨Sample.run_started, ?_, ?_⟩
  · exact ((Run.failures_undone Sample.run_started).2.1 _ _
      (Sample.failure?_cat Sample.run_started.fixed.1)).2
  · exact ((Run.failures_undone Sample.run_bare).2.2.2 1 (Sample.unused_bare 1) (by decide)
      Sample.not_loads_bare).2

end TerminalKernel
