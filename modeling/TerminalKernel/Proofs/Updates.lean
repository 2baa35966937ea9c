import Mathlib.Logic.Relation
import TerminalKernel.Proofs.Operations
import TerminalKernel.Proofs.Run
import TerminalKernel.Proofs.Screens

/-!
# What a call may do to the kernel

A call acts for one process on one terminal. All it does comes down to a few updates: of the
process's own record and slot, of its terminal, of numbers and slots that no live process has, and
of what belongs to nobody. A call performs some of them one after the other, so that whatever no
update touches, no call touches either.
-/

namespace TerminalKernel

/-- The calls by which the running program acts on files, its screen and other programs. -/
def Action.isCall : Action → Bool
  | .execute _ | .halt _ | .openFile _ | .closeFile _ | .read .. | .write .. | .getArgs _
  | .mapVideo _ | .writeScreen .. => true
  | .start | .store .. | .tick | .switchTerminal _ | .key _ | .clockTick | .emit _ => false

namespace Kernel

/-! ## Updates -/

/-- One update that a call of process `pid` on terminal `t` may do. -/
inductive Update (pid : ProcessId) (t : TerminalId) (k : Kernel) : Kernel → Prop
  /-- The hardware cursor is moved for the displayed terminal only. -/
  | emit (effects : List Effect)
      (quiet : t = k.console.displayed ∨ ∀ e ∈ effects, e.movesCursor = false) :
      Update pid t k (k.emit effects)
  | clock (rtc : Rtc) (clock : ClockRegisters) : Update pid t k { k with rtc, clock }
  | record (f : ProcessRecord TerminalId → ProcessRecord TerminalId) :
      Update pid t k (k.updateProcess pid f)
  | line (line : InputLine) :
      Update pid t k { k with console := k.console.setTerminal t { k.console.terminal t with line } }
  | screen (s : Screen) : Update pid t k { k with console := k.console.setScreen t s }
  | cursor (shown : t = k.console.displayed) :
      Update pid t k { k with console := k.console.followCursor }
  | session (s : Session) : Update pid t k (k.setSession t s)
  | enter (q : ProcessId) : Update pid t k (k.enter q)
  | insert {q : ProcessId} (free : k.processes.process? q = none) (p : ProcessRecord TerminalId) :
      Update pid t k { k with processes := k.processes.insert q p }
  | release : Update pid t k { k with processes := k.processes.release pid }
  /-- Bytes are stored in the process's own slot, or in one that is free. -/
  | slot {q : ProcessId} (own : q = pid ∨ k.processes.process? q = none) {offset : Nat}
      {bytes : List UInt8} (fits : offset + bytes.length ≤ programSlotSize) :
      Update pid t k { k with memory := k.memory.write (programSlot q + offset) bytes }
  /-- Bytes are stored in the page that shows the terminal's screen, beyond its cells. -/
  | tail {offset : Nat} {bytes : List UInt8} (beyond : surfaceSize ≤ offset)
      (fits : offset + bytes.length ≤ pageSize) :
      Update pid t k
        { k with memory := k.memory.write (k.console.screenAddress t + offset) bytes }

abbrev Performs (pid : ProcessId) (t : TerminalId) : Kernel → Kernel → Prop :=
  Relation.ReflTransGen (Update pid t)

/-- If any process runs, it is this one, on this terminal. -/
def RunsAs (k : Kernel) (pid : ProcessId) (t : TerminalId) : Prop :=
  ∀ q p, k.current = .ok (q, p) → q = pid ∧ p.terminal = t

variable {k : Kernel} {pid : ProcessId} {t : TerminalId}

theorem Update.log (n : Notice) : Update pid t k (k.log n) :=
  .emit _ (.inr (by simp [Effect.movesCursor]))

theorem runsAs_of_current {p : ProcessRecord TerminalId} (running : k.current = .ok (pid, p)) :
    k.RunsAs pid p.terminal := by
  intro q p' found
  rw [running] at found
  cases found
  exact ⟨rfl, rfl⟩

theorem performs_setDescriptor (k : Kernel) (pid : ProcessId) (t : TerminalId) (fd : Nat)
    (d : Descriptor) : Performs pid t k (k.setDescriptor pid fd d) :=
  .single (.record _)

theorem performs_programClock (k : Kernel) (pid : ProcessId) (t : TerminalId) (hz : Nat) :
    Performs pid t k (k.programClock hz) := by
  unfold programClock
  split
  · exact .refl
  · refine .tail (.single (.clock k.rtc _)) (.emit _ (.inr ?_))
    simp [clockWrites, Effect.movesCursor]

theorem performs_print (k : Kernel) (pid : ProcessId) (t : TerminalId) (bytes : List UInt8) :
    Performs pid t k (k.print t bytes) := by
  have drawn : Performs pid t k _ :=
    .single (.screen ((k.console.screen t).print (Bytes.untilNul bytes)))
  unfold print Console.write
  dsimp only
  by_cases shown : t = k.console.displayed
  · rw [if_pos shown, if_pos shown]
    have same := shown.trans (k.console.displayed_setScreen t
      ((k.console.screen t).print (Bytes.untilNul bytes))).symm
    exact (drawn.tail (.cursor same)).tail (.emit _ (.inl same))
  · rw [if_neg shown, if_neg shown]
    exact drawn

theorem performs_printUser (k : Kernel) (pid : ProcessId) (t : TerminalId) (address count : Nat) :
    Performs pid t k (k.printUser t address count) := by
  induction count generalizing k address with
  | zero => exact .refl
  | succ count ih =>
    unfold printUser
    exact .head (.screen _) (ih _ _)

/-! ## Calls on descriptors -/

theorem performs_openDevice (k : Kernel) (pid : ProcessId) (t : TerminalId) (b : Binding) :
    Performs pid t k (k.openDevice b) := by
  cases b with
  | rtc =>
    have programmed := performs_programClock { k with rtc := k.rtc.openDevice } pid t rtcDefaultHz
    exact .head (.clock k.rtc.openDevice k.clock) programmed
  | terminalIn | terminalOut | directory | regular | closed => exact .refl

theorem RunsAs.currentDescriptor (own : k.RunsAs pid t) {fd : Nat} {q : ProcessId}
    {p : ProcessRecord TerminalId} {d : Descriptor} (found : k.currentDescriptor fd = .ok (q, p, d)) :
    q = pid ∧ p.terminal = t :=
  own q p (currentDescriptor_eq_ok found).1

theorem performs_openFile (own : k.RunsAs pid t) (name : List UInt8) :
    Performs pid t k (k.openFile name).1 := by
  rcases k.openFile_cases name with ⟨_, failed⟩ | ⟨q, p, _, _, running, _, _, opened⟩
  · rw [failed]
  · obtain ⟨rfl, -⟩ := own q p running
    rw [opened]
    exact (performs_setDescriptor k q t _ _).trans (performs_openDevice _ _ _ _)

theorem performs_closeFile (own : k.RunsAs pid t) (fd : Nat) :
    Performs pid t k (k.closeFile fd).1 := by
  rcases k.closeFile_cases fd with ⟨_, failed⟩ | ⟨q, p, _, _, running, _, _, closed⟩
  · rw [failed]
  · obtain ⟨rfl, -⟩ := own q p running
    rw [closed]
    exact performs_setDescriptor k q t _ _

theorem performs_readDirectory (k : Kernel) (pid : ProcessId) (t : TerminalId) (fd : Nat)
    (d : Descriptor) (room : Nat) : Performs pid t k (k.readDirectory pid fd d room).1 := by
  rcases k.readDirectory_cases pid fd d room with ⟨_, none⟩ | ⟨_, _, read⟩
  · rw [none]
  · rw [read]
    exact performs_setDescriptor k pid t _ _

theorem performs_readRegular (k : Kernel) (pid : ProcessId) (t : TerminalId) (fd : Nat)
    (d : Descriptor) (room : Nat) : Performs pid t k (k.readRegular pid fd d room).1 := by
  rcases k.readRegular_cases pid fd d room with ⟨_, failed⟩ | ⟨_, read⟩
  · rw [failed]
  · rw [read]
    exact performs_setDescriptor k pid t _ _

theorem performs_readLine (k : Kernel) (pid : ProcessId) (t : TerminalId) (room : Nat) :
    Performs pid t k (k.readLine t room).1 := by
  unfold readLine Console.takeLine? InputLine.take?
  by_cases committed : (k.console.terminal t).line.committed = true
  · rw [if_pos committed]
    exact .single (.line .empty)
  · rw [if_neg committed]
    exact .refl

theorem performs_read (own : k.RunsAs pid t) (fd : Nat) (room : Option Nat) :
    Performs pid t k (k.read fd room).1 := by
  unfold read
  split
  · exact .refl
  · exact .refl
  · rename_i q p d room found
    obtain ⟨rfl, rfl⟩ := own.currentDescriptor found
    split
    · exact performs_readLine k q p.terminal room
    · exact .refl
    · exact performs_readDirectory k q _ fd d room
    · exact performs_readRegular k q _ fd d room
    · exact .refl
    · exact .refl

theorem performs_writeClock (k : Kernel) (pid : ProcessId) (t : TerminalId) (bytes : List UInt8) :
    Performs pid t k (k.writeClock bytes).1 := by
  unfold writeClock
  split
  · exact .refl
  · rename_i rtc _
    have programmed := performs_programClock { k with rtc } pid t rtc.frequency
    exact .head (.clock rtc k.clock) programmed

theorem performs_write (own : k.RunsAs pid t) (fd : Nat) (buffer : Option (List UInt8)) :
    Performs pid t k (k.write fd buffer).1 := by
  unfold write
  split
  · exact .refl
  · exact .refl
  · rename_i q p d bytes found
    obtain ⟨rfl, rfl⟩ := own.currentDescriptor found
    split
    · exact performs_print k q p.terminal bytes
    · exact performs_writeClock k q p.terminal bytes
    all_goals exact .refl

theorem performs_writeScreen (own : k.RunsAs pid t) (fd address length : Nat) :
    Performs pid t k (k.writeScreen fd address length).1 := by
  unfold writeScreen
  dsimp only
  split
  · rename_i q p d found
    obtain ⟨rfl, rfl⟩ := own.currentDescriptor found
    split
    · have printed := performs_printUser k q p.terminal address
        (Bytes.untilNul (k.userBytes address length)).length
      split
      · rename_i shown
        exact (printed.tail (.cursor shown)).tail (.emit _ (.inl shown))
      · exact printed
    · exact performs_write own fd _
  · exact performs_write own fd _

theorem performs_writeUser (own : k.RunsAs pid t) (fd : Nat) (buffer : UserMemory.Buffer) :
    Performs pid t k (k.writeUser fd buffer).1 := by
  unfold writeUser
  split
  · exact performs_write own fd none
  · split
    · exact performs_write own fd _
    · exact performs_writeScreen own fd _ _

/-! ## Starting and ending -/

/-- A file that is taken for a program fits between the load address and the end of a slot. -/
theorem length_le_of_findProgram {fs : FileSystem} {name : List UInt8} {file : ProgramFile}
    (found : fs.findProgram name = .ok file) : file.length ≤ maxProgramLength := by
  unfold FileSystem.findProgram at found
  split at found
  · cases found
  · split at found
    · cases found
    · split at found
      · cases found
      · split at found
        · cases found
        · split at found
          · cases found
          · rename_i size
            dsimp only at found
            split at found
            · cases found
            · split at found
              · cases found
              · cases found
                rw [not_or, Nat.not_lt, Nat.not_lt] at size
                exact size.2

theorem performs_begin {q : ProcessId} (free : k.processes.process? q = none)
    (p : ProcessRecord TerminalId) :
    Performs pid t k ((k.withProcess q p).begin t q) :=
  ((Relation.ReflTransGen.single (.insert free p)).tail (.session _)).tail (.enter q)

/-- A program is loaded into the slot of a free number, which then takes the terminal. -/
theorem performs_load (k : Kernel) (pid : ProcessId) (t : TerminalId) {file : ProgramFile}
    (fits : file.length ≤ maxProgramLength) (args : List UInt8) (save : Option TerminalId) :
    Performs pid t k (k.load t file args save).1 := by
  have stored {q : ProcessId} (number : k.processes.free? = some q) :
      Performs pid t k (k.withProgram file q) := by
    have read := k.files.length_read_le file.inode 0 file.length
    refine .single (.slot (.inr (ProcessTable.free?_spec number).2) ?_)
    simp only [maxProgramLength, programSlotSize, programLoadOffset] at *
    omega
  rcases k.load_cases t file args save with
    ⟨_, failed⟩ | ⟨q, _, number, _, failed⟩ | ⟨q, number, _, started⟩
  · rw [failed]
  · rw [failed]
    exact stored number
  · have stored := stored number
    have free := (ProcessTable.free?_spec number).2
    rw [started]
    rw [← (k.onlyDevices_withProgram file q).processes] at free
    exact (stored.trans (performs_begin free _)).tail (.log _)

theorem performs_spawn (k : Kernel) (pid : ProcessId) (t : TerminalId) (name args : List UInt8)
    (save : Option TerminalId) : Performs pid t k (k.spawn t name args save).1 := by
  unfold spawn
  split
  · exact .refl
  · rename_i file found
    split
    · exact (performs_print k pid t _).tail (.log _)
    · exact performs_load k pid t (length_le_of_findProgram found) args save

theorem performs_relaunch (k : Kernel) (pid : ProcessId) (t : TerminalId) :
    Performs pid t k (k.relaunch t).1 := by
  have spawned := performs_spawn k pid t shellName [] none
  unfold relaunch
  generalize k.spawn t shellName [] none = result at spawned ⊢
  obtain ⟨k', cause | launch⟩ := result
  · exact (spawned.tail (.log _)).tail (.session _)
  · exact spawned

theorem performs_reportUnclosable (k : Kernel) (pid : ProcessId) (t : TerminalId)
    (p : ProcessRecord TerminalId) : Performs pid t k (k.reportUnclosable pid p) := by
  refine .single (.emit _ (.inr fun e inside => ?_))
  obtain ⟨_, _, rfl⟩ := List.mem_map.mp inside
  rfl

theorem performs_halt (own : k.RunsAs pid t) (status : UInt8) :
    Performs pid t k (k.halt status).1 := by
  unfold halt
  split
  · exact .refl
  · rename_i q p running
    obtain ⟨rfl, rfl⟩ := own q p running
    have ended : Performs q p.terminal k
        (((k.reportUnclosable q p).finish q p.terminal).log (.exited q status)) :=
      (((performs_reportUnclosable k q p.terminal p).tail .release).tail (.session _)).tail (.log _)
    dsimp only
    split
    · -- The number of the process is free by now, so that the shell may get it and its slot.
      exact ended.trans (performs_relaunch _ _ _)
    · exact (ended.tail (.session _)).tail (.enter _)

theorem performs_execute (own : k.RunsAs pid t) (here : t = k.scheduled) (line : List UInt8) :
    Performs pid t k (k.execute line).1 := by
  unfold execute
  dsimp only
  split
  · exact performs_halt own 0
  · exact here ▸ performs_spawn k pid k.scheduled _ _ none

/-! ## All calls -/

theorem fst_ofCall (r : Kernel × Except SyscallError Transfer) : (ofCall r).1 = r.1 := by
  obtain ⟨k, _ | _⟩ := r <;> rfl

/-- Every call but the one that moves the video window only performs updates. -/
theorem performs_act (own : k.RunsAs pid k.scheduled) {a : Action} (call : a.isCall = true)
    (window : ∀ address, a ≠ .mapVideo address) : Performs pid k.scheduled k (k.act a).1 := by
  cases a with
  | execute line => exact fst_ofCall _ ▸ performs_execute own rfl line
  | halt status => exact fst_ofCall _ ▸ performs_halt own status
  | openFile name => exact performs_openFile own name
  | closeFile fd => exact performs_closeFile own fd
  | read fd room => exact performs_read own fd room
  | write fd buffer => exact performs_write own fd buffer
  | getArgs _ => exact .refl
  | mapVideo address => exact absurd rfl (window address)
  | writeScreen fd address length => exact performs_writeScreen own fd address length
  | start | store _ _ | tick | switchTerminal _ | key _ | clockTick | emit _ => cases call

end Kernel

end TerminalKernel
