import TerminalKernel.Computer.Syscall

/-!
# What each operation does

The operations are unfolded here once. Drawing, storing bytes and setting the clock change devices
only. A call on descriptors changes nothing or binds one descriptor anew, loading a program stores
its bytes before anything else happens, and a tick or a key leads to one of a few outcomes. What
later modules say about a part of the kernel they read off these lemmas.
-/

namespace TerminalKernel.Kernel

/-! ## Devices -/

/-- The kernel is as it was, but for screens and lines, memory, the clock and what left the
machine. -/
def OnlyDevices (k k' : Kernel) : Prop :=
  ∃ console memory rtc clock trace, k' = { k with console, memory, rtc, clock, trace }

variable {k k' k'' : Kernel}

theorem OnlyDevices.refl (k : Kernel) : k.OnlyDevices k := ⟨_, _, _, _, _, rfl⟩

theorem OnlyDevices.trans (first : k.OnlyDevices k') (second : k'.OnlyDevices k'') :
    k.OnlyDevices k'' := by
  obtain ⟨_, _, _, _, _, rfl⟩ := first
  obtain ⟨_, _, _, _, _, rfl⟩ := second
  exact ⟨_, _, _, _, _, rfl⟩

theorem OnlyDevices.processes (only : k.OnlyDevices k') : k'.processes = k.processes := by
  obtain ⟨_, _, _, _, _, rfl⟩ := only
  rfl

theorem emit_nil (k : Kernel) : k.emit [] = k := by
  simp only [emit, Array.append_empty]

theorem emit_emit (k : Kernel) (first second : List Effect) :
    (k.emit first).emit second = k.emit (first ++ second) := by
  simp only [emit, Array.append_assoc, List.append_toArray]

theorem onlyDevices_print (k : Kernel) (t : TerminalId) (bytes : List UInt8) :
    k.OnlyDevices (k.print t bytes) := by
  unfold print
  split <;> exact ⟨_, _, _, _, _, rfl⟩

theorem onlyDevices_display (k : Kernel) (t : TerminalId) : k.OnlyDevices (k.display t) := by
  unfold display
  split
  · exact .refl k
  · exact ⟨_, _, _, _, _, rfl⟩

theorem onlyDevices_receiveKey (k : Kernel) (key : Key) : k.OnlyDevices (k.receiveKey key).1 := by
  unfold receiveKey
  dsimp only
  split <;> exact ⟨_, _, _, _, _, rfl⟩

theorem onlyDevices_programClock (k : Kernel) (hz : Nat) : k.OnlyDevices (k.programClock hz) := by
  unfold programClock
  split
  · exact .refl k
  · exact ⟨_, _, _, _, _, rfl⟩

theorem onlyDevices_openDevice (k : Kernel) (b : Binding) : k.OnlyDevices (k.openDevice b) := by
  cases b with
  | rtc =>
    have reset : k.OnlyDevices { k with rtc := k.rtc.openDevice } := ⟨_, _, _, _, _, rfl⟩
    exact reset.trans (onlyDevices_programClock _ rtcDefaultHz)
  | terminalIn | terminalOut | directory | regular | closed => exact .refl k

theorem onlyDevices_setPhysicalByte (k : Kernel) (address : Nat) (byte : UInt8) :
    k.OnlyDevices (k.setPhysicalByte address byte) := by
  unfold setPhysicalByte
  split
  · exact ⟨_, _, _, _, _, rfl⟩
  · split <;> exact ⟨_, _, _, _, _, rfl⟩

theorem onlyDevices_storeBytes (k : Kernel) (address : Nat) (bytes : List UInt8) :
    k.OnlyDevices (k.storeBytes address bytes) := by
  induction bytes generalizing k address with
  | nil => exact .refl k
  | cons b rest ih =>
    unfold storeBytes
    split
    · exact (k.onlyDevices_setPhysicalByte _ b).trans (ih _ _)
    · exact ih k (address + 1)

theorem onlyDevices_storeBlock (k : Kernel) (address : Nat) (bytes : List UInt8) :
    k.OnlyDevices (k.storeBlock address bytes) := by
  unfold storeBlock
  split
  · exact .refl k
  · split
    · exact ⟨_, _, _, _, _, rfl⟩
    · exact .refl k

theorem onlyDevices_storeUser (k : Kernel) (address : Nat) (bytes : List UInt8) :
    k.OnlyDevices (k.storeUser address bytes) :=
  ((onlyDevices_storeBlock _ _ _).trans (onlyDevices_storeBytes _ _ _)).trans
    (onlyDevices_storeBlock _ _ _)

theorem onlyDevices_printUser (k : Kernel) (t : TerminalId) (address count : Nat) :
    k.OnlyDevices (k.printUser t address count) := by
  induction count generalizing k address with
  | zero => exact .refl k
  | succ count ih =>
    unfold printUser
    dsimp only
    generalize (k.console.screen t).putByte (k.userByte address) = screen
    have drawn : k.OnlyDevices { k with console := k.console.setScreen t screen } :=
      ⟨_, _, _, _, _, rfl⟩
    exact drawn.trans (ih _ _)

theorem onlyDevices_readLine (k : Kernel) (t : TerminalId) (room : Nat) :
    k.OnlyDevices (k.readLine t room).1 := by
  unfold readLine
  split
  · exact .refl k
  · exact ⟨_, _, _, _, _, rfl⟩

theorem onlyDevices_writeClock (k : Kernel) (bytes : List UInt8) :
    k.OnlyDevices (k.writeClock bytes).1 := by
  unfold writeClock
  split
  · exact .refl k
  · rename_i rtc _
    have written : k.OnlyDevices { k with rtc } := ⟨_, _, _, _, _, rfl⟩
    exact written.trans (onlyDevices_programClock _ _)

theorem onlyDevices_write (k : Kernel) (fd : Nat) (buffer : Option (List UInt8)) :
    k.OnlyDevices (k.write fd buffer).1 := by
  unfold write
  split
  · exact .refl k
  · exact .refl k
  · split
    · exact k.onlyDevices_print _ _
    · exact k.onlyDevices_writeClock _
    all_goals exact .refl k

theorem onlyDevices_writeScreen (k : Kernel) (fd address length : Nat) :
    k.OnlyDevices (k.writeScreen fd address length).1 := by
  unfold writeScreen
  dsimp only
  split
  · rename_i pid p d found
    split
    · refine (k.onlyDevices_printUser p.terminal address
        (Bytes.untilNul (k.userBytes address length)).length).trans ?_
      split
      · exact ⟨_, _, _, _, _, rfl⟩
      · exact .refl _
    · exact k.onlyDevices_write _ _
  · exact k.onlyDevices_write _ _

/-! ## Calls on descriptors -/

/-- What is found in the directory can be opened. -/
theorem openBinding_opened (k : Kernel) (e : DirectoryEntry) :
    k.openBinding (Descriptor.opened e).binding =
      (k.openDevice (Descriptor.opened e).binding, .ok ()) := by
  refine if_pos ?_
  unfold Descriptor.opened
  cases e.fileType <;> rfl

variable {pid : ProcessId} {p : ProcessRecord TerminalId} {fd : Nat} {d : Descriptor}

theorem current_eq_ok (running : k.current = .ok (pid, p)) :
    k.currentPid? = some pid ∧ k.processes.process? pid = some p := by
  unfold current at running
  split at running
  · cases running
  · rename_i found
    split at running
    · cases running
    · rename_i live
      cases running
      exact ⟨found, live⟩

theorem currentDescriptor_eq_ok (found : k.currentDescriptor fd = .ok (pid, p, d)) :
    k.current = .ok (pid, p) ∧ p.descriptor? fd = some d := by
  unfold currentDescriptor at found
  split at found
  · cases found
  · rename_i running
    split at found
    · cases found
    · rename_i bound
      cases found
      exact ⟨running, bound⟩

/-- Opening a file fails or binds the lowest free descriptor to it. -/
theorem openFile_cases (k : Kernel) (name : List UInt8) :
    (∃ cause, k.openFile name = (k, .error cause)) ∨
    ∃ pid p e fd, k.current = .ok (pid, p) ∧ k.files.lookup name = .ok e ∧
      p.freeDescriptor? = some fd ∧
      k.openFile name = ((k.setDescriptor pid fd (.opened e)).openDevice
        (Descriptor.opened e).binding, .ok fd) := by
  unfold openFile
  split
  · rename_i cause _
    exact .inl ⟨cause, rfl⟩
  · rename_i pid p running
    split
    · rename_i cause _
      exact .inl ⟨cause.toSyscall, rfl⟩
    · rename_i e found
      split
      · exact .inl ⟨.resourceExhausted, rfl⟩
      · rename_i fd free
        refine .inr ⟨pid, p, e, fd, running, found, free, ?_⟩
        simp only [openBinding_opened]

theorem closeFile_cases (k : Kernel) (fd : Nat) :
    (∃ cause, k.closeFile fd = (k, .error cause)) ∨
    ∃ pid p d, firstFreeDescriptor ≤ fd ∧ k.current = .ok (pid, p) ∧ p.descriptor? fd = some d ∧
      d.binding.isFile = true ∧ k.closeFile fd = (k.setDescriptor pid fd d.close, .ok 0) := by
  unfold closeFile
  split
  · exact .inl ⟨.invalidArgument, rfl⟩
  · rename_i high
    split
    · rename_i cause _
      exact .inl ⟨cause, rfl⟩
    · rename_i pid p d found
      obtain ⟨running, bound⟩ := currentDescriptor_eq_ok found
      split
      · rename_i file
        exact .inr ⟨pid, p, d, Nat.not_lt.mp high, running, bound, file, rfl⟩
      · exact .inl ⟨.invalidArgument, rfl⟩

theorem readDirectory_cases (k : Kernel) (pid : ProcessId) (fd : Nat) (d : Descriptor) (room : Nat) :
    (∃ failure, k.readDirectory pid fd d room = (k, ⟨[], failure⟩)) ∨
    ∃ e, k.files.entry d.position = .ok e ∧ k.readDirectory pid fd d room =
      (k.setDescriptor pid fd { d with position := d.position + 1 }, .done (e.name.take room)) := by
  unfold readDirectory
  split
  · exact .inl ⟨none, rfl⟩
  · split
    · rename_i cause _
      exact .inl ⟨some cause.toSyscall, rfl⟩
    · rename_i e found
      exact .inr ⟨e, found, rfl⟩

theorem readRegular_cases (k : Kernel) (pid : ProcessId) (fd : Nat) (d : Descriptor) (room : Nat) :
    (∃ cause, k.readRegular pid fd d room =
      (k, ⟨(k.files.read d.inode d.position room).bytes, some cause⟩)) ∨
    (k.files.read d.inode d.position room).failure = none ∧
      k.readRegular pid fd d room =
        (k.setDescriptor pid fd
          { d with position := d.position + (k.files.read d.inode d.position room).bytes.length },
          .done (k.files.read d.inode d.position room).bytes) := by
  unfold readRegular
  dsimp only
  cases outcome : (k.files.read d.inode d.position room).failure with
  | some cause =>
    refine .inl ⟨cause.toSyscall, ?_⟩
    simp only [Delivery.mapFailure, outcome, Option.map_some]
  | none => exact .inr ⟨rfl, rfl⟩

theorem mapVideo_cases (k : Kernel) (address : Nat) :
    (∃ cause, k.mapVideo address = (k, .error cause)) ∨
    ∃ pid p, k.current = .ok (pid, p) ∧
      k.mapVideo address = (k.mapScreen p.terminal, .ok videoWindow) := by
  unfold mapVideo
  split
  · split
    · rename_i cause _
      exact .inl ⟨cause, rfl⟩
    · rename_i pid p running
      exact .inr ⟨pid, p, running, rfl⟩
  · exact .inl ⟨.invalidArgument, rfl⟩

/-! ## Loading a program -/

/-- The kernel once a program's bytes lie in the slot of a process number. -/
def withProgram (k : Kernel) (file : ProgramFile) (pid : ProcessId) : Kernel :=
  { k with
    memory := k.memory.write (programSlot pid + programLoadOffset)
      (k.files.read file.inode 0 file.length).bytes }

theorem onlyDevices_withProgram (k : Kernel) (file : ProgramFile) (pid : ProcessId) :
    k.OnlyDevices (k.withProgram file pid) :=
  ⟨_, _, _, _, _, rfl⟩

theorem console_withProgram (k : Kernel) (file : ProgramFile) (pid : ProcessId) :
    (k.withProgram file pid).console = k.console := by
  have kept : ∀ memory : Memory, { k with memory }.console = k.console := fun _ => rfl
  exact kept _

theorem parentFor_withProgram (k : Kernel) (file : ProgramFile) (pid : ProcessId) (t : TerminalId) :
    (k.withProgram file pid).parentFor t = k.parentFor t := by
  have kept : ∀ memory : Memory, { k with memory }.parentFor t = k.parentFor t := fun _ => rfl
  exact kept _

/-- The kernel with a process in the place of a number. -/
def withProcess (k : Kernel) (pid : ProcessId) (p : ProcessRecord TerminalId) : Kernel :=
  { k with processes := k.processes.insert pid p }

theorem console_begin (k : Kernel) (t : TerminalId) (pid : ProcessId) (p : ProcessRecord TerminalId) :
    ((k.withProcess pid p).begin t pid).console = k.console := rfl

theorem processes_begin (k : Kernel) (t : TerminalId) (pid : ProcessId) :
    (k.begin t pid).processes = k.processes := by
  simp only [begin, enter, updateSession, setSession]

theorem console_log (k : Kernel) (n : Notice) : (k.log n).console = k.console := rfl

theorem processes_log (k : Kernel) (n : Notice) : (k.log n).processes = k.processes := rfl

/-- Loading a program finds no number, fails once bytes are stored, or starts the process. A number
that was taken in vain is given back. -/
theorem load_cases (k : Kernel) (t : TerminalId) (file : ProgramFile) (args : List UInt8)
    (save : Option TerminalId) :
    (k.processes.free? = none ∧ k.load t file args save = (k, .error .resourceExhausted)) ∨
    (∃ pid cause, k.processes.free? = some pid ∧
      (k.files.read file.inode 0 file.length).failure = some cause ∧
      k.load t file args save = (k.withProgram file pid, .error cause.toSyscall)) ∨
    ∃ pid, k.processes.free? = some pid ∧
      (k.files.read file.inode 0 file.length).failure = none ∧
      k.load t file args save =
        ((((k.withProgram file pid).withProcess pid
            (.new pid ((k.parentFor t).getD pid) t args)).begin t pid).log
            (.launched pid t (k.parentFor t) file.entry),
          .ok ⟨pid, file.entry, userStackTop, (save.map .terminal).getD (.parent pid)⟩) := by
  unfold load ProcessTable.allocate
  cases number : k.processes.free? with
  | none => exact .inl ⟨rfl, rfl⟩
  | some pid =>
    simp only [Option.map_some]
    generalize stored : k.memory.write (programSlot pid + programLoadOffset)
      (k.files.read file.inode 0 file.length).bytes = memory
    have loaded : k.withProgram file pid = { k with memory } := by
      rw [← stored, withProgram]
    cases outcome : (k.files.read file.inode 0 file.length).failure with
    | some cause =>
      refine .inr (.inl ⟨pid, cause, rfl, rfl, ?_⟩)
      simp only [loaded, ProcessTable.release_insert_of_free number]
    | none =>
      refine .inr (.inr ⟨pid, rfl, rfl, ?_⟩)
      rw [loaded]
      rfl

/-! ## Taking turns -/

/-- A tick changes nothing, or notes that no flow waits at the terminal whose turn it is, or hands
the processor over to that terminal. -/
theorem tick_cases (k : Kernel) :
    k.tick = (k, .stay) ∨
    (∃ next, k.tick = (k.log (.notParked next k.scheduled), .stay)) ∨
    ∃ next owner, next ≠ k.scheduled ∧ k.nextActive? k.scheduled = some next ∧
      (k.session next).owner = some owner ∧ (k.session next).context.isEmpty = false ∧
      k.tick = (k.schedule next owner, .switch k.scheduled next) := by
  unfold tick
  split
  · exact .inl rfl
  · rename_i next found
    split
    · exact .inl rfl
    · rename_i other
      split
      · exact .inl rfl
      · rename_i owner seated
        split
        · exact .inr (.inl ⟨next, rfl⟩)
        · rename_i parked
          rw [Bool.not_eq_true] at parked
          exact .inr (.inr ⟨next, owner, other, found, seated, parked, rfl⟩)

/-- A key that selects a terminal changes nothing by itself. -/
theorem receiveKey_of_switchTo {key : Key} {t : TerminalId}
    (selects : (k.receiveKey key).2 = .switchTo t) :
    (∃ number, key = .altF number) ∧ (k.receiveKey key).1 = k := by
  cases key with
  | altF number =>
    refine ⟨⟨number, rfl⟩, ?_⟩
    unfold receiveKey Console.receiveKey
    dsimp only
    split <;> rfl
  | char _ | enter | backspace | ctrl _ | unknown => cases selects

/-- A key is taken by the displayed terminal, or it selects a terminal and does nothing else. -/
theorem handleKey_cases (k : Kernel) (key : Key) :
    k.handleKey key = ((k.receiveKey key).1, .stay) ∨
      (∃ number, key = .altF number) ∧ ∃ t, k.handleKey key = k.switchTerminal t := by
  have selects : ∀ t, (k.receiveKey key).2 = .switchTo t →
      (∃ number, key = .altF number) ∧ (k.receiveKey key).1 = k :=
    fun _ => receiveKey_of_switchTo
  unfold handleKey
  generalize k.receiveKey key = result at selects ⊢
  obtain ⟨k', handled | t⟩ := result
  · exact .inl rfl
  · obtain ⟨function, rfl⟩ := selects t rfl
    exact .inr ⟨function, t, rfl⟩

end TerminalKernel.Kernel
