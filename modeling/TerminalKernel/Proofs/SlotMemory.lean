import TerminalKernel.Proofs.Requests

/-!
# Calls and the slots of programs

What calls do to the slots in which programs lie. Operations that return to their caller touch no
memory at all; what is copied to the caller lands in its own slot, at the addresses of its buffer
(`touched_of_storeUser`). Starting and ending programs loads an image into the slot of a number that
no process has (`image_of_touched`).
-/

namespace TerminalKernel.Kernel

variable {k k' : Kernel} {pid q : ProcessId} {t : TerminalId} {address offset : Nat} {a : Action}

/-! ## Operations that leave memory alone -/

theorem memory_programClock (k : Kernel) (hz : Nat) : (k.programClock hz).memory = k.memory := by
  unfold programClock
  split <;> rfl

theorem memory_openDevice (k : Kernel) (b : Binding) : (k.openDevice b).memory = k.memory := by
  cases b with
  | rtc => exact memory_programClock _ _
  | terminalIn | terminalOut | directory | regular | closed => rfl

theorem memory_print (k : Kernel) (t : TerminalId) (bytes : List UInt8) :
    (k.print t bytes).memory = k.memory := by
  unfold print
  dsimp only
  split <;> rfl

theorem memory_printUser (k : Kernel) (t : TerminalId) (address count : Nat) :
    (k.printUser t address count).memory = k.memory := by
  induction count generalizing k address with
  | zero => rfl
  | succ count ih => exact ih _ _

theorem memory_writeClock (k : Kernel) (bytes : List UInt8) :
    (k.writeClock bytes).1.memory = k.memory := by
  unfold writeClock
  split
  · rfl
  · exact memory_programClock _ _

theorem memory_write (k : Kernel) (fd : Nat) (buffer : Option (List UInt8)) :
    (k.write fd buffer).1.memory = k.memory := by
  unfold write
  split
  · rfl
  · rfl
  · split
    · exact k.memory_print _ _
    · exact k.memory_writeClock _
    all_goals rfl

theorem memory_writeScreen (k : Kernel) (fd address length : Nat) :
    (k.writeScreen fd address length).1.memory = k.memory := by
  unfold writeScreen
  dsimp only
  split
  · split
    · split <;> exact k.memory_printUser _ _ _
    · exact k.memory_write _ _
  · exact k.memory_write _ _

theorem memory_openFile (k : Kernel) (name : List UInt8) :
    (k.openFile name).1.memory = k.memory := by
  rcases k.openFile_cases name with ⟨_, failed⟩ | ⟨_, _, _, _, _, _, _, opened⟩
  · rw [failed]
  · rw [opened]
    exact memory_openDevice _ _

theorem memory_closeFile (k : Kernel) (fd : Nat) : (k.closeFile fd).1.memory = k.memory := by
  rcases k.closeFile_cases fd with ⟨_, failed⟩ | ⟨_, _, _, _, _, _, _, closed⟩
  · rw [failed]
  · rw [closed]
    rfl

theorem memory_read (k : Kernel) (fd : Nat) (room : Option Nat) :
    (k.read fd room).1.memory = k.memory := by
  unfold read
  split
  · rfl
  · rfl
  · split
    · unfold readLine
      split <;> rfl
    · rfl
    · rename_i pid p d room _ _ _
      rcases k.readDirectory_cases pid fd d room with ⟨_, none⟩ | ⟨_, _, read⟩
      · rw [none]
      · rw [read]
        rfl
    · rename_i pid p d room _ _ _
      rcases k.readRegular_cases pid fd d room with ⟨_, failed⟩ | ⟨_, read⟩
      · rw [failed]
      · rw [read]
        rfl
    · rfl
    · rfl

theorem memory_mapVideo (k : Kernel) (address : Nat) : (k.mapVideo address).1.memory = k.memory := by
  rcases k.mapVideo_cases address with ⟨_, failed⟩ | ⟨_, _, _, mapped⟩
  · rw [failed]
  · rw [mapped]
    rfl

/-- A call that returns to its caller leaves memory alone until its bytes are copied. -/
theorem memory_act (call : a.isCall = true) (returns : a.handsOver = false) :
    (k.act a).1.memory = k.memory := by
  cases a with
  | openFile name => exact k.memory_openFile name
  | closeFile fd => exact k.memory_closeFile fd
  | read fd room => exact k.memory_read fd room
  | write fd buffer => exact k.memory_write fd buffer
  | writeScreen fd address length => exact k.memory_writeScreen fd address length
  | mapVideo address => exact k.memory_mapVideo address
  | getArgs _ => rfl
  | halt _ | execute _ => cases returns
  | start | store _ _ | tick | switchTerminal _ | key _ | clockTick | emit _ => cases call

/-! ## Copies to the caller -/

/-- Nothing at or above the slots of programs changed. -/
def SameSlots (k k' : Kernel) : Prop :=
  ∀ address, programSlotBase ≤ address → k'.memory.byteAt address = k.memory.byteAt address

theorem SameSlots.trans {k'' : Kernel} (first : k.SameSlots k') (second : k'.SameSlots k'') :
    k.SameSlots k'' :=
  fun address high => (second address high).trans (first address high)

theorem sameSlots_setPhysicalByte (k : Kernel) (low : address < programSlotBase) (b : UInt8) :
    k.SameSlots (k.setPhysicalByte address b) := by
  intro other high
  unfold setPhysicalByte
  split
  · rfl
  · split
    · rfl
    · refine k.memory.byteAt_write_of_outside (.inr ?_)
      rw [List.length_singleton]
      omega

theorem sameSlots_storeCells (shown : k.viewport.Open) {bytes : List UInt8}
    (inside : offset + bytes.length ≤ surfaceSize) :
    k.SameSlots (k.storeBytes (videoWindow + offset) bytes) := by
  induction bytes generalizing k offset with
  | nil => exact fun _ _ => rfl
  | cons b rest ih =>
    rw [List.length_cons] at inside
    have cell : offset < surfaceSize := by omega
    have few := surfaceSize_le_pageSize
    have below := k.console.screenAddress_le k.scheduled
    unfold storeBytes
    rw [userAddress?_videoWindow shown (Nat.lt_of_lt_of_le cell few)]
    have same := k.viewport_setPhysicalByte (k.console.screenAddress k.scheduled + offset) b
    have low : k.console.screenAddress k.scheduled + offset < programSlotBase := by omega
    have after : offset + 1 + rest.length ≤ surfaceSize := by omega
    exact (k.sameSlots_setPhysicalByte low b).trans (ih (same ▸ shown) after)

theorem sameSlots_storeTail (shown : k.viewport.Open) {bytes : List UInt8}
    (inside : offset + bytes.length ≤ pageSize) :
    k.SameSlots (k.storeBlock (videoWindow + offset) bytes) := by
  cases bytes with
  | nil => exact fun _ _ => rfl
  | cons b rest =>
    have first : offset < pageSize := by
      rw [List.length_cons] at inside
      omega
    simp only [storeBlock, List.isEmpty_cons, Bool.false_eq_true, if_false,
      userAddress?_videoWindow shown first]
    intro other high
    have below := k.console.screenAddress_le k.scheduled
    exact k.memory.byteAt_write_of_outside (.inr (by omega))

theorem sameSlots_storeVideo (shown : k.viewport.Open) {bytes : List UInt8}
    (inside : offset + bytes.length ≤ pageSize) :
    k.SameSlots (k.storeUser (videoWindow + offset) bytes) := by
  have few := surfaceSize_le_pageSize
  rw [storeUser_video]
  have cells : k.SameSlots
      (k.storeBytes (videoWindow + offset) (bytes.take (surfaceSize - offset))) := by
    by_cases within : offset ≤ surfaceSize
    · refine sameSlots_storeCells shown ?_
      rw [List.length_take]
      omega
    · rw [Nat.sub_eq_zero_of_le (by omega), List.take_zero]
      exact fun _ _ => rfl
  have same := k.viewport_storeBytes (videoWindow + offset) (bytes.take (surfaceSize - offset))
  refine cells.trans (sameSlots_storeTail (same ▸ shown) ?_)
  rw [List.length_drop]
  omega

/-- A byte of a slot is not what it was. -/
def Touched (k k' : Kernel) (q : ProcessId) (offset : Nat) : Prop :=
  k'.physicalByte (programSlot q + offset) ≠ k.physicalByte (programSlot q + offset)

theorem touched_iff (k k' : Kernel) (q : ProcessId) (offset : Nat) :
    k.Touched k' q offset ↔ k'.memory.byteAt (programSlot q + offset) ≠
      k.memory.byteAt (programSlot q + offset) := by
  have high := le_programSlot q
  rw [Touched, physicalByte_slot _ (by omega), physicalByte_slot _ (by omega)]

theorem not_touched_of_memory (same : k'.memory = k.memory) : ¬ k.Touched k' q offset := by
  rw [touched_iff, same]
  exact not_not_intro rfl

theorem inside_of_touched {bytes : List UInt8}
    (written : k'.memory = k.memory.write address bytes) (touched : k.Touched k' q offset) :
    address ≤ programSlot q + offset ∧ programSlot q + offset < address + bytes.length := by
  rw [touched_iff, written] at touched
  by_contra outside
  exact touched (k.memory.byteAt_write_of_outside (by omega))

theorem slot_unique {start length : Nat} (inside : offset < programSlotSize)
    (fits : start + length ≤ programSlotSize) (low : programSlot pid + start ≤ programSlot q + offset)
    (high : programSlot q + offset < programSlot pid + start + length) : q = pid := by
  by_contra other
  rcases programSlot_disjoint other with below | above
  · omega
  · omega

/-- A copy to an accepted buffer touches the running process's slot within the buffer, and no other
slot. -/
theorem touched_of_storeUser (serves : k.Serves pid) {bytes : List UInt8}
    (accepted : k.acceptsRange address bytes.length = true) (inside : offset < programSlotSize)
    (touched : k.Touched (k.storeUser address bytes) q offset) :
    q = pid ∧ address ≤ programWindow + offset ∧
      programWindow + offset < address + bytes.length := by
  rcases (UserMemory.accepts_iff _ _ _).mp accepted with ⟨low, high⟩ | ⟨mapped, low, high⟩
  · have written : (k.storeUser address bytes).memory =
        k.memory.write (programSlot pid + (address - programWindow)) bytes := by
      rw [storeUser_slot serves.runs low high]
    obtain ⟨from_start, to_end⟩ := inside_of_touched written touched
    have fits : address - programWindow + bytes.length ≤ programSlotSize := by
      simp only [programWindow, programWindowEnd, programSlotSize] at *
      omega
    obtain rfl := slot_unique inside fits from_start to_end
    exact ⟨rfl, by omega, by omega⟩
  · obtain ⟨offset', rfl⟩ := Nat.exists_eq_add_of_le low
    have shown : k.viewport.Open := by
      refine serves.shown.resolve_left fun closed => ?_
      rw [videoMapped_of_closed closed] at mapped
      cases mapped
    have fits : offset' + bytes.length ≤ pageSize := by
      simp only [videoWindow, videoWindowEnd, pageSize] at *
      omega
    rw [touched_iff] at touched
    have above := le_programSlot q
    exact absurd (sameSlots_storeVideo shown fits _ (by omega)) touched

/-! ## Images of programs -/

/-- Memory is as it was, but for the image of a program in the slot of a number that is `free`. -/
def LoadsImage (free : ProcessId → Prop) (k k' : Kernel) : Prop :=
  k'.memory = k.memory ∨ ∃ q name file, free q ∧ k.files.findProgram name = .ok file ∧
    k'.memory = k.memory.write (programSlot q + programLoadOffset)
      (k.files.read file.inode 0 file.length).bytes

variable {free free' : ProcessId → Prop}

theorem LoadsImage.mono (loads : LoadsImage free k k') (weaker : ∀ q, free q → free' q) :
    LoadsImage free' k k' := by
  rcases loads with same | ⟨q, name, file, unused, found, image⟩
  · exact .inl same
  · exact .inr ⟨q, name, file, weaker q unused, found, image⟩

theorem LoadsImage.congr {k₀ k₁ : Kernel} (loads : LoadsImage free k k')
    (before : k.memory = k₀.memory) (files : k.files = k₀.files) (after : k₁.memory = k'.memory) :
    LoadsImage free k₀ k₁ := by
  unfold LoadsImage at loads ⊢
  rwa [before, files, ← after] at loads

theorem memory_begin (k : Kernel) (t : TerminalId) (pid : ProcessId) :
    (k.begin t pid).memory = k.memory := by
  simp only [begin, enter, updateSession, setSession]

theorem memory_withProcess (k : Kernel) (pid : ProcessId) (p : ProcessRecord TerminalId) :
    (k.withProcess pid p).memory = k.memory := rfl

theorem memory_log (k : Kernel) (n : Notice) : (k.log n).memory = k.memory := rfl

theorem memory_withProgram (k : Kernel) (file : ProgramFile) (pid : ProcessId) :
    (k.withProgram file pid).memory = k.memory.write (programSlot pid + programLoadOffset)
      (k.files.read file.inode 0 file.length).bytes := rfl

theorem loadsImage_spawn (k : Kernel) (t : TerminalId) (name args : List UInt8)
    (save : Option TerminalId) :
    LoadsImage (fun q => k.processes.process? q = none) k (k.spawn t name args save).1 := by
  unfold spawn
  split
  · exact .inl rfl
  · rename_i file found
    split
    · exact .inl (k.memory_print _ _)
    · rcases k.load_cases t file args save with
        ⟨_, failed⟩ | ⟨q, _, number, _, failed⟩ | ⟨q, number, _, started⟩
      · rw [failed]
        exact .inl rfl
      · rw [failed]
        exact .inr ⟨q, name, file, (ProcessTable.free?_spec number).2, found,
          k.memory_withProgram file q⟩
      · rw [started]
        refine .inr ⟨q, name, file, (ProcessTable.free?_spec number).2, found, ?_⟩
        rw [memory_log, memory_begin, memory_withProcess, memory_withProgram]

theorem loadsImage_relaunch (k : Kernel) (t : TerminalId) :
    LoadsImage (fun q => k.processes.process? q = none) k (k.relaunch t).1 := by
  have spawned := k.loadsImage_spawn t shellName [] none
  unfold relaunch
  generalize k.spawn t shellName [] none = result at spawned ⊢
  obtain ⟨k', cause | launch⟩ := result
  · exact spawned.congr rfl rfl rfl
  · exact spawned

/-- The number of the process that ends is free from then on. -/
theorem loadsImage_halt (k : Kernel) (status : UInt8) :
    LoadsImage (fun q => k.processes.process? q = none ∨ ∃ p, k.current = .ok (q, p)) k
      (k.halt status).1 := by
  unfold halt
  split
  · exact .inl rfl
  · rename_i pid p running
    dsimp only
    split
    · have loads := loadsImage_relaunch
        (((k.reportUnclosable pid p).finish pid p.terminal).log (.exited pid status)) p.terminal
      refine (loads.mono fun q gone => ?_).congr rfl rfl rfl
      change (k.processes.release pid).process? q = none at gone
      rw [ProcessTable.process?_release] at gone
      split at gone
      · rename_i same
        exact .inr ⟨p, same ▸ running⟩
      · exact .inl gone
    · exact .inl rfl

/-- The number that an action loads a program for: one that is free, or that of the process which
the action ends. -/
def Vacant (k : Kernel) (a : Action) (q : ProcessId) : Prop :=
  k.processes.process? q = none ∨ ∃ status p, a.exitStatus? = some status ∧ k.current = .ok (q, p)

theorem loadsImage_act (hands : a.handsOver = true) :
    LoadsImage (k.Vacant a) k (k.act a).1 := by
  have ended {status : UInt8} (ends : a.exitStatus? = some status) :
      LoadsImage (k.Vacant a) k (k.act a).1 := by
    rw [k.act_of_exitStatus? ends, fst_ofCall]
    exact (k.loadsImage_halt status).mono fun q gone =>
      gone.imp_right fun ⟨p, running⟩ => ⟨status, p, ends, running⟩
  cases a with
  | halt status => exact ended rfl
  | execute line =>
    by_cases isExit : (Command.parse line).name = Command.exitName
    · exact ended (if_pos isExit)
    · rw [act, fst_ofCall, execute]
      dsimp only
      rw [if_neg isExit]
      exact (k.loadsImage_spawn _ _ _ _).mono fun q free => .inl free
  | start | openFile _ | closeFile _ | read _ _ | write _ _ | getArgs _ | mapVideo _
  | writeScreen _ _ _ | store _ _ | tick | switchTerminal _ | key _ | clockTick | emit _ => cases hands

/-- A byte that loading a program touches belongs to its image. -/
theorem image_of_touched (loads : LoadsImage free k k') (inside : offset < programSlotSize)
    (touched : k.Touched k' q offset) :
    free q ∧ programLoadOffset ≤ offset ∧ ∃ name file, k.files.findProgram name = .ok file ∧
      (k.files.read file.inode 0 file.length).bytes[offset - programLoadOffset]? =
        some (k'.physicalByte (programSlot q + offset)) := by
  rcases loads with same | ⟨pid, name, file, unused, found, written⟩
  · exact absurd touched (not_touched_of_memory same)
  · have fits := length_le_of_findProgram found
    have read := k.files.length_read_le file.inode 0 file.length
    obtain ⟨low, high⟩ := inside_of_touched written touched
    have room : programLoadOffset + (k.files.read file.inode 0 file.length).bytes.length ≤
        programSlotSize := by
      simp only [maxProgramLength, programSlotSize, programLoadOffset] at *
      omega
    obtain rfl := slot_unique inside room low high
    have within : offset - programLoadOffset <
        (k.files.read file.inode 0 file.length).bytes.length := by omega
    refine ⟨unused, by omega, name, file, found, ?_⟩
    have slots := le_programSlot q
    rw [physicalByte_slot _ (by omega), written, Memory.byteAt_write, if_pos ⟨low, high⟩,
      List.getD_eq_getElem?_getD, Nat.add_sub_add_left, List.getElem?_eq_getElem within,
      Option.getD_some]

end TerminalKernel.Kernel
