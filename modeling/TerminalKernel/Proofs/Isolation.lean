import TerminalKernel.Proofs.Return
import TerminalKernel.Proofs.Stores

/-!
# Isolation

A call acts for one process on one terminal, and nothing of the others is touched by it, whether it
succeeds or fails: neither their records nor their memory nor, unless its own terminal is displayed,
the display. This holds of every update (`confined_update`) and therefore of every call.
-/

namespace TerminalKernel

namespace Kernel

/-! ## What a call must not touch -/

/-- A physical address that is no business of process `pid` on terminal `t`. -/
inductive Foreign (k : Kernel) (pid : ProcessId) (t : TerminalId) : (address : Nat) → Prop
  /-- In the slot of another live process. -/
  | slot {q : ProcessId} {p : ProcessRecord TerminalId} (other : q ≠ pid)
      (live : k.processes.process? q = some p) {offset : Nat} (inside : offset < programSlotSize) :
      Foreign k pid t (programSlot q + offset)
  /-- In the page of another terminal. -/
  | page {u : TerminalId} (other : u ≠ t) {offset : Nat} (inside : offset < pageSize) :
      Foreign k pid t (k.console.pages.page u + offset)
  /-- On the display, while it shows another terminal. -/
  | display (hidden : t ≠ k.console.displayed) {offset : Nat} (inside : offset < pageSize) :
      Foreign k pid t (vgaTextMemory + offset)

/-- The display and its hardware cursor were left alone. -/
structure SameDisplay (k k' : Kernel) : Prop where
  live : k'.console.live = k.console.live
  hardwareCursor : k'.console.hardwareCursor = k.console.hardwareCursor
  /-- No byte went to the registers of the hardware cursor. -/
  cursorWrites :
    k'.trace.toList.filter Effect.movesCursor = k.trace.toList.filter Effect.movesCursor

/-- From one kernel to the other only what belongs to process `pid` and terminal `t` changed, to
nobody, or to numbers that were free. -/
structure Confined (k : Kernel) (pid : ProcessId) (t : TerminalId) (k' : Kernel) : Prop where
  /-- Cursor, line and page of every other terminal. -/
  terminal : ∀ u, u ≠ t → k'.console.terminal u = k.console.terminal u
  /-- Saved flow, owner, process count and use of every other terminal. -/
  session : ∀ u, u ≠ t → k'.session u = k.session u
  /-- The whole record of every other live process. -/
  process : ∀ q p, q ≠ pid → k.processes.process? q = some p → k'.processes.process? q = some p
  /-- All memory of other processes, terminals and of the display. -/
  byte : ∀ address, k.Foreign pid t address → k'.physicalByte address = k.physicalByte address
  displayed : k'.console.displayed = k.console.displayed
  pages : k'.console.pages = k.console.pages
  display : t ≠ k.console.displayed → k.SameDisplay k'

variable {k k' k'' : Kernel} {pid q : ProcessId} {t : TerminalId} {address offset : Nat}

/-! ## Foreign memory -/

theorem ne_of_free {r : ProcessId} {p : ProcessRecord TerminalId}
    (free : k.processes.process? q = none) (live : k.processes.process? r = some p) : q ≠ r := by
  rintro rfl
  rw [free] at live
  cases live

theorem SameDisplay.refl (k : Kernel) : k.SameDisplay k := ⟨rfl, rfl, rfl⟩

theorem SameDisplay.trans (first : k.SameDisplay k') (second : k'.SameDisplay k'') :
    k.SameDisplay k'' where
  live := second.live.trans first.live
  hardwareCursor := second.hardwareCursor.trans first.hardwareCursor
  cursorWrites := second.cursorWrites.trans first.cursorWrites

theorem Foreign.hidden (foreign : k.Foreign pid t address)
    (cell : vgaTextMemory ≤ address ∧ address < vgaTextMemory + surfaceSize) :
    t ≠ k.console.displayed := by
  have few := surfaceSize_le_pageSize
  cases foreign with
  | display hidden _ => exact hidden
  | @slot q _ _ _ _ _ =>
    have pages := k.console.pages.page_le t
    have display := k.console.pages.le_page t
    have slots := le_programSlot q
    omega
  | @page u _ _ _ =>
    have display := k.console.pages.le_page u
    omega

theorem Foreign.holder_ne {u : TerminalId} (foreign : k.Foreign pid t address)
    (found : pageHolder? k.console.pages address = some u) : u ≠ t := by
  obtain ⟨low, high⟩ := mem_of_pageHolder? found
  have few := surfaceSize_le_pageSize
  have display := k.console.pages.le_page u
  have pages := k.console.pages.page_le u
  rintro rfl
  cases foreign with
  | @slot q _ _ _ _ _ =>
    have slots := le_programSlot q
    omega
  | page other _ =>
    rcases k.console.pages.page_disjoint other with below | above
    · omega
    · omega
  | display _ _ => omega

/-- Foreign memory is plain memory, the page of another terminal, or the display that shows another
terminal. -/
theorem Foreign.physicalByte_congr (foreign : k.Foreign pid t address)
    (pages : k'.console.pages = k.console.pages)
    (terminal : ∀ u, u ≠ t → k'.console.terminal u = k.console.terminal u)
    (live : t ≠ k.console.displayed → k'.console.live = k.console.live)
    (memory : k'.memory.byteAt address = k.memory.byteAt address) :
    k'.physicalByte address = k.physicalByte address := by
  unfold physicalByte
  split
  · rename_i cell
    rw [live (foreign.hidden cell)]
  · rw [pages]
    split
    · rename_i u found
      rw [terminal u (foreign.holder_ne found)]
    · exact memory

/-- A block in the slot of the process, or in a free one, does not meet foreign memory. -/
theorem Foreign.outside_slot (foreign : k.Foreign pid t address)
    (own : q = pid ∨ k.processes.process? q = none) {length : Nat}
    (fits : offset + length ≤ programSlotSize) :
    address < programSlot q + offset ∨ programSlot q + offset + length ≤ address := by
  have slots := le_programSlot q
  cases foreign with
  | slot other live _ =>
    have apart : q ≠ _ := own.elim (fun same => same ▸ Ne.symm other) fun free =>
      ne_of_free free live
    rcases programSlot_disjoint apart with below | above
    · omega
    · omega
  | @page u _ _ _ =>
    have pages := k.console.pages.page_le u
    omega
  | display _ _ =>
    have pages := k.console.pages.page_le t
    have display := k.console.pages.le_page t
    omega

theorem Foreign.outside_screen (foreign : k.Foreign pid t address) {length : Nat}
    (fits : offset + length ≤ pageSize) :
    address < k.console.screenAddress t + offset ∨
      k.console.screenAddress t + offset + length ≤ address := by
  cases foreign with
  | @slot q _ _ _ _ _ =>
    have screens := k.console.screenAddress_le t
    have slots := le_programSlot q
    omega
  | @page u other _ _ =>
    unfold Console.screenAddress
    split
    · have display := k.console.pages.le_page u
      omega
    · rcases k.console.pages.page_disjoint other with below | above
      · omega
      · omega
  | display hidden _ =>
    have display := k.console.pages.le_page t
    rw [Console.screenAddress, if_neg hidden]
    omega

/-! ## Confinement -/

namespace Confined

/-- Where plain memory changes, it is none that is foreign. -/
theorem of_memory (terminal : ∀ u, u ≠ t → k'.console.terminal u = k.console.terminal u)
    (session : ∀ u, u ≠ t → k'.session u = k.session u)
    (process : ∀ q p, q ≠ pid → k.processes.process? q = some p →
      k'.processes.process? q = some p)
    (memory : ∀ address, k.Foreign pid t address →
      k'.memory.byteAt address = k.memory.byteAt address)
    (displayed : k'.console.displayed = k.console.displayed)
    (pages : k'.console.pages = k.console.pages)
    (display : t ≠ k.console.displayed → k.SameDisplay k') : k.Confined pid t k' where
  terminal := terminal
  session := session
  process := process
  byte address foreign := foreign.physicalByte_congr pages terminal
    (fun hidden => (display hidden).live) (memory address foreign)
  displayed := displayed
  pages := pages
  display := display

theorem refl (k : Kernel) (pid : ProcessId) (t : TerminalId) : k.Confined pid t k :=
  .of_memory (fun _ _ => rfl) (fun _ _ => rfl) (fun _ _ _ live => live) (fun _ _ => rfl) rfl rfl
    fun _ => .refl k

theorem foreign (confined : k.Confined pid t k') (foreign : k.Foreign pid t address) :
    k'.Foreign pid t address := by
  cases foreign with
  | slot other live inside => exact .slot other (confined.process _ _ other live) inside
  | page other inside =>
    rw [← confined.pages]
    exact .page other inside
  | display hidden inside =>
    exact .display (fun shown => hidden (shown.trans confined.displayed)) inside

theorem trans (first : k.Confined pid t k') (second : k'.Confined pid t k'') :
    k.Confined pid t k'' where
  terminal u other := (second.terminal u other).trans (first.terminal u other)
  session u other := (second.session u other).trans (first.session u other)
  process q p other live := second.process q p other (first.process q p other live)
  -- An address that is foreign to the first half of the way is so to the second.
  byte address foreign :=
    (second.byte address (first.foreign foreign)).trans (first.byte address foreign)
  displayed := second.displayed.trans first.displayed
  pages := second.pages.trans first.pages
  display hidden := (first.display hidden).trans (second.display (first.displayed ▸ hidden))

theorem withProcesses (confined : k.Confined pid t k') {processes : ProcessTable TerminalId}
    (process : ∀ q p, q ≠ pid → k.processes.process? q = some p → processes.process? q = some p) :
    k.Confined pid t { k' with processes } where
  terminal := confined.terminal
  session := confined.session
  process := process
  byte address foreign := by
    rw [← confined.byte address foreign]
    simp only [physicalByte]
  displayed := confined.displayed
  pages := confined.pages
  display hidden :=
    ⟨(confined.display hidden).live, (confined.display hidden).hardwareCursor,
      (confined.display hidden).cursorWrites⟩

end Confined

/-! ## Updates are confined -/

theorem confined_of_same (pid : ProcessId) (t : TerminalId) (console : k'.console = k.console)
    (sessions : k'.sessions = k.sessions) (processes : k'.processes = k.processes)
    (memory : k'.memory = k.memory)
    (quiet : t ≠ k.console.displayed →
      k'.trace.toList.filter Effect.movesCursor = k.trace.toList.filter Effect.movesCursor) :
    k.Confined pid t k' := by
  apply Confined.of_memory
  · intro u _
    rw [console]
  · intro u _
    rw [session, sessions, session]
  · intro q p _ live
    rw [processes, live]
  · intro a _
    rw [memory]
  · rw [console]
  · rw [console]
  · intro hidden
    exact ⟨by rw [console], by rw [console], quiet hidden⟩

theorem confined_emit (k : Kernel) (pid : ProcessId) {effects : List Effect}
    (quiet : t = k.console.displayed ∨ ∀ e ∈ effects, e.movesCursor = false) :
    k.Confined pid t (k.emit effects) := by
  refine confined_of_same pid t rfl rfl rfl rfl fun hidden => ?_
  have none : effects.filter Effect.movesCursor = [] := by
    refine List.filter_eq_nil_iff.mpr fun e inside => ?_
    rw [quiet.resolve_left hidden e inside]
    exact Bool.false_ne_true
  simp only [emit, Array.toList_append, List.filter_append, none, List.append_nil]

/-- Of the consoles, only the terminal and, if it is displayed, the display changed. -/
theorem confined_console (k : Kernel) (pid : ProcessId) {console : Console}
    (terminal : ∀ u, u ≠ t → console.terminal u = k.console.terminal u)
    (displayed : console.displayed = k.console.displayed)
    (pages : console.pages = k.console.pages)
    (display : t ≠ k.console.displayed → console.live = k.console.live ∧
      console.hardwareCursor = k.console.hardwareCursor) :
    k.Confined pid t { k with console } :=
  .of_memory terminal (fun _ _ => rfl) (fun _ _ _ live => live) (fun _ _ => rfl) displayed pages
    fun hidden => ⟨(display hidden).1, (display hidden).2, rfl⟩

theorem confined_memory (k : Kernel) (pid : ProcessId) (t : TerminalId) {memory : Memory}
    (same : ∀ address, k.Foreign pid t address → memory.byteAt address = k.memory.byteAt address) :
    k.Confined pid t { k with memory } :=
  .of_memory (fun _ _ => rfl) (fun _ _ => rfl) (fun _ _ _ live => live) same rfl rfl
    fun _ => ⟨rfl, rfl, rfl⟩

theorem confined_setSession (k : Kernel) (pid : ProcessId) (t : TerminalId) (s : Session) :
    k.Confined pid t (k.setSession t s) := by
  apply Confined.of_memory
  · intro u _
    rfl
  · intro u other
    rw [session_setSession, if_neg (Ne.symm other)]
  · intro q p _ live
    exact live
  · intro address _
    rfl
  · rfl
  · rfl
  · intro _
    exact ⟨rfl, rfl, rfl⟩

theorem confined_update (update : Update pid t k k') : k.Confined pid t k' := by
  cases update with
  | emit effects quiet => exact k.confined_emit pid quiet
  | clock | enter => exact confined_of_same pid t rfl rfl rfl rfl fun _ => rfl
  | record f =>
    apply (Confined.refl k pid t).withProcesses
    intro q p other live
    rw [ProcessTable.process?_update, if_neg (Ne.symm other), live]
  | line line =>
    refine k.confined_console pid (fun u other => ?_) rfl rfl fun _ => ⟨rfl, rfl⟩
    exact (k.console.terminal_setTerminal t u _).trans (if_neg (Ne.symm other))
  | screen s =>
    apply k.confined_console pid _ (k.console.displayed_setScreen t s)
      (k.console.pages_setScreen t s)
    · intro hidden
      rw [Console.setScreen, if_neg hidden]
      exact ⟨rfl, rfl⟩
    · intro u other
      exact k.console.terminal_setScreen_of_ne (Ne.symm other) s
  | cursor shown =>
    exact k.confined_console pid (fun _ _ => rfl) rfl rfl fun hidden => absurd shown hidden
  | session s => exact k.confined_setSession pid t s
  | @insert q free p =>
    apply (Confined.refl k pid t).withProcesses
    intro r p' _ live
    rw [ProcessTable.process?_insert, if_neg (fun both => ne_of_free free live both.1), live]
  | release =>
    apply (Confined.refl k pid t).withProcesses
    intro q p other live
    rw [ProcessTable.process?_release, if_neg (Ne.symm other), live]
  | slot own fits =>
    exact k.confined_memory pid t fun address foreign =>
      k.memory.byteAt_write_of_outside (foreign.outside_slot own fits)
  | tail _ fits =>
    exact k.confined_memory pid t fun address foreign =>
      k.memory.byteAt_write_of_outside (foreign.outside_screen fits)

theorem confined_performs (performs : Performs pid t k k') : k.Confined pid t k' := by
  induction performs with
  | refl => exact .refl k pid t
  | tail _ update ih => exact ih.trans (confined_update update)

/-! ## Calls are confined -/

/-- The window belongs to the processor's own state. -/
theorem confined_mapVideo (k : Kernel) (pid : ProcessId) (t : TerminalId) (address : Nat) :
    k.Confined pid t (k.mapVideo address).1 := by
  rcases k.mapVideo_cases address with ⟨_, failed⟩ | ⟨_, _, _, mapped⟩
  · rw [failed]
    exact .refl k pid t
  · rw [mapped]
    exact confined_of_same pid t rfl rfl rfl rfl fun _ => rfl

theorem confined_act (own : k.RunsAs pid k.scheduled) {a : Action} (call : a.isCall = true) :
    k.Confined pid k.scheduled (k.act a).1 := by
  by_cases window : ∃ address, a = .mapVideo address
  · obtain ⟨address, rfl⟩ := window
    exact k.confined_mapVideo pid k.scheduled address
  · apply confined_performs (performs_act own call _)
    intro address same
    exact window ⟨address, same⟩

/-- A flow may be saved at the terminal, or in the record of the process or of a new one. -/
theorem Confined.saveContext (confined : k.Confined pid t k') {slot : SaveSlot}
    (own : slot = .terminal t ∨
      ∃ q, slot = .parent q ∧ (q = pid ∨ k.processes.process? q = none))
    (context : SavedContext) : k.Confined pid t (k'.saveContext slot context) := by
  rcases own with rfl | ⟨q, rfl, rfl | free⟩
  · exact confined.trans (confined_update (.session _))
  · exact confined.trans (confined_update (.record _))
  · apply confined.withProcesses
    intro r p other live
    rw [ProcessTable.process?_update, if_neg (ne_of_free free live)]
    exact confined.process r p other live

end Kernel

/-- A flow is saved at the scheduled terminal or in the record of a process that is launched. -/
theorem Roster.Step.slot_cases {r r' : Roster} {current? : Option ProcessId} {transfer : Transfer}
    (step : Step r current? transfer r') {slot : SaveSlot}
    (saves : transfer.saveSlot? = some slot) :
    slot = .terminal r.scheduled ∨ ∃ q, slot = .parent q ∧ transfer.Launches q := by
  cases slot with
  | parent q => exact .inr ⟨q, rfl, step.launches_of_slot saves⟩
  | terminal u =>
    cases step with
    | fresh _ _ _ save =>
      rw [Transfer.saveSlot?, save] at saves
      cases saves
      exact .inl rfl
    | execute _ _ save | relaunch _ _ _ _ _ save =>
      rw [Transfer.saveSlot?, save] at saves
      cases saves
    | turn _ _ _ _ _ =>
      cases saves
      exact .inl rfl
    | stay | resume _ _ _ _ _ | idle _ _ _ => cases saves

namespace Kernel

variable {k k' : Kernel} {pid : ProcessId} {t : TerminalId} {address offset : Nat}

/-- A call with the saving of its flow. -/
theorem confined_after (serves : k.Serves pid) (stack : k.OnStack) (own : k.RunsAs pid k.scheduled)
    {a : Action} (call : a.isCall = true) (saved : Option SavedContext) :
    k.Confined pid k.scheduled (Moment.mk k a saved).after := by
  have decided : k.Confined pid k.scheduled (Moment.mk k a saved).decided := confined_act own call
  have ready : a = .start → k.scheduled = .first ∧ (k.session .first).active = false := by
    rintro rfl
    cases call
  have step := act_step_of_owner serves.sound stack a ready
  unfold Moment.after
  split
  · unfold park
    split
    · rename_i slot saves
      apply decided.saveContext
      rcases step.slot_cases saves with here | ⟨q, which, launches⟩
      · exact .inl here
      · -- The record is that of the launched process, whose number no other process has.
        refine .inr ⟨q, which, ?_⟩
        rcases serves.sound.launched_free step launches with free | stacked
        · exact .inr (by simpa [roster] using free)
        · have same : some pid = some q := serves.owner.symm.trans stacked.owner
          exact .inl (Option.some_inj.mp same).symm
    · exact decided
  · exact decided

/-! ### Reading into user memory -/

theorem length_readLine_le (k : Kernel) (t : TerminalId) (room : Nat) :
    (k.readLine t room).2.bytes.length ≤ room := by
  unfold readLine Console.takeLine? InputLine.take?
  by_cases committed : (k.console.terminal t).line.committed = true
  · rw [if_pos committed]
    exact List.length_take_le ..
  · rw [if_neg committed]
    exact Nat.zero_le _

theorem length_readDirectory_le (k : Kernel) (pid : ProcessId) (fd : Nat) (d : Descriptor)
    (room : Nat) : (k.readDirectory pid fd d room).2.bytes.length ≤ room := by
  rcases k.readDirectory_cases pid fd d room with ⟨_, none⟩ | ⟨_, _, read⟩
  · rw [none]
    exact Nat.zero_le _
  · rw [read]
    exact List.length_take_le ..

theorem length_readRegular_le (k : Kernel) (pid : ProcessId) (fd : Nat) (d : Descriptor)
    (room : Nat) : (k.readRegular pid fd d room).2.bytes.length ≤ room := by
  have copied := k.files.length_read_le d.inode d.position room
  rcases k.readRegular_cases pid fd d room with ⟨_, failed⟩ | ⟨_, read⟩
  · rw [failed]
    exact copied
  · rw [read]
    exact copied

theorem length_read_le (k : Kernel) (fd room : Nat) :
    (k.read fd (some room)).2.bytes.length ≤ room := by
  unfold read
  split
  · exact Nat.zero_le _
  · exact Nat.zero_le _
  · rename_i same
    cases same
    split
    · exact k.length_readLine_le _ _
    · exact List.length_take_le ..
    · exact k.length_readDirectory_le _ _ _ _
    · exact k.length_readRegular_le _ _ _ _
    · exact Nat.zero_le _
    · exact Nat.zero_le _

theorem length_getArgs_le {k : Kernel} {room : Nat} {bytes : List UInt8}
    (given : k.getArgs (some room) = .ok bytes) : bytes.length ≤ room := by
  unfold getArgs at given
  split at given
  · cases given
  · rename_i same
    cases same
    split at given
    · cases given
    · split at given
      · cases given
        exact List.length_take_le ..
      · cases given

end Kernel

/-! ### Whole system calls -/

namespace Computer

variable {c : Computer} {pid : ProcessId}

theorem kernel_answerCount (c : Computer) (r : Registers) (result : Except SyscallError Nat) :
    (c.answerCount r result).kernel = c.kernel := by
  cases result <;> rfl

theorem kernel_tryRead (c : Computer) (r : Registers) (fd address room : Nat) :
    (c.tryRead r fd address room).kernel = (c.kernel.read fd (some room)).1.storeUser address
      (c.kernel.read fd (some room)).2.bytes := by
  unfold tryRead
  dsimp only
  split
  · rfl
  · rw [kernel_answerCount]
    rfl

theorem confined_tryRead (serves : c.kernel.Serves pid) (own : c.kernel.RunsAs pid c.kernel.scheduled)
    (r : Registers) (fd : Nat) {address room : Nat}
    (accepted : c.kernel.acceptsRange address room = true) :
    c.kernel.Confined pid c.kernel.scheduled (c.tryRead r fd address room).kernel := by
  rw [kernel_tryRead]
  have read := Kernel.performs_read own fd (some room)
  have roster := c.kernel.roster_read fd (some room)
  have viewport := Kernel.viewport_performs read
  have few := c.kernel.length_read_le fd room
  generalize c.kernel.read fd (some room) = result at *
  obtain ⟨k', delivery⟩ := result
  have scheduled : k'.scheduled = c.kernel.scheduled := congrArg Viewport.scheduled viewport
  have fits := Kernel.acceptsRange_of_le accepted few
  rw [← Kernel.acceptsRange_congr viewport] at fits
  have stored := Kernel.performs_storeUser (serves.step roster (.inl viewport)) fits
  rw [scheduled] at stored
  exact Kernel.confined_performs (read.trans stored)

theorem confined_callRead (serves : c.kernel.Serves pid)
    (own : c.kernel.RunsAs pid c.kernel.scheduled) (r : Registers) (fd address length : Nat) :
    c.kernel.Confined pid c.kernel.scheduled (c.callRead r fd address length).kernel := by
  unfold callRead
  split
  · exact .refl _ _ _
  · rw [kernel_answerCount]
    exact Kernel.confined_performs (Kernel.performs_read own fd none)
  · rename_i start count found
    obtain ⟨rfl, rfl, accepted⟩ := UserMemory.accepts_of_buffer? found
    exact confined_tryRead serves own r fd accepted

theorem confined_callWrite (own : c.kernel.RunsAs pid c.kernel.scheduled) (r : Registers)
    (fd address length : Nat) :
    c.kernel.Confined pid c.kernel.scheduled (c.callWrite r fd address length).kernel := by
  unfold callWrite
  split
  · exact .refl _ _ _
  · rw [kernel_answerCount]
    exact Kernel.confined_performs (Kernel.performs_writeUser own fd _)

theorem confined_callOpen (own : c.kernel.RunsAs pid c.kernel.scheduled) (r : Registers)
    (address : Nat) :
    c.kernel.Confined pid c.kernel.scheduled (c.callOpen r address).kernel := by
  unfold callOpen
  split
  · exact .refl _ _ _
  · rw [kernel_answerCount]
    exact Kernel.confined_performs (Kernel.performs_openFile own _)

theorem confined_callClose (own : c.kernel.RunsAs pid c.kernel.scheduled) (r : Registers)
    (fd : Nat) : c.kernel.Confined pid c.kernel.scheduled (c.callClose r fd).kernel := by
  unfold callClose
  rw [kernel_answerCount]
  exact Kernel.confined_performs (Kernel.performs_closeFile own fd)

theorem confined_callGetArgs (serves : c.kernel.Serves pid) (r : Registers)
    (address length : Nat) :
    c.kernel.Confined pid c.kernel.scheduled (c.callGetArgs r address length).kernel := by
  unfold callGetArgs
  split
  · exact .refl _ _ _
  · rw [kernel_answerCount]
    exact .refl _ _ _
  · rename_i start count found
    obtain ⟨rfl, rfl, accepted⟩ := UserMemory.accepts_of_buffer? found
    split
    · exact .refl _ _ _
    · rename_i bytes given
      have fits := Kernel.acceptsRange_of_le accepted (Kernel.length_getArgs_le given)
      exact Kernel.confined_performs (Kernel.performs_storeUser serves fits)

/-- The window's address is stored after the window was mapped. -/
theorem confined_callMapVideo (serves : c.kernel.Serves pid) (stack : c.kernel.OnStack)
    (r : Registers) (address : Nat) :
    c.kernel.Confined pid c.kernel.scheduled (c.callMapVideo r address).kernel := by
  have mapped := c.kernel.confined_mapVideo pid c.kernel.scheduled address
  have roster := c.kernel.roster_mapVideo address
  have viewport := Kernel.viewport_mapVideo serves.sound stack address
  unfold callMapVideo
  split
  · rename_i same
    rw [same] at mapped
    exact mapped
  · rename_i k' window same
    rw [same] at mapped roster viewport
    dsimp only at mapped roster viewport
    split
    · rename_i start count found
      obtain ⟨rfl, rfl, accepted⟩ := UserMemory.accepts_of_buffer? found
      have serves' := serves.step roster viewport
      have scheduled : k'.scheduled = c.kernel.scheduled := congrArg Roster.scheduled roster
      have fits : k'.acceptsRange start (Bytes.ofNat 8 window).length = true := by
        rw [Bytes.length_ofNat]
        exact UserMemory.accepts_of_unmapped accepted k'.videoMapped
      have stored := Kernel.performs_storeUser serves' fits
      rw [scheduled] at stored
      exact mapped.trans (Kernel.confined_performs stored)
    · exact mapped

/-- Every call but those that start or end a process, with the copies that belong to it. -/
theorem confined_dispatch (serves : c.kernel.Serves pid) (stack : c.kernel.OnStack)
    (own : c.kernel.RunsAs pid c.kernel.scheduled) {r : Registers}
    (halt : Syscall.ofNumber? r.rax.toNat ≠ some .halt)
    (execute : Syscall.ofNumber? r.rax.toNat ≠ some .execute) :
    c.kernel.Confined pid c.kernel.scheduled (c.dispatch r).kernel := by
  unfold dispatch
  dsimp only
  split
  · rename_i same
    exact absurd same halt
  · rename_i same
    exact absurd same execute
  · exact confined_callRead serves own r _ _ _
  · exact confined_callWrite own r _ _ _
  · exact confined_callOpen own r _
  · exact confined_callClose own r _
  · exact confined_callGetArgs serves r _ _
  · exact confined_callMapVideo serves stack r _
  · rw [kernel_answerCount]
    exact .refl _ _ _
  · rw [kernel_answerCount]
    exact .refl _ _ _
  · exact Kernel.confined_update (.log _)

end Computer

namespace Run

variable {files : FileSystem} {arena : Arena} {storage : Kernel.Storage} {h : List Moment}
  {k : Kernel} {pid : ProcessId} {p : ProcessRecord TerminalId}

theorem serves (run : Run (.new files arena storage) h k) (running : k.current = .ok (pid, p)) :
    k.Serves pid where
  sound := run.sound
  owner := (Kernel.owner_of_current run.sound run.onStack running).1
  shown := run.closed_or_open

/-- Whatever the running process of a reachable kernel asks for, nothing that belongs to other
processes or terminals changes: not by the call itself with the saving of its flow, not by a whole
system call that copies from and to user memory, and not by a read that is tried again. -/
theorem calls_isolated (run : Run (.new files arena storage) h k)
    (running : k.current = .ok (pid, p)) :
    (∀ a saved, a.isCall = true → k.Confined pid p.terminal (Moment.mk k a saved).after) ∧
    (∀ (c : Computer) r, c.kernel = k → Syscall.ofNumber? r.rax.toNat ≠ some .halt →
      Syscall.ofNumber? r.rax.toNat ≠ some .execute →
      k.Confined pid p.terminal (c.dispatch r).kernel) ∧
    ∀ (c : Computer) r fd address room, c.kernel = k → k.acceptsRange address room = true →
      k.Confined pid p.terminal (c.tryRead r fd address room).kernel := by
  have here := (Kernel.owner_of_current run.sound run.onStack running).2
  have own := Kernel.runsAs_of_current running
  have serves := run.serves running
  rw [here] at own ⊢
  refine ⟨?_, ?_, ?_⟩
  · intro a saved call
    exact Kernel.confined_after serves run.onStack own call saved
  · rintro c r rfl halt execute
    exact Computer.confined_dispatch serves run.onStack own halt execute
  · rintro c r fd address room rfl accepted
    exact Computer.confined_tryRead serves own r fd accepted

end Run

theorem Moment.after_none (k : Kernel) (a : Action) : (Moment.mk k a none).after = (k.act a).1 := rfl

theorem Sample.process_nested {k : Kernel} (same : k.roster = Sample.nested) :
    ∃ p, k.processes.process? 0 = some p := by
  have link : k.roster.link? 0 = some ⟨0, .first⟩ := by
    rw [same]
    decide +kernel
  obtain ⟨p, live, _⟩ := Option.map_eq_some_iff.mp link
  exact ⟨p, live⟩

/-- The second of two shells ends: the slot of the first stays as it was. -/
theorem calls_isolated_nested :
    Run Sample.shellKernel (Sample.played [.execute shellName, .start]).1
        (Sample.played [.execute shellName, .start]).2 ∧
      (∃ p, (Sample.played [.execute shellName, .start]).2.current = .ok (1, p)) ∧
      ∀ offset, offset < programSlotSize →
        ((Sample.played [.execute shellName, .start]).2.act (.halt 3)).1.physicalByte
            (programSlot 0 + offset) =
          (Sample.played [.execute shellName, .start]).2.physicalByte (programSlot 0 + offset) := by
  obtain ⟨p, running, _⟩ := Sample.current_nested Sample.run_nested Sample.roster_nested
  obtain ⟨p₀, live⟩ := Sample.process_nested Sample.roster_nested
  refine ⟨Sample.run_nested, ⟨p, running⟩, fun offset inside => ?_⟩
  have confined := (Run.calls_isolated Sample.run_nested running).1 (.halt 3) none rfl
  rw [Moment.after_none] at confined
  exact confined.byte _ (.slot Nat.zero_ne_one live inside)

end TerminalKernel
