import TerminalKernel.Proofs.Roster

/-!
# Every action is a step of the roster

What starting, ending and taking turns do to the roster, operation by operation, and `act_step`,
which says that an action of the kernel does one step of its roster and decides on the transfer of
that step.
-/

namespace TerminalKernel.Kernel

open Roster

/-! ## Parts of the operations -/

@[simp] theorem roster_enter (k : Kernel) (pid : ProcessId) :
    (k.enter pid).roster = k.roster.enter pid := by
  simp only [roster, Kernel.enter, Roster.enter, slotWindow, AddressSpace.mapProgram]
  rw [Vector.getElem_set_ne (by decide) (by decide) (by decide), Vector.getElem_set_self,
    Vector.getElem_set_self]
  rfl

theorem roster_setSession (k : Kernel) (t : TerminalId) (s : Session) :
    (k.setSession t s).roster =
      { k.roster.setSeat t s.seat with
        saved? := Function.update k.roster.saved? (.terminal t) (some s.context) } := by
  have seats : (k.setSession t s).roster.seat = Function.update k.roster.seat t s.seat := by
    funext u
    simp only [roster, session_setSession, Function.update_apply, eq_comm (a := t)]
    split <;> rfl
  have saved : (k.setSession t s).roster.saved? =
      Function.update k.roster.saved? (.terminal t) (some s.context) := by
    funext slot
    cases slot with
    | parent pid => rfl
    | terminal u =>
      simp only [roster, savedContext?, session_setSession, Function.update_apply,
        SaveSlot.terminal.injEq, eq_comm (a := t)]
      split <;> rfl
  calc (k.setSession t s).roster
      = { k.roster with
          seat := (k.setSession t s).roster.seat
          saved? := (k.setSession t s).roster.saved? } := rfl
    _ = _ := by rw [seats, saved]; rfl

/-- Who sits at a terminal may change while its saved flow stays. -/
theorem roster_updateSession (k : Kernel) (t : TerminalId) {f : Session → Session}
    (context : (f (k.session t)).context = (k.session t).context) :
    (k.updateSession t f).roster = k.roster.setSeat t (f (k.session t)).seat := by
  have same : Function.update k.roster.saved? (.terminal t) (some (k.session t).context) =
      k.roster.saved? := Function.update_eq_self (SaveSlot.terminal t) k.roster.saved?
  rw [updateSession, roster_setSession, context, same]
  rfl

theorem roster_insert (k : Kernel) {pid : ProcessId} {p : ProcessRecord TerminalId}
    (valid : pid < maxProcesses) (context : p.callerContext = .empty) :
    { k with processes := k.processes.insert pid p }.roster = k.roster.setLink pid (some p.link) := by
  have links : { k with processes := k.processes.insert pid p }.roster.link? =
      Function.update k.roster.link? pid (some p.link) := by
    funext q
    simp only [roster, ProcessTable.process?_insert, Function.update_apply, eq_comm (a := pid)]
    by_cases h : q = pid
    · subst h
      simp only [valid, and_self, ↓reduceIte, Option.map_some]
    · simp only [h, false_and, ↓reduceIte]
  have saved : { k with processes := k.processes.insert pid p }.roster.saved? =
      Function.update k.roster.saved? (.parent pid) (some .empty) := by
    funext slot
    cases slot with
    | parent q =>
      simp only [roster, savedContext?, ProcessTable.process?_insert, Function.update_apply,
        SaveSlot.parent.injEq, eq_comm (a := pid)]
      by_cases h : q = pid
      · subst h
        simp only [valid, and_self, ↓reduceIte, Option.map_some, context]
      · simp only [h, false_and, ↓reduceIte]
    | terminal t => rfl
  calc { k with processes := k.processes.insert pid p }.roster
      = { k.roster with
          link? := { k with processes := k.processes.insert pid p }.roster.link?
          saved? := { k with processes := k.processes.insert pid p }.roster.saved? } := rfl
    _ = _ := by rw [links, saved]; rfl

theorem roster_release (k : Kernel) (pid : ProcessId) :
    { k with processes := k.processes.release pid }.roster = k.roster.setLink pid none := by
  have links : { k with processes := k.processes.release pid }.roster.link? =
      Function.update k.roster.link? pid none := by
    funext q
    simp only [roster, ProcessTable.process?_release, Function.update_apply, eq_comm (a := pid)]
    split <;> rfl
  have saved : { k with processes := k.processes.release pid }.roster.saved? =
      Function.update k.roster.saved? (.parent pid) none := by
    funext slot
    cases slot with
    | parent q =>
      simp only [roster, savedContext?, ProcessTable.process?_release, Function.update_apply,
        SaveSlot.parent.injEq, eq_comm (a := pid)]
      split <;> rfl
    | terminal t => rfl
  calc { k with processes := k.processes.release pid }.roster
      = { k.roster with
          link? := { k with processes := k.processes.release pid }.roster.link?
          saved? := { k with processes := k.processes.release pid }.roster.saved? } := rfl
    _ = _ := by rw [links, saved]; rfl

theorem roster_withScheduled (k : Kernel) (scheduled : TerminalId) :
    { k with scheduled }.roster = { k.roster with scheduled } := rfl

/-! ## Starting -/

/-- A process is put on its terminal, on top of the one that has it. -/
theorem roster_begin (k : Kernel) (t : TerminalId) {pid : ProcessId} (valid : pid < maxProcesses)
    {p : ProcessRecord TerminalId} (home : p.link = ⟨(k.parentFor t).getD pid, t⟩)
    (unsaved : p.callerContext = .empty) :
    ((k.withProcess pid p).begin t pid).roster = k.roster.begin t pid := by
  unfold withProcess Kernel.begin Roster.begin
  rw [roster_enter, roster_updateSession _ _ rfl, roster_insert k valid unsaved, home]
  rfl

/-- What starting a program on a terminal can come to: either the process is on the roster, or
nothing happened to the roster. -/
def Starts (k : Kernel) (t : TerminalId) (save : Option TerminalId) :
    Kernel × Except SyscallError Launch → Prop
  | (k', .ok l) => l.pid < maxProcesses ∧ k.roster.link? l.pid = none ∧
      l.save = (save.map .terminal).getD (.parent l.pid) ∧ k'.roster = k.roster.begin t l.pid
  | (k', .error _) => k'.roster = k.roster

theorem load_starts (k : Kernel) (t : TerminalId) (file : ProgramFile) (args : List UInt8)
    (save : Option TerminalId) : k.Starts t save (k.load t file args save) := by
  rcases k.load_cases t file args save with
    ⟨_, failed⟩ | ⟨pid, _, _, _, failed⟩ | ⟨pid, number, _, started⟩
  · rw [failed]
    exact rfl
  · rw [failed]
    exact (k.onlyDevices_withProgram file pid).roster
  · obtain ⟨valid, free⟩ := ProcessTable.free?_spec number
    have absent : k.roster.link? pid = none := by simp only [roster, free, Option.map_none]
    rw [started]
    refine ⟨valid, absent, rfl, ?_⟩
    rw [roster_log]
    rw [roster_begin (k.withProgram file pid) t valid ?home rfl,
      (k.onlyDevices_withProgram file pid).roster]
    rw [parentFor_withProgram]
    rfl

theorem spawn_starts (k : Kernel) (t : TerminalId) (name args : List UInt8)
    (save : Option TerminalId) : k.Starts t save (k.spawn t name args save) := by
  unfold spawn
  split
  · exact rfl
  · split
    · change ((k.print t processLimitMessage).log (.processLimit t)).roster = k.roster
      rw [roster_log, roster_print]
    · exact k.load_starts t _ args save

/-- A program can be started: it is found and can be read, and a number is free for it. -/
structure Startable (k : Kernel) (name : List UInt8) (file : ProgramFile) (pid : ProcessId) :
    Prop where
  found : k.files.findProgram name = .ok file
  room : k.processes.free? = some pid
  reads : (k.files.read file.inode 0 file.length).failure = none

theorem free?_eq_roster (k : Kernel) : k.processes.free? =
    (List.range maxProcesses).find? fun pid => (k.roster.link? pid).isNone := by
  unfold ProcessTable.free?
  congr 1
  funext pid
  simp only [roster, ProcessTable.isLive, Option.isNone_map, Option.not_isSome]

theorem Startable.congr {k k' : Kernel} {name : List UInt8} {file : ProgramFile}
    {pid : ProcessId} (startable : k.Startable name file pid) (same : k'.roster = k.roster) :
    k'.Startable name file pid := by
  have files : k'.files = k.files := congrArg Roster.files same
  refine ⟨?_, ?_, ?_⟩
  · rw [files]
    exact startable.found
  · rw [free?_eq_roster, same, ← free?_eq_roster]
    exact startable.room
  · rw [files]
    exact startable.reads

/-- What can be started is loaded and put on its terminal. -/
theorem spawn_eq {k : Kernel} {name : List UInt8} {file : ProgramFile} {pid : ProcessId}
    (startable : k.Startable name file pid) (t : TerminalId) (args : List UInt8)
    (save : Option TerminalId) :
    k.spawn t name args save =
      ((((k.withProgram file pid).withProcess pid
          (.new pid ((k.parentFor t).getD pid) t args)).begin t pid).log
          (.launched pid t (k.parentFor t) file.entry),
        .ok ⟨pid, file.entry, userStackTop, (save.map .terminal).getD (.parent pid)⟩) := by
  have few := Nat.not_le.mpr (ProcessTable.liveCount_lt startable.room)
  rw [spawn, startable.found]
  dsimp only
  rw [if_neg few]
  rcases k.load_cases t file args save with
    ⟨none, _⟩ | ⟨_, _, _, failed, _⟩ | ⟨new, number, _, started⟩
  · rw [startable.room] at none
    cases none
  · rw [startable.reads] at failed
    cases failed
  · rw [startable.room, Option.some_inj] at number
    rw [started, number]

theorem spawn_launches {k : Kernel} {name : List UInt8} {file : ProgramFile} {pid : ProcessId}
    (startable : k.Startable name file pid) (t : TerminalId) (args : List UInt8)
    (save : Option TerminalId) :
    (k.spawn t name args save).2 =
      .ok ⟨pid, file.entry, userStackTop, (save.map .terminal).getD (.parent pid)⟩ ∧
    (k.spawn t name args save).1.roster = k.roster.begin t pid ∧
    (k.spawn t name args save).1.console = k.console := by
  have starts := k.spawn_starts t name args save
  rw [spawn_eq startable] at starts ⊢
  refine ⟨rfl, starts.2.2.2, ?_⟩
  dsimp only
  rw [console_log, console_begin, console_withProgram]

/-! ## Ending -/

@[simp] theorem roster_reportUnclosable (k : Kernel) (pid : ProcessId)
    (p : ProcessRecord TerminalId) : (k.reportUnclosable pid p).roster = k.roster := rfl

theorem roster_finish (k : Kernel) (pid : ProcessId) (t : TerminalId) :
    (k.finish pid t).roster = k.roster.finish pid t := by
  unfold Kernel.finish Roster.finish
  rw [roster_updateSession _ _ rfl, roster_release]
  rfl

theorem roster_giveBack (k : Kernel) (t : TerminalId) (pid : ProcessId) :
    (k.giveBack t pid).roster = k.roster.giveBack t pid := by
  unfold Kernel.giveBack Roster.giveBack
  rw [roster_enter, roster_updateSession _ _ rfl]
  rfl

/-- A terminal that lost its last process gets a shell or goes out of use. -/
theorem relaunch_spec (k : Kernel) (t : TerminalId) :
    (∃ l, (k.relaunch t).2 = .launch l ∧ l.pid < maxProcesses ∧ k.roster.link? l.pid = none ∧
      l.save = .parent l.pid ∧ (k.relaunch t).1.roster = k.roster.begin t l.pid) ∨
    (k.relaunch t).2 = .idle ∧ (k.relaunch t).1.roster = k.roster.vacate t := by
  unfold relaunch
  have starts := k.spawn_starts t shellName [] none
  generalize k.spawn t shellName [] none = spawned at starts
  obtain ⟨k', cause | launch⟩ := spawned
  · right
    refine ⟨rfl, ?_⟩
    change k'.roster = k.roster at starts
    rw [roster_updateSession _ _ rfl, roster_log, vacate, ← starts]
    rfl
  · left
    obtain ⟨valid, free, save, after⟩ := starts
    exact ⟨_, rfl, valid, free, save, after⟩

/-- The running process leaves its terminal, and then its parent goes on, unless it was the last. -/
theorem halt_eq {k : Kernel} {pid : ProcessId} {p : ProcessRecord TerminalId}
    (running : k.current = .ok (pid, p)) (status : UInt8) :
    ∃ k' : Kernel, k'.roster = k.roster.finish pid p.terminal ∧
      k.halt status =
        if (k.roster.seat p.terminal).processCount - 1 = 0 ∨ p.parent = pid then
          ((k'.relaunch p.terminal).1, .ok (k'.relaunch p.terminal).2)
        else (k'.giveBack p.terminal p.parent, .ok (.resume p.callerContext status)) := by
  have ended : (((k.reportUnclosable pid p).finish pid p.terminal).log (.exited pid status)).roster =
      k.roster.finish pid p.terminal := by
    rw [roster_log, roster_finish, roster_reportUnclosable]
  have count : ((((k.reportUnclosable pid p).finish pid p.terminal).log
      (.exited pid status)).session p.terminal).processCount =
        (k.roster.seat p.terminal).processCount - 1 := by
    rw [← processCount_roster, ended]
    simp only [Roster.finish, setSeat, Function.update_self]
  refine ⟨_, ended, ?_⟩
  rw [halt, running]
  dsimp only
  rw [count]

/-- The end of a process decides between its parent, a shell and nothing. -/
theorem halt_step (k : Kernel) (status : UInt8) :
    Step k.roster k.currentPid? (ofCall (k.halt status)).2 (ofCall (k.halt status)).1.roster := by
  cases running : k.current with
  | error cause =>
    simp only [halt, running, ofCall]
    exact .stay
  | ok found =>
    obtain ⟨pid, p⟩ := found
    obtain ⟨current, live⟩ := current_eq_ok running
    have link : k.roster.link? pid = some p.link := by
      simp only [roster, live, Option.map_some]
    have saved : k.roster.saved? (.parent pid) = some p.callerContext := by
      simp only [roster, savedContext?, live, Option.map_some]
    obtain ⟨k', finished, result⟩ := halt_eq running status
    rw [result]
    split
    · rename_i last
      rcases k'.relaunch_spec p.terminal with
        ⟨l, transfer, valid, free, save, after⟩ | ⟨transfer, after⟩
      · simp only [ofCall, transfer, after]
        rw [finished] at free ⊢
        exact .relaunch (p := p.link) current link last valid free save
      · simp only [ofCall, transfer, after]
        rw [finished]
        exact .idle current link last
    · rename_i child
      rw [not_or] at child
      simp only [ofCall, roster_giveBack, finished]
      exact .resume current link child.2 child.1 saved

/-- Unless it is the last of its terminal, a process that ends has its parent go on. -/
theorem halt_resume {k : Kernel} {pid : ProcessId} {p : ProcessRecord TerminalId}
    (running : k.current = .ok (pid, p)) (others : (k.roster.seat p.terminal).processCount - 1 ≠ 0)
    (child : p.parent ≠ pid) (status : UInt8) :
    (ofCall (k.halt status)).2 = .resume p.callerContext status ∧
      (ofCall (k.halt status)).1.roster =
        (k.roster.finish pid p.terminal).giveBack p.terminal p.parent := by
  obtain ⟨k', finished, result⟩ := halt_eq running status
  rw [result, if_neg (not_or.mpr ⟨others, child⟩)]
  simp only [ofCall, roster_giveBack, finished, and_self]

/-- A command starts a program on the scheduled terminal, or ends the shell that gave it. -/
theorem execute_step (k : Kernel) (line : List UInt8) :
    Step k.roster k.currentPid? (ofCall (k.execute line)).2
      (ofCall (k.execute line)).1.roster := by
  unfold execute
  dsimp only
  split
  · exact k.halt_step 0
  · have starts := k.spawn_starts k.scheduled (Command.parse line).name (Command.parse line).args none
    generalize k.spawn k.scheduled (Command.parse line).name (Command.parse line).args none = spawned
      at starts ⊢
    obtain ⟨k', cause | launch⟩ := spawned
    · change k'.roster = k.roster at starts
      simp only [ofCall, Except.map, starts]
      exact .stay
    · obtain ⟨valid, free, save, after⟩ := starts
      simp only [ofCall, Except.map, after]
      exact .execute valid free save

/-! ## Taking turns -/

theorem roster_schedule (k : Kernel) (t : TerminalId) (owner : ProcessId) :
    (k.schedule t owner).roster = { k.roster.enter owner with scheduled := t } := by
  unfold schedule
  rw [roster_withScheduled, roster_mapScreen, roster_enter]

theorem nextActive?_active {k : Kernel} {t next : TerminalId} (h : k.nextActive? t = some next) :
    (k.session next).active = true := by
  unfold nextActive? at h
  have active := List.find?_some h
  exact active

theorem tick_step (k : Kernel) (current? : Option ProcessId) :
    Step k.roster current? k.tick.2 k.tick.1.roster := by
  rcases k.tick_cases with same | ⟨next, noted⟩ | ⟨next, owner, other, found, seated, parked, turned⟩
  · rw [same]
    exact .stay
  · rw [noted, roster_log]
    exact .stay
  · rw [turned, roster_schedule]
    exact .turn other (nextActive?_active found) seated rfl parked

theorem roster_displayActive (k : Kernel) (t : TerminalId) :
    (k.displayActive t).roster = k.roster := by
  unfold displayActive
  rw [roster_log, roster_mapScreen, roster_display]

theorem roster_takeOver (k : Kernel) (t : TerminalId) :
    { k with scheduled := t, space := k.space.mapVideo none }.roster =
      { k.roster with scheduled := t } :=
  roster_withVideo { k with scheduled := t } none

theorem displayFresh_step (k : Kernel) {t : TerminalId} (current? : Option ProcessId)
    (unused : (k.session t).active = false) :
    Step k.roster current? (k.displayFresh t).2 (k.displayFresh t).1.roster := by
  unfold displayFresh
  have starts := (k.display t).spawn_starts t shellName [] (some k.scheduled)
  generalize (k.display t).spawn t shellName [] (some k.scheduled) = spawned at starts ⊢
  obtain ⟨k', cause | launch⟩ := spawned
  · change k'.roster = (k.display t).roster at starts
    simp only [roster_display, roster_log, starts]
    exact .stay
  · obtain ⟨valid, free, save, after⟩ := starts
    rw [roster_display] at free after
    rw [roster_log, roster_takeOver, after]
    exact .fresh unused valid free save

theorem switchTerminal_step (k : Kernel) (t : TerminalId) (current? : Option ProcessId) :
    Step k.roster current? (k.switchTerminal t).2 (k.switchTerminal t).1.roster := by
  unfold switchTerminal
  split
  · exact .stay
  · split
    · rw [roster_displayActive]
      exact .stay
    · rename_i unused
      rw [Bool.not_eq_true] at unused
      split
      · rw [roster_log, roster_print]
        exact .stay
      · exact k.displayFresh_step current? unused

theorem handleKey_step (k : Kernel) (key : Key) (current? : Option ProcessId) :
    Step k.roster current? (k.handleKey key).2 (k.handleKey key).1.roster := by
  rcases k.handleKey_cases key with taken | ⟨-, t, selected⟩
  · rw [taken]
    dsimp only
    rw [(k.onlyDevices_receiveKey key).roster]
    exact .stay
  · rw [selected]
    exact k.switchTerminal_step t current?

/-! ## All actions -/

/-- Starting the first shell is a step as well, while nothing runs at the first terminal. -/
theorem start_step (k : Kernel) (current? : Option ProcessId) (first : k.scheduled = .first)
    (unused : (k.session .first).active = false) :
    Step k.roster current? (ofCall k.start).2 (ofCall k.start).1.roster := by
  unfold start
  have starts := k.spawn_starts .first shellName [] (some .first)
  generalize k.spawn .first shellName [] (some .first) = spawned at starts ⊢
  obtain ⟨k', cause | launch⟩ := spawned
  · change k'.roster = k.roster at starts
    simp only [ofCall, Except.map, starts]
    exact .stay
  · obtain ⟨valid, free, save, after⟩ := starts
    simp only [ofCall, Except.map, after]
    have scheduled : k.roster.begin .first launch.pid =
        { k.roster.begin .first launch.pid with scheduled := .first } := by
      rw [← first]
      rfl
    rw [scheduled]
    rw [Option.map_some, Option.getD_some, ← first] at save
    exact .fresh unused valid free save

/-- Every action does one step of the roster. -/
theorem act_step (k : Kernel) (a : Action)
    (first : a = .start → k.scheduled = .first ∧ (k.session .first).active = false) :
    Step k.roster k.currentPid? (k.act a).2 (k.act a).1.roster := by
  have quiet : ∀ k' : Kernel, k'.roster = k.roster →
      Step k.roster k.currentPid? .stay k'.roster := by
    intro k' same
    rw [same]
    exact .stay
  cases a with
  | start => exact k.start_step _ (first rfl).1 (first rfl).2
  | execute line => exact k.execute_step line
  | halt status => exact k.halt_step status
  | openFile name => exact quiet _ (k.roster_openFile name)
  | closeFile fd => exact quiet _ (k.roster_closeFile fd)
  | read fd room => exact quiet _ (k.roster_read fd room)
  | write fd buffer => exact quiet _ (k.onlyDevices_write fd buffer).roster
  | getArgs room => exact .stay
  | mapVideo address => exact quiet _ (k.roster_mapVideo address)
  | writeScreen fd address length => exact quiet _ (k.onlyDevices_writeScreen fd address length).roster
  | store address bytes => exact quiet _ (k.onlyDevices_storeUser address bytes).roster
  | tick => exact k.tick_step _
  | switchTerminal t => exact k.switchTerminal_step t _
  | key key => exact k.handleKey_step key _
  | clockTick => exact quiet _ (k.roster_withRtc _)
  | emit effects => exact quiet _ (k.roster_emit effects)

/-- Both ways to ask for the end of the running process come to the same call. -/
theorem act_of_exitStatus? (k : Kernel) {a : Action} {status : UInt8}
    (ends : a.exitStatus? = some status) : k.act a = ofCall (k.halt status) := by
  unfold Action.exitStatus? at ends
  split at ends
  · rw [Option.some_inj] at ends
    rw [← ends]
    rfl
  · split at ends
    · rename_i isExit
      rw [Option.some_inj] at ends
      simp only [act, execute, if_pos isExit, ends]
    · cases ends
  · cases ends

/-! ### Actions that launch -/

theorem start_launches {k : Kernel} {file : ProgramFile} {pid : ProcessId}
    (startable : k.Startable shellName file pid) :
    (k.act .start).2 = .launch ⟨pid, file.entry, userStackTop, .terminal .first⟩ ∧
      (k.act .start).1.roster = k.roster.begin .first pid ∧
      (k.act .start).1.console = k.console := by
  have launches := spawn_launches startable .first [] (some .first)
  simp only [act, start]
  generalize k.spawn .first shellName [] (some .first) = spawned at launches ⊢
  obtain ⟨k', result⟩ := spawned
  obtain ⟨rfl, after⟩ := launches
  exact ⟨rfl, after⟩

theorem execute_launches {k : Kernel} {line : List UInt8} {file : ProgramFile} {pid : ProcessId}
    (other : (Command.parse line).name ≠ Command.exitName)
    (startable : k.Startable (Command.parse line).name file pid) :
    (k.act (.execute line)).2 = .launch ⟨pid, file.entry, userStackTop, .parent pid⟩ ∧
      (k.act (.execute line)).1.roster = k.roster.begin k.scheduled pid ∧
      (k.act (.execute line)).1.console = k.console := by
  have launches := spawn_launches startable k.scheduled (Command.parse line).args none
  simp only [act, execute, if_neg other]
  generalize k.spawn k.scheduled (Command.parse line).name (Command.parse line).args none = spawned
    at launches ⊢
  obtain ⟨k', result⟩ := spawned
  obtain ⟨rfl, after⟩ := launches
  exact ⟨rfl, after⟩

theorem switchTerminal_launches {k : Kernel} {t : TerminalId} {file : ProgramFile}
    {pid : ProcessId} (hidden : t ≠ k.console.displayed) (unused : (k.session t).active = false)
    (startable : k.Startable shellName file pid) :
    (k.act (.switchTerminal t)).2 =
        .launch ⟨pid, file.entry, userStackTop, .terminal k.scheduled⟩ ∧
      (k.act (.switchTerminal t)).1.roster = { k.roster.begin t pid with scheduled := t } := by
  have room := Nat.not_le.mpr (ProcessTable.liveCount_lt startable.room)
  obtain ⟨launched, after, _⟩ :=
    spawn_launches (startable.congr (k.roster_display t)) t [] (some k.scheduled)
  rw [roster_display] at after
  simp only [act, switchTerminal, if_neg hidden, unused, Bool.false_eq_true, if_neg room,
    displayFresh, ↓reduceIte]
  generalize (k.display t).spawn t shellName [] (some k.scheduled) = spawned at launched after ⊢
  obtain ⟨k', result⟩ := spawned
  obtain rfl : result = _ := launched
  refine ⟨rfl, ?_⟩
  rw [roster_log, roster_takeOver, after]

/-! ## Saving flows -/

theorem roster_saveContext (k : Kernel) (slot : SaveSlot) (context : SavedContext) :
    (k.saveContext slot context).roster = k.roster.save slot context := by
  cases slot with
  | parent pid =>
    have links : (k.saveContext (.parent pid) context).roster.link? = k.roster.link? := by
      funext q
      simp only [roster, saveContext, updateProcess, ProcessTable.process?_update]
      split <;> simp [Function.comp_def, ProcessRecord.link]
    have saved : (k.saveContext (.parent pid) context).roster.saved? =
        Function.update k.roster.saved? (.parent pid)
          ((k.roster.saved? (.parent pid)).map fun _ => context) := by
      funext slot
      cases slot with
      | parent q =>
        simp only [roster, saveContext, updateProcess, savedContext?, ProcessTable.process?_update,
          Function.update_apply, SaveSlot.parent.injEq, eq_comm (a := pid)]
        split
        · rename_i h
          simp [h, Function.comp_def]
        · rfl
      | terminal t => rfl
    calc (k.saveContext (.parent pid) context).roster
        = { k.roster with
            link? := (k.saveContext (.parent pid) context).roster.link?
            saved? := (k.saveContext (.parent pid) context).roster.saved? } := by
          simp only [roster, saveContext, updateProcess, ProcessTable.arena_update]
          rfl
      _ = _ := by rw [links, saved]; rfl
  | terminal t =>
    have seat : k.roster.setSeat t (k.session t).seat = k.roster := by
      have same : Function.update k.roster.seat t (k.session t).seat = k.roster.seat :=
        Function.update_eq_self t k.roster.seat
      rw [setSeat, same]
    calc (k.saveContext (.terminal t) context).roster
        = { k.roster.setSeat t (k.session t).seat with
            saved? := Function.update k.roster.saved? (.terminal t) (some context) } :=
          k.roster_setSession t { k.session t with context }
      _ = _ := by rw [seat]; rfl

theorem roster_park (k : Kernel) (transfer : Transfer) (context : SavedContext) :
    (k.park transfer context).roster = k.roster.park transfer (some context) := by
  unfold park Roster.park
  cases transfer.saveSlot? with
  | none => rfl
  | some slot => exact k.roster_saveContext slot context

end TerminalKernel.Kernel

namespace TerminalKernel.Moment

open Kernel Roster

/-- What a moment does to the roster: the step of its action, and then a flow is saved. -/
theorem roster_after (m : Moment) :
    m.after.roster = m.decided.roster.park m.transfer m.saved := by
  unfold after
  cases m.saved with
  | none =>
    unfold Roster.park
    cases m.transfer.saveSlot? <;> rfl
  | some context => exact roster_park _ _ _

end TerminalKernel.Moment
