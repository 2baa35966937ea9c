import TerminalKernel.Proofs.FileContents
import TerminalKernel.Proofs.Holdings
import TerminalKernel.Proofs.VideoWindow

/-!
# Terminals stay in use

A terminal goes out of use only if its last process ends and no shell can be started in its place.
Where the first shell could be started, every later one can: the image does not change, and the
number of the process that ended is free again before the shell needs one. So the last process of a
terminal is always replaced by a shell that has the terminal to itself.
-/

namespace TerminalKernel

/-- A program is found and can be read. -/
structure FileSystem.Loads (fs : FileSystem) (name : List UInt8) (file : ProgramFile) : Prop where
  found : fs.findProgram name = .ok file
  reads : (fs.read file.inode 0 file.length).failure = none

theorem FileSystem.fileLength_of_findProgram {fs : FileSystem} {name : List UInt8}
    {file : ProgramFile} (found : fs.findProgram name = .ok file) :
    fs.fileLength file.inode = .ok file.length := by
  unfold findProgram at found
  split at found
  · cases found
  · split at found
    · cases found
    · split at found
      · cases found
      · split at found
        · cases found
        · rename_i measured
          split at found
          · cases found
          · dsimp only at found
            split at found
            · cases found
            · split at found
              · cases found
              · cases found
                exact measured

theorem FileSystem.Loads.length_eq {fs : FileSystem} {name : List UInt8} {file : ProgramFile}
    (loads : fs.Loads name file) :
    (fs.read file.inode 0 file.length).bytes.length = file.length := by
  obtain ⟨length, measured, _, count, -⟩ := read_spec loads.reads
  rw [fileLength_of_findProgram loads.found] at measured
  cases measured
  rw [count, Nat.sub_zero, Nat.min_self]

namespace Kernel

variable {k k' : Kernel} {t : TerminalId} {pid : ProcessId} {p : ProcessRecord TerminalId}
  {file : ProgramFile} {l : Launch}

/-! ## Starting a program -/

/-- Only what loads is started. -/
theorem loads_of_spawn {name args : List UInt8} {save : Option TerminalId}
    (launched : (k.spawn t name args save).2 = .ok l) : ∃ file, k.files.Loads name file := by
  unfold spawn at launched
  split at launched
  · cases launched
  · rename_i file found
    split at launched
    · cases launched
    · rcases k.load_cases t file args save with
        ⟨_, failed⟩ | ⟨_, _, _, _, failed⟩ | ⟨_, _, reads, _⟩
      · rw [failed] at launched
        cases launched
      · rw [failed] at launched
        cases launched
      · exact ⟨file, found, reads⟩

theorem loads_of_start (launched : (k.act .start).2 = .launch l) :
    ∃ file, k.files.Loads shellName file := by
  unfold act start at launched
  cases spawned : (k.spawn .first shellName [] (some .first)).2 with
  | ok l' => exact loads_of_spawn spawned
  | error cause =>
    simp only [spawned, Except.map, ofCall] at launched
    cases launched

theorem exists_free? (valid : pid < maxProcesses) (free : k.processes.process? pid = none) :
    ∃ new, k.processes.free? = some new := by
  rw [← Option.isSome_iff_exists, ProcessTable.free?, List.find?_isSome]
  refine ⟨pid, List.mem_range.mpr valid, ?_⟩
  rw [ProcessTable.isLive_eq_false.mpr free]
  rfl

theorem memory_spawn {name : List UInt8} (startable : k.Startable name file pid) (t : TerminalId)
    (args : List UInt8) (save : Option TerminalId) :
    (k.spawn t name args save).1.memory = k.memory.write (programSlot pid + programLoadOffset)
      (k.files.read file.inode 0 file.length).bytes := by
  have begun : ∀ (k' : Kernel) p n, (((k'.withProcess pid p).begin t pid).log n).memory =
      k'.memory := fun _ _ _ => rfl
  rw [spawn_eq startable]
  exact begun _ _ _

theorem relaunch_launches (startable : k.Startable shellName file pid) (t : TerminalId) :
    (k.relaunch t).2 = .launch ⟨pid, file.entry, userStackTop, .parent pid⟩ ∧
      (k.relaunch t).1.roster = k.roster.begin t pid ∧
      (k.relaunch t).1.memory = k.memory.write (programSlot pid + programLoadOffset)
        (k.files.read file.inode 0 file.length).bytes ∧
      (k.relaunch t).1.holdings pid = some (.new []) := by
  have launches := spawn_launches startable t [] none
  have memory := memory_spawn startable t [] none
  have holdings := k.spawn_holdings t shellName [] none
  unfold relaunch
  generalize k.spawn t shellName [] none = spawned at launches memory holdings ⊢
  obtain ⟨k', result⟩ := spawned
  obtain ⟨rfl, after, _⟩ := launches
  refine ⟨rfl, after, memory, ?_⟩
  rw [holdings.2]
  exact Function.update_self ..

/-! ## Replacing the last process of a terminal -/

/-- A shell was launched in place of process `ended` and has the terminal to itself. -/
structure FreshShell (k k' : Kernel) (t : TerminalId) (ended : ProcessId) (l : Launch) : Prop where
  /-- The program is the one found under the shell's name, and its whole image is in the slot. -/
  shell : ∃ file, k.files.Loads shellName file ∧ l.entry = file.entry ∧
    k'.memory.read (programSlot l.pid + programLoadOffset) file.length =
      (k.files.read file.inode 0 file.length).bytes
  userStack : l.userStack = userStackTop
  save : l.save = .parent l.pid
  owner : (k'.session t).owner = some l.pid
  active : (k'.session t).active = true
  count : (k'.session t).processCount = 1
  parent : k'.parent? l.pid = some l.pid
  holdings : k'.holdings l.pid = some (.new [])
  /-- It is the terminal's only process. -/
  alone : ∀ q p, k'.processes.process? q = some p → (p.terminal = t ↔ q = l.pid)
  live : ∀ q, k'.processes.isLive q = true ↔
    q = l.pid ∨ q ≠ ended ∧ k.processes.isLive q = true

/-- The end of a process that is its own parent. -/
theorem halt_root (running : k.current = .ok (pid, p)) (root : p.parent = pid) (status : UInt8) :
    ∃ k' : Kernel, k'.roster = k.roster.finish pid p.terminal ∧ k'.memory = k.memory ∧
      k.halt status = ((k'.relaunch p.terminal).1, .ok (k'.relaunch p.terminal).2) := by
  refine ⟨((k.reportUnclosable pid p).finish pid p.terminal).log (.exited pid status), ?_, rfl, ?_⟩
  · rw [roster_log, roster_finish, roster_reportUnclosable]
  · simp only [halt, running]
    rw [if_pos (.inr root)]

/-- The root of a terminal is its only process when it runs, and a shell takes its place. -/
theorem halt_relaunches (sound : k.roster.Sound) (stack : k.OnStack)
    (running : k.current = .ok (pid, p)) (root : p.parent = pid)
    (loads : k.files.Loads shellName file) (status : UInt8) :
    ∃ l, (k.halt status).2 = .ok (.launch l) ∧
      k.FreshShell (k.halt status).1 p.terminal pid l := by
  obtain ⟨k', finished, memory, halted⟩ := halt_root running root status
  have files : k'.files = k.files := congrArg Roster.files finished
  have gone : k'.processes.process? pid = none := by
    have none : k'.roster.link? pid = none := by rw [finished, Roster.link?_finish, if_pos rfl]
    simpa only [roster, Option.map_eq_none_iff] using none
  obtain ⟨new, room⟩ := exists_free? (ProcessTable.lt_of_process? (current_eq_ok running).2) gone
  have startable : k'.Startable shellName file new :=
    ⟨files ▸ loads.found, room, files ▸ loads.reads⟩
  obtain ⟨launched, begun, image, held⟩ := relaunch_launches startable p.terminal
  obtain ⟨owner, here⟩ := owner_of_current sound stack running
  have stacked : Roster.Stacked (k'.relaunch p.terminal).1.roster p.terminal [new] := by
    have link : k.roster.link? pid = some p.link := by
      simp only [roster, (current_eq_ok running).2, Option.map_some]
    have free : (k.roster.finish pid p.terminal).link? new = none := by
      rw [← finished]
      simp only [roster, (ProcessTable.free?_spec room).2, Option.map_none]
    obtain ⟨rest, line⟩ := sound.line_of_owner owner
    rw [← here] at line
    obtain rfl := (line.last_iff link).mp (.inr root)
    rw [begun, finished]
    exact line.toLined.finish.begin (fun some => absurd rfl some) free
  rw [halted, launched]
  refine ⟨_, rfl, ?_⟩
  constructor
  case shell =>
    refine ⟨file, loads, rfl, ?_⟩
    have stored := k.memory.read_write_self (programSlot new + programLoadOffset)
      (k.files.read file.inode 0 file.length).bytes
    rw [loads.length_eq] at stored
    rw [image, memory, files]
    exact stored
  case userStack => rfl
  case save => rfl
  case owner => exact stacked.owner
  case active => exact stacked.active.mpr (List.cons_ne_nil _ _)
  case count => exact stacked.count
  case parent =>
    rw [← parent?_roster]
    rcases (stacked.lineage (List.cons_ne_nil _ _)).uncons with ⟨_, self⟩ | ⟨_, _, more, _⟩
    · exact self
    · cases more
  case holdings => exact held
  case alone =>
    intro q r live
    have member := (stacked.mem q).trans (on_roster_iff _ _ _)
    rw [List.mem_singleton] at member
    rw [member]
    constructor
    · exact fun on => ⟨r, live, on⟩
    · rintro ⟨r', live', on⟩
      rw [live] at live'
      cases live'
      exact on
  case live =>
    intro q
    rw [isLive_iff_link?, isLive_iff_link?, begun, finished, Roster.link?_begin, Roster.link?_finish]
    by_cases fresh : q = new
    · simp [fresh]
    · by_cases gone : q = pid
      · simp [gone, gone ▸ fresh]
      · simp [fresh, gone]

/-! ## No terminal goes out of use -/

theorem tick_ne_idle (k : Kernel) : k.tick.2 ≠ .idle := by
  rcases k.tick_cases with same | ⟨_, noted⟩ | ⟨_, _, _, _, _, _, turned⟩
  · simp [same]
  · simp [noted]
  · simp [turned]

theorem switchTerminal_ne_idle (k : Kernel) (t : TerminalId) : (k.switchTerminal t).2 ≠ .idle := by
  unfold switchTerminal
  split
  · simp
  · split
    · simp
    · split
      · simp
      · unfold displayFresh
        dsimp only
        split <;> simp

/-- Only the end of a process can leave nothing to run. -/
theorem ends_of_idle {a : Action} (idle : (k.act a).2 = .idle) :
    ∃ status, a.exitStatus? = some status := by
  have starting : ∀ r : Kernel × Except SyscallError Launch,
      (ofCall (r.1, r.2.map .launch)).2 ≠ .idle := by
    rintro ⟨k', cause | l⟩ <;> simp [ofCall, Except.map]
  cases a with
  | start => exact absurd idle (starting _)
  | execute line =>
    by_cases isExit : (Command.parse line).name = Command.exitName
    · exact ⟨0, if_pos isExit⟩
    · simp only [act, execute, if_neg isExit] at idle
      exact absurd idle (starting _)
  | halt status => exact ⟨status, rfl⟩
  | tick => exact absurd idle k.tick_ne_idle
  | switchTerminal t => exact absurd idle (k.switchTerminal_ne_idle t)
  | key key =>
    rcases k.handleKey_cases key with taken | ⟨-, t, selected⟩
    · rw [act, taken] at idle
      cases idle
    · rw [act, selected] at idle
      exact absurd idle (k.switchTerminal_ne_idle t)
  | openFile _ | closeFile _ | read _ _ | write _ _ | getArgs _ | mapVideo _ | writeScreen _ _ _
  | store _ _ | clockTick | emit _ => cases idle

/-- A process that was started by another one ends by resuming its caller. -/
theorem halt_of_child (sound : k.roster.Sound) (stack : k.OnStack)
    (running : k.current = .ok (pid, p)) (child : p.parent ≠ pid) (status : UInt8) :
    ∃ k', k.halt status = (k', .ok (.resume p.callerContext status)) := by
  obtain ⟨owner, here⟩ := owner_of_current sound stack running
  have link : k.roster.link? pid = some p.link := by
    simp only [roster, (current_eq_ok running).2, Option.map_some]
  obtain ⟨rest, line⟩ := sound.line_of_owner owner
  rw [← here] at line
  have others : ¬ ((k.roster.seat p.terminal).processCount - 1 = 0 ∨ p.parent = pid) := by
    intro last
    obtain rfl := (line.last_iff link).mp last
    exact child (line.parent_eq link)
  obtain ⟨k', _, halted⟩ := halt_eq running status
  rw [if_neg others] at halted
  exact ⟨_, halted⟩

/-- While shells load, the end of the running process starts a shell or resumes its parent. -/
theorem halt_ne_idle (sound : k.roster.Sound) (stack : k.OnStack) (running : k.current = .ok (pid, p))
    (loads : k.files.Loads shellName file) (status : UInt8) :
    ∃ transfer, (k.halt status).2 = .ok transfer ∧ transfer ≠ .idle := by
  by_cases root : p.parent = pid
  · obtain ⟨l, launched, _⟩ := halt_relaunches sound stack running root loads status
    exact ⟨.launch l, launched, by simp⟩
  · obtain ⟨k', resumed⟩ := halt_of_child sound stack running root status
    rw [resumed]
    exact ⟨_, rfl, by simp⟩

end Kernel

namespace Roster

variable {r r' : Roster} {t u : TerminalId} {pid : ProcessId}

theorem active_begin (active : (r.seat u).active = true) : ((r.begin t pid).seat u).active = true := by
  rw [seat_begin]
  split
  · rfl
  · exact active

theorem active_finish (active : (r.seat u).active = true) :
    ((r.finish pid t).seat u).active = true := by
  rw [seat_finish]
  split
  · rename_i same
    exact same ▸ active
  · exact active

theorem active_giveBack (active : (r.seat u).active = true) :
    ((r.giveBack t pid).seat u).active = true := by
  rw [seat_giveBack]
  split
  · rename_i same
    exact same ▸ active
  · exact active

/-- A terminal goes out of use only when nothing is left to run on it. -/
theorem Step.active {current? : Option ProcessId} {transfer : Transfer}
    (step : Step r current? transfer r') (goesOn : transfer ≠ .idle)
    (active : (r.seat t).active = true) : (r'.seat t).active = true := by
  cases step with
  | stay | turn _ _ _ _ _ => exact active
  | execute _ _ _ | fresh _ _ _ _ => exact active_begin active
  | resume _ _ _ _ _ => exact active_giveBack (active_finish active)
  | relaunch _ _ _ _ _ _ => exact active_begin (active_finish active)
  | idle _ _ _ => exact absurd rfl goesOn

end Roster

namespace Run

open Kernel

variable {files : FileSystem} {arena : Arena} {storage : Kernel.Storage} {h : List Moment}
  {k : Kernel} {file : ProgramFile}

/-- While shells load, there is always something left to run. -/
theorem transfer_ne_idle {m : Moment} (run : Run (.new files arena storage) (m :: h) k)
    (loads : files.Loads shellName file) : m.transfer ≠ .idle := by
  intro idle
  have before := run.latest.1
  obtain ⟨status, ends⟩ := ends_of_idle idle
  rw [Moment.transfer, m.before.act_of_exitStatus? ends] at idle
  cases running : m.before.current with
  | error cause =>
    simp only [halt, running, ofCall] at idle
    cases idle
  | ok found =>
    rw [← before.fixed.1] at loads
    obtain ⟨transfer, result, goesOn⟩ :=
      halt_ne_idle before.sound before.onStack running loads status
    generalize m.before.halt status = halted at idle result
    obtain ⟨k', _⟩ := halted
    obtain rfl : _ = _ := result
    exact goesOn idle

theorem active_latest {m : Moment} (run : Run (.new files arena storage) (m :: h) k)
    (loads : files.Loads shellName file) {t : TerminalId}
    (active : (m.before.session t).active = true) : (k.session t).active = true := by
  obtain ⟨_, same, step⟩ := run.latest
  have decided := step.active (run.transfer_ne_idle loads) active
  rw [← Roster.seat_park, ← Moment.roster_after, ← same] at decided
  exact decided

theorem active_of_mem {m : Moment} (run : Run (.new files arena storage) h k)
    (loads : files.Loads shellName file) (inside : m ∈ h) {t : TerminalId}
    (active : (m.before.session t).active = true) : (k.session t).active = true := by
  induction h generalizing k with
  | nil => cases inside
  | cons m' h ih =>
    rcases List.mem_cons.mp inside with rfl | earlier
    · exact run.active_latest loads active
    · exact run.active_latest loads (ih run.latest.1 earlier)

/-- Where the first shell can be started, no run leaves a terminal dead. The running process can
always be ended, and something else runs then; a terminal that is in use stays in use; and the last
process of a terminal is replaced by a shell that has the terminal to itself, however many processes
are live, while no other process starts or ends. -/
theorem terminals_never_die {l : Launch}
    (starts : ((Kernel.new files arena storage).act .start).2 = .launch l)
    (run : Run (.new files arena storage) h k) :
    (∀ pid p, k.current = .ok (pid, p) → ∀ status,
      ∃ transfer, (k.halt status).2 = .ok transfer ∧ transfer ≠ .idle) ∧
    (∀ m ∈ h, ∀ t, (m.before.session t).active = true → (k.session t).active = true) ∧
    ∀ pid p, k.current = .ok (pid, p) → p.parent = pid → ∀ a status,
      a.exitStatus? = some status →
      ∃ l, (k.act a).2 = .launch l ∧ k.FreshShell (k.act a).1 p.terminal pid l := by
  obtain ⟨file, loads⟩ := loads_of_start starts
  have here : k.files.Loads shellName file := run.fixed.1.symm ▸ loads
  refine ⟨?_, ?_, ?_⟩
  · intro pid p running status
    exact halt_ne_idle run.sound run.onStack running here status
  · intro m inside t active
    exact run.active_of_mem loads inside active
  · intro pid p running root a status ends
    obtain ⟨l, launched, fresh⟩ := halt_relaunches run.sound run.onStack running root here status
    refine ⟨l, ?_, ?_⟩
    · rw [k.act_of_exitStatus? ends]
      generalize k.halt status = halted at launched ⊢
      obtain ⟨k', _⟩ := halted
      obtain rfl : _ = _ := launched
      rfl
    · rw [k.act_of_exitStatus? ends, fst_ofCall]
      exact fresh

end Run

theorem Sample.current_selected {h : List Moment} {k : Kernel} (run : Run Sample.shellKernel h k)
    (same : k.roster = Sample.selected) :
    ∃ p, k.current = .ok (1, p) ∧ p.parent = 1 ∧ p.terminal = 1 := by
  have link : k.roster.link? 1 = some ⟨1, 1⟩ := by
    rw [same]
    decide +kernel
  have owner : (k.session k.scheduled).owner = some 1 := by
    change (k.roster.seat k.roster.scheduled).owner = _
    rw [same]
    decide +kernel
  simp only [Kernel.roster, Option.map_eq_some_iff] at link
  obtain ⟨p, live, tied⟩ := link
  exact ⟨p, Kernel.current_of_currentPid? (run.currentPid?_eq_owner.trans owner) live,
    congrArg Link.parent tied, congrArg Link.terminal tied⟩

/-- The only process of the second terminal ends, and a shell takes its place. -/
theorem terminals_never_die_selected :
    ((Sample.shellKernel.act .start).2 =
        .launch ⟨0, Sample.shell.entry, userStackTop, .terminal .first⟩) ∧
      Run Sample.shellKernel (Sample.played [.switchTerminal 1, .start]).1
        (Sample.played [.switchTerminal 1, .start]).2 ∧
      ∃ l, ((Sample.played [.switchTerminal 1, .start]).2.act (.halt 3)).2 = .launch l ∧
        (((Sample.played [.switchTerminal 1, .start]).2.act (.halt 3)).1.session 1).owner =
          some l.pid := by
  have starts := (Kernel.start_launches (k := Sample.shellKernel) (Sample.startable rfl rfl)).1
  obtain ⟨p, running, root, terminal⟩ :=
    Sample.current_selected Sample.run_selected Sample.roster_selected
  obtain ⟨l, launched, fresh⟩ := (Run.terminals_never_die starts Sample.run_selected).2.2
    1 p running root (.halt 3) 3 rfl
  have owner := fresh.owner
  rw [terminal] at owner
  exact ⟨starts, Sample.run_selected, l, launched, owner⟩

end TerminalKernel
