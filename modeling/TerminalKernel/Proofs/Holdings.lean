import TerminalKernel.Proofs.Invariant

/-!
# What processes hold

A process holds its descriptors and its argument text. An action rebinds at most one descriptor, and
one of the running process; beyond that, holdings come with the start of a process and go with its
end (`act_holdings`). Saving a flow touches none of them, so that over a run the holdings of a process
change by its own calls only.
-/

namespace TerminalKernel

/-- What belongs to one process alone, for as long as it lives. -/
structure Holdings where
  files : Vector Descriptor maxOpenFiles
  /-- Argument text, padded with zeros to `maxArgsLength` bytes. -/
  args : List UInt8
  deriving DecidableEq, Repr

def ProcessRecord.holdings (p : ProcessRecord TerminalId) : Holdings := ⟨p.files, p.args⟩

namespace Holdings

def new (args : List UInt8) : Holdings :=
  ⟨ProcessRecord.newFiles, Bytes.padTo maxArgsLength args⟩

def descriptor? (o : Holdings) (fd : Nat) : Option Descriptor := o.files[fd]?.filter (·.isOpen)

def setDescriptor (o : Holdings) (fd : Nat) (d : Descriptor) : Holdings :=
  { o with files := o.files.setIfInBounds fd d }

theorem descriptor?_setDescriptor_self (o : Holdings) {fd : Nat} (valid : fd < maxOpenFiles)
    (d : Descriptor) : (o.setDescriptor fd d).descriptor? fd = (some d).filter (·.isOpen) := by
  simp only [descriptor?, setDescriptor, Vector.getElem?_setIfInBounds, valid, ↓reduceIte]

theorem descriptor?_setDescriptor_of_ne (o : Holdings) {fd fd' : Nat} (other : fd ≠ fd')
    (d : Descriptor) : (o.setDescriptor fd d).descriptor? fd' = o.descriptor? fd' := by
  simp only [descriptor?, setDescriptor, Vector.getElem?_setIfInBounds, if_neg other]

theorem lt_of_descriptor? {o : Holdings} {fd : Nat} {d : Descriptor}
    (bound : o.descriptor? fd = some d) : fd < maxOpenFiles := by
  by_cases valid : fd < maxOpenFiles
  · exact valid
  · simp [descriptor?, valid] at bound

theorem descriptor?_eq_some {o : Holdings} {fd : Nat} {d : Descriptor} :
    o.descriptor? fd = some d ↔ o.files[fd]? = some d ∧ d.isOpen = true :=
  Option.filter_eq_some_iff

end Holdings

/-- The process is live and has the descriptor open. -/
def Held (held : ProcessId → Option Holdings) (pid : ProcessId) (fd : Nat) (d : Descriptor) : Prop :=
  ∃ o, held pid = some o ∧ o.descriptor? fd = some d

namespace Held

variable {held : ProcessId → Option Holdings} {pid q : ProcessId} {fd : Nat} {d : Descriptor}

theorem update_of_ne (bound : Held held pid fd d) (other : pid ≠ q) (o : Option Holdings) :
    Held (Function.update held q o) pid fd d := by
  obtain ⟨own, here, found⟩ := bound
  exact ⟨own, (Function.update_of_ne other o held).trans here, found⟩

theorem ne_of_free (bound : Held held pid fd d) (free : held q = none) : pid ≠ q := by
  obtain ⟨own, here, _⟩ := bound
  rintro rfl
  rw [free] at here
  cases here

end Held

/-! ## Changes of holdings -/

/-- How a call rebinds a descriptor of a process with record `p`. -/
inductive Rebinds (files : FileSystem) (p : ProcessRecord TerminalId) :
    Action → Nat → Descriptor → Prop
  | opened {name : List UInt8} {fd : Nat} {e : DirectoryEntry} (found : files.lookup name = .ok e)
      (free : p.freeDescriptor? = some fd) : Rebinds files p (.openFile name) fd (.opened e)
  | closed {fd : Nat} {d : Descriptor} (high : firstFreeDescriptor ≤ fd)
      (bound : p.descriptor? fd = some d) (file : d.binding.isFile = true) :
      Rebinds files p (.closeFile fd) fd d.close
  /-- The name of a directory entry was read. -/
  | listed {fd room : Nat} {d : Descriptor} {e : DirectoryEntry} (bound : p.descriptor? fd = some d)
      (directory : d.binding = .directory) (found : files.entry d.position = .ok e) :
      Rebinds files p (.read fd (some room)) fd { d with position := d.position + 1 }
  /-- Bytes of a file were read, all that were asked for. -/
  | advanced {fd room : Nat} {d : Descriptor} {bytes : List UInt8}
      (bound : p.descriptor? fd = some d) (regular : d.binding = .regular)
      (whole : files.read d.inode d.position room = .done bytes) :
      Rebinds files p (.read fd (some room)) fd { d with position := d.position + bytes.length }

namespace Action

/-- The action closes the descriptor or ends the process that has it. -/
def GivesUp (a : Action) (fd : Nat) : Prop := a = .closeFile fd ∨ a.exitStatus?.isSome

/-- The action uses the descriptor, or ends the process that has it. -/
def Uses (a : Action) (fd : Nat) : Prop := a.GivesUp fd ∨ ∃ room, a = .read fd room

end Action

/-- The argument text that an action hands to the program it starts. -/
def Action.givenArgs : Action → List UInt8
  | .execute line => (Command.parse line).args
  | _ => []

namespace Kernel

def holdings (k : Kernel) (pid : ProcessId) : Option Holdings :=
  (k.processes.process? pid).map (·.holdings)

/-- What an action can do to the holdings of all processes, with the transfer that it decides on. -/
inductive HoldingsStep (k : Kernel) (a : Action) :
    Transfer → (ProcessId → Option Holdings) → Prop
  | keep {transfer : Transfer} (quiet : ∀ pid, ¬ transfer.Launches pid) :
      HoldingsStep k a transfer k.holdings
  | rebind {pid : ProcessId} {p : ProcessRecord TerminalId} {fd : Nat} {d : Descriptor}
      (running : k.current = .ok (pid, p)) (rebinds : Rebinds k.files p a fd d) :
      HoldingsStep k a .stay
        (Function.update k.holdings pid (some (p.holdings.setDescriptor fd d)))
  /-- A process starts under a number that was free. -/
  | launch {l : Launch} (free : k.holdings l.pid = none) :
      HoldingsStep k a (.launch l)
        (Function.update k.holdings l.pid (some (.new a.givenArgs)))
  /-- The running process ends. -/
  | finish {pid : ProcessId} {p : ProcessRecord TerminalId} {transfer : Transfer}
      (running : k.current = .ok (pid, p)) (ends : a.exitStatus?.isSome)
      (quiet : ∀ pid, ¬ transfer.Launches pid) :
      HoldingsStep k a transfer (Function.update k.holdings pid none)
  /-- The running process ends and a shell starts, perhaps under the same number. -/
  | replace {pid : ProcessId} {p : ProcessRecord TerminalId} {l : Launch}
      (running : k.current = .ok (pid, p)) (ends : a.exitStatus?.isSome)
      (free : Function.update k.holdings pid none l.pid = none) :
      HoldingsStep k a (.launch l)
        (Function.update (Function.update k.holdings pid none) l.pid (some (.new [])))

theorem holdings_congr {k k' : Kernel} (same : k'.processes = k.processes) :
    k'.holdings = k.holdings := by
  funext pid
  rw [holdings, same, holdings]

/-! ## Calls on descriptors -/

variable {k k' : Kernel} {a : Action} {pid : ProcessId} {p : ProcessRecord TerminalId} {fd : Nat}

theorem HoldingsStep.stay (same : k'.processes = k.processes) :
    HoldingsStep k a .stay k'.holdings := by
  rw [holdings_congr same]
  exact .keep (Transfer.not_launches (by simp))

theorem holdings_of_current (running : k.current = .ok (pid, p)) :
    k.holdings pid = some p.holdings := by
  rw [holdings, (current_eq_ok running).2, Option.map_some]

theorem holdings_setDescriptor (running : k.current = .ok (pid, p)) (fd : Nat) (d : Descriptor) :
    (k.setDescriptor pid fd d).holdings =
      Function.update k.holdings pid (some (p.holdings.setDescriptor fd d)) := by
  funext q
  rw [Function.update_apply, holdings, setDescriptor, updateProcess, ProcessTable.process?_update]
  split
  · rename_i same
    subst same
    rw [if_pos rfl, (current_eq_ok running).2]
    rfl
  · rename_i other
    rw [if_neg (Ne.symm other), holdings]

theorem openFile_holdings (k : Kernel) (name : List UInt8) :
    HoldingsStep k (.openFile name) .stay (k.openFile name).1.holdings := by
  rcases k.openFile_cases name with ⟨_, failed⟩ | ⟨pid, p, e, fd, running, found, free, opened⟩
  · rw [failed]
    exact .stay rfl
  · rw [opened]
    dsimp only
    rw [holdings_congr (onlyDevices_openDevice _ _).processes, holdings_setDescriptor running]
    exact .rebind running (.opened found free)

theorem closeFile_holdings (k : Kernel) (fd : Nat) :
    HoldingsStep k (.closeFile fd) .stay (k.closeFile fd).1.holdings := by
  rcases k.closeFile_cases fd with ⟨_, failed⟩ | ⟨pid, p, d, high, running, bound, file, closed⟩
  · rw [failed]
    exact .stay rfl
  · rw [closed]
    dsimp only
    rw [holdings_setDescriptor running]
    exact .rebind running (.closed high bound file)

theorem readDirectory_holdings {d : Descriptor} {room : Nat} (running : k.current = .ok (pid, p))
    (bound : p.descriptor? fd = some d) (directory : d.binding = .directory) :
    HoldingsStep k (.read fd (some room)) .stay (k.readDirectory pid fd d room).1.holdings := by
  rcases k.readDirectory_cases pid fd d room with ⟨_, none⟩ | ⟨e, found, read⟩
  · rw [none]
    exact .stay rfl
  · rw [read]
    dsimp only
    rw [holdings_setDescriptor running]
    exact .rebind running (.listed bound directory found)

theorem readRegular_holdings {d : Descriptor} {room : Nat} (running : k.current = .ok (pid, p))
    (bound : p.descriptor? fd = some d) (regular : d.binding = .regular) :
    HoldingsStep k (.read fd (some room)) .stay (k.readRegular pid fd d room).1.holdings := by
  rcases k.readRegular_cases pid fd d room with ⟨_, failed⟩ | ⟨whole, read⟩
  · rw [failed]
    exact .stay rfl
  · rw [read]
    dsimp only
    rw [holdings_setDescriptor running]
    refine .rebind running (.advanced bound regular ?_)
    generalize k.files.read d.inode d.position room = delivery at whole ⊢
    obtain ⟨bytes, failure⟩ := delivery
    obtain rfl : failure = none := whole
    rfl

theorem read_holdings (k : Kernel) (fd : Nat) (room : Option Nat) :
    HoldingsStep k (.read fd room) .stay (k.read fd room).1.holdings := by
  unfold read
  split
  · exact .stay rfl
  · exact .stay rfl
  · rename_i pid p d room found
    obtain ⟨running, bound⟩ := currentDescriptor_eq_ok found
    split
    · exact .stay (k.onlyDevices_readLine _ _).processes
    · exact .stay rfl
    · rename_i directory
      exact readDirectory_holdings running bound directory
    · rename_i regular
      exact readRegular_holdings running bound regular
    · exact .stay rfl
    · exact .stay rfl

theorem mapVideo_holdings (k : Kernel) (address : Nat) :
    HoldingsStep k (.mapVideo address) .stay (k.mapVideo address).1.holdings := by
  rcases k.mapVideo_cases address with ⟨_, failed⟩ | ⟨_, _, _, mapped⟩
  · rw [failed]
    exact .stay rfl
  · rw [mapped]
    exact .stay rfl

theorem lt_of_freeDescriptor? (free : p.freeDescriptor? = some fd) : fd < maxOpenFiles := by
  have inside := List.mem_of_find?_eq_some free
  simp only [List.mem_range'_1] at inside
  omega

theorem firstFree_le_of_freeDescriptor? (free : p.freeDescriptor? = some fd) :
    firstFreeDescriptor ≤ fd :=
  (List.mem_range'_1.mp (List.mem_of_find?_eq_some free)).1

theorem not_open_of_free (free : p.freeDescriptor? = some fd) : p.descriptor? fd = none := by
  have closed := List.find?_some free
  rw [ProcessRecord.descriptor?, Option.filter_eq_none_iff]
  intro d bound
  simp only [bound, Option.getD_some, Bool.not_eq_true'] at closed
  simp [closed]

/-! ## Starting and ending -/

/-- What starting a program can do to the holdings. -/
def StartHoldings (k : Kernel) (args : List UInt8) : Kernel × Except SyscallError Launch → Prop
  | (k', .ok l) => k.holdings l.pid = none ∧
      k'.holdings = Function.update k.holdings l.pid (some (.new args))
  | (k', .error _) => k'.holdings = k.holdings

theorem holdings_insert (k : Kernel) (valid : pid < maxProcesses) :
    { k with processes := k.processes.insert pid p }.holdings =
      Function.update k.holdings pid (some p.holdings) := by
  funext q
  simp only [holdings, ProcessTable.process?_insert, Function.update_apply, eq_comm (a := pid)]
  by_cases same : q = pid
  · subst same
    simp [valid]
  · simp [same]

theorem load_holdings (k : Kernel) (t : TerminalId) (file : ProgramFile) (args : List UInt8)
    (save : Option TerminalId) : k.StartHoldings args (k.load t file args save) := by
  rcases k.load_cases t file args save with
    ⟨_, failed⟩ | ⟨pid, _, _, _, failed⟩ | ⟨pid, number, _, started⟩
  · rw [failed]
    exact rfl
  · rw [failed]
    exact holdings_congr (k.onlyDevices_withProgram file pid).processes
  · obtain ⟨valid, free⟩ := ProcessTable.free?_spec number
    have stored := holdings_congr (k.onlyDevices_withProgram file pid).processes
    have inserted := (k.withProgram file pid).holdings_insert
      (p := .new pid ((k.parentFor t).getD pid) t args) valid
    rw [started]
    refine ⟨by simp only [holdings, free, Option.map_none], ?_⟩
    rw [holdings_congr (processes_log _ _), holdings_congr (processes_begin _ _ _), ← stored]
    exact inserted

theorem spawn_holdings (k : Kernel) (t : TerminalId) (name args : List UInt8)
    (save : Option TerminalId) : k.StartHoldings args (k.spawn t name args save) := by
  unfold spawn
  split
  · exact rfl
  · split
    · exact holdings_congr (k.onlyDevices_print t processLimitMessage).processes
    · exact k.load_holdings t _ args save

theorem holdings_release (k : Kernel) (pid : ProcessId) :
    { k with processes := k.processes.release pid }.holdings =
      Function.update k.holdings pid none := by
  funext q
  simp only [holdings, ProcessTable.process?_release, Function.update_apply, eq_comm (a := pid)]
  split <;> rfl

/-- A terminal that lost its last process gets a shell, or nobody gets anything. -/
theorem relaunch_holdings (k : Kernel) (t : TerminalId) :
    (∃ l, (k.relaunch t).2 = .launch l ∧ k.holdings l.pid = none ∧
      (k.relaunch t).1.holdings = Function.update k.holdings l.pid (some (.new []))) ∨
    (k.relaunch t).2 = .idle ∧ (k.relaunch t).1.holdings = k.holdings := by
  have starts := k.spawn_holdings t shellName [] none
  unfold relaunch
  generalize k.spawn t shellName [] none = spawned at starts ⊢
  obtain ⟨k', cause | launch⟩ := spawned
  · exact .inr ⟨rfl, starts⟩
  · exact .inl ⟨launch, rfl, starts⟩

theorem halt_holdings (k : Kernel) (status : UInt8) (ends : a.exitStatus?.isSome) :
    HoldingsStep k a (ofCall (k.halt status)).2 (ofCall (k.halt status)).1.holdings := by
  unfold halt
  split
  · exact .stay rfl
  · rename_i pid p running
    have ended : (((k.reportUnclosable pid p).finish pid p.terminal).log
        (.exited pid status)).holdings = Function.update k.holdings pid none :=
      k.holdings_release pid
    generalize ((k.reportUnclosable pid p).finish pid p.terminal).log (.exited pid status) = k' at ended ⊢
    dsimp only
    split
    · rcases k'.relaunch_holdings p.terminal with ⟨l, transfer, free, after⟩ | ⟨transfer, after⟩
      · simp only [ofCall, transfer, after]
        rw [ended] at free ⊢
        exact .replace running ends free
      · simp only [ofCall, transfer, after, ended]
        exact .finish running ends (Transfer.not_launches (by simp))
    · have given : (k'.giveBack p.terminal p.parent).holdings = k'.holdings := rfl
      simp only [ofCall, given, ended]
      exact .finish running ends (Transfer.not_launches (by simp))

theorem execute_holdings (k : Kernel) (line : List UInt8) :
    HoldingsStep k (.execute line) (ofCall (k.execute line)).2
      (ofCall (k.execute line)).1.holdings := by
  unfold execute
  dsimp only
  split
  · rename_i isExit
    refine k.halt_holdings 0 ?_
    rw [Action.exitStatus?, if_pos isExit]
    rfl
  · have starts := k.spawn_holdings k.scheduled (Command.parse line).name (Command.parse line).args none
    generalize k.spawn k.scheduled (Command.parse line).name (Command.parse line).args none = spawned
      at starts ⊢
    obtain ⟨k', cause | launch⟩ := spawned
    · have same : k'.holdings = k.holdings := starts
      simp only [ofCall, Except.map, same]
      exact .keep (Transfer.not_launches (by simp))
    · obtain ⟨free, after⟩ := starts
      simp only [ofCall, Except.map, after]
      exact .launch free

theorem start_holdings (k : Kernel) :
    HoldingsStep k .start (ofCall k.start).2 (ofCall k.start).1.holdings := by
  have starts := k.spawn_holdings .first shellName [] (some .first)
  unfold start
  generalize k.spawn .first shellName [] (some .first) = spawned at starts ⊢
  obtain ⟨k', cause | launch⟩ := spawned
  · have same : k'.holdings = k.holdings := starts
    simp only [ofCall, Except.map, same]
    exact .keep (Transfer.not_launches (by simp))
  · obtain ⟨free, after⟩ := starts
    simp only [ofCall, Except.map, after]
    exact .launch free

/-! ## Taking turns -/

theorem displayFresh_holdings (k : Kernel) (t : TerminalId) (given : a.givenArgs = []) :
    HoldingsStep k a (k.displayFresh t).2 (k.displayFresh t).1.holdings := by
  have starts := (k.display t).spawn_holdings t shellName [] (some k.scheduled)
  have shown := holdings_congr (k.onlyDevices_display t).processes
  unfold displayFresh
  generalize (k.display t).spawn t shellName [] (some k.scheduled) = spawned at starts ⊢
  obtain ⟨k', cause | launch⟩ := spawned
  · have same : k'.holdings = (k.display t).holdings := starts
    have back := holdings_congr ((k'.log (.shellNotStarted t cause)).onlyDevices_display
      k.console.displayed).processes
    have logged : (k'.log (.shellNotStarted t cause)).holdings = k'.holdings := rfl
    dsimp only
    rw [back, logged, same, shown]
    exact .keep (Transfer.not_launches (by simp))
  · obtain ⟨free, after⟩ := starts
    rw [shown] at free after
    have same : HoldingsStep k a (.launch launch) k'.holdings := by
      rw [after, ← given]
      exact .launch free
    exact same

theorem switchTerminal_holdings (k : Kernel) (t : TerminalId) (given : a.givenArgs = []) :
    HoldingsStep k a (k.switchTerminal t).2 (k.switchTerminal t).1.holdings := by
  unfold switchTerminal
  split
  · exact .stay rfl
  · split
    · exact .stay (k.onlyDevices_display t).processes
    · split
      · exact .stay (k.onlyDevices_print _ _).processes
      · exact k.displayFresh_holdings t given

theorem handleKey_holdings (k : Kernel) (key : Key) :
    HoldingsStep k (.key key) (k.handleKey key).2 (k.handleKey key).1.holdings := by
  rcases k.handleKey_cases key with taken | ⟨-, t, selected⟩
  · rw [taken]
    exact .stay (k.onlyDevices_receiveKey key).processes
  · rw [selected]
    exact k.switchTerminal_holdings t rfl

theorem tick_holdings (k : Kernel) :
    HoldingsStep k .tick k.tick.2 k.tick.1.holdings := by
  rcases k.tick_cases with same | ⟨next, noted⟩ | ⟨next, owner, _, _, _, _, turned⟩
  · rw [same]
    exact .stay rfl
  · rw [noted]
    exact .stay rfl
  · have kept : (k.schedule next owner).holdings = k.holdings := holdings_congr rfl
    rw [turned]
    dsimp only
    rw [kept]
    exact .keep (Transfer.not_launches (by simp))

/-! ## All actions -/

/-- What every action does to the holdings. -/
theorem act_holdings (k : Kernel) (a : Action) :
    HoldingsStep k a (k.act a).2 (k.act a).1.holdings := by
  cases a with
  | start => exact k.start_holdings
  | execute line => exact k.execute_holdings line
  | halt status => exact k.halt_holdings status rfl
  | openFile name => exact k.openFile_holdings name
  | closeFile fd => exact k.closeFile_holdings fd
  | read fd room => exact k.read_holdings fd room
  | write fd buffer => exact .stay (k.onlyDevices_write fd buffer).processes
  | getArgs room => exact .stay rfl
  | mapVideo address => exact k.mapVideo_holdings address
  | writeScreen fd address length => exact .stay (k.onlyDevices_writeScreen fd address length).processes
  | store address bytes => exact .stay (k.onlyDevices_storeUser address bytes).processes
  | tick => exact k.tick_holdings
  | switchTerminal t => exact k.switchTerminal_holdings t rfl
  | key key => exact k.handleKey_holdings key
  | clockTick => exact .stay rfl
  | emit effects => exact .stay rfl

/-! ## What stays -/

/-- A descriptor stays as it is while its process does not use it. -/
theorem HoldingsStep.held {d : Descriptor} {transfer : Transfer}
    {held : ProcessId → Option Holdings} (step : HoldingsStep k a transfer held)
    (bound : Held k.holdings pid fd d) (unused : k.currentPid? = some pid → ¬ a.Uses fd) :
    Held held pid fd d := by
  cases step with
  | keep _ => exact bound
  | @rebind q p fd' d' running rebinds =>
    by_cases own : pid = q
    · subst own
      obtain ⟨o, here, isOpen⟩ := bound
      rw [holdings_of_current running, Option.some_inj] at here
      subst here
      have idle := unused (current_eq_ok running).1
      have other : fd' ≠ fd := by
        rintro rfl
        cases rebinds with
        | opened _ free =>
          have closed : p.holdings.descriptor? fd' = none := not_open_of_free free
          rw [closed] at isOpen
          cases isOpen
        | closed _ _ _ => exact idle (.inl (.inl rfl))
        | listed _ _ _ | advanced _ _ _ => exact idle (.inr ⟨_, rfl⟩)
      exact ⟨_, Function.update_self .., by rwa [Holdings.descriptor?_setDescriptor_of_ne _ other]⟩
    · exact bound.update_of_ne own _
  | launch free => exact bound.update_of_ne (bound.ne_of_free free) _
  | @finish q p _ running ends _ =>
    refine bound.update_of_ne ?_ _
    rintro rfl
    exact unused (current_eq_ok running).1 (.inl (.inr ends))
  | @replace q p l running ends free =>
    have remaining : Held (Function.update k.holdings q none) pid fd d := by
      refine bound.update_of_ne ?_ _
      rintro rfl
      exact unused (current_eq_ok running).1 (.inl (.inr ends))
    exact remaining.update_of_ne (remaining.ne_of_free free) _

/-- What new processes have and rebinding a descriptor keeps is true of all processes. -/
theorem HoldingsStep.forall_held {P : Holdings → Prop} {transfer : Transfer}
    {held : ProcessId → Option Holdings} (step : HoldingsStep k a transfer held)
    (all : ∀ pid o, k.holdings pid = some o → P o) (new : ∀ args, P (.new args))
    (rebound : ∀ p fd d, P p.holdings → Rebinds k.files p a fd d → P (p.holdings.setDescriptor fd d)) :
    ∀ pid o, held pid = some o → P o := by
  have none : ∀ q, ∀ pid o, Function.update k.holdings q none pid = some o → P o := by
    intro q pid o here
    rw [Function.update_apply] at here
    split at here
    · cases here
    · exact all pid o here
  have update {old : ProcessId → Option Holdings} {q : ProcessId} {o' : Holdings}
      (others : ∀ pid o, old pid = some o → P o) (own : P o') :
      ∀ pid o, Function.update old q (some o') pid = some o → P o := by
    intro pid o here
    rw [Function.update_apply] at here
    split at here
    · cases here
      exact own
    · exact others pid o here
  cases step with
  | keep _ => exact all
  | @rebind q p fd d running rebinds =>
    exact update all (rebound p fd d (all q _ (holdings_of_current running)) rebinds)
  | launch _ => exact update all (new _)
  | @finish q _ _ _ _ _ => exact none q
  | @replace q _ _ _ _ _ => exact update (none q) (new _)

theorem holdings_saveContext (k : Kernel) (slot : SaveSlot) (context : SavedContext) :
    (k.saveContext slot context).holdings = k.holdings := by
  cases slot with
  | parent pid =>
    funext q
    rw [holdings, saveContext, updateProcess, ProcessTable.process?_update]
    split
    · rw [Option.map_map, holdings]
      rfl
    · rfl
  | terminal t => rfl

theorem holdings_park (k : Kernel) (transfer : Transfer) (context : SavedContext) :
    (k.park transfer context).holdings = k.holdings := by
  unfold park
  split
  · exact k.holdings_saveContext _ context
  · rfl

end Kernel

open Kernel

theorem Moment.holdings_after (m : Moment) : m.after.holdings = m.decided.holdings := by
  unfold after
  split
  · exact holdings_park _ _ _
  · rfl

namespace Run

variable {k₀ k : Kernel} {h : List Moment}

theorem holdings_eq {m : Moment} (run : Run k₀ (m :: h) k) : k.holdings = m.decided.holdings := by
  cases run with
  | step _ a _ saved _ _ => exact (Moment.mk _ a saved).holdings_after

theorem holdings_latest {m : Moment} (run : Run k₀ (m :: h) k) :
    HoldingsStep m.before m.action m.transfer k.holdings := by
  rw [run.holdings_eq]
  exact m.before.act_holdings m.action

/-- What new processes have and rebinding a descriptor keeps is true of all processes at every moment
of a run. -/
theorem forall_held {files : FileSystem} {arena : Arena} {storage : Kernel.Storage}
    {P : Holdings → Prop} (run : Run (.new files arena storage) h k) (new : ∀ args, P (.new args))
    (rebound : ∀ a p fd d, P p.holdings → Rebinds files p a fd d →
      P (p.holdings.setDescriptor fd d)) :
    ∀ pid o, k.holdings pid = some o → P o := by
  induction h generalizing k with
  | nil =>
    cases run
    intro pid o here
    simp [Kernel.holdings, Kernel.new, Kernel.withStackPointer] at here
  | cons m h ih =>
    have before := run.latest.1
    refine run.holdings_latest.forall_held (ih before) new fun p fd d own rebinds => ?_
    rw [before.fixed.1] at rebinds
    exact rebound m.action p fd d own rebinds

end Run

end TerminalKernel
