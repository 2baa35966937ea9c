import TerminalKernel.Proofs.DescriptorTable
import TerminalKernel.Proofs.Failures
import TerminalKernel.Proofs.SequentialReads

/-!
# Opening and closing descriptors

Opening a file takes the lowest descriptor that is not open, and it fails for want of descriptors
exactly when there is none. Closing works for exactly the descriptors that files were opened on,
because the table is in order (`Holdings.Tabled`); the same is why a process that ends leaves nothing
behind that could not be closed. In between a descriptor stays on its file (`Run.sameFile`).
-/

namespace TerminalKernel

/-! ## The descriptor that opening takes -/

namespace Holdings

/-- The lowest descriptor above the terminal's that is not open. -/
structure Lowest (o : Holdings) (fd : Nat) : Prop where
  high : firstFreeDescriptor ≤ fd
  valid : fd < maxOpenFiles
  notOpen : o.descriptor? fd = none
  lowest : ∀ lower, firstFreeDescriptor ≤ lower → lower < fd → (o.descriptor? lower).isSome = true

/-- All descriptors above the terminal's are open. -/
def Full (o : Holdings) : Prop :=
  ∀ fd, firstFreeDescriptor ≤ fd → fd < maxOpenFiles → (o.descriptor? fd).isSome = true

end Holdings

theorem Held.of_setDescriptor {held : ProcessId → Option Holdings} {pid : ProcessId} {o : Holdings}
    {fd : Nat} {d : Descriptor} (valid : fd < maxOpenFiles) (isOpen : d.isOpen = true) :
    Held (Function.update held pid (some (o.setDescriptor fd d))) pid fd d := by
  refine ⟨_, Function.update_self .., ?_⟩
  rw [Holdings.descriptor?_setDescriptor_self _ valid]
  exact Option.filter_eq_some_iff.mpr ⟨rfl, isOpen⟩

namespace ProcessRecord

variable {p : ProcessRecord TerminalId} {fd : Nat}

theorem isOpen_getD (p : ProcessRecord TerminalId) (fd : Nat) :
    (p.files[fd]?.getD .closed).isOpen = (p.holdings.descriptor? fd).isSome := by
  change _ = (p.files[fd]?.filter (·.isOpen)).isSome
  cases p.files[fd]? with
  | none => rfl
  | some d => cases isOpen : d.isOpen <;> simp [Option.filter, isOpen]

theorem freeDescriptor?_eq_some : p.freeDescriptor? = some fd ↔ p.holdings.Lowest fd := by
  simp only [freeDescriptor?, isOpen_getD, List.find?_range'_eq_some, List.mem_range'_1, Bool.not_not,
    Bool.not_eq_true', Option.isSome_eq_false_iff, Option.isNone_iff_eq_none]
  constructor
  · rintro ⟨notOpen, ⟨high, valid⟩, lowest⟩
    exact ⟨high, valid, notOpen, lowest⟩
  · rintro ⟨high, valid, notOpen, lowest⟩
    exact ⟨notOpen, ⟨high, valid⟩, lowest⟩

theorem freeDescriptor?_eq_none : p.freeDescriptor? = none ↔ p.holdings.Full := by
  simp only [freeDescriptor?, isOpen_getD, List.find?_range'_eq_none, Bool.not_not]
  exact Iff.rfl

/-- In a table that is in order, whatever is open above the terminal's descriptors is a file. -/
theorem unclosable_of_tabled (table : p.holdings.Tabled) : p.unclosable = [] := by
  refine List.filterMap_eq_nil_iff.mpr fun fd inside => ?_
  obtain ⟨high, valid⟩ := List.mem_range'_1.mp inside
  have place : p.files[fd]? = some p.files[fd] := Vector.getElem?_eq_getElem valid
  have filed : p.files[fd].Filed := table.filed fd _ high place
  simp only [place, Option.getD_some]
  rw [Descriptor.Filed] at filed
  split at filed <;> simp [*]

end ProcessRecord

namespace Kernel

variable {k : Kernel} {a : Action} {pid : ProcessId} {p : ProcessRecord TerminalId} {fd : Nat}
  {d : Descriptor} {name : List UInt8} {e : DirectoryEntry}

/-! ## The calls -/

/-- Opening the file with a name takes the lowest descriptor, or there is none. -/
structure OpensLowest (k : Kernel) (name : List UInt8) : Prop where
  succeeds : ∀ fd, (k.openFile name).2 = .ok fd ↔
    ∃ pid p e, k.current = .ok (pid, p) ∧ k.files.lookup name = .ok e ∧ p.holdings.Lowest fd
  exhausted : (k.openFile name).2 = .error .resourceExhausted ↔
    ∃ pid p e, k.current = .ok (pid, p) ∧ k.files.lookup name = .ok e ∧ p.holdings.Full
  /-- The file is at its start, and no other descriptor changes. -/
  binds : ∀ fd pid p e, (k.openFile name).2 = .ok fd → k.current = .ok (pid, p) →
    k.files.lookup name = .ok e → (k.openFile name).1.holdings = Function.update k.holdings pid
      (some (p.holdings.setDescriptor fd ⟨.ofFileType e.fileType, true, e.inode, 0⟩))

/-- Closing a descriptor succeeds for those that are open above the terminal's. -/
structure ClosesOpen (k : Kernel) (fd : Nat) : Prop where
  succeeds : (k.closeFile fd).2 = .ok 0 ↔ firstFreeDescriptor ≤ fd ∧
    ∃ pid p d, k.current = .ok (pid, p) ∧ p.holdings.descriptor? fd = some d
  fails : (k.closeFile fd).2 ≠ .ok 0 → k.closeFile fd = (k, .error .invalidArgument)
  /-- The descriptor is closed, with its inode and its position left behind, and no other descriptor
  changes. -/
  unbinds : ∀ pid p d, (k.closeFile fd).2 = .ok 0 → k.current = .ok (pid, p) →
    p.holdings.descriptor? fd = some d → (k.closeFile fd).1.holdings =
      Function.update k.holdings pid
        (some (p.holdings.setDescriptor fd ⟨.closed, false, d.inode, d.position⟩))

theorem openFile_of_found (running : k.current = .ok (pid, p))
    (found : k.files.lookup name = .ok e) :
    (k.openFile name).2 = (match p.freeDescriptor? with
      | none => .error .resourceExhausted
      | some fd => .ok fd) := by
  simp only [openFile, running, found]
  cases p.freeDescriptor? with
  | none => rfl
  | some fd => simp only [openBinding_opened]

theorem opensLowest (k : Kernel) (name : List UInt8) : k.OpensLowest name where
  succeeds fd := by
    constructor
    · intro opens
      obtain ⟨pid, p, e, running, found, free, _⟩ := openFile_eq_ok opens
      exact ⟨pid, p, e, running, found, ProcessRecord.freeDescriptor?_eq_some.mp free⟩
    · rintro ⟨pid, p, e, running, found, lowest⟩
      rw [openFile_of_found running found, ProcessRecord.freeDescriptor?_eq_some.mpr lowest]
  exhausted := by
    constructor
    · intro exhausted
      cases running : k.current with
      | error cause =>
        simp only [openFile, running, Except.error.injEq] at exhausted
        exact absurd (exhausted ▸ running) current_ne
      | ok here =>
        obtain ⟨pid, p⟩ := here
        cases found : k.files.lookup name with
        | error cause =>
          simp only [openFile, running, found, Except.error.injEq] at exhausted
          exact absurd exhausted (toSyscall_ne cause)
        | ok e =>
          refine ⟨pid, p, e, rfl, rfl, ProcessRecord.freeDescriptor?_eq_none.mp ?_⟩
          rw [openFile_of_found running found] at exhausted
          split at exhausted
          · assumption
          · cases exhausted
    · rintro ⟨pid, p, e, running, found, full⟩
      rw [openFile_of_found running found, ProcessRecord.freeDescriptor?_eq_none.mpr full]
  binds fd pid p e opens running found := by
    obtain ⟨pid', p', e', running', found', _, after⟩ := openFile_eq_ok opens
    cases running.symm.trans running'
    cases found.symm.trans found'
    exact after

theorem currentDescriptor_eq_error {cause : SyscallError}
    (missing : k.currentDescriptor fd = .error cause) : cause = .invalidArgument := by
  unfold currentDescriptor current at missing
  split at missing
  · rename_i cause' none
    split at none
    · cases none
      exact (Except.error.inj missing).symm
    · split at none
      · cases none
        exact (Except.error.inj missing).symm
      · cases none
  · split at missing
    · exact (Except.error.inj missing).symm
    · cases missing

/-- An open descriptor of the running process above the terminal's is on a file, so that it is
closed. -/
theorem closeFile_of_open (running : k.current = .ok (pid, p)) (table : p.holdings.Tabled)
    (high : firstFreeDescriptor ≤ fd) (bound : p.holdings.descriptor? fd = some d) :
    k.closeFile fd = (k.setDescriptor pid fd d.close, .ok 0) := by
  obtain ⟨place, isOpen⟩ := Holdings.descriptor?_eq_some.mp bound
  have file : d.binding.isFile = true := by
    have filed := table.filed fd d high place
    rwa [Descriptor.Filed, if_pos isOpen] at filed
  have found : k.currentDescriptor fd = .ok (pid, p, d) := by
    have bound : p.descriptor? fd = some d := bound
    simp only [currentDescriptor, running, bound]
  simp only [closeFile, if_neg (Nat.not_lt.mpr high), found, if_pos file]

theorem closesOpen (tables : ∀ pid p, k.current = .ok (pid, p) → p.holdings.Tabled) (fd : Nat) :
    k.ClosesOpen fd where
  succeeds := by
    constructor
    · intro closes
      rcases k.closeFile_cases fd with ⟨_, failed⟩ | ⟨pid, p, d, high, running, bound, _, _⟩
      · rw [failed] at closes
        cases closes
      · exact ⟨high, pid, p, d, running, bound⟩
    · rintro ⟨high, pid, p, d, running, bound⟩
      rw [closeFile_of_open running (tables pid p running) high bound]
  fails refused := by
    unfold closeFile at refused ⊢
    split
    · rfl
    · rename_i high
      rw [if_neg high] at refused
      split
      · rename_i cause missing
        rw [currentDescriptor_eq_error missing]
      · rename_i pid p d found
        simp only [found] at refused
        split
        · rename_i file
          exact absurd (by rw [if_pos file]) refused
        · rfl
  unbinds pid p d closes running bound := by
    rcases k.closeFile_cases fd with ⟨_, failed⟩ | ⟨pid', p', d', _, running', bound', _, closed⟩
    · rw [failed] at closes
      cases closes
    · cases running.symm.trans running'
      cases Option.some_inj.mp (bound.symm.trans bound')
      rw [closed]
      exact holdings_setDescriptor running fd d.close

/-! ## Descriptors that stay on their files -/

variable {transfer : Transfer} {held : ProcessId → Option Holdings}

theorem HoldingsStep.not_launches (step : HoldingsStep k a transfer held)
    (bound : Held k.holdings pid fd d) (kept : k.currentPid? = some pid → ¬ a.GivesUp fd) :
    ¬ transfer.Launches pid := by
  rintro starts
  cases step with
  | keep quiet | finish _ _ quiet => exact quiet _ starts
  | rebind _ _ => exact Transfer.not_launches (by simp) _ starts
  | launch free =>
    obtain ⟨_, same, rfl⟩ := starts
    cases same
    exact bound.ne_of_free free rfl
  | @replace q _ l running ends free =>
    obtain ⟨_, same, rfl⟩ := starts
    cases same
    have other : l.pid ≠ q := by
      rintro rfl
      exact kept (current_eq_ok running).1 (.inr ends)
    exact (bound.update_of_ne other none).ne_of_free free rfl

/-- Only the position of a descriptor changes, unless its process closes it or ends. -/
theorem HoldingsStep.sameFile (step : HoldingsStep k a transfer held)
    (bound : Held k.holdings pid fd d) (kept : k.currentPid? = some pid → ¬ a.GivesUp fd) :
    ∃ position, Held held pid fd { d with position } := by
  -- Only its own reads move a descriptor; whatever else happens leaves it as it is.
  by_cases reads : k.currentPid? = some pid ∧ ∃ room, a = .read fd room
  · obtain ⟨current, room, rfl⟩ := reads
    cases step with
    | keep _ => exact ⟨d.position, bound⟩
    | @rebind q p fd' d' running rebinds =>
      obtain ⟨o, here, isOpen⟩ := bound
      obtain rfl : pid = q := Option.some_inj.mp (current.symm.trans (current_eq_ok running).1)
      rw [holdings_of_current running, Option.some_inj] at here
      subst here
      have valid := Holdings.lt_of_descriptor? isOpen
      cases rebinds with
      | listed found _ _ | advanced found _ _ =>
        cases Option.some_inj.mp (isOpen.symm.trans found)
        exact ⟨_, Held.of_setDescriptor valid (Holdings.descriptor?_eq_some.mp isOpen).2⟩
    | launch free => exact ⟨d.position, bound.update_of_ne (bound.ne_of_free free) _⟩
    | finish _ ends _ | replace _ ends _ => cases ends
  · refine ⟨d.position, step.held bound fun current uses => ?_⟩
    rcases uses with given | read
    · exact kept current given
    · exact reads ⟨current, read⟩

theorem HoldingsStep.launched (step : HoldingsStep k a transfer held)
    (starts : transfer.Launches pid) : ∃ args, held pid = some (.new args) := by
  cases step with
  | keep quiet | finish _ _ quiet => exact absurd starts (quiet pid)
  | rebind _ _ => exact absurd starts (Transfer.not_launches (by simp) pid)
  | launch _ | replace _ _ _ =>
    obtain ⟨_, same, rfl⟩ := starts
    cases same
    exact ⟨_, Function.update_self ..⟩

end Kernel

open Kernel

theorem Held.isLive {k : Kernel} {pid : ProcessId} {fd : Nat} {d : Descriptor}
    (bound : Held k.holdings pid fd d) : k.processes.isLive pid = true := by
  obtain ⟨o, here, _⟩ := bound
  obtain ⟨p, live, _⟩ := Option.map_eq_some_iff.mp here
  exact ProcessTable.isLive_iff.mpr ⟨p, live⟩

namespace Moment

variable {m : Moment} {pid : ProcessId} {fd : Nat} {d : Descriptor}

theorem Opens.bound {name : List UInt8} (opens : m.Opens pid name fd) :
    ∃ p e, m.before.current = .ok (pid, p) ∧ m.before.files.lookup name = .ok e ∧
      p.holdings.Lowest fd ∧ m.after.holdings = Function.update m.before.holdings pid
        (some (p.holdings.setDescriptor fd ⟨.ofFileType e.fileType, true, e.inode, 0⟩)) := by
  obtain ⟨q, p, e, running, found, free, after⟩ := openFile_eq_ok opens.result
  obtain rfl : q = pid := Option.some_inj.mp ((current_eq_ok running).1.symm.trans opens.running)
  have decided : m.decided = (m.before.openFile name).1 := by
    rw [Moment.decided, opens.action]
    rfl
  refine ⟨p, e, running, found, ProcessRecord.freeDescriptor?_eq_some.mp free, ?_⟩
  rw [m.holdings_after, decided]
  exact after

theorem sameFile (bound : Held m.before.holdings pid fd d) (kept : ¬ m.GivesUp pid fd) :
    m.Keeps pid ∧ ∃ position, Held m.after.holdings pid fd { d with position } := by
  have step := m.before.act_holdings m.action
  have kept : m.before.currentPid? = some pid → ¬ m.action.GivesUp fd := fun current given =>
    kept ⟨current, given⟩
  obtain ⟨position, after⟩ := step.sameFile bound kept
  have after : Held m.after.holdings pid fd { d with position } := m.holdings_after ▸ after
  exact ⟨⟨bound.isLive, after.isLive, step.not_launches bound kept⟩, position, after⟩

/-- Whatever a number was used for, a process that gets it starts with nothing but its terminal. -/
theorem launched (starts : m.Launches pid) :
    ∃ o, m.after.holdings pid = some o ∧
      ∀ fd, firstFreeDescriptor ≤ fd → fd < maxOpenFiles → o.files[fd]? = some .closed := by
  obtain ⟨args, here⟩ := (m.before.act_holdings m.action).launched starts
  refine ⟨.new args, m.holdings_after ▸ here, fun fd high valid => ?_⟩
  exact Vector.getElem?_eq_some_iff.mpr ⟨valid, Holdings.newFiles_closed ⟨fd, valid⟩ high⟩

end Moment

namespace Run

variable {files : FileSystem} {arena : Arena} {storage : Kernel.Storage} {h : List Moment}
  {k : Kernel}

/-- From one moment of a run to its end a descriptor stays on its file, unless its process closes it
or ends. -/
theorem sameFile {later earlier : List Moment} {m : Moment}
    (run : Run (.new files arena storage) (later ++ m :: earlier) k) {pid : ProcessId} {fd : Nat}
    {d : Descriptor} (bound : Held m.before.holdings pid fd d)
    (kept : ∀ m' ∈ later ++ [m], ¬ m'.GivesUp pid fd) :
    (∀ m' ∈ later ++ [m], m'.Keeps pid) ∧ ∃ position, Held k.holdings pid fd { d with position } := by
  induction later generalizing k with
  | nil =>
    obtain ⟨keeps, after⟩ := Moment.sameFile bound (kept m List.mem_cons_self)
    have same : k.holdings = m.after.holdings := run.holdings_eq.trans m.holdings_after.symm
    exact ⟨fun m' inside => List.mem_singleton.mp inside ▸ keeps, same ▸ after⟩
  | cons m' later ih =>
    obtain ⟨last, kept⟩ := List.forall_mem_cons.mp kept
    obtain ⟨keeps, position, before⟩ := ih run.latest.1 kept
    obtain ⟨keep, after⟩ := Moment.sameFile before last
    have same : k.holdings = m'.after.holdings := run.holdings_eq.trans m'.holdings_after.symm
    exact ⟨List.forall_mem_cons.mpr ⟨keep, keeps⟩, same ▸ after⟩

theorem tabled_of_process? (run : Run (.new files arena storage) h k) {pid : ProcessId}
    {p : ProcessRecord TerminalId} (live : k.processes.process? pid = some p) :
    p.holdings.Tabled := by
  have here : k.holdings pid = some p.holdings := by rw [Kernel.holdings, live, Option.map_some]
  exact run.tabled here

/-- In a run the descriptors of all processes are in order, so that ending a process closes every one
of them. Opening a file takes the lowest descriptor that is not open, and fails for want of
descriptors exactly if the file is found and all are open; closing succeeds for exactly the open
descriptors above the terminal's. What an open descriptor is bound to changes at no moment but its own
closing or the end of its process, and a process starts with nothing open but its terminal, whatever
its number was used for before. -/
theorem descriptors_in_order (run : Run (.new files arena storage) h k) :
    (∀ pid p, k.processes.process? pid = some p →
      p.holdings.Tabled ∧ p.unclosable = [] ∧ k.reportUnclosable pid p = k) ∧
    (∀ name, k.OpensLowest name) ∧
    (∀ fd, k.ClosesOpen fd) ∧
    (∀ later m earlier, h = later ++ m :: earlier → ∀ pid fd d, Held m.before.holdings pid fd d →
      (∀ m' ∈ later ++ [m], ¬ m'.GivesUp pid fd) →
      (∀ m' ∈ later ++ [m], m'.Keeps pid) ∧
        ∃ position, Held k.holdings pid fd { d with position }) ∧
    ∀ m ∈ h, ∀ pid, m.Launches pid → ∃ o, m.after.holdings pid = some o ∧
      ∀ fd, firstFreeDescriptor ≤ fd → fd < maxOpenFiles → o.files[fd]? = some .closed := by
  refine ⟨fun pid p live => ?_, k.opensLowest, ?_, ?_, fun m _ pid => Moment.launched⟩
  · have table := run.tabled_of_process? live
    have closable := ProcessRecord.unclosable_of_tabled table
    refine ⟨table, closable, ?_⟩
    rw [reportUnclosable, closable, List.map_nil, emit_nil]
  · exact closesOpen fun pid p running => run.tabled_of_process? (current_eq_ok running).2
  · rintro later m earlier rfl pid fd d bound kept
    exact run.sameFile bound kept

end Run

theorem Sample.holdings_opened : (Sample.played [.openFile shellName, .start]).2.holdings 0 =
    some ((Holdings.new []).setDescriptor 2 ⟨.regular, true, 0, 0⟩) := by
  obtain ⟨p, e, running, found, _, after⟩ := Sample.opens_shell.bound
  have fresh : p.holdings = .new [] :=
    Option.some_inj.mp ((holdings_of_current running).symm.trans Sample.holdings_started)
  have files : (Sample.played [.start]).2.files = Sample.shellFiles := Sample.run_started.fixed.1
  rw [files, Sample.lookup_shell] at found
  cases found
  rw [Moment.holdings_after, Moment.decided, fresh] at after
  rw [Sample.holdings_played, after, Function.update_self]
  rfl

/-- A shell that opened a file can close it, and another file would get the descriptor after it. -/
theorem descriptors_in_order_shell :
    Run Sample.shellKernel (Sample.played [.openFile shellName, .start]).1
        (Sample.played [.openFile shellName, .start]).2 ∧
      ((Sample.played [.openFile shellName, .start]).2.closeFile 2).2 = .ok 0 ∧
      ((Sample.played [.openFile shellName, .start]).2.openFile shellName).2 = .ok 3 := by
  have facts := Run.descriptors_in_order Sample.run_opened
  obtain ⟨p, running, holds⟩ := current_of_held Sample.current_opened Sample.holdings_opened
  have files : (Sample.played [.openFile shellName, .start]).2.files = Sample.shellFiles :=
    Sample.run_opened.fixed.1
  have found : (Sample.played [.openFile shellName, .start]).2.files.lookup shellName =
      .ok ⟨shellName, .regular, 0⟩ := by rw [files, Sample.lookup_shell]
  have lowest : p.holdings.Lowest 3 := by
    rw [holds]
    refine ⟨by decide, by decide, by decide, fun lower high below => ?_⟩
    obtain rfl : lower = 2 := Nat.le_antisymm (Nat.le_of_lt_succ below) high
    decide
  have bound : p.holdings.descriptor? 2 = some ⟨.regular, true, 0, 0⟩ := by
    rw [holds]
    decide
  exact ⟨Sample.run_opened, (facts.2.2.1 2).succeeds.mpr ⟨by decide, 0, p, _, running, bound⟩,
    ((facts.2.1 shellName).succeeds 3).mpr ⟨0, p, _, running, found, lowest⟩⟩

end TerminalKernel
