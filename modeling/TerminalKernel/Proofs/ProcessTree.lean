import Mathlib.Algebra.Ring.Nat
import Mathlib.Data.List.Nodup
import Mathlib.Tactic.Choose
import TerminalKernel.Proofs.Invariant
import TerminalKernel.Sample

/-!
# The process tree

The processes that are live at a moment of a run, as a program that walks the kernel's tables finds
them.
-/

namespace TerminalKernel

/-! ## A run to look at -/

namespace Sample

/-- A kernel with nothing but a shell, before anything runs. -/
abbrev shellKernel : Kernel := .new shellFiles arena storage

/-- Some actions on it, the latest first. -/
def played (actions : List Action) : List Moment × Kernel := shellKernel.play flow actions

theorem run_played {actions : List Action} (begins : Action.Begins actions) :
    Run shellKernel (played actions).1 (played actions).2 :=
  .of_play flow begins

theorem saved_played {actions : List Action} {m : Moment} (inside : m ∈ (played actions).1) :
    m.saved = some flow :=
  shellKernel.saved_of_play flow actions m inside

theorem saves_played {actions : List Action} : ∀ m ∈ (played actions).1, m.Saves :=
  fun _ inside _ => ⟨flow, saved_played inside, rfl⟩

def shell : ProgramFile := ⟨0, programHeaderSize, programLoadAddress + 0x100⟩

theorem startable {k : Kernel} {pid : ProcessId} (files : k.files = shellFiles)
    (room : k.processes.free? = some pid) : k.Startable shellName shell pid where
  found := files ▸ findProgram_shell
  room := room
  reads := by
    rw [files, shell, read_shell]
    rfl

theorem roster_played (a : Action) (earlier : List Action) :
    (played (a :: earlier)).2.roster =
      ((played earlier).2.act a).1.roster.park ((played earlier).2.act a).2 (some flow) :=
  Moment.roster_after ⟨(played earlier).2, a, some flow⟩

/-- The roster once the first shell runs. -/
def started : Roster :=
  (shellKernel.roster.begin .first 0).park
    (.launch ⟨0, shell.entry, userStackTop, .terminal .first⟩) (some flow)

theorem roster_started : (played [.start]).2.roster = started := by
  have ready : (played []).2.Startable shellName shell 0 := startable rfl rfl
  obtain ⟨transfer, after, _⟩ := Kernel.start_launches ready
  rw [roster_played, transfer, after]
  rfl

/-- The roster once the first shell has started another one. -/
def nested : Roster :=
  (started.begin .first 1).park (.launch ⟨1, shell.entry, userStackTop, .parent 1⟩) (some flow)

theorem roster_nested : (played [.execute shellName, .start]).2.roster = nested := by
  have begins : Action.Begins [.start] := ⟨by decide, trivial⟩
  have files := (run_played begins).fixed.1
  have room : (played [.start]).2.processes.free? = some 1 := by
    rw [Kernel.free?_eq_roster, roster_started]
    rfl
  have ready : (played [.start]).2.Startable (Command.parse shellName).name shell 1 :=
    startable files room
  have other : (Command.parse shellName).name ≠ Command.exitName := by decide +kernel
  obtain ⟨transfer, after, _⟩ := Kernel.execute_launches other ready
  rw [roster_played, transfer, after, ← Kernel.scheduled_roster, roster_started]
  rfl

theorem run_nested : Run shellKernel (played [.execute shellName, .start]).1
    (played [.execute shellName, .start]).2 :=
  run_played ⟨by simp, ⟨by simp, trivial⟩⟩

end Sample

/-! ## The tree -/

namespace Kernel

def parent? (k : Kernel) (pid : ProcessId) : Option ProcessId :=
  (k.processes.process? pid).map (·.parent)

/-- The processes form one line for each terminal in use: following parents from the owner visits
every process of the terminal once, and ends at the only one that is its own parent. -/
structure ProcessTree (k : Kernel) : Prop where
  active_iff_owner : ∀ t, (k.session t).active = true ↔ (k.session t).owner.isSome = true
  active_iff_count : ∀ t, (k.session t).active = true ↔ 0 < (k.session t).processCount
  line : ∀ t, (k.session t).active = true → ∃ line root,
    Lineage k.parent? line ∧ (k.session t).owner = line.head? ∧ line.getLast? = some root ∧
    line.length = (k.session t).processCount ∧ line.Nodup ∧
    (∀ pid, pid ∈ line ↔ ∃ p, k.processes.process? pid = some p ∧ p.terminal = t) ∧
    ∀ pid ∈ line, k.parent? pid = some pid ↔ pid = root
  liveCount_eq : k.processes.liveCount =
    (TerminalId.all.map fun t => (k.session t).processCount).sum
  liveCount_le : k.processes.liveCount ≤ maxProcesses
  parent : ∀ pid p, k.processes.process? pid = some p →
    ∃ q, k.processes.process? p.parent = some q ∧ q.terminal = p.terminal

theorem parent?_roster (k : Kernel) : k.roster.parent? = k.parent? := by
  funext pid
  simp only [Roster.parent?, roster, parent?, Option.map_map]
  rfl

theorem on_roster_iff (k : Kernel) (t : TerminalId) (pid : ProcessId) :
    k.roster.On t pid ↔ ∃ p, k.processes.process? pid = some p ∧ p.terminal = t := by
  simp only [Roster.On, roster, Option.map_eq_some_iff, exists_exists_and_eq_and]
  rfl

end Kernel

/-- The live processes are those of the lines, each once. -/
theorem Roster.Sound.liveCount_eq {k : Kernel} (sound : k.roster.Sound) :
    k.processes.liveCount = (TerminalId.all.map fun t => (k.session t).processCount).sum := by
  choose line stacked using sound.stacked
  have nodup : (TerminalId.all.flatMap line).Nodup := by
    rw [List.nodup_flatMap]
    refine ⟨fun t _ => (stacked t).nodup, List.Nodup.pairwise_of_forall_ne (by decide) ?_⟩
    intro t _ u _ other pid inT inU
    exact other ((((stacked t).mem pid).mp inT).unique (((stacked u).mem pid).mp inU))
  have members : ∀ pid, pid ∈ k.processes.live ↔ pid ∈ TerminalId.all.flatMap line := by
    intro pid
    rw [ProcessTable.live, List.mem_filter, List.mem_range, List.mem_flatMap, Kernel.isLive_iff_link?]
    constructor
    · rintro ⟨_, l, live⟩
      exact ⟨l.terminal, TerminalId.mem_all _, ((stacked _).mem pid).mpr ⟨l, live, rfl⟩⟩
    · rintro ⟨t, _, inside⟩
      obtain ⟨l, live, _⟩ := ((stacked t).mem pid).mp inside
      exact ⟨sound.valid pid l live, l, live⟩
  have perm := (List.perm_ext_iff_of_nodup (List.nodup_range.filter _) nodup).mpr members
  rw [ProcessTable.liveCount, ProcessTable.live, perm.length_eq, List.length_flatMap]
  refine congrArg List.sum (List.map_congr_left fun t _ => ?_)
  exact (stacked t).count.symm

namespace Run

variable {files : FileSystem} {arena : Arena} {storage : Kernel.Storage} {h : List Moment}
  {k : Kernel}

/-- The processes of every reachable kernel form a tree. -/
theorem processTree (run : Run (.new files arena storage) h k) : k.ProcessTree where
  active_iff_owner := run.sound.active_iff_owner
  active_iff_count := run.sound.active_iff_count
  line t active := by
    obtain ⟨line, stacked⟩ := run.sound.stacked t
    have lineage := stacked.lineage (stacked.active.mp active)
    rw [k.parent?_roster] at lineage
    obtain ⟨root, last, self⟩ := lineage.exists_last
    refine ⟨line, root, lineage, stacked.owner, last, stacked.count.symm, stacked.nodup,
      fun pid => (stacked.mem pid).trans (k.on_roster_iff t pid), fun pid inside => ⟨?_, ?_⟩⟩
    · intro own
      have found := lineage.getLast?_of_self inside own
      rw [last, Option.some_inj] at found
      exact found.symm
    · rintro rfl
      exact self
  liveCount_eq := run.sound.liveCount_eq
  liveCount_le := by
    have bound := List.length_filter_le k.processes.isLive (List.range maxProcesses)
    rwa [List.length_range] at bound
  parent pid p live := by
    have link : k.roster.link? pid = some p.link := by
      simp only [Kernel.roster, live, Option.map_some]
    exact (k.on_roster_iff _ _).mp (run.sound.parent_on link)

end Run

/-- A kernel is known by its roster: its state is not to be computed. -/
theorem Sample.liveCount_nested {k : Kernel} (tree : k.ProcessTree)
    (same : k.roster = Sample.nested) : k.processes.liveCount = 2 := by
  rw [tree.liveCount_eq]
  simp only [← Kernel.processCount_roster, same]
  decide +kernel

/-- A shell on top of another, with nothing on the other terminals. -/
theorem processTree_nested :
    Run Sample.shellKernel (Sample.played [.execute shellName, .start]).1
        (Sample.played [.execute shellName, .start]).2 ∧
      (Sample.played [.execute shellName, .start]).2.ProcessTree ∧
      (Sample.played [.execute shellName, .start]).2.processes.liveCount = 2 := by
  have tree := Run.processTree Sample.run_nested
  exact ⟨Sample.run_nested, tree, Sample.liveCount_nested tree Sample.roster_nested⟩

/-! ## Who runs -/

namespace Kernel

/-- Every place that tells who runs tells of one process: the terminal's session, the process's own
record, the stack for entering the kernel, and both entries behind the program window. -/
structure Runs (k : Kernel) (t : TerminalId) (pid : ProcessId) : Prop where
  scheduled : k.scheduled = t
  owner : (k.session t).owner = some pid
  live : ∃ p, k.processes.process? pid = some p ∧ p.terminal = t
  kernelStack : k.kernelStack = some (k.processes.arena.stackTop pid)
  lower : k.space.directory[programEntry] = ⟨programSlot pid, .userHuge⟩
  upper : k.space.directory[programEntry + 1] = ⟨programSlot pid + hugePageSize, .userHuge⟩

theorem runs_of_owner {k : Kernel} (sound : k.roster.Sound) {pid : ProcessId}
    (owner : (k.session k.scheduled).owner = some pid) : k.Runs k.scheduled pid := by
  obtain ⟨stack, window⟩ := sound.coherent.running pid owner
  obtain ⟨lower, upper⟩ := Prod.mk.inj window
  exact ⟨rfl, owner, (k.on_roster_iff _ _).mp (sound.on_of_owner owner), stack, lower, upper⟩

theorem current_of_currentPid? {k : Kernel} {pid : ProcessId} {p : ProcessRecord TerminalId}
    (current : k.currentPid? = some pid) (live : k.processes.process? pid = some p) :
    k.current = .ok (pid, p) := by
  simp only [Kernel.current, current, live]

theorem current_of_none {k : Kernel} (current : k.currentPid? = none) :
    k.current = .error .invalidArgument := by
  simp only [Kernel.current, current]

end Kernel

/-- In every reachable kernel the owner of the scheduled terminal is the process that every place
tells of, that calls act for, and whose slot a program sees in its window. While the scheduled
terminal is out of use, no process is found to run. -/
theorem Run.scheduled_runs {files : FileSystem} {arena : Arena} {storage : Kernel.Storage}
    {h : List Moment} {k : Kernel} (run : Run (.new files arena storage) h k) :
    ((k.session k.scheduled).active = true → ∃ pid p, k.Runs k.scheduled pid ∧
      k.currentPid? = some pid ∧ k.current = .ok (pid, p) ∧ p.terminal = k.scheduled ∧
      ∀ offset, offset < programSlotSize → k.space.resolve (programWindow + offset) =
        some ⟨programSlot pid + offset, true, true⟩) ∧
    ((k.session k.scheduled).active = false →
      k.currentPid? = none ∧ k.current = .error .invalidArgument) := by
  constructor
  · intro active
    obtain ⟨pid, owner⟩ := Option.isSome_iff_exists.mp ((run.sound.active_iff_owner _).mp active)
    have runs := Kernel.runs_of_owner run.sound owner
    have current := run.currentPid?_eq_owner.trans owner
    obtain ⟨p, live, terminal⟩ := runs.live
    exact ⟨pid, p, runs, current, Kernel.current_of_currentPid? current live, terminal,
      fun _ inside => AddressSpace.resolve_programWindow runs.lower runs.upper inside⟩
  · intro unused
    have none : k.currentPid? = none := by
      have stacked := run.sound.line_of_unused unused
      exact run.currentPid?_eq_owner.trans stacked.owner
    exact ⟨none, Kernel.current_of_none none⟩

theorem Sample.seat_nested {k : Kernel} (same : k.roster = Sample.nested) :
    (k.session k.scheduled).active = true ∧ (k.session k.scheduled).owner = some 1 := by
  have seat : (k.session k.scheduled).seat = ⟨some 1, 2, true⟩ := by
    change k.roster.seat k.roster.scheduled = _
    rw [same]
    decide +kernel
  exact ⟨congrArg Seat.active seat, congrArg Seat.owner seat⟩

/-- The second of two shells runs. -/
theorem scheduled_runs_nested :
    Run Sample.shellKernel (Sample.played [.execute shellName, .start]).1
        (Sample.played [.execute shellName, .start]).2 ∧
      (Sample.played [.execute shellName, .start]).2.currentPid? = some 1 := by
  obtain ⟨active, owner⟩ := Sample.seat_nested Sample.roster_nested
  obtain ⟨pid, _, runs, current, _⟩ := (Run.scheduled_runs Sample.run_nested).1 active
  have which : some pid = some 1 := runs.owner.symm.trans owner
  exact ⟨Sample.run_nested, current.trans which⟩

end TerminalKernel
