import Mathlib.Logic.Function.Basic
import TerminalKernel.Proofs.Operations
import TerminalKernel.Proofs.Run

/-!
# Who runs

The roster of a kernel is the part of it that decides which processes there are and which of them
runs: their parents and terminals, the seats at the terminals, the saved flows, and what the
processor was told of the running process. Actions change the roster in seven ways only
(`Roster.Step`), and `act_step` says that every action of the kernel does one of them.
-/

namespace TerminalKernel

/-- What ties a process to others from its start to its end. -/
structure Link where
  parent : ProcessId
  terminal : TerminalId
  deriving DecidableEq, Repr

/-- A terminal's session without its saved flow. -/
structure Seat where
  owner : Option ProcessId
  processCount : Nat
  active : Bool
  deriving DecidableEq, Repr

structure Roster where
  /-- Where programs come from. -/
  files : FileSystem
  arena : Arena
  link? : ProcessId → Option Link
  seat : TerminalId → Seat
  saved? : SaveSlot → Option SavedContext
  scheduled : TerminalId
  kernelStack : Option Nat
  /-- The two directory entries behind the program window. -/
  window : PageEntry × PageEntry

def ProcessRecord.link (p : ProcessRecord TerminalId) : Link := ⟨p.parent, p.terminal⟩

def Session.seat (s : Session) : Seat := ⟨s.owner, s.processCount, s.active⟩

namespace Kernel

def roster (k : Kernel) : Roster where
  files := k.files
  arena := k.processes.arena
  link? pid := (k.processes.process? pid).map (·.link)
  seat t := (k.session t).seat
  saved? := k.savedContext?
  scheduled := k.scheduled
  kernelStack := k.kernelStack
  window := (k.space.directory[programEntry], k.space.directory[programEntry + 1])

end Kernel

/-! ## Changes of a roster -/

namespace Roster

/-- The directory entries that show the slot of a process. -/
def slotWindow (pid : ProcessId) : PageEntry × PageEntry :=
  (⟨programSlot pid, .userHuge⟩, ⟨programSlot pid + hugePageSize, .userHuge⟩)

def enter (r : Roster) (pid : ProcessId) : Roster :=
  { r with kernelStack := some (r.arena.stackTop pid), window := slotWindow pid }

def setSeat (r : Roster) (t : TerminalId) (s : Seat) : Roster :=
  { r with seat := Function.update r.seat t s }

/-- Fill or free the place of a process, together with its save slot. -/
def setLink (r : Roster) (pid : ProcessId) (l : Option Link) : Roster :=
  { r with
    link? := Function.update r.link? pid l
    saved? := Function.update r.saved? (.parent pid) (l.map fun _ => .empty) }

/-- Save a flow where there is a slot for it. -/
def save (r : Roster) (slot : SaveSlot) (context : SavedContext) : Roster :=
  { r with saved? := Function.update r.saved? slot ((r.saved? slot).map fun _ => context) }

/-- Save the flow that a transfer suspends, if one is given. -/
def park (r : Roster) (transfer : Transfer) (saved : Option SavedContext) : Roster :=
  match transfer.saveSlot?, saved with
  | some slot, some context => r.save slot context
  | _, _ => r

def parentFor (r : Roster) (t : TerminalId) : Option ProcessId :=
  if (r.seat t).processCount = 0 then none else (r.seat t).owner

def begin (r : Roster) (t : TerminalId) (pid : ProcessId) : Roster :=
  (r.setLink pid (some ⟨(r.parentFor t).getD pid, t⟩)).setSeat t
    ⟨some pid, (r.seat t).processCount + 1, true⟩ |>.enter pid

def finish (r : Roster) (pid : ProcessId) (t : TerminalId) : Roster :=
  (r.setLink pid none).setSeat t { r.seat t with processCount := (r.seat t).processCount - 1 }

def giveBack (r : Roster) (t : TerminalId) (pid : ProcessId) : Roster :=
  (r.setSeat t { r.seat t with owner := some pid }).enter pid

def vacate (r : Roster) (t : TerminalId) : Roster :=
  r.setSeat t { r.seat t with active := false, owner := none }

/-- What an action of a kernel whose running process is `current?` can do to the roster, with the
transfer that it decides on. -/
inductive Step (r : Roster) (current? : Option ProcessId) : Transfer → Roster → Prop
  | stay : Step r current? .stay r
  /-- A command starts a program on the scheduled terminal. -/
  | execute {l : Launch} (valid : l.pid < maxProcesses) (free : r.link? l.pid = none)
      (save : l.save = .parent l.pid) : Step r current? (.launch l) (r.begin r.scheduled l.pid)
  /-- A shell is started on a terminal that is not in use, which takes the processor. -/
  | fresh {t : TerminalId} {l : Launch} (unused : (r.seat t).active = false)
      (valid : l.pid < maxProcesses) (free : r.link? l.pid = none)
      (save : l.save = .terminal r.scheduled) :
      Step r current? (.launch l) { r.begin t l.pid with scheduled := t }
  /-- The running process ends and its parent goes on. -/
  | resume {pid : ProcessId} {p : Link} {context : SavedContext} {status : UInt8}
      (current : current? = some pid) (live : r.link? pid = some p) (child : p.parent ≠ pid)
      (others : (r.seat p.terminal).processCount - 1 ≠ 0)
      (saved : r.saved? (.parent pid) = some context) :
      Step r current? (.resume context status) ((r.finish pid p.terminal).giveBack p.terminal p.parent)
  /-- The running process ends and a shell takes its place. -/
  | relaunch {pid : ProcessId} {p : Link} {l : Launch}
      (current : current? = some pid) (live : r.link? pid = some p)
      (last : (r.seat p.terminal).processCount - 1 = 0 ∨ p.parent = pid)
      (valid : l.pid < maxProcesses) (free : (r.finish pid p.terminal).link? l.pid = none)
      (save : l.save = .parent l.pid) :
      Step r current? (.launch l) ((r.finish pid p.terminal).begin p.terminal l.pid)
  /-- The running process ends and no shell can be started. -/
  | idle {pid : ProcessId} {p : Link} (current : current? = some pid) (live : r.link? pid = some p)
      (last : (r.seat p.terminal).processCount - 1 = 0 ∨ p.parent = pid) :
      Step r current? .idle ((r.finish pid p.terminal).vacate p.terminal)
  /-- Another terminal takes its turn. -/
  | turn {t : TerminalId} {owner : ProcessId} {context : SavedContext}
      (other : t ≠ r.scheduled) (active : (r.seat t).active = true)
      (seated : (r.seat t).owner = some owner)
      (saved : r.saved? (.terminal t) = some context) (parked : context.isEmpty = false) :
      Step r current? (.switch r.scheduled t) { r.enter owner with scheduled := t }

end Roster

namespace Kernel

theorem scheduled_roster (k : Kernel) : k.roster.scheduled = k.scheduled := rfl

theorem processCount_roster (k : Kernel) (t : TerminalId) :
    (k.roster.seat t).processCount = (k.session t).processCount := rfl

theorem active_roster (k : Kernel) (t : TerminalId) :
    (k.roster.seat t).active = (k.session t).active := rfl

theorem isLive_iff_link? {k : Kernel} {pid : ProcessId} :
    k.processes.isLive pid = true ↔ ∃ l, k.roster.link? pid = some l := by
  rw [← Option.isSome_iff_exists]
  simp only [roster, ProcessTable.isLive, Option.isSome_map]

theorem isLive_eq_false_iff_link? {k : Kernel} {pid : ProcessId} :
    k.processes.isLive pid = false ↔ k.roster.link? pid = none := by
  rw [← Option.not_isSome_iff_eq_none]
  simp only [roster, ProcessTable.isLive, Option.isSome_map, Bool.not_eq_true]

/-! ## What leaves the roster alone -/

@[simp] theorem roster_withRtc (k : Kernel) (rtc : Rtc) : { k with rtc }.roster = k.roster := rfl

@[simp] theorem roster_withStackPointer (k : Kernel) (address : Option Nat) :
    (k.withStackPointer address).roster = k.roster := rfl

@[simp] theorem roster_emit (k : Kernel) (effects : List Effect) :
    (k.emit effects).roster = k.roster := rfl

@[simp] theorem roster_log (k : Kernel) (n : Notice) : (k.log n).roster = k.roster := rfl

/-- The video window does not lie in the entries behind the program window. -/
theorem roster_withVideo (k : Kernel) (page : Option Nat) :
    { k with space := k.space.mapVideo page }.roster = k.roster := by
  simp only [roster, AddressSpace.mapVideo]
  rw [Vector.getElem_set_ne (by decide) (by decide) (by decide),
    Vector.getElem_set_ne (by decide) (by decide) (by decide)]
  rfl

@[simp] theorem roster_mapScreen (k : Kernel) (t : TerminalId) :
    (k.mapScreen t).roster = k.roster :=
  k.roster_withVideo _

theorem OnlyDevices.roster {k k' : Kernel} (only : k.OnlyDevices k') : k'.roster = k.roster := by
  obtain ⟨_, _, _, _, _, rfl⟩ := only
  rfl

@[simp] theorem roster_print (k : Kernel) (t : TerminalId) (bytes : List UInt8) :
    (k.print t bytes).roster = k.roster :=
  (k.onlyDevices_print t bytes).roster

@[simp] theorem roster_display (k : Kernel) (t : TerminalId) : (k.display t).roster = k.roster :=
  (k.onlyDevices_display t).roster

theorem roster_updateProcess (k : Kernel) (pid : ProcessId)
    {f : ProcessRecord TerminalId → ProcessRecord TerminalId} (link : ∀ p, (f p).link = p.link)
    (context : ∀ p, (f p).callerContext = p.callerContext) :
    (k.updateProcess pid f).roster = k.roster := by
  have links : (k.updateProcess pid f).roster.link? = k.roster.link? := by
    funext q
    simp only [roster, updateProcess, ProcessTable.process?_update]
    split <;> simp [Function.comp_def, link]
  have saved : (k.updateProcess pid f).roster.saved? = k.roster.saved? := by
    funext slot
    cases slot with
    | parent q =>
      simp only [roster, updateProcess, savedContext?, ProcessTable.process?_update]
      split <;> simp [Function.comp_def, context]
    | terminal t => rfl
  calc (k.updateProcess pid f).roster
      = { k.roster with
          link? := (k.updateProcess pid f).roster.link?
          saved? := (k.updateProcess pid f).roster.saved? } := by
        simp only [roster, updateProcess, ProcessTable.arena_update]
        rfl
    _ = k.roster := by rw [links, saved]

@[simp] theorem roster_setDescriptor (k : Kernel) (pid : ProcessId) (fd : Nat) (d : Descriptor) :
    (k.setDescriptor pid fd d).roster = k.roster :=
  k.roster_updateProcess pid (fun _ => rfl) (fun _ => rfl)

/-! ## Calls on descriptors -/

theorem roster_openFile (k : Kernel) (name : List UInt8) :
    (k.openFile name).1.roster = k.roster := by
  rcases k.openFile_cases name with ⟨_, failed⟩ | ⟨pid, _, e, fd, _, _, _, opened⟩
  · rw [failed]
  · rw [opened]
    exact (onlyDevices_openDevice _ _).roster.trans (k.roster_setDescriptor pid fd _)

theorem roster_closeFile (k : Kernel) (fd : Nat) : (k.closeFile fd).1.roster = k.roster := by
  rcases k.closeFile_cases fd with ⟨_, failed⟩ | ⟨pid, _, _, _, _, _, _, closed⟩
  · rw [failed]
  · rw [closed]
    exact k.roster_setDescriptor pid fd _

theorem roster_readDirectory (k : Kernel) (pid : ProcessId) (fd : Nat) (d : Descriptor)
    (room : Nat) : (k.readDirectory pid fd d room).1.roster = k.roster := by
  rcases k.readDirectory_cases pid fd d room with ⟨_, none⟩ | ⟨_, _, read⟩
  · rw [none]
  · rw [read]
    exact k.roster_setDescriptor pid fd _

theorem roster_readRegular (k : Kernel) (pid : ProcessId) (fd : Nat) (d : Descriptor)
    (room : Nat) : (k.readRegular pid fd d room).1.roster = k.roster := by
  rcases k.readRegular_cases pid fd d room with ⟨_, failed⟩ | ⟨_, read⟩
  · rw [failed]
  · rw [read]
    exact k.roster_setDescriptor pid fd _

theorem roster_read (k : Kernel) (fd : Nat) (room : Option Nat) :
    (k.read fd room).1.roster = k.roster := by
  unfold read
  split
  · rfl
  · rfl
  · split
    · exact (k.onlyDevices_readLine _ _).roster
    · rfl
    · exact k.roster_readDirectory _ _ _ _
    · exact k.roster_readRegular _ _ _ _
    · rfl
    · rfl

theorem roster_mapVideo (k : Kernel) (address : Nat) :
    (k.mapVideo address).1.roster = k.roster := by
  rcases k.mapVideo_cases address with ⟨_, failed⟩ | ⟨_, p, _, mapped⟩
  · rw [failed]
  · rw [mapped]
    exact k.roster_mapScreen p.terminal

end Kernel

end TerminalKernel
