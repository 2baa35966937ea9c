import TerminalKernel.Console
import TerminalKernel.FileSystem.Image
import TerminalKernel.Memory
import TerminalKernel.Paging
import TerminalKernel.ProcessTable
import TerminalKernel.Rtc
import TerminalKernel.Trace
import TerminalKernel.Transfer
import TerminalKernel.UserMemory

/-!
# The state of the kernel

Everything the kernel keeps and everything of the machine it acts on, in one value. Operations
change it through the few updates collected here, and each of them says which part it touches.
Core Lean only.
-/

namespace TerminalKernel

structure Kernel where
  files : FileSystem
  processes : ProcessTable TerminalId
  sessions : PerTerminal Session
  /-- The terminal whose process has the processor. -/
  scheduled : TerminalId
  console : Console
  space : AddressSpace
  rtc : Rtc
  /-- Physical memory. Screens are kept apart from it, see `Kernel.physicalByte`. -/
  memory : Memory
  /-- The stack that the processor takes when it enters the kernel from user mode. -/
  kernelStack : Option Nat
  /-- How many bytes of the kernel stack lie above the stack pointer. -/
  stackDepth : Fin stackSlotSize
  /-- A stack pointer that stands in for the one in the kernel stack. -/
  stackPointerOverride : Option Nat
  clock : ClockRegisters
  trace : Trace

namespace Kernel

/-- Where the kernel's tables lie, and what they happen to hold before the kernel starts. -/
structure Storage where
  pages : ScreenPages
  directory : Vector UInt64 512
  videoTable : Vector UInt64 512
  /-- Where the video table lies. -/
  tableAddress : Nat
  terminals : PerTerminal Terminal
  sessions : PerTerminal Session

/-- A kernel over a mounted file system in which nothing runs yet. -/
def new (files : FileSystem) (arena : Arena) (storage : Storage) : Kernel where
  files
  processes := .empty arena
  sessions := storage.sessions.map fun _ => .idle
  scheduled := .first
  console := .new storage.pages storage.terminals
  space := .new storage.directory storage.videoTable storage.tableAddress
  rtc := .new
  memory := .zero
  kernelStack := none
  stackDepth := ⟨0, by decide⟩
  stackPointerOverride := none
  clock := .initial
  trace := #[]

/-! ## Reading the state -/

def session (k : Kernel) (t : TerminalId) : Session := k.sessions.get t

/-- The stack pointer: in the kernel stack that was selected last, or outside the arena before any
was. -/
def stackPointer (k : Kernel) : Nat :=
  k.stackPointerOverride.getD
    ((k.kernelStack.map (· - 1 - k.stackDepth.val)).getD k.processes.arena.bootStack)

/-- The process on whose kernel stack the kernel runs. -/
def currentPid? (k : Kernel) : Option ProcessId := k.processes.current? k.stackPointer

/-- The running process with its record. -/
def current (k : Kernel) : Except SyscallError (ProcessId × ProcessRecord TerminalId) :=
  match k.currentPid? with
  | none => .error .invalidArgument
  | some pid =>
    match k.processes.process? pid with
    | none => .error .invalidArgument
    | some p => .ok (pid, p)

/-- Whether the video window was pointed somewhere. -/
def videoMapped (k : Kernel) : Bool := k.space.videoTarget.isSome

/-- Whether a range is memory that the running program may hand to the kernel. -/
def acceptsRange (k : Kernel) (address length : Nat) : Bool :=
  UserMemory.accepts k.videoMapped address length

/-- The first active terminal after `t` in cyclic order, `t` itself coming last. -/
def nextActive? (k : Kernel) (t : TerminalId) : Option TerminalId :=
  [t.next, t.next.next, t].find? fun next => (k.session next).active

/-! ## Updates -/

def setSession (k : Kernel) (t : TerminalId) (s : Session) : Kernel :=
  { k with sessions := k.sessions.set t s }

def updateSession (k : Kernel) (t : TerminalId) (f : Session → Session) : Kernel :=
  k.setSession t (f (k.session t))

def updateProcess (k : Kernel) (pid : ProcessId)
    (f : ProcessRecord TerminalId → ProcessRecord TerminalId) : Kernel :=
  { k with processes := k.processes.update pid f }

/-- Let something leave the machine. -/
def emit (k : Kernel) (effects : List Effect) : Kernel :=
  { k with trace := k.trace ++ effects.toArray }

def log (k : Kernel) (n : Notice) : Kernel := k.emit [.notice n]

/-- Give the processor to the memory and the kernel stack of a process. -/
def enter (k : Kernel) (pid : ProcessId) : Kernel :=
  { k with
    space := k.space.mapProgram (programSlot pid)
    kernelStack := some (k.processes.arena.stackTop pid) }

/-- Point the video window at the screen of a terminal. -/
def mapScreen (k : Kernel) (t : TerminalId) : Kernel :=
  { k with space := k.space.mapVideo (k.console.videoPage t) }

/-- Program the clock's rate for a frequency it supports. -/
def programClock (k : Kernel) (hz : Nat) : Kernel :=
  match rateFor? hz with
  | none => k
  | some rate =>
    let clock := k.clock.withRate rate
    { k with clock }.emit (clockWrites clockRegisterA clock.a)

/-- Move the hardware cursor to where the console has it. -/
def moveCursor (k : Kernel) : Kernel := k.emit (cursorWrites k.console.hardwareCursor.val)

def print (k : Kernel) (t : TerminalId) (bytes : List UInt8) : Kernel :=
  let k' := { k with console := k.console.write t bytes }
  if t = k.console.displayed then k'.moveCursor else k'

def display (k : Kernel) (t : TerminalId) : Kernel :=
  if t = k.console.displayed then k
  else { k with console := k.console.display t }.moveCursor

/-! ## Saving flows -/

/-- The context kept in a save slot, if the slot exists. -/
def savedContext? (k : Kernel) : SaveSlot → Option SavedContext
  | .parent pid => (k.processes.process? pid).map (·.callerContext)
  | .terminal t => some (k.session t).context

/-- Save a flow. A process that is not live has no slot for it. -/
def saveContext (k : Kernel) (slot : SaveSlot) (context : SavedContext) : Kernel :=
  match slot with
  | .parent pid => k.updateProcess pid fun p => { p with callerContext := context }
  | .terminal t => k.updateSession t fun s => { s with context }

/-- Save the flow that carrying out a transfer suspends. -/
def park (k : Kernel) (transfer : Transfer) (context : SavedContext) : Kernel :=
  match transfer.saveSlot? with
  | some slot => k.saveContext slot context
  | none => k

/-! ## Memory as the processor sees it -/

/-- Bytes of a surface seen as memory. A page has some bytes beyond them that no cell uses. -/
abbrev surfaceSize : Nat := 4000

theorem surfaceSize_le_pageSize : surfaceSize ≤ pageSize := by decide

/-- The terminal whose screen page holds a physical address. -/
def pageHolder? (pages : ScreenPages) (address : Nat) : Option TerminalId :=
  TerminalId.all.find? fun t => pages.page t ≤ address && address < pages.page t + surfaceSize

/-- The byte at a physical address: of the display, of a screen page, or of plain memory. -/
def physicalByte (k : Kernel) (address : Nat) : UInt8 :=
  if vgaTextMemory ≤ address ∧ address < vgaTextMemory + surfaceSize then
    k.console.live.byteAt (address - vgaTextMemory)
  else
    match pageHolder? k.console.pages address with
    | some t => (k.console.terminal t).page.byteAt (address - k.console.pages.page t)
    | none => k.memory.byteAt address

/-- Store a byte at a physical address. -/
def setPhysicalByte (k : Kernel) (address : Nat) (byte : UInt8) : Kernel :=
  if vgaTextMemory ≤ address ∧ address < vgaTextMemory + surfaceSize then
    { k with console :=
      { k.console with live := k.console.live.setByte (address - vgaTextMemory) byte } }
  else
    match pageHolder? k.console.pages address with
    | some t =>
      let r := k.console.terminal t
      let page := r.page.setByte (address - k.console.pages.page t) byte
      { k with console := k.console.setTerminal t { r with page } }
    | none => { k with memory := k.memory.write address [byte] }

/-- The physical address behind a virtual address that user mode may read and write. -/
def userAddress? (k : Kernel) (address : Nat) : Option Nat :=
  match k.space.resolve address with
  | some found => if found.user && found.writable then some found.address else none
  | none => none

/-- Whether user mode may read and write `count` pages from the one numbered `page` on. -/
def reachesPages (k : Kernel) (page : Nat) : (count : Nat) → Bool
  | 0 => true
  | count + 1 => (k.userAddress? (page * pageSize)).isSome && k.reachesPages (page + 1) count

/-- Whether user mode may read and write every byte of a range. The bytes of a page are mapped
alike, so that one of them answers for all. -/
def reaches (k : Kernel) (address count : Nat) : Bool :=
  count = 0 || k.reachesPages (address / pageSize)
    ((address + count - 1) / pageSize + 1 - address / pageSize)

/-- The byte that a user program sees at an address. -/
def userByte (k : Kernel) (address : Nat) : UInt8 :=
  match k.userAddress? address with
  | some physical => k.physicalByte physical
  | none => 0

/-- The bytes that a user program sees from an address on. -/
def userBytes (k : Kernel) (address count : Nat) : List UInt8 :=
  (List.range count).map fun i => k.userByte (address + i)

/-- Store bytes one by one at consecutive user addresses, where cells of a screen may lie. -/
def storeBytes (k : Kernel) (address : Nat) : List UInt8 → Kernel
  | [] => k
  | b :: rest =>
    match k.userAddress? address with
    | some physical => (k.setPhysicalByte physical b).storeBytes (address + 1) rest
    | none => k.storeBytes (address + 1) rest

/-- Store bytes that lie together in plain physical memory as well. -/
def storeBlock (k : Kernel) (address : Nat) (bytes : List UInt8) : Kernel :=
  if bytes.isEmpty then k
  else
    match k.userAddress? address with
    | some physical => { k with memory := k.memory.write physical bytes }
    | none => k

/-- Where the cells of a screen end in the video window. -/
abbrev videoCellsEnd : Nat := videoWindow + surfaceSize

/-- Store bytes from a user address on. The two halves of the program window are always mapped
together, so that it is one block of memory; the cells of a screen follow in the video window, and
the rest of their page is a block again. -/
def storeUser (k : Kernel) (address : Nat) (bytes : List UInt8) : Kernel :=
  let program := programWindowEnd - address
  let cells := videoCellsEnd - max address programWindowEnd
  let behind := bytes.drop program
  let k := k.storeBlock address (bytes.take program)
  let k := k.storeBytes (max address programWindowEnd) (behind.take cells)
  k.storeBlock (max address videoCellsEnd) (behind.drop cells)

/-! ## Frames -/

theorem session_setSession (k : Kernel) (t u : TerminalId) (s : Session) :
    (k.setSession t s).session u = if t = u then s else k.session u := by
  simp [session, setSession, PerTerminal.get_set]

end Kernel

end TerminalKernel
