import TerminalKernel.Kernel

/-!
# Starting and ending processes

A command is a program's name and, after a single space, its argument text; both end at the first
NUL or newline. It starts a program on top of the process that gives it, and the program's end brings
that process back. A terminal's last process is replaced by a fresh shell. Nothing of the kernel's state
changes before the program is known to be loadable; only bytes of a slot that nobody uses may.
Core Lean only.
-/

namespace TerminalKernel

/-! ## Command lines -/

structure Command where
  name : List UInt8
  args : List UInt8
  deriving DecidableEq, Repr

namespace Command

/-- Whether a byte ends the command. -/
def isEnd (b : UInt8) : Bool := b == 0 || b == 0x0A

def space : UInt8 := 0x20

/-- Split a command line at its first space. -/
def parse (line : List UInt8) : Command :=
  let inName (b : UInt8) : Bool := b != space && !isEnd b
  { name := line.takeWhile inName
    args :=
      match line.dropWhile inName with
      | [] => []
      | b :: rest => if b = space then rest.takeWhile (!isEnd ·) else [] }

/-- The command that ends the caller instead of naming a program. -/
def exitName : List UInt8 := [0x65, 0x78, 0x69, 0x74]

end Command

/-! ## Programs on file -/

structure ProgramFile where
  inode : Nat
  length : Nat
  entry : Nat
  deriving DecidableEq, Repr

/-- The longest program that fits between the load address and the window's end. -/
abbrev maxProgramLength : Nat := programSlotSize - programLoadOffset

namespace FileSystem

/-- The program with a name, or why it cannot be executed. -/
def findProgram (fs : FileSystem) (name : List UInt8) : Except SyscallError ProgramFile :=
  if name.isEmpty then .error .invalidArgument
  else
    match fs.lookup name with
    | .error cause => .error cause.toSyscall
    | .ok found =>
      if found.fileType ≠ .regular then .error .notExecutable
      else
        match fs.fileLength found.inode with
        | .error cause => .error cause.toSyscall
        | .ok length =>
          if length < programHeaderSize ∨ maxProgramLength < length then .error .notExecutable
          else
            let header := fs.read found.inode 0 programHeaderSize
            match header.failure with
            | some cause => .error cause.toSyscall
            | none =>
              if header.bytes.take programMagic.length ≠ programMagic then .error .notExecutable
              else .ok ⟨found.inode, length, Bytes.toNat (header.bytes.drop entryPointOffset)⟩

end FileSystem

namespace Kernel

/-- What a terminal is told when no process number is left. -/
def processLimitMessage : List UInt8 := ascii "Maximum number of processes reached\n"

/-! ## Starting -/

/-- The process on top of which the next one of a terminal starts. -/
def parentFor (k : Kernel) (t : TerminalId) : Option ProcessId :=
  if (k.session t).processCount = 0 then none else (k.session t).owner

/-- Put a process on a terminal and give it the processor. -/
def begin (k : Kernel) (t : TerminalId) (pid : ProcessId) : Kernel :=
  (k.updateSession t fun s =>
    { s with processCount := s.processCount + 1, owner := some pid, active := true }).enter pid

/-- Load a program into the slot of the lowest free number and start it. If the image cannot be read
to its end, the number is given back. -/
def load (k : Kernel) (t : TerminalId) (file : ProgramFile) (args : List UInt8)
    (save : Option TerminalId) : Kernel × Except SyscallError Launch :=
  let parent := k.parentFor t
  match k.processes.allocate t parent args with
  | none => (k, .error .resourceExhausted)
  | some (pid, processes) =>
    let image := k.files.read file.inode 0 file.length
    let memory := k.memory.write (programSlot pid + programLoadOffset) image.bytes
    let k := { k with processes, memory }
    match image.failure with
    | some cause => ({ k with processes := k.processes.release pid }, .error cause.toSyscall)
    | none =>
      ((k.begin t pid).log (.launched pid t parent file.entry),
        .ok ⟨pid, file.entry, userStackTop, (save.map .terminal).getD (.parent pid)⟩)

/-- Start a program on a terminal. The flow that gave the command is to be saved at the terminal
`save`, or without one in the new process's record. -/
def spawn (k : Kernel) (t : TerminalId) (name args : List UInt8) (save : Option TerminalId) :
    Kernel × Except SyscallError Launch :=
  match k.files.findProgram name with
  | .error cause => (k, .error cause)
  | .ok file =>
    if maxProcesses ≤ k.processes.liveCount then
      ((k.print t processLimitMessage).log (.processLimit t), .error .resourceExhausted)
    else k.load t file args save

/-! ## Ending -/

/-- Take a process off its terminal. -/
def finish (k : Kernel) (pid : ProcessId) (t : TerminalId) : Kernel :=
  { k with processes := k.processes.release pid }.updateSession t fun s =>
    { s with processCount := s.processCount - 1 }

/-- Start a shell on a terminal that lost its last process. If that fails, the terminal is out of
use. -/
def relaunch (k : Kernel) (t : TerminalId) : Kernel × Transfer :=
  match k.spawn t shellName [] none with
  | (k, .ok launch) => (k, .launch launch)
  | (k, .error cause) =>
    ((k.log (.noShell t cause)).updateSession t fun s => { s with active := false, owner := none },
      .idle)

/-- Bring a process back on its terminal. -/
def giveBack (k : Kernel) (t : TerminalId) (parent : ProcessId) : Kernel :=
  (k.updateSession t fun s => { s with owner := some parent }).enter parent

/-- Report the descriptors that a process leaves open without a way to close them. -/
def reportUnclosable (k : Kernel) (pid : ProcessId) (p : ProcessRecord TerminalId) : Kernel :=
  k.emit (p.unclosable.map fun (fd, binding) =>
    .notice (.closeFailed pid fd binding .invalidArgument))

/-- End the running process and hand its status to the one that started it. -/
def halt (k : Kernel) (status : UInt8) : Kernel × Except SyscallError Transfer :=
  match k.current with
  | .error cause => (k, .error cause)
  | .ok (pid, p) =>
    let k := ((k.reportUnclosable pid p).finish pid p.terminal).log (.exited pid status)
    if (k.session p.terminal).processCount = 0 ∨ p.parent = pid then
      let (k, transfer) := k.relaunch p.terminal
      (k, .ok transfer)
    else (k.giveBack p.terminal p.parent, .ok (.resume p.callerContext status))

def execute (k : Kernel) (line : List UInt8) : Kernel × Except SyscallError Transfer :=
  let command := Command.parse line
  if command.name = Command.exitName then k.halt 0
  else
    let (k, result) := k.spawn k.scheduled command.name command.args none
    (k, result.map .launch)

end Kernel

end TerminalKernel
