import TerminalKernel.Descriptor
import TerminalKernel.Keyboard.Key
import TerminalKernel.PerTerminal

/-!
# What leaves the machine

The kernel talks to the outside in two ways: it writes notices on the serial line and bytes to the
devices. A trace holds both in the order in which they happened.
Core Lean only.
-/

namespace TerminalKernel

/-! ## Numbers in messages -/

/-- A number in base 16 with its mark, lower case and unpadded. -/
def hexText (n : Nat) : String := "0x" ++ String.ofList (Nat.toDigits 16 n)

/-! ## Notices -/

inductive Severity
  | info
  | warn
  | error
  deriving DecidableEq, Repr

def Severity.tag : Severity → String
  | info => "[INFO] "
  | warn => "[WARN] "
  | error => "[ERROR] "

/-- What the kernel reports about its work. -/
inductive Notice
  | interruptsUnmasked
  | kernelReady (files : Nat)
  | keyboardReady
  | timerReady (hz divisor : Nat)
  | driversReady
  | noFirstShell (cause : SyscallError)
  | launched (pid : ProcessId) (t : TerminalId) (parent : Option ProcessId) (entry : Nat)
  | processLimit (t : TerminalId)
  | exited (pid : ProcessId) (status : UInt8)
  | closeFailed (pid : ProcessId) (fd : Nat) (binding : Binding) (cause : SyscallError)
  | noShell (t : TerminalId) (cause : SyscallError)
  | notParked (next current : TerminalId)
  | displaying (t : TerminalId)
  | shellStarted (t : TerminalId)
  | noProcessLeft (t : TerminalId)
  | shellNotStarted (t : TerminalId) (cause : SyscallError)
  | unknownSyscall (number : Nat)
  | executeRejected (cause : SyscallError)
  | accessedAddress (address : Nat)
  | pageFaultCode (code : Nat)
  | faultCode (code : Nat)
  | userFault (name : String) (address : Nat)
  | keyDropped (key : Key)
  deriving DecidableEq, Repr

/-- The bits of a page fault's error code that have names, from the lowest up. -/
def pageFaultBits : List (Nat × String) :=
  [(0, "PROTECTION_VIOLATION"), (1, "CAUSED_BY_WRITE"), (2, "USER_MODE"), (3, "MALFORMED_TABLE"),
    (4, "INSTRUCTION_FETCH"), (5, "PROTECTION_KEY"), (6, "SHADOW_STACK"), (15, "SGX"), (31, "RMP")]

/-- A page fault's error code as the names of its bits, followed by a number for bits that have
none. -/
def pageFaultText (code : Nat) : String :=
  let named := pageFaultBits.filter fun (bit, _) => code.testBit bit
  let others := named.foldl (fun rest (bit, _) => rest ^^^ 1 <<< bit) code
  let parts := named.map (·.2) ++ if others = 0 then [] else [hexText others]
  if parts.isEmpty then hexText 0 else " | ".intercalate parts

namespace Notice

def severity : Notice → Severity
  | interruptsUnmasked | kernelReady _ | keyboardReady | timerReady .. | driversReady => .info
  | launched .. | exited .. | displaying _ | shellStarted _ => .info
  | processLimit _ | closeFailed .. | notParked .. | noProcessLeft _ => .warn
  | unknownSyscall _ | executeRejected _ | keyDropped _ => .warn
  | noFirstShell _ | noShell .. | shellNotStarted .. | accessedAddress _ => .error
  | pageFaultCode _ | faultCode _ | userFault .. => .error

/-- How an optional process appears in a message. -/
def parentText : Option ProcessId → String
  | none => "None"
  | some pid => s!"Some({pid})"

def addressText (address : Nat) : String := "VirtAddr(" ++ hexText address ++ ")"

def message : Notice → String
  | interruptsUnmasked => "PIC lines 0, 1, 2 and 8 unmasked."
  | kernelReady files => s!"Kernel state ready ({files} files)."
  | keyboardReady => "PS/2 keyboard driver initialized."
  | timerReady hz divisor => s!"PIT programmed at {hz} Hz (divisor {divisor})."
  | driversReady => "Drivers subsystem initialized."
  | noFirstShell cause => "Could not start the first shell: " ++ cause.message
  | launched pid t parent entry =>
    s!"execute: pid {pid} on terminal {t} (parent " ++ parentText parent ++ ", entry " ++
      hexText entry ++ ")"
  | processLimit t => s!"execute: process limit reached on terminal {t}"
  | exited pid status => s!"halt: pid {pid} exited with status {status}"
  | closeFailed pid fd binding cause =>
    s!"halt: pid {pid} fd {fd} (" ++ binding.name ++ ") failed to close: " ++ cause.message
  | noShell t cause => s!"halt: could not restart shell on terminal {t}: " ++ cause.message
  | notParked next current =>
    s!"scheduler: terminal {next} has no parked flow, staying on {current}"
  | displaying t => s!"terminal: displaying {t}"
  | shellStarted t => s!"terminal: started shell on {t}"
  | noProcessLeft t => s!"terminal: no process left to start terminal {t}"
  | shellNotStarted t cause => s!"terminal: could not start shell on {t}: " ++ cause.message
  | unknownSyscall number => s!"syscall: unknown number {number}"
  | executeRejected cause => "execute rejected: " ++ cause.message
  | accessedAddress address => "Accessed Address: " ++ addressText address
  | pageFaultCode code => "Error Code: PageFaultErrorCode(" ++ pageFaultText code ++ ")"
  | faultCode code => s!"Error Code: {code}"
  | userFault name address =>
    "EXCEPTION: " ++ name ++ " at " ++ addressText address ++ ", terminating process"
  | keyDropped key => "keyboard buffer full, dropping " ++ key.describe

/-- The text sent over the serial line. -/
def line (n : Notice) : String := n.severity.tag ++ n.message

end Notice

/-! ## Traces -/

/-- What the kernel asks of the driver of the two interrupt controllers. -/
inductive ControllerCall
  /-- Start them, the first at vector 32 and the second at vector 40. -/
  | start
  /-- The handler of an interrupt is done. -/
  | endOfInterrupt (vector : Nat)
  deriving DecidableEq, Repr

/-- One thing that left the machine. -/
inductive Effect
  | notice (n : Notice)
  /-- A call to the driver of the interrupt controllers, which writes what they need. -/
  | controllers (call : ControllerCall)
  /-- A byte written to a device at its address. -/
  | out (address : Nat) (value : UInt8)
  deriving DecidableEq, Repr

abbrev Trace := Array Effect

namespace Effect

def line? : Effect → Option String
  | notice n => some n.line
  | controllers _ | out .. => none

def out? : Effect → Option (Nat × UInt8)
  | notice _ | controllers _ => none
  | out address value => some (address, value)

/-- A byte written to the registers of the hardware cursor. -/
def movesCursor : Effect → Bool
  | notice _ | controllers _ => false
  | out address _ => address == 0x3D4 || address == 0x3D5

end Effect

/-! ## Devices -/

/-- The two clock registers in which the kernel sets bits. -/
structure ClockRegisters where
  a : UInt8
  b : UInt8
  deriving DecidableEq, Repr

namespace ClockRegisters

/-- As the firmware leaves them. -/
def initial : ClockRegisters := ⟨0x26, 0x02⟩

instance : Inhabited ClockRegisters := ⟨initial⟩

/-- The rate is the low half of register A. -/
def withRate (c : ClockRegisters) (rate : Nat) : ClockRegisters :=
  { c with a := (c.a &&& 0xF0) ||| (UInt8.ofNat rate &&& 0x0F) }

/-- Periodic interrupts are a bit of register B. -/
def withPeriodic (c : ClockRegisters) : ClockRegisters := { c with b := c.b ||| 0x40 }

end ClockRegisters

/-- Selecting a clock register, by its number with the non-maskable interrupt held off, before and
after it is read, and storing its new value. -/
def clockWrites (register value : UInt8) : List Effect :=
  [.out 0x70 register, .out 0x70 register, .out 0x71 value]

def clockRegisterA : UInt8 := 0x8A
def clockRegisterB : UInt8 := 0x8B
def clockRegisterC : UInt8 := 0x0C

/-- Putting the hardware cursor on a cell: the low half of its number, then the high half. -/
def cursorWrites (cell : Nat) : List Effect :=
  [.out 0x3D4 0x0F, .out 0x3D5 (UInt8.ofNat cell), .out 0x3D4 0x0E,
    .out 0x3D5 (UInt8.ofNat (cell / 256))]

end TerminalKernel
