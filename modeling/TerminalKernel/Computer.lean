import TerminalKernel.Kernel.Files
import TerminalKernel.Kernel.Schedule
import TerminalKernel.Keyboard.Queue

/-!
# The running computer

The kernel with the processor that runs it. The processor is in user mode, or it has stopped in the
kernel until the next interrupt. A flow that the kernel suspends stays on its kernel stack; the
saved context names it by the stack pointer, and resuming the context continues it from there.
Core Lean only.
-/

namespace TerminalKernel

/-! ## Flows -/

/-- The registers of a user program that a system call can tell apart. -/
structure Registers where
  rip : UInt64
  rsp : UInt64
  rax : UInt64
  rdi : UInt64
  rsi : UInt64
  rdx : UInt64
  deriving DecidableEq, Repr

/-- Registers of a program that enters user mode for the first time. -/
def Registers.start (entry stack : Nat) : Registers :=
  ⟨UInt64.ofNat entry, UInt64.ofNat stack, 0, 0, 0, 0⟩

/-- What a flow of control is doing, whether it runs or is suspended. -/
inductive Flow
  /-- Running in user mode. -/
  | user (r : Registers)
  /-- Stopped inside a read of a line, until an interrupt. -/
  | reading (r : Registers) (fd : Nat) (address room : Nat)
  /-- Inside a read of a line that is to be tried again, since there was an interrupt. -/
  | woken (r : Registers) (fd : Nat) (address room : Nat)
  /-- Inside a call that started a program, until that program halts. -/
  | calling (r : Registers)
  /-- Stopped for want of anything to run. -/
  | idle
  deriving DecidableEq, Repr

/-- What the handler of an interrupt returns to. A processor that had stopped goes on behind the
instruction that stopped it, with interrupts still enabled. -/
def Flow.interrupted : Flow → Flow
  | reading r fd address room => woken r fd address room
  | flow => flow

/-! ## State -/

structure Computer where
  kernel : Kernel
  keyboard : Keyboard
  /-- The flow that has the processor. -/
  running : Flow
  /-- Suspended flows, each by the stack pointer with which it was suspended. -/
  suspended : List (Nat × Flow)

namespace Computer

/-- Returned in `rax` by every call that fails. -/
def failed : UInt64 := 0xFFFFFFFFFFFFFFFF

/-- The address at which suspended flows continue in the kernel. -/
def resumePoint : UInt64 := 0x100000

def withKernel (c : Computer) (k : Kernel) : Computer := { c with kernel := k }

def log (c : Computer) (n : Notice) : Computer := c.withKernel (c.kernel.log n)

def emit (c : Computer) (effects : List Effect) : Computer := c.withKernel (c.kernel.emit effects)

def enterUser (c : Computer) (r : Registers) : Computer := { c with running := .user r }

/-- Continue a user program with the result of its call. -/
def answer (c : Computer) (r : Registers) (result : UInt64) : Computer :=
  c.enterUser { r with rax := result }

def answerCount (c : Computer) (r : Registers) : Except SyscallError Nat → Computer
  | .ok count => c.answer r (UInt64.ofNat count)
  | .error _ => c.answer r failed

/-! ## Reading a line -/

/-- Try to read into user memory. Without a committed line the processor stops. -/
def tryRead (c : Computer) (r : Registers) (fd address room : Nat) : Computer :=
  let (k, delivery) := c.kernel.read fd (some room)
  let c := c.withKernel (k.storeUser address delivery.bytes)
  if delivery.failure = some .wouldBlock then { c with running := .reading r fd address room }
  else c.answerCount r delivery.count

/-- A flow that waits for a line and was woken disables interrupts and tries again. -/
def retry (c : Computer) : Computer :=
  match c.running with
  | .woken r fd address room => c.tryRead r fd address room
  | _ => c

/-! ## Carrying out transfers -/

/-- Suspend a flow on the kernel stack with the given stack pointer. -/
def suspend (c : Computer) (stackPointer : Nat) (flow : Flow) : Computer :=
  { c with suspended := (stackPointer, flow) :: c.suspended.filter (·.1 != stackPointer) }

/-- Continue the flow of a saved context. A call that started a program sees its status. -/
def wake (c : Computer) (context : SavedContext) (status : UInt8) : Computer :=
  match c.suspended.lookup context.rsp.toNat with
  | none => { c with running := .idle }
  | some (.calling r) => c.answer r status.toUInt64
  | some flow => { c with running := flow }

/-- Carry out a transfer decided while the kernel ran on the stack with the given stack pointer.
`flow` is what a later return to that stack continues. -/
def perform (c : Computer) (stackPointer : Nat) (flow : Flow) (transfer : Transfer) : Computer :=
  let context := SavedContext.suspended (UInt64.ofNat stackPointer) resumePoint
  let parked := (c.withKernel (c.kernel.park transfer context)).suspend stackPointer flow
  match transfer with
  | .stay => { c with running := flow }
  | .launch l => parked.enterUser (.start l.entry l.userStack)
  | .resume context status => c.wake context status
  | .switch _ target => parked.wake (c.kernel.session target).context 0
  | .idle => { c with running := .idle }

end Computer

end TerminalKernel
