import TerminalKernel.Computer.Syscall

/-!
# Events

What can happen to the processor: a program touches its memory, makes a system call or faults, a
device interrupts, or a read goes on that an interrupt woke. Only interrupts reach a processor that
has stopped.
Core Lean only.
-/

namespace TerminalKernel

/-- Exceptions that a user program can raise. -/
inductive Fault
  | divideError
  | invalidOpcode
  | generalProtection (code : Nat)
  | pageFault (code address : Nat)
  deriving DecidableEq, Repr

namespace Fault

def name : Fault → String
  | divideError => "DIVIDE ERROR"
  | invalidOpcode => "INVALID OPCODE"
  | generalProtection _ => "GENERAL PROTECTION FAULT"
  | pageFault .. => "PAGE FAULT"

/-- What is reported of a fault before its name. -/
def details : Fault → List Notice
  | divideError | invalidOpcode => []
  | generalProtection code => [.faultCode code]
  | pageFault code address => [.accessedAddress (canonical address), .pageFaultCode code]

end Fault

inductive Event
  /-- A system call with its number and arguments. -/
  | syscall (number arg0 arg1 arg2 : UInt64)
  /-- A software interrupt with the registers as they are. -/
  | interrupt (vector : Nat)
  | fault (f : Fault)
  | timer
  /-- The keyboard has a byte. -/
  | key (byte : UInt8)
  | clock
  /-- The program writes its memory. -/
  | put (address : Nat) (bytes : List UInt8)
  /-- The program reads its memory. -/
  | get (address count : Nat)
  /-- No interrupt comes before a read that was woken tries again. -/
  | retry
  /-- From now on the kernel is this deep in its stack when it looks at the stack pointer. -/
  | deepen (depth : Fin stackSlotSize)
  deriving DecidableEq, Repr

/-- What an event tells besides its effect on the processor. -/
inductive Outcome
  | none
  | stored (ok : Bool)
  | loaded (bytes : Option (List UInt8))
  /-- The processor had stopped, and nothing happened. -/
  | halted
  deriving DecidableEq, Repr

namespace Computer

/-- The vector of the system call gate, the only one that user mode may call. -/
abbrev syscallVector : Nat := 0x80

/-- Status handed to the parent of a process that an exception ended. -/
def exceptionStatus : UInt8 := 255

/-! ## Faults -/

/-- The processor may not use an interrupt gate: the error code names its vector. -/
def gateFault (vector : Nat) : Fault := .generalProtection (vector * 8 + 2)

/-- An exception ends the running process. -/
def raise (c : Computer) (r : Registers) (f : Fault) : Computer :=
  let c := c.emit ((f.details ++ [Notice.userFault f.name r.rip.toNat]).map .notice)
  match c.kernel.halt exceptionStatus with
  | (k, .ok transfer) =>
    (c.withKernel k).perform c.kernel.stackPointer (.user r) transfer
  | (k, .error _) => c.withKernel k

/-! ## Interrupts -/

abbrev timerVector : Nat := 32
abbrev keyboardVector : Nat := 33
abbrev clockVector : Nat := 40

/-- Tell the interrupt controllers that the handler of an interrupt is done. -/
def done (vector : Nat) : List Effect := [.controllers (.endOfInterrupt vector)]

/-- A tick of the timer switches to another terminal or does nothing. -/
def onTimer (c : Computer) : Computer :=
  let c := c.emit (done timerVector)
  let (k, transfer) := c.kernel.tick
  (c.withKernel k).perform c.kernel.stackPointer c.running.interrupted transfer

/-- Give queued keys to the kernel until one of them asks for a transfer. `limit` bounds the number
of keys. -/
def drain (k : Kernel) (keyboard : Keyboard) : (limit : Nat) → Kernel × Keyboard × Transfer
  | 0 => (k, keyboard, .stay)
  | limit + 1 =>
    match keyboard.read with
    | (keyboard, none) => (k, keyboard, .stay)
    | (keyboard, some key) =>
      match k.handleKey key with
      | (k, .stay) => drain k keyboard limit
      | (k, transfer) => (k, keyboard, transfer)

def receiveByte (c : Computer) (byte : UInt8) : Computer :=
  let (keyboard, dropped) := c.keyboard.receive byte
  let c := { c with keyboard }
  match dropped with
  | none => c
  | some key => c.log (.keyDropped key)

/-- The keyboard interrupt queues a key and handles all that are queued. -/
def onKey (c : Computer) (byte : UInt8) : Computer :=
  let c := (c.receiveByte byte).emit (done keyboardVector)
  let (k, keyboard, transfer) := drain c.kernel c.keyboard queuePlaces
  { c with kernel := k, keyboard }.perform c.kernel.stackPointer c.running.interrupted transfer

/-- The clock interrupts again only after its third register was read. -/
def onClock (c : Computer) : Computer :=
  let c := c.emit [.out 0x70 clockRegisterC]
  let c := c.withKernel { c.kernel with rtc := c.kernel.rtc.tick }
  { c.emit (done clockVector) with running := c.running.interrupted }

/-- The kernel looks at the stack pointer at another depth of its stack. -/
def atDepth (c : Computer) (depth : Fin stackSlotSize) : Computer :=
  c.withKernel { c.kernel with stackDepth := depth }

/-! ## One event -/

def userEvent (c : Computer) (r : Registers) : Event → Computer × Outcome
  | .syscall number arg0 arg1 arg2 =>
    (c.dispatch { r with rax := number, rdi := arg0, rsi := arg1, rdx := arg2, rip := r.rip + 2 },
      .none)
  | .interrupt vector =>
    if vector = syscallVector then (c.dispatch { r with rip := r.rip + 2 }, .none)
    else (c.raise r (gateFault vector), .none)
  | .fault f => (c.raise r f, .none)
  | .put address bytes =>
    if c.kernel.reaches address bytes.length then
      (c.withKernel (c.kernel.storeUser address bytes), .stored true)
    else (c, .stored false)
  | .get address count =>
    if c.kernel.reaches address count then (c, .loaded (some (c.kernel.userBytes address count)))
    else (c, .loaded none)
  | .timer => (c.onTimer, .none)
  | .key byte => (c.onKey byte, .none)
  | .clock => (c.onClock, .none)
  | .retry => (c.retry, .none)
  | .deepen depth => (c.atDepth depth, .none)

def step (c : Computer) (e : Event) : Computer × Outcome :=
  match c.running, e with
  | .user r, e => c.userEvent r e
  | _, .timer => (c.onTimer, .none)
  | _, .key byte => (c.onKey byte, .none)
  | _, .clock => (c.onClock, .none)
  | _, .retry => (c.retry, .none)
  | _, .deepen depth => (c.atDepth depth, .none)
  | _, _ => (c, .halted)

end Computer

end TerminalKernel
