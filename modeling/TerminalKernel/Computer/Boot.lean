import TerminalKernel.Computer.Event

/-!
# Starting up

Set-up of the interrupt controllers, the kernel's tables, the timer and the clock, and the first
shell.
Core Lean only.
-/

namespace TerminalKernel

/-! ## Segments -/

/-- Descriptors of the segment table behind its empty first place, in order. -/
inductive Segment
  | kernelCode
  | kernelData
  | userData
  | userCode
  | taskState
  deriving DecidableEq, Repr

namespace Segment

/-- The place of the descriptor in the table. -/
def index : Segment → Nat
  | kernelCode => 1
  | kernelData => 2
  | userData => 3
  | userCode => 4
  | taskState => 5

/-- The privilege that the selector requests. -/
def privilege : Segment → Nat
  | userData | userCode => 3
  | kernelCode | kernelData | taskState => 0

/-- The number that selects the segment. -/
def selector (s : Segment) : Nat := s.index * 8 + s.privilege

end Segment

/-! ## Boot -/

namespace Computer

/-- Start the interrupt controllers and let through the timer, the keyboard, the second controller
and the clock. -/
def controllerSetup : List Effect :=
  [.controllers .start, .out 0x21 0xF8, .out 0xA1 0xFE, .notice .interruptsUnmasked]

/-- Program the timer: its mode, then the divisor's low and high half. -/
def timerSetup (hz : Nat) : List Effect :=
  let divisor := timerDivisor hz
  [.out 0x43 0x36, .out 0x40 (UInt8.ofNat divisor), .out 0x40 (UInt8.ofNat (divisor / 256)),
    .notice (.timerReady hz divisor)]

/-- Enable the clock's interrupts at the default frequency. -/
def startClock (k : Kernel) : Kernel :=
  let clock := k.clock.withPeriodic
  ({ k with clock }.emit (clockWrites clockRegisterB clock.b)).programClock rtcDefaultHz

/-- The kernel with its devices running and nothing started yet. -/
def startKernel (files : FileSystem) (arena : Arena) (storage : Kernel.Storage) : Kernel :=
  let k := (Kernel.new files arena storage).emit controllerSetup
  let k := k.emit ([.notice (.kernelReady files.entryCount), .notice .keyboardReady] ++
    timerSetup timerHz)
  (startClock k).log .driversReady

/-- The computer after boot: in the first shell, or stopped if there is none. -/
def boot (files : FileSystem) (arena : Arena) (storage : Kernel.Storage) : Computer :=
  let k := startKernel files arena storage
  let c : Computer := ⟨k, .initial, .idle, []⟩
  match k.spawn .first shellName [] (some .first) with
  | (k', .ok launch) => (c.withKernel k').perform k.stackPointer .idle (.launch launch)
  | (k', .error cause) => (c.withKernel k').log (.noFirstShell cause)

/-- The effects since the trace was last taken. -/
def takeTrace (c : Computer) : Computer × Trace :=
  (c.withKernel { c.kernel with trace := #[] }, c.kernel.trace)

end Computer

end TerminalKernel
