import TerminalKernel.Bytes
import TerminalKernel.Limits
import TerminalKernel.SyscallError

/-!
# The real-time clock

The clock interrupts at a frequency that programs choose among the powers of two, and counts its
interrupts. The device keeps the frequency it was last given.
Core Lean only.
-/

namespace TerminalKernel

/-- The rate for a frequency: a rate `r` stands for `32768 / 2 ^ (r - 1)` interrupts a second. Only
the powers of two from 2 to `rtcMaxHz` have one. -/
def rateFor? (hz : Nat) : Option Nat :=
  if 2 ≤ hz ∧ hz ≤ rtcMaxHz ∧ 1 <<< hz.log2 = hz then some (16 - hz.log2) else none

structure Rtc where
  frequency : Nat
  /-- Interrupts so far; wraps around. -/
  ticks : UInt32
  /-- The frequency last given to the device. -/
  programmed : Option Nat
  deriving DecidableEq, Repr

namespace Rtc

def new : Rtc := ⟨rtcDefaultHz, 0, none⟩

instance : Inhabited Rtc := ⟨new⟩

def tick (r : Rtc) : Rtc := { r with ticks := r.ticks + 1 }

def setFrequency (r : Rtc) (hz : Nat) : Rtc := { r with frequency := hz, programmed := some hz }

/-- Opening the device resets it to the default frequency. -/
def openDevice (r : Rtc) : Rtc := r.setFrequency rtcDefaultHz

/-- The counter's bytes, as many as the reader has room for. -/
def read (r : Rtc) (room : Nat) : List UInt8 := (Bytes.ofWord r.ticks.toNat).take room

/-- Set the frequency from its four bytes. -/
def write (r : Rtc) (bytes : List UInt8) : Except SyscallError Rtc :=
  if bytes.length = 4 ∧ (rateFor? (Bytes.toNat bytes)).isSome then
    .ok (r.setFrequency (Bytes.toNat bytes))
  else .error .invalidArgument

end Rtc

/-! ## The interval timer -/

/-- Ticks a second of the timer's own clock. -/
def timerClockHz : Nat := 1193182

/-- Reload value that makes the timer interrupt `hz` times a second, at most what 16 bits hold. -/
def timerDivisor (hz : Nat) : Nat := min (timerClockHz / max hz 1) 0xFFFF

end TerminalKernel
