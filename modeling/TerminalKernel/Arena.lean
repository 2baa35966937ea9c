import TerminalKernel.Limits

/-!
# Kernel stacks

The kernel stacks of all processes lie in one arena, cut into slots of 8192 bytes from its top
downwards: slot `p` ends where slot `p - 1` begins. A stack pointer therefore tells whose stack it
points into.
Core Lean only.
-/

namespace TerminalKernel

/-- Bytes of one kernel stack with the record below it. -/
abbrev stackSlotSize : Nat := 8192

structure Arena where
  /-- First address after the arena. -/
  top : Nat
  /-- The stack pointer before any process runs, on a stack of the loader's. -/
  bootStack : Nat
  aligned : top % stackSlotSize = 0
  room : maxProcesses * stackSlotSize ≤ top
  outside : bootStack < top - maxProcesses * stackSlotSize ∨ top ≤ bootStack
  deriving Repr

namespace Arena

/-- First address of the arena. -/
def bottom (a : Arena) : Nat := a.top - maxProcesses * stackSlotSize

/-- First address of a process's slot. -/
def slotFor (a : Arena) (pid : ProcessId) : Nat := a.top - (pid + 1) * stackSlotSize

/-- First address after a process's kernel stack. -/
def stackTop (a : Arena) (pid : ProcessId) : Nat := a.slotFor pid + stackSlotSize

/-- The process whose slot holds an address. -/
def holder? (a : Arena) (address : Nat) : Option ProcessId :=
  if a.top ≤ address + maxProcesses * stackSlotSize ∧ address < a.top then
    let slot := address / stackSlotSize * stackSlotSize
    some ((a.top - slot) / stackSlotSize - 1)
  else none

/-- The arena is cut up into the slots of the processes. -/
theorem holder?_eq_some_iff (a : Arena) (address pid : Nat) :
    a.holder? address = some pid ↔
      pid < maxProcesses ∧ a.slotFor pid ≤ address ∧ address < a.stackTop pid := by
  have aligned := a.aligned
  have room := a.room
  simp only [holder?, slotFor, stackTop, stackSlotSize, maxProcesses] at *
  split
  · rw [Option.some_inj]
    change (a.top - address / 8192 * 8192) / 8192 - 1 = pid ↔ _
    omega
  · simp only [reduceCtorEq, false_iff]
    omega

/-- A stack pointer within the kernel stack of a process tells which process it is. -/
theorem holder?_eq_some_of_below {a : Arena} {address pid : Nat} (valid : pid < maxProcesses)
    (above : a.stackTop pid ≤ address + stackSlotSize) (below : address < a.stackTop pid) :
    a.holder? address = some pid :=
  (a.holder?_eq_some_iff address pid).mpr ⟨valid, Nat.le_of_add_le_add_right above, below⟩

theorem holder?_eq_none_of_outside {a : Arena} {address : Nat}
    (h : address < a.bottom ∨ a.top ≤ address) : a.holder? address = none := by
  have outside : ¬(a.top ≤ address + maxProcesses * stackSlotSize ∧ address < a.top) := by
    rintro ⟨above, below⟩
    rcases h with h | h
    · exact Nat.not_lt.mpr (Nat.sub_le_of_le_add above) h
    · exact Nat.not_lt.mpr h below
  exact if_neg outside

theorem lt_top_of_holder? {a : Arena} {address pid : Nat} (held : a.holder? address = some pid) :
    address < a.top := by
  unfold holder? at held
  split at held
  · rename_i inside
    exact inside.2
  · cases held

theorem stackSlotSize_le_stackTop (a : Arena) (pid : ProcessId) :
    stackSlotSize ≤ a.stackTop pid :=
  Nat.le_add_left ..

end Arena

end TerminalKernel
