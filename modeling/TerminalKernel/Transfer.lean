import TerminalKernel.PerTerminal

/-!
# Flows and who has the processor

Where a suspended flow of the kernel continues, what the kernel remembers of a terminal whose turn
will come again, and what the processor must do once the kernel's state is updated. The kernel
decides; carrying out the transfer, and saving the flow that it suspends, is left to its
surroundings.
Core Lean only.
-/

namespace TerminalKernel

/-! ## Saved contexts -/

/-- Where a suspended flow of the kernel continues: the registers that a call preserves and the address
to jump to. A context that was never filled has no such address and counts as empty. -/
structure SavedContext where
  rsp : UInt64
  rbp : UInt64
  rbx : UInt64
  r12 : UInt64
  r13 : UInt64
  r14 : UInt64
  r15 : UInt64
  rip : UInt64
  deriving DecidableEq, Repr

namespace SavedContext

def empty : SavedContext := ⟨0, 0, 0, 0, 0, 0, 0, 0⟩

instance : Inhabited SavedContext := ⟨empty⟩

/-- A flow suspended with the given stack pointer, to continue at the given address. -/
def suspended (rsp rip : UInt64) : SavedContext := { empty with rsp, rip }

def isEmpty (c : SavedContext) : Bool := c.rip == 0

end SavedContext

/-! ## Terminals that take turns -/

structure Session where
  /-- The flow suspended when the terminal last lost the processor. -/
  context : SavedContext
  /-- The process that runs when the terminal is scheduled. -/
  owner : Option ProcessId
  processCount : Nat
  /-- A process was started here, and the terminal takes part in scheduling. -/
  active : Bool
  deriving DecidableEq, Repr

namespace Session

def idle : Session := ⟨.empty, none, 0, false⟩

instance : Inhabited Session := ⟨idle⟩

end Session

/-! ## Transfers -/

/-- Where the flow that starts a process is saved. -/
inductive SaveSlot
  /-- In the record of the new process, to be resumed when that process halts. -/
  | parent (pid : ProcessId)
  /-- At a terminal, to be resumed when the scheduler returns to it. -/
  | terminal (t : TerminalId)
  deriving DecidableEq, Repr

/-- A process ready to enter user mode. -/
structure Launch where
  pid : ProcessId
  entry : Nat
  userStack : Nat
  save : SaveSlot
  deriving DecidableEq, Repr

inductive Transfer
  /-- Return to the interrupted flow. -/
  | stay
  /-- Save the current flow and enter user mode. -/
  | launch (l : Launch)
  /-- Abandon the current flow; the one saved in `context` sees its child's status. -/
  | resume (context : SavedContext) (status : UInt8)
  /-- Save the flow of one terminal and continue that of another. -/
  | switch (source target : TerminalId)
  /-- Nothing is left to run on this terminal. -/
  | idle
  deriving DecidableEq, Repr

namespace Transfer

/-- Where carrying out the transfer saves the current flow. -/
def saveSlot? : Transfer → Option SaveSlot
  | launch l => some l.save
  | switch source _ => some (.terminal source)
  | stay | resume .. | idle => none

end Transfer

end TerminalKernel
