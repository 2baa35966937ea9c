import TerminalKernel.Bytes
import TerminalKernel.Descriptor
import TerminalKernel.Transfer

/-!
# Processes

The record of one process. It does not look at the terminal it belongs to, so any names of
terminals will do; the kernel's are `TerminalId`.
Core Lean only.
-/

namespace TerminalKernel

/-- A process whose terminal is named by a `τ`. -/
structure ProcessRecord (τ : Type) where
  pid : ProcessId
  /-- The process on top of which this one was started; itself for the root of a terminal. -/
  parent : ProcessId
  terminal : τ
  /-- Where the process that started this one continues when it halts. -/
  callerContext : SavedContext
  files : Vector Descriptor maxOpenFiles
  /-- Argument text, padded with zeros to `maxArgsLength` bytes. -/
  args : List UInt8
  deriving DecidableEq, Repr

namespace ProcessRecord

variable {τ : Type}

/-- Descriptors of a new process: its terminal, and nothing else open. -/
def newFiles : Vector Descriptor maxOpenFiles :=
  #v[.unfiled .terminalIn, .unfiled .terminalOut, .closed, .closed, .closed, .closed, .closed,
    .closed]

/-- A new process. Argument text beyond `maxArgsLength` bytes is lost. -/
def new (pid parent : ProcessId) (terminal : τ) (args : List UInt8) : ProcessRecord τ where
  pid
  parent
  terminal
  callerContext := .empty
  files := newFiles
  args := Bytes.padTo maxArgsLength args

def hasArgs (p : ProcessRecord τ) : Bool := p.args.headD 0 != 0

def isRoot (p : ProcessRecord τ) : Bool := p.parent == p.pid

/-- An open descriptor. -/
def descriptor? (p : ProcessRecord τ) (fd : Nat) : Option Descriptor :=
  p.files[fd]?.filter (·.isOpen)

def setDescriptor (p : ProcessRecord τ) (fd : Nat) (d : Descriptor) : ProcessRecord τ :=
  { p with files := p.files.setIfInBounds fd d }

/-- The lowest descriptor that opening a file may use. -/
def freeDescriptor? (p : ProcessRecord τ) : Option Nat :=
  (List.range' firstFreeDescriptor (maxOpenFiles - firstFreeDescriptor)).find? fun fd =>
    !(p.files[fd]?.getD .closed).isOpen

/-- Descriptors above the terminal's that are open but could not be closed. -/
def unclosable (p : ProcessRecord τ) : List (Nat × Binding) :=
  (List.range' firstFreeDescriptor (maxOpenFiles - firstFreeDescriptor)).filterMap fun fd =>
    let d := p.files[fd]?.getD .closed
    if d.isOpen && !d.binding.isFile then some (fd, d.binding) else none

end ProcessRecord

end TerminalKernel
