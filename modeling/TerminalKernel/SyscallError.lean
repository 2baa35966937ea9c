/-!
# Why a system call fails

The causes of failure that a caller of the kernel can see, and those of the file system underneath,
which are reduced to them: a name that is not found stays that, anything else about files is an
invalid argument. A read fills its caller's buffer from the start. When it fails on the way, the
bytes copied so far stay in the buffer, so a delivery keeps both: what was copied, and why it stopped
early.
Core Lean only.
-/

namespace TerminalKernel

/-- Why the file system cannot answer. -/
inductive FileError
  | notFound
  | badInode
  | offsetPastEnd
  | badDataBlock
  | corruptImage
  deriving DecidableEq, Repr

/-- Why a system call fails. `wouldBlock` asks the caller to wait for input and try again. -/
inductive SyscallError
  | notFound
  | notExecutable
  | resourceExhausted
  | invalidArgument
  | wouldBlock
  deriving DecidableEq, Repr

namespace FileError

def message : FileError → String
  | notFound => "No such file or directory"
  | badInode => "Inode out of range"
  | offsetPastEnd => "Offset past end of file"
  | badDataBlock => "Data block out of range"
  | corruptImage => "Corrupt filesystem image"

/-- How a system call reports the error. -/
def toSyscall : FileError → SyscallError
  | notFound => .notFound
  | _ => .invalidArgument

end FileError

namespace SyscallError

def message : SyscallError → String
  | notFound => "No such file"
  | notExecutable => "Not an executable"
  | resourceExhausted => "Resource exhausted"
  | invalidArgument => "Invalid argument"
  | wouldBlock => "Operation would block"

end SyscallError

/-! ## Deliveries -/

structure Delivery (ε : Type) where
  bytes : List UInt8
  failure : Option ε
  deriving DecidableEq, Repr

namespace Delivery

variable {ε ε' : Type}

/-- All bytes were copied. -/
def done (bytes : List UInt8) : Delivery ε := ⟨bytes, none⟩

def fail (cause : ε) : Delivery ε := ⟨[], some cause⟩

/-- Bytes copied before the rest of a delivery. -/
def after (rest : Delivery ε) (bytes : List UInt8) : Delivery ε :=
  ⟨bytes ++ rest.bytes, rest.failure⟩

def mapFailure (f : ε → ε') (d : Delivery ε) : Delivery ε' := ⟨d.bytes, d.failure.map f⟩

/-- The number of bytes copied, if nothing failed. -/
def count (d : Delivery ε) : Except ε Nat :=
  match d.failure with
  | none => .ok d.bytes.length
  | some cause => .error cause

end Delivery

end TerminalKernel
