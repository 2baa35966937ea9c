import TerminalKernel.FileSystem

/-!
# File descriptors

A descriptor is bound once, when it is opened, to what its reads and writes go to. Closing removes
the binding and the mark of being open but leaves inode and position behind.
Core Lean only.
-/

namespace TerminalKernel

/-- What a descriptor is bound to. -/
inductive Binding
  | terminalIn
  | terminalOut
  | rtc
  | directory
  | regular
  | closed
  deriving DecidableEq, Repr

namespace Binding

def ofFileType : FileType → Binding
  | .rtc => rtc
  | .directory => directory
  | .regular => regular

/-- Whether opening a file can produce the binding, which is also when it can be closed again. -/
def isFile : Binding → Bool
  | rtc | directory | regular => true
  | terminalIn | terminalOut | closed => false

def name : Binding → String
  | terminalIn => "TerminalIn"
  | terminalOut => "TerminalOut"
  | rtc => "Rtc"
  | directory => "Directory"
  | regular => "Regular"
  | closed => "Closed"

end Binding

structure Descriptor where
  binding : Binding
  isOpen : Bool
  inode : Nat
  /-- A byte offset in a regular file, an entry's index in the directory. -/
  position : Nat
  deriving DecidableEq, Repr

namespace Descriptor

def closed : Descriptor := ⟨.closed, false, 0, 0⟩

instance : Inhabited Descriptor := ⟨closed⟩

/-- An open descriptor without a file behind it. -/
def unfiled (binding : Binding) : Descriptor := ⟨binding, true, 0, 0⟩

/-- A descriptor freshly opened on a directory entry. -/
def opened (e : DirectoryEntry) : Descriptor := ⟨.ofFileType e.fileType, true, e.inode, 0⟩

def close (d : Descriptor) : Descriptor := { d with binding := .closed, isOpen := false }

end Descriptor

end TerminalKernel
