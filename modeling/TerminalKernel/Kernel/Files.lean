import TerminalKernel.Kernel

/-!
# Calls on descriptors

Opening, closing, reading and writing through the descriptors of the running process, and the calls
that hand it its arguments and its screen. Every call finds the process first; none that fails
changes the state.
Core Lean only.
-/

namespace TerminalKernel.Kernel

/-- The running process and one of its open descriptors. -/
def currentDescriptor (k : Kernel) (fd : Nat) :
    Except SyscallError (ProcessId × ProcessRecord TerminalId × Descriptor) :=
  match k.current with
  | .error cause => .error cause
  | .ok (pid, p) =>
    match p.descriptor? fd with
    | none => .error .invalidArgument
    | some d => .ok (pid, p, d)

def setDescriptor (k : Kernel) (pid : ProcessId) (fd : Nat) (d : Descriptor) : Kernel :=
  k.updateProcess pid fun p => p.setDescriptor fd d

/-! ## Opening and closing -/

/-- Set the clock's device back when it is opened. -/
def openDevice (k : Kernel) : Binding → Kernel
  | .rtc => { k with rtc := k.rtc.openDevice }.programClock rtcDefaultHz
  | _ => k

/-- Open what a descriptor is bound to, which must be a file. -/
def openBinding (k : Kernel) (b : Binding) : Kernel × Except SyscallError Unit :=
  if b.isFile then (k.openDevice b, .ok ()) else (k, .error .invalidArgument)

/-- Bind the lowest free descriptor to the file with a name. It is free again if the binding cannot be
opened. -/
def openFile (k : Kernel) (name : List UInt8) : Kernel × Except SyscallError Nat :=
  match k.current with
  | .error cause => (k, .error cause)
  | .ok (pid, p) =>
    match k.files.lookup name with
    | .error cause => (k, .error cause.toSyscall)
    | .ok found =>
      match p.freeDescriptor? with
      | none => (k, .error .resourceExhausted)
      | some fd =>
        let d := Descriptor.opened found
        match (k.setDescriptor pid fd d).openBinding d.binding with
        | (k, .ok ()) => (k, .ok fd)
        | (k, .error _) => (k.setDescriptor pid fd .closed, .error .invalidArgument)

/-- Close a descriptor that a file is bound to. -/
def closeFile (k : Kernel) (fd : Nat) : Kernel × Except SyscallError Nat :=
  if fd < firstFreeDescriptor then (k, .error .invalidArgument)
  else
    match k.currentDescriptor fd with
    | .error cause => (k, .error cause)
    | .ok (pid, _, d) =>
      if d.binding.isFile then (k.setDescriptor pid fd d.close, .ok 0)
      else (k, .error .invalidArgument)

/-! ## Reading -/

/-- Read the name of the entry that a directory descriptor has reached. -/
def readDirectory (k : Kernel) (pid : ProcessId) (fd : Nat) (d : Descriptor) (room : Nat) :
    Kernel × Delivery SyscallError :=
  if k.files.entryCount ≤ d.position then (k, .done [])
  else
    match k.files.entry d.position with
    | .error cause => (k, .fail cause.toSyscall)
    | .ok found =>
      (k.setDescriptor pid fd { d with position := d.position + 1 }, .done (found.name.take room))

/-- Read on in a regular file. A read that fails does not move the position. -/
def readRegular (k : Kernel) (pid : ProcessId) (fd : Nat) (d : Descriptor) (room : Nat) :
    Kernel × Delivery SyscallError :=
  let delivery := k.files.read d.inode d.position room
  match delivery.failure with
  | some _ => (k, delivery.mapFailure FileError.toSyscall)
  | none =>
    (k.setDescriptor pid fd { d with position := d.position + delivery.bytes.length },
      .done delivery.bytes)

def readLine (k : Kernel) (t : TerminalId) (room : Nat) : Kernel × Delivery SyscallError :=
  match k.console.takeLine? t room with
  | none => (k, .fail .wouldBlock)
  | some (console, bytes) => ({ k with console }, .done bytes)

/-- Read into a buffer with the given room. Without a buffer every open descriptor refuses. -/
def read (k : Kernel) (fd : Nat) (room : Option Nat) : Kernel × Delivery SyscallError :=
  match k.currentDescriptor fd, room with
  | .error cause, _ => (k, .fail cause)
  | .ok _, none => (k, .fail .invalidArgument)
  | .ok (pid, p, d), some room =>
    match d.binding with
    | .terminalIn => k.readLine p.terminal room
    | .rtc => (k, .done (k.rtc.read room))
    | .directory => k.readDirectory pid fd d room
    | .regular => k.readRegular pid fd d room
    | .terminalOut | .closed => (k, .fail .invalidArgument)

/-- Read into a buffer: what the buffer holds afterwards, and how many bytes were read. -/
def readInto (k : Kernel) (fd : Nat) (buffer : List UInt8) :
    Kernel × List UInt8 × Except SyscallError Nat :=
  let (k, delivery) := k.read fd (some buffer.length)
  (k, Bytes.fill buffer delivery.bytes, delivery.count)

/-! ## Writing -/

def writeClock (k : Kernel) (bytes : List UInt8) : Kernel × Except SyscallError Nat :=
  match k.rtc.write bytes with
  | .error cause => (k, .error cause)
  | .ok rtc => ({ k with rtc }.programClock rtc.frequency, .ok bytes.length)

/-- Write the bytes of a buffer. Without a buffer every open descriptor refuses. -/
def write (k : Kernel) (fd : Nat) (buffer : Option (List UInt8)) :
    Kernel × Except SyscallError Nat :=
  match k.currentDescriptor fd, buffer with
  | .error cause, _ => (k, .error cause)
  | .ok _, none => (k, .error .invalidArgument)
  | .ok (_, p, d), some bytes =>
    match d.binding with
    | .terminalOut => (k.print p.terminal bytes, .ok (Bytes.untilNul bytes).length)
    | .rtc => k.writeClock bytes
    | .terminalIn | .directory | .regular | .closed => (k, .error .invalidArgument)

/-! ## Arguments and screen -/

/-- The running process's argument text, padded with zeros, as far as the buffer has room. -/
def getArgs (k : Kernel) (room : Option Nat) : Except SyscallError (List UInt8) :=
  match room with
  | none => .error .invalidArgument
  | some room =>
    match k.current with
    | .error cause => .error cause
    | .ok (_, p) => if p.hasArgs then .ok (p.args.take room) else .error .invalidArgument

/-- Show the running process its terminal's screen in the video window. The window's address is to
be stored at `address`, which must lie in the program window. -/
def mapVideo (k : Kernel) (address : Nat) : Kernel × Except SyscallError Nat :=
  if programWindow ≤ address ∧ address + 8 ≤ programWindowEnd then
    match k.current with
    | .error cause => (k, .error cause)
    | .ok (_, p) => (k.mapScreen p.terminal, .ok videoWindow)
  else (k, .error .invalidArgument)

/-- Signals are not supported. -/
def setHandler (_signal _handler : Nat) : Except SyscallError Nat := .error .invalidArgument

def signalReturn : Except SyscallError Nat := .error .invalidArgument

end TerminalKernel.Kernel
