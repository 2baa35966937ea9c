import TerminalKernel.Computer

/-!
# System calls

A program puts the number of a call in `rax`, up to three arguments in `rdi`, `rsi` and `rdx`, and
raises the system call interrupt. Strings are copied into the kernel before they are used and
buffers are checked against the mapped windows.
Core Lean only.
-/

namespace TerminalKernel

inductive Syscall
  | halt
  | execute
  | read
  | write
  | openFile
  | closeFile
  | getArgs
  | mapVideo
  | setHandler
  | signalReturn
  deriving DecidableEq, Repr

namespace Syscall

/-- All calls, in the order of their numbers. -/
def all : List Syscall :=
  [halt, execute, read, write, openFile, closeFile, getArgs, mapVideo, setHandler, signalReturn]

/-- The number by which a program asks for the call. -/
def number : Syscall → Nat
  | halt => 1
  | execute => 2
  | read => 3
  | write => 4
  | openFile => 5
  | closeFile => 6
  | getArgs => 7
  | mapVideo => 8
  | setHandler => 9
  | signalReturn => 10

def ofNumber? (n : Nat) : Option Syscall := all.find? (·.number == n)

end Syscall

/-! ## Printing from user memory -/

namespace Kernel

/-- Print bytes of user memory, each fetched when its turn comes: the buffer may lie on the very
screen that is being printed on. -/
def printUser (k : Kernel) (t : TerminalId) (address : Nat) : Nat → Kernel
  | 0 => k
  | count + 1 =>
    let screen := (k.console.screen t).putByte (k.userByte address)
    { k with console := k.console.setScreen t screen }.printUser t (address + 1) count

/-- Write a buffer in the video window through a descriptor. -/
def writeScreen (k : Kernel) (fd address length : Nat) : Kernel × Except SyscallError Nat :=
  let bytes := k.userBytes address length
  match k.currentDescriptor fd with
  | .ok (_, p, d) =>
    if d.binding = .terminalOut then
      let count := (Bytes.untilNul bytes).length
      let k := k.printUser p.terminal address count
      let k := if p.terminal = k.console.displayed then
          { k with console := k.console.followCursor }.moveCursor
        else k
      (k, .ok count)
    else k.write fd (some bytes)
  | .error _ => k.write fd (some bytes)

/-- Write a buffer of the running program through a descriptor. -/
def writeUser (k : Kernel) (fd : Nat) : UserMemory.Buffer → Kernel × Except SyscallError Nat
  | .null => k.write fd none
  | .block address length =>
    if address < programWindowEnd then k.write fd (some (k.userBytes address length))
    else k.writeScreen fd address length

/-- The string of the running program at an address, cut at `limit` bytes. -/
def userText? (k : Kernel) (address limit : Nat) : Option (List UInt8) :=
  UserMemory.text? k.userByte k.videoMapped address limit

/-- The buffer that the running program describes. -/
def userBuffer? (k : Kernel) (address length : Nat) : Option UserMemory.Buffer :=
  UserMemory.buffer? k.videoMapped address length

end Kernel

/-! ## Calls -/

namespace Computer

/-- Bytes of a command line that are looked at: a name, a space and the arguments. -/
abbrev commandLimit : Nat := fileNameLength + 1 + maxArgsLength

/-- Bytes of a file's name that are looked at: one more than a name can have. -/
abbrev nameLimit : Nat := fileNameLength + 1

/-- Carry out the transfer that a call ended in. -/
def performResult (c : Computer) (r : Registers) (stackPointer : Nat) :
    Except SyscallError Transfer → Computer
  | .ok transfer => c.perform stackPointer (.calling r) transfer
  | .error _ => c.answer r failed

def callHalt (c : Computer) (r : Registers) (status : UInt8) : Computer :=
  let (k, result) := c.kernel.halt status
  (c.withKernel k).performResult r c.kernel.stackPointer result

def callExecute (c : Computer) (r : Registers) (address : Nat) : Computer :=
  match c.kernel.userText? address commandLimit with
  | none => c.answer r failed
  | some line =>
    match c.kernel.execute line with
    | (k, .ok transfer) => (c.withKernel k).performResult r c.kernel.stackPointer (.ok transfer)
    | (k, .error cause) => ((c.withKernel k).log (.executeRejected cause)).answer r failed

def callRead (c : Computer) (r : Registers) (fd address length : Nat) : Computer :=
  match c.kernel.userBuffer? address length with
  | none => c.answer r failed
  | some .null =>
    let (k, delivery) := c.kernel.read fd none
    (c.withKernel k).answerCount r delivery.count
  | some (.block address length) => c.tryRead r fd address length

def callWrite (c : Computer) (r : Registers) (fd address length : Nat) : Computer :=
  match c.kernel.userBuffer? address length with
  | none => c.answer r failed
  | some buffer =>
    let (k, result) := c.kernel.writeUser fd buffer
    (c.withKernel k).answerCount r result

def callOpen (c : Computer) (r : Registers) (address : Nat) : Computer :=
  match c.kernel.userText? address nameLimit with
  | none => c.answer r failed
  | some name =>
    let (k, result) := c.kernel.openFile name
    (c.withKernel k).answerCount r result

def callClose (c : Computer) (r : Registers) (fd : Nat) : Computer :=
  let (k, result) := c.kernel.closeFile fd
  (c.withKernel k).answerCount r result

def callGetArgs (c : Computer) (r : Registers) (address length : Nat) : Computer :=
  match c.kernel.userBuffer? address length with
  | none => c.answer r failed
  | some .null => c.answerCount r ((c.kernel.getArgs none).map fun _ => 0)
  | some (.block address length) =>
    match c.kernel.getArgs (some length) with
    | .error _ => c.answer r failed
    | .ok bytes => (c.withKernel (c.kernel.storeUser address bytes)).answer r 0

def callMapVideo (c : Computer) (r : Registers) (address : Nat) : Computer :=
  match c.kernel.mapVideo address with
  | (k, .error _) => (c.withKernel k).answer r failed
  | (k, .ok window) =>
    match UserMemory.buffer? false address 8 with
    | some (.block address _) =>
      (c.withKernel (k.storeUser address (Bytes.ofNat 8 window))).answer r 0
    | _ => (c.withKernel k).answer r failed

/-- The system call that the registers ask for. The program continues with `r`. -/
def dispatch (c : Computer) (r : Registers) : Computer :=
  let arg0 := r.rdi.toNat
  let arg1 := r.rsi.toNat
  let arg2 := r.rdx.toNat
  match Syscall.ofNumber? r.rax.toNat with
  | some .halt => c.callHalt r r.rdi.toUInt8
  | some .execute => c.callExecute r arg0
  | some .read => c.callRead r arg0 arg1 arg2
  | some .write => c.callWrite r arg0 arg1 arg2
  | some .openFile => c.callOpen r arg0
  | some .closeFile => c.callClose r arg0
  | some .getArgs => c.callGetArgs r arg0 arg1
  | some .mapVideo => c.callMapVideo r arg0
  | some .setHandler => c.answerCount r (Kernel.setHandler r.rdi.toUInt32.toNat arg1)
  | some .signalReturn => c.answerCount r Kernel.signalReturn
  | none => (c.log (.unknownSyscall r.rax.toNat)).answer r failed

end Computer

end TerminalKernel
