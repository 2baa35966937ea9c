/-!
# The fixed sizes and rates of the kernel

Every table of the kernel has a size fixed in advance. The numbers stand here once, and the other
modules speak of them by name.
Core Lean only.
-/

namespace TerminalKernel

/-! ## Tables -/

/-- Virtual terminals, selected with Alt+F1 to Alt+F3. -/
abbrev terminalCount : Nat := 3

/-- Processes that can be live at once, over all terminals. -/
abbrev maxProcesses : Nat := 6

/-- Descriptors of one process. The first two are its terminal. -/
abbrev maxOpenFiles : Nat := 8

/-- First descriptor that opening a file may hand out. -/
abbrev firstFreeDescriptor : Nat := 2

/-- Bytes of argument text a process keeps. -/
abbrev maxArgsLength : Nat := 128

/-- Bytes of a terminal's input line, its newline included. -/
abbrev lineBufferSize : Nat := 128

/-- Bytes of a file name stored in the directory. -/
abbrev fileNameLength : Nat := 32

/-! ## Rates -/

/-- Frequency of the scheduler's timer tick. -/
abbrev timerHz : Nat := 20

/-- Frequency of the real-time clock after every opening of its device. -/
abbrev rtcDefaultHz : Nat := 2

/-- Highest frequency a program may ask of the real-time clock. -/
abbrev rtcMaxHz : Nat := 1024

/-! ## Names -/

/-- A process, by its number. Numbers at or above `maxProcesses` name no process. -/
abbrev ProcessId := Nat

/-- The characters of an ASCII text as bytes. -/
def ascii (text : String) : List UInt8 := text.toList.map fun c => c.toNat.toUInt8

/-- The program started on every terminal that has no process left. -/
def shellName : List UInt8 := [0x73, 0x68, 0x65, 0x6C, 0x6C]

end TerminalKernel
