import TerminalKernel.PerTerminal

/-!
# Where things are in memory

Programs are linked for one window of virtual addresses, and each process has a slot of physical
memory of the window's size. A second, smaller window shows the screen of the process's terminal.
Where the kernel's own pages for screens lie is known to the linker alone, but none of these regions
meets another.
Core Lean only.
-/

namespace TerminalKernel

/-! ## Virtual addresses -/

/-- The address with the same low 48 bits that the processor accepts: the bits above repeat bit
47. -/
def canonical (address : Nat) : Nat :=
  let low := address % 0x1000000000000
  if low < 0x800000000000 then low else low + 0xFFFF000000000000

/-- Memory mapped by one entry of the page directory. -/
abbrev hugePageSize : Nat := 0x200000

/-- Memory mapped by one entry of a page table. -/
abbrev pageSize : Nat := 0x1000

/-- Start of the window in which a program sees its own memory. -/
abbrev programWindow : Nat := 0x8000000

/-- Size of the program window and of the slots behind it. -/
abbrev programSlotSize : Nat := 0x400000

/-- First address after the program window. -/
abbrev programWindowEnd : Nat := 0x8400000

/-- Distance from the start of the window to where programs are loaded. -/
abbrev programLoadOffset : Nat := 0x48000

/-- Address at which a program's first byte appears. -/
abbrev programLoadAddress : Nat := 0x8048000

/-- First stack pointer of a program: the last quadword of its window. -/
abbrev userStackTop : Nat := 0x83FFFF8

/-- Start of the window in which a program sees its terminal's screen. -/
abbrev videoWindow : Nat := 0x8400000

abbrev videoWindowSize : Nat := 0x1000

/-- First address after the video window. -/
abbrev videoWindowEnd : Nat := 0x8401000

/-! ## Physical addresses -/

/-- The display's text memory. -/
abbrev vgaTextMemory : Nat := 0xB8000

/-- The slot of process number zero. -/
abbrev programSlotBase : Nat := 0x800000

/-- The slot that holds the image and the user stack of a process. -/
def programSlot (pid : ProcessId) : Nat := programSlotBase + pid * programSlotSize

/-- Where the linker put the pages that keep the terminals' screens while other terminals are
displayed. The kernel lies above the display's memory and below the slots. -/
structure ScreenPages where
  page : TerminalId → Nat
  page_disjoint : ∀ {s t}, s ≠ t → page s + pageSize ≤ page t ∨ page t + pageSize ≤ page s
  le_page : ∀ t, vgaTextMemory + pageSize ≤ page t
  page_le : ∀ t, page t + pageSize ≤ programSlotBase

/-- Two pages a terminal from the third megabyte on, the second of them for its screen. -/
instance : Inhabited ScreenPages where
  default :=
    { page t := 0x201000 + t.val * 0x2000
      page_disjoint {s t} h := by
        have apart : s.val ≠ t.val := fun same => h (Fin.ext same)
        simp only [pageSize]
        omega
      le_page t := by
        simp only [pageSize, vgaTextMemory]
        omega
      page_le t := by
        have few : t.val < 3 := t.isLt
        simp only [pageSize, programSlotBase]
        omega }

theorem le_programSlot (pid : ProcessId) : programSlotBase ≤ programSlot pid :=
  Nat.le_add_right _ _

theorem programSlot_disjoint {p q : ProcessId} (h : p ≠ q) :
    programSlot p + programSlotSize ≤ programSlot q ∨
      programSlot q + programSlotSize ≤ programSlot p := by
  simp only [programSlot, programSlotBase, programSlotSize]
  rcases Nat.lt_or_gt_of_ne h with h | h <;> omega

end TerminalKernel
